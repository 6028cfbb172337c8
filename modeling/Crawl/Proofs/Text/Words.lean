import Mathlib.Data.List.Chain
import Crawl.Text.Blank
/-!
# Words of a text

The words of a text are its pieces between blanks, without the empty ones (`words_eq`). Written with one space between
neighbours they are read as the same words again (`words_unwords`). So the normal form of a text tells its words and
nothing else (`normalize_eq_iff`), and it has no blank that could be left out (`spaced_normalize`).
-/

namespace Crawl.Text

/-! ## The pieces between blanks -/

section

variable {c d : Char}

theorem words_blank (hc : isBlank c = true) (cs : List Char) : words (c :: cs) = words cs := by
  cases cs <;> simp only [words, hc, if_true]

theorem words_last (hc : isBlank c = false) : words [c] = [[c]] := by
  simp [words, hc]

theorem words_end (hc : isBlank c = false) (hd : isBlank d = true) (cs : List Char) :
    words (c :: d :: cs) = [c] :: words (d :: cs) := by
  show (if isBlank c then words (d :: cs) else if isBlank d then [c] :: words (d :: cs) else _) = _
  simp only [hc, hd, Bool.false_eq_true, if_true, if_false]

theorem words_within (hc : isBlank c = false) (hd : isBlank d = false) (cs : List Char) :
    words (c :: d :: cs) = extendFirst c (words (d :: cs)) := by
  show (if isBlank c then words (d :: cs) else if isBlank d then _ else extendFirst c (words (d :: cs))) = _
  simp only [hc, hd, Bool.false_eq_true, if_false]

end

/-- The words of a text are its pieces between blanks that are not empty. -/
theorem words_eq (cs : List Char) : words cs = (cs.splitOnP isBlank).filter (!·.isEmpty) := by
  induction cs with
  | nil => rfl
  | cons c cs ih =>
      rw [List.splitOnP_cons_eq_if_modifyHead]
      cases hc : isBlank c with
      | true =>
          rw [words_blank hc, ih]
          rfl
      | false =>
          -- the piece that the character begins is the first piece of the rest, and that is empty before a blank
          cases cs with
          | nil => rw [words_last hc]; rfl
          | cons d ds =>
              obtain ⟨piece, pieces, hrest⟩ := List.exists_cons_of_ne_nil (List.splitOnP_ne_nil isBlank ds)
              rw [List.splitOnP_cons_eq_if_modifyHead, hrest] at ih ⊢
              cases hd : isBlank d with
              | true =>
                  rw [hd] at ih
                  rw [words_end hc hd, ih]
                  rfl
              | false =>
                  rw [hd] at ih
                  rw [words_within hc hd, ih]
                  rfl

/-- A blank divides the words before it from those behind it. -/
theorem words_append (before after : List Char) {c : Char} (h : isBlank c = true) :
    words (before ++ c :: after) = words before ++ words after := by
  simp only [words_eq, List.splitOnP_append_cons before after h, List.filter_append]

/-! ## Words -/

/-- What a word is: it is not empty, and no blank is in it. -/
def IsWord (w : List Char) : Prop := w ≠ [] ∧ ∀ c ∈ w, isBlank c = false

theorem isWord_extendFirst {c : Char} {ws : List (List Char)} (hc : isBlank c = false) (h : ∀ w ∈ ws, IsWord w) :
    ∀ w ∈ extendFirst c ws, IsWord w := by
  cases ws with
  | nil =>
      intro w hw
      cases List.mem_singleton.mp hw
      exact ⟨by simp, by simpa using hc⟩
  | cons v vs =>
      intro w hw
      rcases List.mem_cons.mp hw with rfl | hw
      · exact ⟨by simp, List.forall_mem_cons.mpr ⟨hc, (h v List.mem_cons_self).2⟩⟩
      · exact h w (List.mem_cons_of_mem v hw)

theorem isWord_of_mem_words {cs : List Char} : ∀ w ∈ words cs, IsWord w := by
  induction cs with
  | nil => exact nofun
  | cons c cs ih =>
      cases hc : isBlank c with
      | true =>
          rw [words_blank hc]
          exact ih
      | false =>
          have hone : ∀ w ∈ extendFirst c [], IsWord w := isWord_extendFirst hc nofun
          cases cs with
          | nil =>
              rw [words_last hc]
              exact hone
          | cons d ds =>
              cases hd : isBlank d with
              | true =>
                  rw [words_end hc hd]
                  exact List.forall_mem_cons.mpr ⟨hone [c] (List.mem_singleton.mpr rfl), ih⟩
              | false =>
                  rw [words_within hc hd]
                  exact isWord_extendFirst hc ih

theorem words_word {w : List Char} (h : IsWord w) : words w = [w] := by
  obtain ⟨hne, hblank⟩ := h
  rw [words_eq, List.splitOnP_eq_singleton hblank]
  simp [hne]

/-- Words with one space between neighbours are read as these words again. -/
theorem words_unwords {ws : List (List Char)} (h : ∀ w ∈ ws, IsWord w) : words (unwords ws) = ws := by
  induction ws with
  | nil => rfl
  | cons w ws ih =>
      obtain ⟨hw, hws⟩ := List.forall_mem_cons.mp h
      cases ws with
      | nil => exact words_word hw
      | cons v vs =>
          show words (w ++ ' ' :: unwords (v :: vs)) = w :: v :: vs
          rw [words_append _ _ (by decide), words_word hw, ih hws]
          rfl

/-! ## The normal form -/

/-- A text whose only blanks are single spaces between words. -/
structure IsSpaced (cs : List Char) : Prop where
  only : ∀ c ∈ cs, isBlank c = true → c = ' '
  front : cs.head? ≠ some ' '
  back : cs.getLast? ≠ some ' '
  single : cs.IsChain fun c d => c = ' ' → d ≠ ' '

theorem isSpaced_word {w : List Char} (h : IsWord w) : IsSpaced w := by
  have hspace : ' ' ∉ w := fun hmem => Bool.false_ne_true (h.2 ' ' hmem).symm
  constructor
  · intro c hc hblank
    rw [h.2 c hc] at hblank
    cases hblank
  · exact fun hhead => hspace (List.mem_of_head? hhead)
  · exact fun hlast => hspace (List.mem_of_getLast? hlast)
  · apply List.Pairwise.isChain
    exact List.pairwise_of_forall_mem_list fun c hc d _ heq => absurd (heq ▸ hc) hspace

/-- A word with a spaced text behind it, one space between them. -/
theorem IsSpaced.behind {w cs : List Char} (hw : IsWord w) (hne : cs ≠ []) (h : IsSpaced cs) :
    IsSpaced (w ++ ' ' :: cs) := by
  obtain ⟨honly, hfront, hback, hsingle⟩ := isSpaced_word hw
  constructor
  · intro c hc hblank
    rcases List.mem_append.mp hc with hc | hc
    · exact honly c hc hblank
    · rcases List.mem_cons.mp hc with rfl | hc
      · rfl
      · exact h.only c hc hblank
  · rwa [List.head?_append_of_ne_nil _ hw.1]
  · rw [List.getLast?_append_of_ne_nil _ (List.cons_ne_nil _ _), List.getLast?_cons_of_ne_nil hne]
    exact h.back
  · apply List.isChain_append.mpr
    refine ⟨hsingle, List.isChain_cons.mpr ⟨?_, h.single⟩, ?_⟩
    · rintro c hc - rfl
      exact h.front hc
    · rintro c hc d - rfl
      exact absurd hc hback

theorem unwords_ne_nil {ws : List (List Char)} (h : ∀ w ∈ ws, IsWord w) (hne : ws ≠ []) : unwords ws ≠ [] := by
  intro hnil
  have hwords := words_unwords h
  rw [hnil] at hwords
  exact hne hwords.symm

theorem isSpaced_unwords {ws : List (List Char)} (h : ∀ w ∈ ws, IsWord w) : IsSpaced (unwords ws) := by
  induction ws with
  | nil => exact ⟨nofun, nofun, nofun, .nil⟩
  | cons w ws ih =>
      obtain ⟨hw, hws⟩ := List.forall_mem_cons.mp h
      cases ws with
      | nil => exact isSpaced_word hw
      | cons v vs => exact (ih hws).behind hw (unwords_ne_nil hws (List.cons_ne_nil v vs))

/-- The normal form of a text has its words. -/
theorem words_normalize (s : String) : words (normalize s).toList = words s.toList := by
  rw [normalize, String.toList_ofList]
  exact words_unwords isWord_of_mem_words

theorem spaced_normalize (s : String) : IsSpaced (normalize s).toList := by
  rw [normalize, String.toList_ofList]
  exact isSpaced_unwords isWord_of_mem_words

/-- Two texts have one normal form just when they have the same words. -/
theorem normalize_eq_iff {s t : String} : normalize s = normalize t ↔ words s.toList = words t.toList := by
  constructor
  · intro h
    rw [← words_normalize s, h, words_normalize t]
  · intro h
    rw [normalize, normalize, h]

theorem normalize_normalize (s : String) : normalize (normalize s) = normalize s :=
  normalize_eq_iff.mpr (words_normalize s)

end Crawl.Text
