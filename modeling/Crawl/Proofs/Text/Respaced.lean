import Mathlib.Data.List.Forall2
import Mathlib.Logic.Relation
import Crawl.Proofs.Text.Words
/-!
# Changes of blanks

One run of blanks may take the place of another where the words stay apart: anywhere when there are blanks before and
after the change, and at the two ends of a text also when there are none. A text comes from another by such changes just
when it has the same words (`respaced_iff`).
-/

namespace Crawl.Text

/-- A run of blanks, which may be none. -/
def IsGap (gap : List Char) : Prop := ∀ c ∈ gap, isBlank c = true

/-- One change of blanks: one run takes the place of another. Between words neither of them is empty. -/
inductive Respacing : List Char → List Char → Prop
  | inner {gap gap' : List Char} (before after : List Char) (hgap : IsGap gap) (hgap' : IsGap gap')
      (hne : gap ≠ []) (hne' : gap' ≠ []) : Respacing (before ++ gap ++ after) (before ++ gap' ++ after)
  | front {gap gap' : List Char} (after : List Char) (hgap : IsGap gap) (hgap' : IsGap gap') :
      Respacing (gap ++ after) (gap' ++ after)
  | back {gap gap' : List Char} (before : List Char) (hgap : IsGap gap) (hgap' : IsGap gap') :
      Respacing (before ++ gap) (before ++ gap')

/-- Any number of changes of blanks. -/
def Respaced : List Char → List Char → Prop := Relation.ReflTransGen Respacing

/-! ## Changes keep the words -/

theorem words_gap_append {gap : List Char} (h : IsGap gap) (after : List Char) : words (gap ++ after) = words after := by
  induction gap with
  | nil => rfl
  | cons c gap ih =>
      obtain ⟨hc, hgap⟩ := List.forall_mem_cons.mp h
      rw [List.cons_append, words_blank hc, ih hgap]

theorem words_append_gap_append {gap : List Char} (h : IsGap gap) (hne : gap ≠ []) (before after : List Char) :
    words (before ++ gap ++ after) = words before ++ words after := by
  obtain ⟨c, rest, rfl⟩ := List.exists_cons_of_ne_nil hne
  obtain ⟨hc, hrest⟩ := List.forall_mem_cons.mp h
  rw [List.append_assoc, List.cons_append, words_append _ _ hc, words_gap_append hrest]

theorem words_append_gap {gap : List Char} (h : IsGap gap) (before : List Char) : words (before ++ gap) = words before := by
  cases gap with
  | nil => rw [List.append_nil]
  | cons c gap =>
      have hsplit := words_append_gap_append h (List.cons_ne_nil c gap) before []
      rwa [List.append_nil, words, List.append_nil] at hsplit

theorem Respacing.words_eq {cs ds : List Char} (h : Respacing cs ds) : words cs = words ds := by
  cases h with
  | inner before after hgap hgap' hne hne' =>
      rw [words_append_gap_append hgap hne, words_append_gap_append hgap' hne']
  | front after hgap hgap' => rw [words_gap_append hgap, words_gap_append hgap']
  | back before hgap hgap' => rw [words_append_gap hgap, words_append_gap hgap']

theorem Respaced.words_eq {cs ds : List Char} (h : Respaced cs ds) : words cs = words ds := by
  induction h with
  | refl => rfl
  | tail _ hstep ih => exact ih.trans hstep.words_eq

/-! ## Texts with the same words -/

theorem Respacing.symm {cs ds : List Char} (h : Respacing cs ds) : Respacing ds cs := by
  cases h with
  | inner before after hgap hgap' hne hne' => exact .inner before after hgap' hgap hne' hne
  | front after hgap hgap' => exact .front after hgap' hgap
  | back before hgap hgap' => exact .back before hgap' hgap

theorem Respaced.symm {cs ds : List Char} (h : Respaced cs ds) : Respaced ds cs := by
  induction h with
  | refl => exact .refl
  | tail _ hstep ih => exact .head hstep.symm ih

theorem isGap_nil : IsGap [] := nofun

theorem isGap_space : IsGap [' '] := List.forall_mem_singleton.mpr rfl

theorem unwords_extendFirst (c : Char) (ws : List (List Char)) : unwords (extendFirst c ws) = c :: unwords ws := by
  match ws with
  | [] => rfl
  | [_] => rfl
  | _ :: _ :: _ => rfl

/-- A word of one character with further words behind it; without them the space after it is dropped. -/
theorem respaced_unwords_cons (before : List Char) (c : Char) (ws : List (List Char)) :
    Respaced (before ++ c :: ' ' :: unwords ws) (before ++ unwords ([c] :: ws)) := by
  cases ws with
  | nil =>
      have hback := Respacing.back (before ++ [c]) isGap_space isGap_nil
      exact .single (by simpa [unwords] using hback)
  | cons w ws => exact .refl

/-- Behind a blank, the normal form of a text can take its place; of a text that begins with a word, behind anything. -/
theorem respaced_unwords (cs before : List Char) :
    Respaced (before ++ ' ' :: cs) (before ++ ' ' :: unwords (words cs)) ∧
      ((∀ c ∈ cs.head?, isBlank c = false) → Respaced (before ++ cs) (before ++ unwords (words cs))) := by
  induction cs generalizing before with
  | nil => exact ⟨.refl, fun _ => .refl⟩
  | cons c cs ih =>
      cases hc : isBlank c with
      | true =>
          have hgap : IsGap [' ', c] := List.forall_mem_cons.mpr ⟨rfl, List.forall_mem_singleton.mpr hc⟩
          have hdrop := Respacing.inner before cs hgap isGap_space (List.cons_ne_nil _ _) (List.cons_ne_nil _ _)
          simp only [List.append_assoc, List.cons_append, List.nil_append] at hdrop
          refine ⟨?_, fun hhead => ?_⟩
          · rw [words_blank hc]
            exact .head hdrop (ih before).1
          · rw [hhead c rfl] at hc
            cases hc
      | false =>
          -- the text begins with a word: what holds behind anything holds behind a blank
          suffices hany : ∀ before, Respaced (before ++ c :: cs) (before ++ unwords (words (c :: cs))) by
            refine ⟨?_, fun _ => hany before⟩
            simpa using hany (before ++ [' '])
          intro before
          obtain ⟨hbehind, hword⟩ := ih (before ++ [c])
          simp only [List.append_assoc, List.cons_append, List.nil_append] at hbehind hword
          cases cs with
          | nil =>
              rw [words_last hc]
              exact .refl
          | cons d ds =>
              cases hd : isBlank d with
              | true =>
                  have hgap : IsGap [d] := List.forall_mem_singleton.mpr hd
                  have hgap' : IsGap [' ', d] := List.forall_mem_cons.mpr ⟨rfl, hgap⟩
                  have hput := Respacing.inner (before ++ [c]) ds hgap hgap' (List.cons_ne_nil _ _) (List.cons_ne_nil _ _)
                  simp only [List.append_assoc, List.cons_append, List.nil_append] at hput
                  rw [words_end hc hd]
                  exact .head hput (hbehind.trans (respaced_unwords_cons before c _))
              | false =>
                  rw [words_within hc hd, unwords_extendFirst]
                  exact hword fun e he => Option.some.inj he ▸ hd

/-- Two texts come from each other by changes of blanks just when they have the same words. -/
theorem respaced_iff {cs ds : List Char} : Respaced cs ds ↔ words cs = words ds := by
  have hnormal (cs : List Char) : Respaced cs (' ' :: unwords (words cs)) :=
    .head (Respacing.front cs isGap_nil isGap_space) (respaced_unwords cs []).1
  constructor
  · exact Respaced.words_eq
  · intro h
    have hds := hnormal ds
    rw [← h] at hds
    exact (hnormal cs).trans hds.symm

/-! ## The first text with some words -/

/-- The number of the first of some texts that has the words of a request. -/
def firstWorded (request : String) (texts : List String) : Option Nat :=
  texts.findIdx? fun text => words text.toList == words request.toList

variable {request request' : String} {texts texts' : List String}

theorem firstWorded_some {k : Nat} : firstWorded request texts = some k ↔
    (∃ text, texts[k]? = some text ∧ words text.toList = words request.toList) ∧
      ∀ m text, m < k → texts[m]? = some text → words text.toList ≠ words request.toList := by
  unfold firstWorded
  rw [List.findIdx?_eq_some_iff_getElem]
  simp only [beq_iff_eq]
  constructor
  · rintro ⟨hk, hwords, hearlier⟩
    refine ⟨⟨texts[k], List.getElem?_eq_getElem hk, hwords⟩, fun m text hm htext => ?_⟩
    obtain ⟨hlen, rfl⟩ := List.getElem?_eq_some_iff.mp htext
    exact hearlier m hm
  · rintro ⟨⟨text, htext, hwords⟩, hearlier⟩
    obtain ⟨hk, rfl⟩ := List.getElem?_eq_some_iff.mp htext
    exact ⟨hk, hwords, fun m hm => hearlier m texts[m] hm (List.getElem?_eq_getElem (hm.trans hk))⟩

theorem firstWorded_none :
    firstWorded request texts = none ↔ ∀ text ∈ texts, words text.toList ≠ words request.toList := by
  unfold firstWorded
  rw [List.findIdx?_eq_none_iff]
  simp only [beq_eq_false_iff_ne]

/-- Changes of blanks, in the request or in the texts, do not change which text is the first. -/
theorem firstWorded_respaced (hrequest : Respaced request.toList request'.toList)
    (htexts : List.Forall₂ (fun text text' => Respaced text.toList text'.toList) texts texts') :
    firstWorded request' texts' = firstWorded request texts := by
  unfold firstWorded
  rw [hrequest.words_eq]
  induction htexts with
  | nil => rfl
  | cons htext _ ih => simp only [List.findIdx?_cons, htext.words_eq, ih]

end Crawl.Text
