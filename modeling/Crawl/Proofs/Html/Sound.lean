import Crawl.Html.Parse
import Crawl.Proofs.Text.Case
import Mathlib.Data.List.Chain
/-!
# What markup is read into

Two things hold of every tree that comes out of markup. The row behind an element is the slot for its first text: an
element is opened together with its slot, and whatever comes later is put behind. And tags have no capitals, since names
are read into lower case and the tags that markup leaves out are lower case already.
-/

namespace Crawl.Html

/-- A row that holds text or may hold it. -/
def Row.IsText (r : Row) : Prop := ∃ s, r.content = .text s

/-! ## Changed rows -/

namespace Tree

@[simp]
theorem setRowAttr_depth (name value : String) (r : Row) : (setRowAttr name value r).depth = r.depth := by
  obtain ⟨depth, content⟩ := r
  cases content <;> rfl

@[simp]
theorem setRowAttr_tag? (name value : String) (r : Row) : (setRowAttr name value r).tag? = r.tag? := by
  obtain ⟨depth, content⟩ := r
  cases content <;> rfl

@[simp]
theorem setRowText_depth (s : Option String) (r : Row) : (setRowText s r).depth = r.depth := by
  obtain ⟨depth, content⟩ := r
  cases content <;> rfl

@[simp]
theorem setRowText_tag? (s : Option String) (r : Row) : (setRowText s r).tag? = r.tag? := by
  obtain ⟨depth, content⟩ := r
  cases content <;> rfl

end Tree

namespace Row.IsText

variable {r : Row}

theorem setRowAttr (h : r.IsText) (name value : String) : (Tree.setRowAttr name value r).IsText := by
  obtain ⟨depth, content⟩ := r
  obtain ⟨s, rfl⟩ := h
  exact ⟨s, rfl⟩

theorem setRowText (h : r.IsText) (s : Option String) : (Tree.setRowText s r).IsText := by
  obtain ⟨depth, content⟩ := r
  obtain ⟨s₀, rfl⟩ := h
  exact ⟨s, rfl⟩

end Row.IsText

/-! ## What holds of every tree -/

/-- A name without capitals. -/
def Lowered (tag : String) : Prop := ∀ c ∈ tag.toList, c.isUpper = false

instance (tag : String) : Decidable (Lowered tag) := List.decidableBAll (fun c : Char => c.isUpper = false) tag.toList

/-- A tree in which every element is followed by a slot for its text and no tag has capitals. -/
structure Tree.Sound (t : Tree) : Prop where
  slots : ∀ i r, t[i]? = some r → r.isElement = true → ∃ q, t[i + 1]? = some q ∧ q.IsText
  tags : ∀ r ∈ t, ∀ tag, r.tag? = some tag → Lowered tag

/-! ## Tags -/

theorem isUpper_toLower (c : Char) : c.toLower.isUpper = false := by
  by_cases hc : c.isUpper = true
  · obtain ⟨-, hZ⟩ := Text.toNat_of_isUpper hc
    exact Text.forall_ascii (P := fun c => c.toLower.isUpper = false) (by decide +kernel) (by omega)
  · rw [Text.toLower_of_not_isUpper (Bool.eq_false_iff.mpr hc)]
    exact Bool.eq_false_iff.mpr hc

theorem lowered_name (cs : List Char) : Lowered (name cs) := by
  intro c hc
  rw [name, String.toList_ofList] at hc
  obtain ⟨d, -, rfl⟩ := List.mem_map.mp hc
  exact isUpper_toLower d

/-- A token whose tag, if it opens an element, has no capitals. -/
def Token.Lowered : Token → Prop
  | .start tag _ _ => Html.Lowered tag
  | _ => True

theorem insideOf_lowered (tag : String) (cs : List Char) : ∀ tok ∈ (insideOf tag cs).1, tok.Lowered := by
  have htext (body : List Char) : ∀ tok ∈ (if body.isEmpty then [] else [Token.text body]), tok.Lowered := by
    intro tok htok
    split at htok
    · cases htok
    · rw [List.mem_singleton.mp htok]
      trivial
  unfold insideOf
  cases textMode tag with
  | markup => exact fun tok htok => absurd htok List.not_mem_nil
  | toTheEnd => exact htext cs
  | verbatim => exact htext _
  | references => exact htext _

theorem next_lowered {fuel : Nat} {cs rest : List Char} {ts : List Token} (h : next fuel cs = some (ts, rest)) :
    ∀ tok ∈ ts, tok.Lowered := by
  have hone (tok : Token) (htok : tok.Lowered) : ∀ x ∈ [tok], x.Lowered := by
    intro x hx
    rw [List.mem_singleton.mp hx]
    exact htok
  unfold next at h
  split at h
  · dsimp only at h
    split at h
    · cases h
    · split at h
      · cases h
        exact hone _ (lowered_name _)
      · cases h
        intro tok htok
        rcases List.mem_cons.mp htok with rfl | htok
        · exact lowered_name _
        · exact insideOf_lowered _ _ tok htok
  · dsimp only at h
    split at h
    · cases h
    · cases h
      exact hone _ trivial
  · cases h
    exact hone _ trivial
  · cases h
    exact hone _ trivial
  · cases h
    exact fun tok htok => absurd htok List.not_mem_nil
  · cases h
    exact fun tok htok => absurd htok List.not_mem_nil
  · split at h
    · cases h
    · cases h
      exact hone _ trivial

theorem tokensFrom_lowered (fuel : Nat) (cs : List Char) : ∀ tok ∈ tokensFrom fuel cs, tok.Lowered := by
  induction fuel generalizing cs with
  | zero => exact fun tok htok => absurd htok List.not_mem_nil
  | succ fuel ih =>
      rw [tokensFrom]
      split
      · exact fun tok htok => absurd htok List.not_mem_nil
      · next ts rest hnext =>
          intro tok htok
          rcases List.mem_append.mp htok with htok | htok
          · exact next_lowered hnext tok htok
          · exact ih rest tok htok

/-! ## Rows -/

/-- Rows, the last one first, that may go on: an element has its slot behind it, and the last row is none that still
waits for its slot. -/
structure Growing (rows : List Row) : Prop where
  slots : rows.IsChain fun q r => r.isElement = true → q.IsText
  last : ∀ q ∈ rows.head?, q.isElement = false
  tags : ∀ r ∈ rows, ∀ tag, r.tag? = some tag → Lowered tag

/-- Any row but an element may be put behind. -/
theorem Growing.leaf {rows : List Row} (h : Growing rows) {q : Row} (hq : q.isElement = false) : Growing (q :: rows) where
  slots := by
    refine List.isChain_cons.mpr ⟨fun r hr helement => ?_, h.slots⟩
    rw [h.last r hr] at helement
    cases helement
  last r hr := by
    cases hr
    exact hq
  tags r hr tag htag := by
    rcases List.mem_cons.mp hr with rfl | hr
    · rw [Row.isElement, htag] at hq
      cases hq
    · exact h.tags r hr tag htag

/-- An element may be put behind together with its slot. -/
theorem Growing.element {rows : List Row} (h : Growing rows) {tag : String} (htag : Lowered tag)
    (attrs : List (String × String)) (depth depth' : Nat) :
    Growing (⟨depth', .text none⟩ :: ⟨depth, .element tag attrs⟩ :: rows) where
  slots := by
    refine List.isChain_cons.mpr ⟨fun r _ _ => ⟨none, rfl⟩, List.isChain_cons.mpr ⟨fun r hr helement => ?_, h.slots⟩⟩
    rw [h.last r hr] at helement
    cases helement
  last r hr := by
    cases hr
    rfl
  tags r hr tag' htag' := by
    rcases List.mem_cons.mp hr with rfl | hr
    · cases htag'
    rcases List.mem_cons.mp hr with rfl | hr
    · cases htag'
      exact htag
    · exact h.tags r hr tag' htag'

/-- The text that stands last may be changed. -/
theorem Growing.retext {rows : List Row} {depth depth' : Nat} {s s' : Option String}
    (h : Growing (⟨depth, .text s⟩ :: rows)) : Growing (⟨depth', .text s'⟩ :: rows) where
  slots := List.isChain_cons.mpr ⟨fun _ _ _ => ⟨s', rfl⟩, (List.isChain_cons.mp h.slots).2⟩
  last r hr := by
    cases hr
    rfl
  tags r hr tag htag := by
    rcases List.mem_cons.mp hr with rfl | hr
    · cases htag
    · exact h.tags r (List.mem_cons_of_mem _ hr) tag htag

/-- A tree that is read from such rows is sound. -/
theorem Growing.sound {rows : List Row} (h : Growing rows) : Tree.Sound rows.reverse where
  slots i r hr helement := by
    have hchain : rows.reverse.IsChain fun r q => r.isElement = true → q.IsText := List.isChain_reverse.mpr h.slots
    have hi : i < rows.reverse.length := (List.getElem?_eq_some_iff.mp hr).1
    -- an element is not the last row, so a row follows
    have hnext : i + 1 < rows.reverse.length := by
      refine Nat.lt_of_le_of_ne hi fun hlast => ?_
      have hhead : rows.head? = some r := by
        rw [List.head?_eq_getLast?_reverse, List.getLast?_eq_getElem?, ← hlast, Nat.add_sub_cancel]
        exact hr
      rw [h.last r hhead] at helement
      cases helement
    have hstep := List.isChain_iff_getElem.mp hchain i hnext
    obtain ⟨hi', hget⟩ := List.getElem?_eq_some_iff.mp hr
    exact ⟨_, List.getElem?_eq_getElem hnext, hstep (hget ▸ helement)⟩
  tags r hr := h.tags r (List.mem_reverse.mp hr)

/-! ## Building -/

namespace Builder

/-- A property that survives each single change of a builder: an element is opened together with its slot, open elements
are closed, text or a comment is put behind, text is added to the text that stands last, and a dropped tag is counted. -/
structure Kept (holds : Builder → Prop) : Prop where
  opened : ∀ b tag attrs, Lowered tag → holds b → holds (b.opened tag attrs)
  closed : ∀ b stack, stack <:+ b.stack → holds b → holds { b with stack }
  leaf : ∀ b q, q.depth = b.depth → q.isElement = false → holds b → holds { b with rows := q :: b.rows }
  retext : ∀ b depth s s' rows, b.rows = ⟨depth, .text s⟩ :: rows → holds b →
    holds { b with rows := ⟨depth, .text s'⟩ :: rows }
  counted : ∀ b strays, holds b → holds { b with strays }

/-- Closing an element closes those inside it. -/
theorem without_suffix {tag : String} {stack rest : List String} (h : without tag stack = some rest) : rest <:+ stack := by
  induction stack with
  | nil => cases h
  | cons s ss ih =>
      rw [without] at h
      split at h
      · cases h
        exact List.suffix_cons s _
      · split at h
        · cases h
        · exact (ih h).trans (List.suffix_cons s ss)

namespace Kept

variable {holds : Builder → Prop} (h : Kept holds) {b : Builder}
include h

theorem implied (hb : holds b) (tag : String) : holds (b.implied tag) := by
  unfold Builder.implied
  split
  · exact hb
  · have hhtml : holds (if b.stack.isEmpty then b.opened "html" [] else b) := by
      split
      · exact h.opened b "html" [] (by decide) hb
      · exact hb
    revert hhtml
    dsimp only
    generalize (if b.stack.isEmpty then b.opened "html" [] else b) = b
    intro hhtml
    split
    · exact hhtml
    split
    · split
      · exact hhtml
      · exact h.opened b "head" [] (by decide) hhtml
    split
    · exact hhtml
    split
    · exact hhtml
    · exact h.opened b "body" [] (by decide) hhtml

theorem start (hb : holds b) {tag : String} (htag : Lowered tag) (attrs : List (String × String)) (closed : Bool) :
    holds (b.start tag attrs closed) := by
  have himplied : holds ({ b with stack := makeWay tag b.stack }.implied tag) :=
    h.implied (h.closed b _ (List.dropWhile_suffix _) hb) tag
  unfold Builder.start
  dsimp only
  split
  · exact h.counted _ _ himplied
  · split
    · exact h.closed _ _ (List.tail_suffix _) (h.opened _ tag attrs htag himplied)
    · exact h.opened _ tag attrs htag himplied

theorem finish (hb : holds b) (tag : String) : holds (b.finish tag) := by
  unfold Builder.finish
  split
  · exact h.counted b _ hb
  · split
    · next stack hstack => exact h.closed b stack (without_suffix hstack) hb
    · exact hb

theorem addText (hb : holds b) (s : String) : holds (b.addText s) := by
  unfold Builder.addText
  split
  · exact hb
  · next hrows _ =>
      split
      · exact h.retext b _ _ _ _ hrows hb
      · exact h.leaf b ⟨b.depth, .text (some s)⟩ rfl rfl hb
  · exact h.leaf b ⟨b.depth, .text (some s)⟩ rfl rfl hb

theorem text (hb : holds b) (cs : List Char) : holds (b.text cs) := by
  have hhead : holds (if b.stack.head? == some "head" then { b with stack := makeWay "p" b.stack } else b) := by
    split
    · exact h.closed b _ (List.dropWhile_suffix _) hb
    · exact hb
  unfold Builder.text
  dsimp only
  split
  · split
    · exact h.addText hb _
    · exact h.addText (h.implied hhead "p") _
  · split
    · exact h.addText hb _
    · exact h.addText (h.implied hhead "p") _

theorem take (hb : holds b) {tok : Token} (htok : tok.Lowered) : holds (b.take tok) := by
  cases tok with
  | start tag attrs closed => exact h.start hb htok attrs closed
  | finish tag => exact h.finish hb tag
  | text cs => exact h.text hb cs
  | comment cs => exact h.leaf b ⟨b.depth, .comment (String.ofList cs)⟩ rfl rfl hb

theorem foldl (hb : holds b) {ts : List Token} (hts : ∀ tok ∈ ts, tok.Lowered) : holds (ts.foldl Builder.take b) := by
  induction ts generalizing b with
  | nil => exact hb
  | cons tok ts ih =>
      exact ih (h.take hb (hts tok List.mem_cons_self)) fun x hx => hts x (List.mem_cons_of_mem tok hx)

/-- What survives each change holds of whatever is read from markup. -/
theorem parse (hempty : holds .empty) {markup : String} {t : Tree} (hparse : parse markup = .ok t) :
    ∃ b, holds b ∧ t = b.rows.reverse := by
  unfold Html.parse at hparse
  dsimp only at hparse
  split at hparse
  · cases hparse
  · split at hparse
    · cases hparse
      exact ⟨_, h.foldl hempty (tokensFrom_lowered _ _), rfl⟩
    · cases hparse

end Kept

theorem kept_growing : Kept fun b => Growing b.rows where
  opened _ _ attrs htag hb := hb.element htag attrs _ _
  closed _ _ _ hb := hb
  leaf _ _ _ hq hb := hb.leaf hq
  retext _ _ _ _ _ hrows hb := (hrows ▸ hb).retext
  counted _ _ hb := hb

end Builder

/-- **A tree that is read from markup is sound.** -/
theorem parse_sound {markup : String} {t : Tree} (h : parse markup = .ok t) : t.Sound := by
  have hempty : Growing Builder.empty.rows := by
    refine ⟨List.isChain_singleton _, ?_, ?_⟩
    · rintro q ⟨⟩
      rfl
    · intro r hr tag htag
      rw [List.mem_singleton.mp hr] at htag
      cases htag
  obtain ⟨b, hb, rfl⟩ := Builder.kept_growing.parse hempty h
  exact hb.sound

end Crawl.Html
