import Crawl.Proofs.Static.Lasting
/-!
# Recorded addresses

Every page is recorded with the address it came from, unless that address is empty. No call to the engine takes a
recorded address away again or replaces it: pages are only added, and what changes in a page is its tree. So the
document that an element belongs to is found as long as the page was loaded under an address. Of the trees, what holds as
they are read from markup and survives typing goes on to hold (`LastingTree`).
-/

namespace Crawl.Static

variable {s : State} {k : Nat} {base : String}

/-- The address recorded for a tree. -/
def State.baseOf (s : State) (k : Nat) : Option String := s.loaded[k]?.bind Loaded.base

/-- Whatever happens in the trees, the addresses recorded for them are the same. -/
theorem baseOf_changeTree (s : State) (i : Nat) (f : Html.Tree → Html.Tree) (k : Nat) :
    (s.changeTree i f).baseOf k = s.baseOf k := by
  unfold State.baseOf State.changeTree
  rw [Array.getElem?_modify]
  split
  · cases s.loaded[k]? <;> rfl
  · rfl

/-- A change of a tree that leaves an empty one empty is a change of the tree with its number. -/
theorem tree_changeTree (s : State) (l : Nat) {f : Html.Tree → Html.Tree} (hf : f [] = []) (k : Nat) :
    (s.changeTree l f).tree k = if l = k then f (s.tree k) else s.tree k := by
  unfold State.tree State.changeTree
  rw [Array.getElem?_modify]
  split
  · cases s.loaded[k]? with
    | none => exact hf.symm
    | some d => rfl
  · rfl

theorem tree_setAttr (s : State) (l m : Nat) (text : String) (k : Nat) :
    (s.changeTree l (·.setAttr m "value" text)).tree k =
      if l = k then (s.tree k).setAttr m "value" text else s.tree k :=
  tree_changeTree s l (List.modify_nil _ m) k

theorem tree_setFirstText (s : State) (l m : Nat) (text : Option String) (k : Nat) :
    (s.changeTree l (·.setFirstText m text)).tree k = if l = k then (s.tree k).setFirstText m text else s.tree k :=
  tree_changeTree s l (List.modify_nil _ (m + 1)) k

/-! ## Trees -/

/-- A property of trees that those read from markup have, and that survives typing. -/
structure LastingTree (holds : Html.Tree → Prop) : Prop where
  empty : holds []
  read : ∀ markup t, Html.parse markup = .ok t → holds t
  typed : ∀ t i text, holds t → holds (t.setAttr i "value" text)
  rewritten : ∀ t i text, holds t → holds (t.setFirstText i text)

namespace LastingTree

variable {holds : Html.Tree → Prop} (h : LastingTree holds)
include h

/-- Such a property lasts for the pages from some number on. -/
theorem lasting (n : Nat) : Lasting fun s => ∀ k, n ≤ k → holds (s.tree k) where
  rest _ _ _ hs := hs
  push s markup tree base hparse hs k hk := by
    have htree := hs k hk
    unfold State.tree at htree ⊢
    rw [Array.getElem?_push]
    split
    · exact h.read markup tree hparse
    · exact htree
  typed s l m text hs k hk := by
    rw [tree_setAttr]
    split
    · exact h.typed _ m text (hs k hk)
    · exact hs k hk
  rewritten s l m text hs k hk := by
    rw [tree_setFirstText]
    split
    · exact h.rewritten _ m text (hs k hk)
    · exact hs k hk

/-- Such a property holds of the pages that are still to come. -/
theorem unloaded (s : State) (k : Nat) (hk : s.loaded.size ≤ k) : holds (s.tree k) := by
  have hnone : s.loaded[k]? = none := Array.getElem?_eq_none hk
  unfold State.tree
  rw [hnone]
  exact h.empty

end LastingTree

/-! ## Addresses -/

theorem baseOf_push (h : s.baseOf k = some base) (page : Loaded) :
    ({ s with loaded := s.loaded.push page } : State).baseOf k = some base := by
  obtain ⟨d, hd, hbase⟩ := Option.bind_eq_some_iff.mp h
  have hk : k < s.loaded.size := (Array.getElem?_eq_some_iff.mp hd).1
  unfold State.baseOf
  rw [Array.getElem?_push_lt hk, ← Array.getElem?_eq_getElem hk]
  exact h

/-- That an address is recorded for a tree lasts. -/
theorem lasting_baseOf (k : Nat) (base : String) : Lasting fun s => s.baseOf k = some base where
  rest _ _ _ hs := hs
  push _ _ _ _ _ hs := baseOf_push hs _
  typed s i _ _ hs := (baseOf_changeTree s i _ k).trans hs
  rewritten s i _ _ hs := (baseOf_changeTree s i _ k).trans hs

/-- What was recorded for a tree is still recorded for it after any calls to the engine. -/
theorem Reaches.baseOf {s s' : State} (h : engine.Reaches s s') (hs : s.baseOf k = some base) : s'.baseOf k = some base :=
  Reaches.lasting (lasting_baseOf k base) h hs

end Crawl.Static
