import Crawl.XPath.Eval
/-!
# Document order

Places stand in the order of the document: by their rows, and at one row by their rank. Sorting brings places into this
order and takes each of them once, so the elements that a path leads to come in the order of their rows, none of them
twice (`select_ascending`).
-/

namespace Crawl.XPath

namespace Spot

theorem before_iff {a b : Spot} : a.before b = true ↔ a.place < b.place ∨ a.place = b.place ∧ a.rank < b.rank := by
  simp [before]

theorem before_trans {a b c : Spot} (hab : a.before b = true) (hbc : b.before c = true) : a.before c = true := by
  rw [before_iff] at hab hbc ⊢
  omega

/-- A place is known by its row and its rank. -/
theorem eq_of_rank {a b : Spot} (hplace : a.place = b.place) (hrank : a.rank = b.rank) : a = b := by
  cases a <;> cases b <;> simp_all [place, rank]

theorem before_or_before {a b : Spot} (hne : a ≠ b) : a.before b = true ∨ b.before a = true := by
  rw [before_iff, before_iff]
  have hdiffer : a.place ≠ b.place ∨ a.rank ≠ b.rank := by
    by_cases hplace : a.place = b.place
    · exact .inr fun hrank => hne (eq_of_rank hplace hrank)
    · exact .inl hplace
  omega

theorem mem_insert {a b : Spot} {spots : List Spot} : b ∈ insert a spots ↔ b = a ∨ b ∈ spots := by
  induction spots with
  | nil => simp [insert]
  | cons c spots ih =>
      unfold insert
      split
      · simp
      split
      · next h => subst h; simp
      · rw [List.mem_cons, ih, List.mem_cons]
        constructor
        · rintro (h | h | h)
          · exact .inr (.inl h)
          · exact .inl h
          · exact .inr (.inr h)
        · rintro (h | h | h)
          · exact .inr (.inl h)
          · exact .inl h
          · exact .inr (.inr h)

/-- Putting a place among places in order keeps the order. -/
theorem pairwise_insert (a : Spot) {spots : List Spot} (h : spots.Pairwise fun a b => a.before b = true) :
    (insert a spots).Pairwise fun a b => a.before b = true := by
  induction spots with
  | nil => exact List.pairwise_singleton _ a
  | cons b spots ih =>
      obtain ⟨hb, hspots⟩ := List.pairwise_cons.mp h
      unfold insert
      split
      · next hab =>
          refine List.pairwise_cons.mpr ⟨?_, h⟩
          rw [List.forall_mem_cons]
          exact ⟨hab, fun c hc => before_trans hab (hb c hc)⟩
      split
      · exact h
      · next hab hne =>
          refine List.pairwise_cons.mpr ⟨fun c hc => ?_, ih hspots⟩
          rcases mem_insert.mp hc with rfl | hc
          · exact (before_or_before hne).resolve_left hab
          · exact hb c hc

/-- Sorted places are in order, each of them once. -/
theorem pairwise_sort (spots : List Spot) : (sort spots).Pairwise fun a b => a.before b = true := by
  unfold sort
  induction spots with
  | nil => exact .nil
  | cons a spots ih => exact pairwise_insert a ih

end Spot

/-- The row of a place that is an element. -/
def elementRow (t : Html.Tree) : Spot → Option Nat
  | .row j => if (t.tag? j).isSome then some j else none
  | _ => none

theorem elementRow_some {t : Html.Tree} {a : Spot} {i : Nat} (h : elementRow t a = some i) : a = .row i := by
  cases a with
  | row j =>
      simp only [elementRow, Option.ite_none_right_eq_some, Option.some.injEq] at h
      rw [h.2]
  | _ => cases h

/-- What a path leads to, if it can be read and leads anywhere. -/
theorem select_eq (t : Html.Tree) (i : Nat) (path : String) :
    select t i path = (parse path).bind fun e => (eval t e ⟨.row i, 1, 1⟩).bind fun v => match v with
      | .spots spots => .ok ((Spot.sort spots).filterMap (elementRow t))
      | _ => .ok [] := rfl

/-- **The elements that a path leads to come in the order of the document**, each of them once. -/
theorem select_ascending {t : Html.Tree} {i : Nat} {path : String} {rows : List Nat} (h : select t i path = .ok rows) :
    rows.Pairwise (· < ·) := by
  rw [select_eq] at h
  cases hparse : parse path with
  | error f => rw [hparse] at h; cases h
  | ok e =>
      rw [hparse, Except.bind] at h
      cases hvalue : eval t e ⟨.row i, 1, 1⟩ with
      | error f => rw [hvalue] at h; cases h
      | ok v =>
          rw [hvalue, Except.bind] at h
          cases v with
          | spots spots =>
              cases h
              refine List.Pairwise.filterMap _ (fun a a' hbefore j hj j' hj' => ?_) (Spot.pairwise_sort spots)
              rw [elementRow_some hj, elementRow_some hj', Spot.before_iff] at hbefore
              simpa [Spot.place, Spot.rank] using hbefore
          | _ => cases h; exact .nil

end Crawl.XPath
