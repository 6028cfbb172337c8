import Crawl.Html.Tree
import Mathlib.Data.Nat.Basic
import Mathlib.Order.OrderDual
/-!
# What stands below a place and what it stands under

A tree is walked in two directions: down, through the run of deeper rows behind a row (`below`), and up, to ever
shallower rows before it (`above`). The two walks are written apart. Both are shown to follow one relation, that a row
spans the rows up to a place when each of them is deeper than itself, so a row stands below another just when it stands
under it. Going down meets the rows in the order of their places, so what a search comes upon first has the least place.
-/

namespace Crawl.Html

theorem Row.isElement_of_tag? {r : Row} {tag : String} (h : r.tag? = some tag) : r.isElement = true := by
  rw [isElement, h]
  rfl

end Crawl.Html

namespace Crawl.Html.Tree

variable {t : Tree} {i j : Nat} {r a : Row}

/-- A place stands under another one. -/
def Under (t : Tree) (i j : Nat) : Prop := ∃ a, (a, i) ∈ t.above j

/-- All rows behind a place, up to another one, are deeper than the row at that place. -/
structure Spans (t : Tree) (i j : Nat) (a : Row) : Prop where
  row : t[i]? = some a
  before : i < j
  deeper : ∀ m q, i < m → m ≤ j → t[m]? = some q → a.depth < q.depth

/-! ## Lists in order -/

/-- A search through a list in which a key grows comes upon the entry with the least key of those that pass. -/
theorem find?_least {α β : Type} [Preorder β] {f : α → β} {l : List α} (hl : l.Pairwise fun x y => f x < f y)
    (test : α → Bool) (x : α) :
    l.find? test = some x ↔ x ∈ l ∧ test x = true ∧ ∀ y ∈ l, test y = true → f x ≤ f y := by
  rw [List.find?_eq_some_iff_append]
  constructor
  · rintro ⟨hpass, front, rest, rfl, hfront⟩
    refine ⟨List.mem_append_right _ List.mem_cons_self, hpass, fun y hy hypass => ?_⟩
    rcases List.mem_append.mp hy with hy | hy
    · have hfail := hfront y hy
      rw [hypass] at hfail
      cases hfail
    · rcases List.mem_cons.mp hy with rfl | hy
      · exact le_refl _
      · exact le_of_lt ((List.pairwise_cons.mp (List.pairwise_append.mp hl).2.1).1 y hy)
  · rintro ⟨hmem, hpass, hleast⟩
    obtain ⟨front, rest, rfl⟩ := List.append_of_mem hmem
    refine ⟨hpass, front, rest, rfl, fun y hy => ?_⟩
    -- an entry that is met earlier has a lesser key, so it does not pass
    have hlt : f y < f x := (List.pairwise_append.mp hl).2.2 y hy x List.mem_cons_self
    rw [Bool.not_eq_true']
    exact Bool.eq_false_iff.mpr fun hypass => not_le_of_gt hlt (hleast y (List.mem_append_left _ hy) hypass)

theorem pairwise_placed (t : Tree) : t.placed.Pairwise fun p q => p.2 < q.2 := by
  apply List.pairwise_iff_getElem.mpr
  intro m n hm hn hmn
  simpa [placed] using hmn

/-- No element comes before the first one. -/
theorem rootElement?_le (hrow : t[j]? = some r) (h : r.isElement = true) : t.rootElement?.getD 0 ≤ j := by
  unfold rootElement?
  have hmem : (r, j) ∈ t.placed := by
    unfold placed
    exact List.mem_zipIdx_iff_getElem?.mpr hrow
  cases hfind : t.placed.find? (·.1.isElement) with
  | none => exact absurd h (List.find?_eq_none.mp hfind (r, j) hmem)
  | some p =>
      obtain ⟨-, -, hleast⟩ := (find?_least (pairwise_placed t) _ p).mp hfind
      exact hleast (r, j) hmem h

/-- The tag of a row is the tag at its place. -/
theorem hasTag_iff {tag : String} (hrow : t[i]? = some r) : r.hasTag tag = true ↔ t.tag? i = some tag := by
  simp [Row.hasTag, tag?, hrow]

/-! ## Upwards -/

/-- The walk upwards finds the rows that are shallower than where it starts from and than all rows it has passed. -/
theorem mem_aboveFrom {n : Nat} (hn : n ≤ t.length) (depth : Nat) :
    (a, i) ∈ aboveFrom depth (t.placed.take n).reverse ↔
      t[i]? = some a ∧ i < n ∧ a.depth < depth ∧ ∀ m q, i < m → m < n → t[m]? = some q → a.depth < q.depth := by
  induction n generalizing depth with
  | zero => exact ⟨nofun, fun h => absurd h.2.1 (Nat.not_lt_zero i)⟩
  | succ n ih =>
      obtain ⟨b, hb⟩ : ∃ b, t[n]? = some b := ⟨_, List.getElem?_eq_getElem hn⟩
      have hwalk : (t.placed.take (n + 1)).reverse = (b, n) :: (t.placed.take n).reverse := by
        simp [List.take_add_one, placed, hb]
      -- the last row on the way is the first one passed: it is found itself, or the walk goes on from the lesser depth
      have hpassed : (∀ m q, i < m → m < n + 1 → t[m]? = some q → a.depth < q.depth) ↔
          (∀ m q, i < m → m < n → t[m]? = some q → a.depth < q.depth) ∧ (i < n → a.depth < b.depth) := by
        constructor
        · exact fun h => ⟨fun m q him hm => h m q him (by omega), fun hin => h n b hin (by omega) hb⟩
        · rintro ⟨hdeeper, hlast⟩ m q him hm hq
          rcases Nat.lt_succ_iff_lt_or_eq.mp hm with hm | rfl
          · exact hdeeper m q him hm hq
          · cases hb.symm.trans hq
            exact hlast him
      have ih := ih (Nat.le_of_succ_le hn)
      rw [hwalk, aboveFrom, hpassed]
      split
      · next hlt =>
          rw [List.mem_cons, ih, Prod.mk.injEq]
          constructor
          · rintro (⟨rfl, rfl⟩ | ⟨hi, hin, hless, hdeeper⟩)
            · exact ⟨hb, by omega, hlt, fun m q him hm => by omega, fun h => by omega⟩
            · exact ⟨hi, by omega, by omega, hdeeper, fun _ => hless⟩
          · rintro ⟨hi, hin, -, hdeeper, hlast⟩
            rcases Nat.lt_succ_iff_lt_or_eq.mp hin with hin | rfl
            · exact .inr ⟨hi, hin, hlast hin, hdeeper⟩
            · cases hb.symm.trans hi
              exact .inl ⟨rfl, rfl⟩
      · next hle =>
          rw [ih]
          constructor
          · rintro ⟨hi, hin, hless, hdeeper⟩
            exact ⟨hi, by omega, hless, hdeeper, fun _ => Nat.lt_of_lt_of_le hless (Nat.le_of_not_lt hle)⟩
          · rintro ⟨hi, hin, hless, hdeeper, hlast⟩
            rcases Nat.lt_succ_iff_lt_or_eq.mp hin with hin | rfl
            · exact ⟨hi, hin, hless, hdeeper⟩
            · cases hb.symm.trans hi
              exact absurd hless hle

theorem mem_above : (a, i) ∈ t.above j ↔ j < t.length ∧ t.Spans i j a := by
  unfold above
  cases hj : t[j]? with
  | none =>
      refine ⟨nofun, fun h => ?_⟩
      rw [List.getElem?_eq_getElem h.1] at hj
      cases hj
  | some r =>
      have hlen : j < t.length := (List.getElem?_eq_some_iff.mp hj).1
      refine (mem_aboveFrom (Nat.le_of_lt hlen) r.depth).trans ?_
      constructor
      · rintro ⟨hi, hij, hless, hdeeper⟩
        refine ⟨hlen, hi, hij, fun m q him hm hq => ?_⟩
        rcases Nat.lt_or_eq_of_le hm with hm | rfl
        · exact hdeeper m q him hm hq
        · cases hj.symm.trans hq
          exact hless
      · rintro ⟨-, hi, hij, hdeeper⟩
        exact ⟨hi, hij, hdeeper j r hij (Nat.le_refl j) hj, fun m q him hm => hdeeper m q him (Nat.le_of_lt hm)⟩

/-- The walk upwards leaves out some rows and changes no order. -/
theorem aboveFrom_sublist (depth : Nat) (ps : List (Row × Nat)) : (aboveFrom depth ps).Sublist ps := by
  induction ps generalizing depth with
  | nil => exact .slnil
  | cons p ps ih =>
      rw [aboveFrom]
      split
      · exact (ih _).cons_cons p
      · exact (ih _).cons p

/-- Going up from a place, places only decrease. -/
theorem pairwise_above (t : Tree) (i : Nat) : (t.above i).Pairwise fun p q => q.2 < p.2 := by
  unfold above
  cases t[i]? with
  | none => exact .nil
  | some r =>
      have htake := (pairwise_placed t).sublist (List.take_sublist i t.placed)
      exact (List.pairwise_reverse.mpr htake).sublist (aboveFrom_sublist r.depth _)

/-- A search upwards comes upon the nearest row that passes, the one with the greatest place. -/
theorem find?_above_some (test : Row → Bool) : (t.above i).find? (fun p => test p.1) = some (a, j) ↔
    (a, j) ∈ t.above i ∧ test a = true ∧ ∀ b m, (b, m) ∈ t.above i → test b = true → m ≤ j := by
  -- going up, places fall, so they grow in the reversed order
  have hfind := find?_least (f := fun p : Row × Nat => OrderDual.toDual p.2) (pairwise_above t i) (test ·.1) (a, j)
  rw [hfind]
  refine and_congr_right fun _ => and_congr_right fun _ => ⟨fun h b m => h (b, m), ?_⟩
  rintro h ⟨b, m⟩
  exact h b m

/-! ## Downwards -/

/-- A number of the longest run from the start of a list is a number of the list whose entries up to there all pass. -/
theorem getElem?_takeWhile {α : Type} (test : α → Bool) (l : List α) (n : Nat) (x : α) :
    (l.takeWhile test)[n]? = some x ↔ l[n]? = some x ∧ ∀ m y, m ≤ n → l[m]? = some y → test y = true := by
  rw [List.takeWhile_eq_take_findIdx_not, List.getElem?_take]
  split
  · next hn =>
      obtain ⟨hlen, hpass⟩ := (List.lt_findIdx_iff l _ n).mp hn
      refine ⟨fun hx => ⟨hx, fun m y hm hy => ?_⟩, And.left⟩
      obtain ⟨hm', rfl⟩ := List.getElem?_eq_some_iff.mp hy
      simpa using hpass m hm
  · next hn =>
      refine ⟨nofun, fun ⟨hx, hpass⟩ => absurd ((List.lt_findIdx_iff l _ n).mpr ?_) hn⟩
      obtain ⟨hlen, -⟩ := List.getElem?_eq_some_iff.mp hx
      refine ⟨hlen, fun m hm => ?_⟩
      simpa using hpass m _ hm (List.getElem?_eq_getElem (Nat.lt_of_le_of_lt hm hlen))

/-- The rows below a place are met in the order of their places, from the next one on. -/
theorem getElem?_below (n : Nat) :
    (t.below i)[n]? = some (r, j) ↔ j = i + 1 + n ∧ t[j]? = some r ∧ ∃ a, t.Spans i j a := by
  unfold below
  cases hi : t[i]? with
  | none => exact ⟨nofun, fun ⟨_, _, a, hspans⟩ => nomatch hi.symm.trans hspans.row⟩
  | some a =>
      -- numbers count from the row after the place, so number `m` is place `i + 1 + m`
      have hplace (m : Nat) : (t.placed.drop (i + 1))[m]? = t[i + 1 + m]?.map (·, i + 1 + m) := by
        simp [placed]
      dsimp only
      rw [getElem?_takeWhile, hplace]
      constructor
      · rintro ⟨hrow, hpass⟩
        obtain ⟨r', hr', heq⟩ := Option.map_eq_some_iff.mp hrow
        cases heq
        refine ⟨rfl, hr', a, hi, by omega, fun m q him hm hq => ?_⟩
        have hq' : (t.placed.drop (i + 1))[m - (i + 1)]? = some (q, m) := by
          rw [hplace, Nat.add_sub_cancel' him, hq]
          rfl
        exact of_decide_eq_true (hpass (m - (i + 1)) (q, m) (by omega) hq')
      · rintro ⟨rfl, hrow, a', hspans⟩
        cases hi.symm.trans hspans.row
        refine ⟨by rw [hrow]; rfl, fun m y hm hy => decide_eq_true ?_⟩
        rw [hplace] at hy
        obtain ⟨q, hq, rfl⟩ := Option.map_eq_some_iff.mp hy
        exact hspans.deeper (i + 1 + m) q (by omega) (by omega) hq

/-- A row stands below another one just when it stands under it. -/
theorem mem_below : (r, j) ∈ t.below i ↔ t[j]? = some r ∧ t.Under i j := by
  rw [List.mem_iff_getElem?]
  constructor
  · rintro ⟨n, hn⟩
    obtain ⟨-, hrow, a, hspans⟩ := (getElem?_below n).mp hn
    exact ⟨hrow, a, mem_above.mpr ⟨(List.getElem?_eq_some_iff.mp hrow).1, hspans⟩⟩
  · rintro ⟨hrow, a, ha⟩
    have hspans := (mem_above.mp ha).2
    have := hspans.before
    exact ⟨j - (i + 1), (getElem?_below _).mpr ⟨by omega, hrow, a, hspans⟩⟩

/-- Going down, places only grow. -/
theorem pairwise_below (t : Tree) (i : Nat) : (t.below i).Pairwise fun p q => p.2 < q.2 := by
  have hplace {n : Nat} (hn : n < (t.below i).length) : (t.below i)[n].2 = i + 1 + n :=
    ((getElem?_below n).mp (List.getElem?_eq_getElem hn)).1
  apply List.pairwise_iff_getElem.mpr
  intro m n hm hn hmn
  rw [hplace hm, hplace hn]
  omega

/-! ## A row with those below it -/

/-- What is at or below a place is the row there and what stands under it. -/
theorem mem_fromHere_iff : (r, j) ∈ t.fromHere i ↔ t[j]? = some r ∧ (j = i ∨ t.Under i j) := by
  unfold fromHere
  cases hi : t[i]? with
  | none =>
      refine ⟨nofun, ?_⟩
      rintro ⟨hrow, rfl | ⟨a, ha⟩⟩
      · cases hi.symm.trans hrow
      · cases hi.symm.trans (mem_above.mp ha).2.row
  | some b =>
      rw [List.mem_cons, mem_below, Prod.mk.injEq]
      constructor
      · rintro (⟨rfl, rfl⟩ | ⟨hrow, hunder⟩)
        · exact ⟨hi, .inl rfl⟩
        · exact ⟨hrow, .inr hunder⟩
      · rintro ⟨hrow, rfl | hunder⟩
        · cases hi.symm.trans hrow
          exact .inl ⟨rfl, rfl⟩
        · exact .inr ⟨hrow, hunder⟩

/-- Going down from a row, places only grow. -/
theorem pairwise_fromHere (t : Tree) (i : Nat) : (t.fromHere i).Pairwise fun p q => p.2 < q.2 := by
  unfold fromHere
  cases t[i]? with
  | none => exact .nil
  | some r =>
      refine List.pairwise_cons.mpr ⟨fun p hp => ?_, pairwise_below t i⟩
      obtain ⟨n, hn⟩ := List.mem_iff_getElem?.mp hp
      have hplace := ((getElem?_below n).mp hn).1
      omega

/-- Going down from a row, none is left out before the last one. -/
theorem mem_fromHere_of_le (h : (r, j) ∈ t.fromHere i) {m : Nat} {q : Row} (him : i ≤ m) (hmj : m ≤ j)
    (hq : t[m]? = some q) : (q, m) ∈ t.fromHere i := by
  rw [mem_fromHere_iff] at h ⊢
  refine ⟨hq, ?_⟩
  rcases Nat.eq_or_lt_of_le him with rfl | him
  · exact .inl rfl
  · obtain ⟨-, rfl | ⟨a, ha⟩⟩ := h
    · omega
    · have hspans := (mem_above.mp ha).2
      have hlen : m < t.length := (List.getElem?_eq_some_iff.mp hq).1
      refine .inr ⟨a, mem_above.mpr ⟨hlen, hspans.row, him, fun n b hin hnm hb => ?_⟩⟩
      exact hspans.deeper n b hin (Nat.le_trans hnm hmj) hb

/-! ## Searching -/

/-- The first row under a place, in document order, that passes a test. -/
structure First (t : Tree) (i : Nat) (test : Row → Bool) (j : Nat) (r : Row) : Prop where
  row : t[j]? = some r
  under : t.Under i j
  passes : test r = true
  least : ∀ m q, t[m]? = some q → t.Under i m → test q = true → j ≤ m

theorem First.unique {test : Row → Bool} {k : Nat} {q : Row} (h : t.First i test j r) (h' : t.First i test k q) :
    j = k ∧ r = q := by
  have hle := h.least k q h'.row h'.under h'.passes
  have hge := h'.least j r h.row h.under h.passes
  cases Nat.le_antisymm hle hge
  cases h.row.symm.trans h'.row
  exact ⟨rfl, rfl⟩

/-- A search below a place comes upon the first row under it that passes. -/
theorem find?_below_some {test : Row → Bool} :
    (t.below i).find? (fun p => test p.1) = some (r, j) ↔ t.First i test j r := by
  rw [find?_least (pairwise_below t i)]
  constructor
  · rintro ⟨hmem, hpass, hleast⟩
    obtain ⟨hrow, hunder⟩ := mem_below.mp hmem
    exact ⟨hrow, hunder, hpass, fun m q hq hm => hleast (q, m) (mem_below.mpr ⟨hq, hm⟩)⟩
  · intro h
    refine ⟨mem_below.mpr ⟨h.row, h.under⟩, h.passes, ?_⟩
    rintro ⟨q, m⟩ hmem
    obtain ⟨hq, hm⟩ := mem_below.mp hmem
    exact h.least m q hq hm

/-- A search below a place comes upon nothing when no row under it passes. -/
theorem find?_below_none {test : Row → Bool} :
    (t.below i).find? (fun p => test p.1) = none ↔ ∀ m q, t[m]? = some q → t.Under i m → test q = false := by
  rw [List.find?_eq_none]
  constructor
  · intro h m q hq hm
    exact Bool.eq_false_iff.mpr (h (q, m) (mem_below.mpr ⟨hq, hm⟩))
  · rintro h ⟨q, m⟩ hmem
    obtain ⟨hq, hm⟩ := mem_below.mp hmem
    exact Bool.eq_false_iff.mp (h m q hq hm)

end Crawl.Html.Tree
