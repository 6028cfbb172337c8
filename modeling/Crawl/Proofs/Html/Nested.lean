import Crawl.Proofs.Html.Descent
import Crawl.Proofs.Html.Sound
/-!
# Rows have parents

The depth of the rows goes up by steps of one: a row is at most one deeper than the row before it, and only if that one
may have something below it. This is all that has to be looked after while a tree is built (`kept_stepping`), and it is
enough for every row to stand directly under the root or an element (`Nested.parent`), and hence under the root.
-/

namespace Crawl.Html

/-- The greatest depth of a row that comes next: only the root and elements have rows below them. -/
def Row.reach (r : Row) : Nat := if r.isElement || r.depth == 0 then r.depth + 1 else r.depth

theorem Row.depth_le_reach (r : Row) : r.depth ≤ r.reach := by
  unfold reach
  split <;> omega

/-- What may stand right behind a row. -/
def Row.Follows (q r : Row) : Prop := 0 < q.depth ∧ q.depth ≤ r.reach

/-- A tree whose first row is the root, and whose depth goes up by steps of one from there. -/
structure Tree.Nested (t : Tree) : Prop where
  root : ∀ r, t[0]? = some r → r.depth = 0 ∧ r.isElement = false
  steps : ∀ i r q, t[i]? = some r → t[i + 1]? = some q → q.Follows r

/-! ## Parents -/

namespace Tree

variable {t : Tree} {i j m : Nat} {a b q : Row}

theorem Spans.trans (h : t.Spans i j a) (h' : t.Spans j m b) : t.Spans i m a where
  row := h.row
  before := Nat.lt_trans h.before h'.before
  deeper n r hin hnm hr := by
    rcases Nat.lt_or_ge j n with hjn | hnj
    · exact Nat.lt_trans (h.deeper j b h.before (Nat.le_refl j) h'.row) (h'.deeper n r hjn hnm hr)
    · exact h.deeper n r hin hnj hr

namespace Nested

theorem depth_pos (h : t.Nested) (hj : 0 < j) (hrow : t[j]? = some q) : 0 < q.depth := by
  obtain ⟨j, rfl⟩ := Nat.exists_eq_add_one_of_ne_zero (Nat.ne_of_gt hj)
  have hlen : j + 1 < t.length := (List.getElem?_eq_some_iff.mp hrow).1
  exact (h.steps j _ q (List.getElem?_eq_getElem (Nat.lt_of_succ_lt hlen)) hrow).1

/-- The nearest shallower row is the parent. -/
theorem parent (h : t.Nested) (hj : 0 < j) (hrow : t[j]? = some q) :
    ∃ i a, t.Spans i j a ∧ q.depth = a.depth + 1 ∧ (i = 0 ∨ a.isElement = true) := by
  have hpos : 0 < q.depth := h.depth_pos hj hrow
  have hlen : j < t.length := (List.getElem?_eq_some_iff.mp hrow).1
  -- Going back from the row: as long as no shallower row was met, the parent is still to come.
  have hback : ∀ n ≤ j, (∀ m r, n ≤ m → m ≤ j → t[m]? = some r → q.depth ≤ r.depth) →
      ∃ i a, t.Spans i j a ∧ q.depth = a.depth + 1 ∧ (i = 0 ∨ a.isElement = true) := by
    intro n
    induction n with
    | zero =>
        intro _ hdeep
        have hroot : t[0]? = some t[0] := List.getElem?_eq_getElem (by omega)
        have hle := hdeep 0 _ (Nat.le_refl 0) (Nat.zero_le j) hroot
        rw [(h.root _ hroot).1] at hle
        omega
    | succ n ih =>
        intro hn hdeep
        have ha : t[n]? = some t[n] := List.getElem?_eq_getElem (by omega)
        have hnext : t[n + 1]? = some t[n + 1] := List.getElem?_eq_getElem (by omega)
        rcases Nat.lt_or_ge t[n].depth q.depth with hlt | hge
        · have hle : q.depth ≤ t[n].reach :=
            Nat.le_trans (hdeep (n + 1) _ (Nat.le_refl _) hn hnext) (h.steps n _ _ ha hnext).2
          refine ⟨n, t[n], ⟨ha, hn, fun m r hnm hm hr => ?_⟩, ?_⟩
          · exact Nat.lt_of_lt_of_le hlt (hdeep m r hnm hm hr)
          · unfold Row.reach at hle
            split at hle
            · next hparent =>
                refine ⟨by omega, ?_⟩
                rcases Bool.or_eq_true_iff.mp hparent with helement | hzero
                · exact .inr helement
                · refine .inl (Nat.eq_zero_of_not_pos fun hpos => ?_)
                  have := h.depth_pos hpos ha
                  rw [beq_iff_eq] at hzero
                  omega
            · omega
        · refine ih (by omega) fun m r hm hmj hr => ?_
          rcases Nat.lt_or_eq_of_le hm with hm | rfl
          · exact hdeep m r hm hmj hr
          · cases ha.symm.trans hr
            exact hge
  refine hback j (Nat.le_refl j) fun m r hjm hmj hr => ?_
  obtain rfl : m = j := Nat.le_antisymm hmj hjm
  cases hrow.symm.trans hr
  exact Nat.le_refl _

/-- Every row but the root stands under the root. -/
theorem under_root (h : t.Nested) (hj : 0 < j) (hrow : t[j]? = some q) : t.Under 0 j := by
  have hlen : j < t.length := (List.getElem?_eq_some_iff.mp hrow).1
  have hroot : t[0]? = some t[0] := List.getElem?_eq_getElem (by omega)
  refine ⟨_, mem_above.mpr ⟨hlen, hroot, hj, fun m r hm _ hr => ?_⟩⟩
  rw [(h.root _ hroot).1]
  exact h.depth_pos hm hr

/-- Rows may be changed as long as their depths and their tags stay. -/
theorem modify (h : t.Nested) {f : Row → Row} (hdepth : ∀ r, (f r).depth = r.depth)
    (htag : ∀ r, (f r).tag? = r.tag?) (i : Nat) : Tree.Nested (t.modify i f) := by
  have hrow {j : Nat} {r : Row} (hr : (t.modify i f)[j]? = some r) :
      ∃ r₀, t[j]? = some r₀ ∧ r.depth = r₀.depth ∧ r.isElement = r₀.isElement := by
    rw [List.getElem?_modify] at hr
    obtain ⟨r₀, hr₀, rfl⟩ := Option.map_eq_some_iff.mp hr
    refine ⟨r₀, hr₀, ?_⟩
    split
    · exact ⟨hdepth r₀, congrArg Option.isSome (htag r₀)⟩
    · exact ⟨rfl, rfl⟩
  constructor
  · intro r hr
    obtain ⟨r₀, hr₀, hd, he⟩ := hrow hr
    rw [hd, he]
    exact h.root r₀ hr₀
  · intro j r q hr hq
    obtain ⟨r₀, hr₀, hd, he⟩ := hrow hr
    obtain ⟨q₀, hq₀, hd', -⟩ := hrow hq
    have hstep := h.steps j r₀ q₀ hr₀ hq₀
    unfold Row.Follows Row.reach at hstep ⊢
    rw [hd, he, hd']
    exact hstep

theorem setAttr (h : t.Nested) (i : Nat) (name value : String) : (t.setAttr i name value).Nested :=
  h.modify (setRowAttr_depth name value) (setRowAttr_tag? name value) i

theorem setFirstText (h : t.Nested) (i : Nat) (s : Option String) : (t.setFirstText i s).Nested :=
  h.modify (setRowText_depth s) (setRowText_tag? s) (i + 1)

end Nested

end Tree

/-! ## Building -/

namespace Builder

/-- A builder whose rows, the last one first, go up by steps of one and leave room for what comes next. -/
structure Stepping (b : Builder) : Prop where
  root : b.rows.getLast? = some ⟨0, .root⟩
  steps : b.rows.IsChain Row.Follows
  room : ∀ r ∈ b.rows.head?, b.depth ≤ r.reach

/-- A row may be put behind at the depth of what comes next. -/
theorem Stepping.push {b : Builder} (h : b.Stepping) (q : Row) (stack : List String) (hq : q.depth = b.depth)
    (hroom : stack.length + 1 ≤ q.reach) : Stepping { b with rows := q :: b.rows, stack } where
  root := by
    rw [List.getLast?_cons, h.root]
    rfl
  steps := by
    refine List.isChain_cons.mpr ⟨fun r hr => ⟨?_, ?_⟩, h.steps⟩
    · rw [hq]
      exact Nat.succ_pos _
    · rw [hq]
      exact h.room r hr
  room r hr := by
    cases hr
    exact hroom

theorem kept_stepping : Kept Stepping where
  opened b tag attrs _ hb := by
    -- the element first, which has room for its slot
    have helement : Stepping { b with rows := ⟨b.depth, .element tag attrs⟩ :: b.rows, stack := tag :: b.stack } :=
      hb.push _ _ rfl (Nat.le_refl _)
    have hslot := helement.push ⟨b.depth + 1, .text none⟩ (tag :: b.stack) rfl (Row.depth_le_reach ⟨_, .text none⟩)
    exact ⟨hslot.root, hslot.steps, hslot.room⟩
  closed b stack hstack hb := by
    refine ⟨hb.root, hb.steps, fun r hr => Nat.le_trans ?_ (hb.room r hr)⟩
    exact Nat.succ_le_succ hstack.length_le
  leaf b q hq _ hb := by
    have hreach := q.depth_le_reach
    rw [hq] at hreach
    exact hb.push q b.stack hq hreach
  retext b depth s s' rows hrows hb := by
    obtain ⟨hroot, hsteps, hroom⟩ := hb
    rw [hrows] at hroot hsteps hroom
    obtain ⟨hlast, hsteps⟩ := List.isChain_cons.mp hsteps
    refine ⟨?_, List.isChain_cons.mpr ⟨hlast, hsteps⟩, ?_⟩
    · cases rows with
      | nil => cases hroot
      | cons r rows => exact hroot
    · rintro r ⟨⟩
      have hreach := hroom _ rfl
      exact hreach
  counted _ _ hb := ⟨hb.root, hb.steps, hb.room⟩

end Builder

/-- **Every row of a tree that is read from markup has its place under the root.** -/
theorem parse_nested {markup : String} {t : Tree} (h : parse markup = .ok t) : t.Nested := by
  have hempty : Builder.Stepping .empty := by
    refine ⟨rfl, List.isChain_singleton _, ?_⟩
    rintro r ⟨⟩
    exact Nat.le_refl 1
  obtain ⟨b, hb, rfl⟩ := Builder.kept_stepping.parse hempty h
  constructor
  · intro r hr
    rw [← List.head?_eq_getElem?, List.head?_reverse, hb.root] at hr
    cases hr
    exact ⟨rfl, rfl⟩
  · intro i r q hr hq
    have hchain : b.rows.reverse.IsChain fun r q => q.Follows r := List.isChain_reverse.mpr hb.steps
    obtain ⟨hi, rfl⟩ := List.getElem?_eq_some_iff.mp hr
    obtain ⟨hi', rfl⟩ := List.getElem?_eq_some_iff.mp hq
    exact List.isChain_iff_getElem.mp hchain i hi'

end Crawl.Html
