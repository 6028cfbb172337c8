import Crawl.Proofs.Html.Nested
import Crawl.Proofs.XPath.Titled
/-!
# All anchors of a tree

In a tree that is read from markup every element stands directly below the root or another element, and so the path to
the anchors, which goes through the rows below every place, misses none of them: it leads to all of them in the order of
the document, wherever it starts (`mem_anchorRows`).
-/

namespace Crawl.XPath

open Html

variable {t : Tree} {i j : Nat} {r : Row}

theorem mem_ofRows {rows : List (Row × Nat)} : Spot.row j ∈ Spot.ofRows rows ↔ ∃ r, (r, j) ∈ rows ∧ r.isVisible = true := by
  simp [Spot.ofRows]

/-- An element is there for a reader. -/
theorem isVisible_of_isElement (h : r.isElement = true) : r.isVisible = true := by
  obtain ⟨depth, content⟩ := r
  cases content with
  | element tag attrs => rfl
  | _ => cases h

/-- The root and every element are among the places below which anchors are looked for. -/
theorem mem_everything (h : t.Nested) (hrow : t[i]? = some r) (hi : i = 0 ∨ r.isElement = true) :
    Spot.row i ∈ everything t := by
  rw [everything, Spot.mem_sort, List.flatMap_singleton, List.mem_filter]
  refine ⟨?_, rfl⟩
  rcases Nat.eq_zero_or_pos i with rfl | hpos
  · exact List.mem_cons_self
  · have helement : r.isElement = true := hi.resolve_left (Nat.ne_of_gt hpos)
    have hbelow : (r, i) ∈ t.below 0 := Tree.mem_below.mpr ⟨hrow, h.under_root hpos hrow⟩
    exact List.mem_cons_of_mem _ (mem_ofRows.mpr ⟨r, hbelow, isVisible_of_isElement helement⟩)

/-- **The path to the anchors leads to every anchor.** -/
theorem mem_anchorRows (h : t.Nested) : j ∈ anchorRows t ↔ t.tag? j = some "a" := by
  refine ⟨tag?_of_mem_anchorRows, fun htag => ?_⟩
  obtain ⟨r, hrow, hr⟩ := Option.bind_eq_some_iff.mp htag
  have helement : r.isElement = true := Row.isElement_of_tag? hr
  have hpos : 0 < j := by
    refine Nat.pos_of_ne_zero fun hzero => ?_
    subst hzero
    rw [(h.root r hrow).2] at helement
    cases helement
  obtain ⟨i, a, hspans, hdepth, hparent⟩ := h.parent hpos hrow
  have hlen : j < t.length := (List.getElem?_eq_some_iff.mp hrow).1
  have hchild : (r, j) ∈ t.children i := by
    have hbelow : (r, j) ∈ t.below i := Tree.mem_below.mpr ⟨hrow, a, Tree.mem_above.mpr ⟨hlen, hspans⟩⟩
    simp [Tree.children, hspans.row, hbelow, hdepth, isVisible_of_isElement helement]
  have hspot : Spot.row j ∈ anchorsBelow t (.row i) := by
    refine List.mem_filter.mpr ⟨mem_ofRows.mpr ⟨r, hchild, isVisible_of_isElement helement⟩, ?_⟩
    simp [Spot.passes, Spot.isPrincipal, Spot.name, htag]
  refine List.mem_filterMap.mpr ⟨.row j, ?_, by simp [elementRow, htag]⟩
  rw [Spot.mem_sort, anchors, Spot.mem_sort]
  exact List.mem_flatMap.mpr ⟨.row i, mem_everything h hspans.row hparent, hspot⟩

/-- The anchors come in the order of the document. -/
theorem pairwise_anchorRows (t : Tree) : (anchorRows t).Pairwise (· < ·) := select_ascending (select_anchors t 0)

end Crawl.XPath
