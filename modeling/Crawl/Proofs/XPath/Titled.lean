import Crawl.Proofs.XPath.AnchorPath
import Crawl.Proofs.XPath.Order
/-!
# Anchors with a title

Written texts have their text as their value. So the comparison in the path is true of an anchor when it carries the
title, and the path leads to just those of all anchors, in document order (`select_titled`).
-/

namespace Crawl.XPath

open Html

variable {t : Tree} {e : Expr} {v : List Char}

/-! ## Texts -/

theorem evalAll_literals (t : Tree) (vs : List (List Char)) (f : Focus) :
    evalAll t (literals vs) f = .ok (vs.map fun v => .text (String.ofList v)) := by
  induction vs with
  | nil => rfl
  | cons v vs ih =>
      show (eval t (.literal (String.ofList v)) f >>= _) = _
      rw [eval]
      show (evalAll t (literals vs) f >>= _) = _
      rw [ih]
      rfl

theorem join_ofList (vs : List (List Char)) : String.join (vs.map String.ofList) = String.ofList vs.flatten := by
  apply String.toList_inj.mp
  simp [List.flatMap_def]

theorem call_concat (t : Tree) (f : Focus) {args : List Value} (h : 2 ≤ args.length) :
    Library.call t f "concat" args = .ok (.text (String.join (args.map (Value.toText t)))) := by
  have hlength : ¬ args.length < 2 := by omega
  have hcall : Library.call t f "concat" args =
      if args.length < 2 then .error .invalidArity else .ok (.text (String.join (args.map (Value.toText t)))) := rfl
  rw [hcall, if_neg hlength]

/-- An expression that means a text has this text as its value, wherever it is evaluated. -/
theorem Means.eval (h : Means e v) (t : Tree) (f : Focus) : XPath.eval t e f = .ok (.text (String.ofList v)) := by
  cases h with
  | literal v => rw [XPath.eval]
  | @concat vs htwo =>
      rw [XPath.eval, evalAll_literals]
      show Library.call t f "concat" _ = _
      rw [call_concat t f (by rwa [List.length_map]), List.map_map]
      exact congrArg (fun s => Except.ok (Value.text s)) (join_ofList vs)

/-! ## Places that are kept -/

/-- A predicate whose value is a truth of the place keeps the places of which it is true. -/
theorem keepWhere_truth {predicate : Focus → Except Fault Value} {test : Spot → Bool}
    (h : ∀ f, predicate f = .ok (.truth (test f.spot))) (size position : Nat) (spots : List Spot) :
    keepWhere predicate size position spots = .ok (spots.filter test) := by
  induction spots generalizing position with
  | nil => rfl
  | cons a spots ih =>
      rw [keepWhere, h, List.filter_cons]
      show (keepWhere predicate size (position + 1) spots >>= _) = _
      rw [ih]
      show Except.ok (if keeps (.truth (test a)) position = true then a :: spots.filter test else spots.filter test) = _
      rfl

theorem gather_ok {lead : Spot → Except Fault (List Spot)} {places : Spot → List Spot}
    (h : ∀ a, lead a = .ok (places a)) (spots : List Spot) : gather lead spots = .ok (spots.flatMap places) := by
  induction spots with
  | nil => rfl
  | cons a spots ih =>
      rw [gather, h]
      show (gather lead spots >>= _) = _
      rw [ih]
      rfl

/-- A step in no name space leads to what its predicates keep, in document order. -/
theorem eval_step {start : Expr} {axis : Axis} {test : Test} {predicates : List Expr} {f : Focus} {spots : List Spot}
    {places : Spot → List Spot} (hstart : eval t start f = .ok (.spots spots))
    (htest : test = .type .node ∨ ∃ name, test = .named none name)
    (hkept : ∀ a, keepAll t predicates ((Spot.along t axis a).filter fun b => Spot.passes t axis b test) =
      .ok (places a)) :
    eval t (.step start axis test predicates) f = .ok (.spots (Spot.sort (spots.flatMap places))) := by
  show (eval t start f >>= _) = _
  rw [hstart]
  rcases htest with rfl | ⟨name, rfl⟩
  · show (gather _ spots >>= _) = _
    rw [gather_ok hkept]
    rfl
  · show (gather _ spots >>= _) = _
    rw [gather_ok hkept]
    rfl

namespace Spot

theorem insert_cons (a b : Spot) (spots : List Spot) : insert a (b :: spots) =
    if a.before b then a :: b :: spots else if a = b then b :: spots else b :: insert a spots := rfl

theorem insert_of_before {a : Spot} {spots : List Spot} (h : ∀ b ∈ spots, a.before b = true) :
    insert a spots = a :: spots := by
  cases spots with
  | nil => rfl
  | cons b spots => rw [insert, if_pos (h b List.mem_cons_self)]

/-- Filtering comes to the same before and after a place is put among others. -/
theorem filter_insert (test : Spot → Bool) (a : Spot) {spots : List Spot}
    (h : spots.Pairwise fun a b => a.before b = true) :
    (insert a spots).filter test = if test a then insert a (spots.filter test) else spots.filter test := by
  induction spots with
  | nil => cases ha : test a <;> simp [insert, ha]
  | cons b spots ih =>
      obtain ⟨hb, hspots⟩ := List.pairwise_cons.mp h
      rw [insert_cons]
      split
      · next hab =>
          -- A place that comes first of all comes first of those that are kept.
          have hall : ∀ c ∈ (b :: spots).filter test, a.before c = true := by
            intro c hc
            rcases List.mem_cons.mp (List.mem_filter.mp hc).1 with rfl | hc
            · exact hab
            · exact before_trans hab (hb c hc)
          rw [insert_of_before hall, List.filter_cons]
      split
      · next hab hsame =>
          subst hsame
          cases hb : test a with
          | false => simp
          | true => simp [hb, insert_cons, hab]
      · next hab hne =>
          rw [List.filter_cons, List.filter_cons, ih hspots]
          cases test a with
          | false => simp
          | true =>
              cases test b with
              | false => simp
              | true => simp [insert_cons, hab, hne]

theorem mem_sort {b : Spot} {spots : List Spot} : b ∈ sort spots ↔ b ∈ spots := by
  induction spots with
  | nil => exact Iff.rfl
  | cons a spots ih =>
      show b ∈ insert a (sort spots) ↔ _
      rw [mem_insert, ih, List.mem_cons]

theorem any_sort (test : Spot → Bool) (spots : List Spot) : (sort spots).any test = spots.any test := by
  rw [Bool.eq_iff_iff, List.any_eq_true, List.any_eq_true]
  simp only [mem_sort]

/-- Sorting and filtering can be done in either order. -/
theorem sort_filter (test : Spot → Bool) (spots : List Spot) : sort (spots.filter test) = (sort spots).filter test := by
  induction spots with
  | nil => rfl
  | cons a spots ih =>
      show _ = (insert a (sort spots)).filter test
      rw [filter_insert test a (pairwise_sort spots), ← ih, List.filter_cons]
      cases test a <;> rfl

end Spot

/-! ## Anchors -/

/-- The root and all places below it. -/
def everything (t : Tree) : List Spot :=
  Spot.sort ([Spot.row 0].flatMap fun a =>
    (Spot.along t .descendantOrSelf a).filter fun b => Spot.passes t .descendantOrSelf b (.type .node))

/-- The anchors directly below a place. -/
def anchorsBelow (t : Tree) (a : Spot) : List Spot :=
  (Spot.along t .child a).filter fun b => Spot.passes t .child b (.named none "a")

/-- The anchors of a tree. -/
def anchors (t : Tree) : List Spot := Spot.sort ((everything t).flatMap (anchorsBelow t))

theorem eval_everywhere (t : Tree) (f : Focus) : eval t (.everywhere .root) f = .ok (.spots (everything t)) :=
  eval_step rfl (.inl rfl) fun _ => rfl

theorem eval_anchors (t : Tree) (f : Focus) : eval t (anchorsWith []) f = .ok (.spots (anchors t)) :=
  eval_step (eval_everywhere t f) (.inr ⟨_, rfl⟩) fun _ => rfl

/-- A predicate on anchors keeps those of which it is true. -/
theorem eval_anchorsWith {p : Expr} {test : Spot → Bool} (h : ∀ f, eval t p f = .ok (.truth (test f.spot))) (f : Focus) :
    eval t (anchorsWith [p]) f = .ok (.spots ((anchors t).filter test)) := by
  have hkept (a : Spot) : keepAll t [p] (anchorsBelow t a) = .ok ((anchorsBelow t a).filter test) := by
    show (keepWhere (eval t p) _ 1 _ >>= _) = _
    rw [keepWhere_truth h]
    rfl
  have hstep := eval_step (eval_everywhere t f) (.inr ⟨_, rfl⟩) hkept
  rw [← List.filter_flatMap, Spot.sort_filter] at hstep
  exact hstep

/-! ## Titles -/

/-- The attributes of a place that are titles. -/
def titles (t : Tree) (a : Spot) : List Spot :=
  Spot.sort ([a].flatMap fun a => (Spot.along t .attr a).filter fun b => Spot.passes t .attr b (.named none "title"))

/-- Whether one of the titles of a place is a text. -/
def isTitled (t : Tree) (title : String) (a : Spot) : Bool := (titles t a).any fun b => b.text t == title

/-- The comparison of the title with an expression that means a text. -/
theorem eval_title (h : Means e v) (f : Focus) :
    eval t (.binary .equal titlePath e) f = .ok (.truth (isTitled t (String.ofList v) f.spot)) := by
  have htitles : eval t titlePath f = .ok (.spots (titles t f.spot)) := eval_step rfl (.inr ⟨_, rfl⟩) fun _ => rfl
  show (eval t titlePath f >>= _) = _
  rw [htitles]
  show (eval t e f >>= _) = _
  rw [h.eval]
  show Except.ok (Value.truth (((titles t f.spot).map fun b => Value.text (b.text t)).any _)) = _
  rw [List.any_map]
  simp [isTitled, Function.comp_def, Value.each, Value.equalPlain, Value.toText]

/-- Whether the element at a row carries an attribute with a value. -/
def hasAttr (t : Tree) (name value : String) (j : Nat) : Bool := t[j]?.any fun r => r.attrs.contains (name, value)

theorem hasAttr_iff {name value : String} {j : Nat} :
    hasAttr t name value j = true ↔ ∃ r, t[j]? = some r ∧ (name, value) ∈ r.attrs := by
  simp [hasAttr, Option.any_eq_true]

/-- The titles of an element are its attributes of that name. -/
theorem isTitled_row (t : Tree) (title : String) (j : Nat) : isTitled t title (.row j) = hasAttr t "title" title j := by
  have hattrs : titles t (.row j) =
      Spot.sort ((Spot.attrsOf t j).filter fun b => Spot.passes t .attr b (.named none "title")) := by
    simp [titles, Spot.along, Spot.alongRow]
  rw [isTitled, hattrs, Spot.any_sort, List.any_filter, Spot.attrsOf, List.any_map, Bool.eq_iff_iff, hasAttr_iff,
    List.any_eq_true]
  cases hrow : t[j]? with
  | none => simp
  | some r =>
      simp only [Option.map_some, Option.getD_some, List.mem_range, Option.some.injEq, exists_eq_left', Function.comp_def,
        Spot.passes, Spot.isPrincipal, Spot.name, Spot.text, hrow, Option.bind_some, Bool.and_eq_true, beq_iff_eq]
      constructor
      · rintro ⟨k, hk, ⟨-, hname⟩, hvalue⟩
        rw [List.getElem?_eq_getElem hk, Option.map_some, Option.getD_some] at hname hvalue
        rw [← hname, ← hvalue]
        exact List.getElem_mem hk
      · intro hmem
        obtain ⟨k, hk, hget⟩ := List.mem_iff_getElem.mp hmem
        refine ⟨k, hk, ?_⟩
        simp [List.getElem?_eq_getElem hk, hget]

/-! ## What the paths lead to -/

theorem parse_anchors : parse "//a" = .ok (anchorsWith []) := rfl

/-- The rows of the anchors of a tree, in document order. -/
def anchorRows (t : Tree) : List Nat := (Spot.sort (anchors t)).filterMap (elementRow t)

theorem select_anchors (t : Tree) (i : Nat) : select t i "//a" = .ok (anchorRows t) := by
  rw [select_eq, parse_anchors, Except.bind, eval_anchors]
  rfl

theorem tag?_of_mem_anchorRows {j : Nat} (h : j ∈ anchorRows t) : t.tag? j = some "a" := by
  obtain ⟨a, ha, hrow⟩ := List.mem_filterMap.mp h
  have hspot := elementRow_some hrow
  subst hspot
  rw [Spot.mem_sort, anchors, Spot.mem_sort] at ha
  obtain ⟨b, -, hb⟩ := List.mem_flatMap.mp ha
  obtain ⟨-, hpasses⟩ := List.mem_filter.mp hb
  have hname : (t.tag? j).isSome = true ∧ (t.tag? j).getD "" = "a" := by
    simpa [Spot.passes, Spot.isPrincipal, Spot.name] using hpasses
  cases htag : t.tag? j with
  | none =>
      rw [htag] at hname
      cases hname.1
  | some tag =>
      rw [htag] at hname
      exact congrArg some hname.2

theorem anchorTitlePath_eq (title : String) :
    anchorTitlePath title = String.ofList ("//a[@title=".toList ++ (literal title).toList ++ [']']) := by
  apply String.toList_inj.mp
  simp [anchorTitlePath]

/-- **The path to the anchors with a title leads to the anchors that carry it**, whatever the title is. -/
theorem select_titled (t : Tree) (i : Nat) (title : String) :
    select t i (anchorTitlePath title) = .ok ((anchorRows t).filter (hasAttr t "title" title)) := by
  obtain ⟨e, hmeans, -, hparse⟩ := parse_titled (writes_literal title)
  -- Places are tested and then told as rows, or told as rows and then tested: only elements are told as rows at all.
  have hrows (a : Spot) : (if isTitled t title a then elementRow t a else none) =
      (elementRow t a).filter (hasAttr t "title" title) := by
    cases hrow : elementRow t a with
    | none => simp
    | some j =>
        rw [elementRow_some hrow, isTitled_row]
        rfl
  rw [anchorTitlePath_eq, select_eq, hparse, Except.bind, eval_anchorsWith fun f => eval_title hmeans f]
  show Except.ok ((Spot.sort _).filterMap (elementRow t)) = _
  rw [Spot.sort_filter, String.ofList_toList, anchorRows, List.filter_filterMap, List.filterMap_filter]
  simp only [hrows]

end Crawl.XPath
