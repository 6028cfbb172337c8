import Crawl.Html.Form
import Crawl.Proofs.Html.Descent
import Crawl.Proofs.Html.Sound
/-!
# Trees that were typed into

Typing changes the value of an input, or the slot behind a text area, and no row changes its depth. So a tree that was
typed into is the tree before, row by row (`Tree.typed`), with each field as the last text typed into it makes it, and
whatever is looked for by depths and tags is found where it was. A form of it holds what the form held before, with the
last text in each control that was typed into (`fields_typed`).
-/

namespace Crawl.Html

variable {t : Tree} {i : Nat} {r : Row} {ts : List (Nat × String)}

/-! ## Attributes that are set -/

section Attributes

variable {name key value : String}

/-- Setting an attribute leaves the others. -/
theorem lookup_setIn (hne : key ≠ name) (value : String) (attrs : List (String × String)) :
    (Tree.setIn name value attrs).lookup key = attrs.lookup key := by
  have hset : (key == name) = false := beq_eq_false_iff_ne.mpr hne
  induction attrs with
  | nil => rw [Tree.setIn, List.lookup_cons, hset]
  | cons a attrs ih =>
      obtain ⟨other, v⟩ := a
      unfold Tree.setIn
      split
      · next ha =>
          obtain rfl : other = name := beq_iff_eq.mp ha
          rw [List.lookup_cons, List.lookup_cons, hset]
      · rw [List.lookup_cons, List.lookup_cons, ih]

theorem lookup_setIn_self (name value : String) (attrs : List (String × String)) :
    (Tree.setIn name value attrs).lookup name = some value := by
  induction attrs with
  | nil => rw [Tree.setIn, List.lookup_cons, beq_self_eq_true]
  | cons a attrs ih =>
      unfold Tree.setIn
      split
      · rw [List.lookup_cons, beq_self_eq_true]
      · next ha =>
          have hne : (name == a.1) = false := by
            refine beq_eq_false_iff_ne.mpr fun h => ha ?_
            rw [h]
            exact beq_self_eq_true a.1
          rw [List.lookup_cons, hne]
          exact ih

/-- Of two values that are set one after the other the last one stays. -/
theorem setIn_setIn (name value value' : String) (attrs : List (String × String)) :
    Tree.setIn name value' (Tree.setIn name value attrs) = Tree.setIn name value' attrs := by
  induction attrs with
  | nil =>
      show (if name == name then _ else _) = _
      rw [if_pos (beq_self_eq_true name)]
      rfl
  | cons a attrs ih =>
      rw [Tree.setIn]
      split
      · next ha => rw [Tree.setIn, Tree.setIn, if_pos (beq_self_eq_true name), if_pos ha]
      · next ha => rw [Tree.setIn, Tree.setIn, if_neg ha, if_neg ha, ih]

end Attributes

/-! ## Changes that keep the depths -/

namespace Tree

/-- A tree with each row changed by itself. -/
def mapRows (g : Nat → Row → Row) (t : Tree) : Tree := List.mapIdx g t

theorem getElem?_mapRows (g : Nat → Row → Row) (t : Tree) (i : Nat) : (t.mapRows g)[i]? = t[i]?.map (g i) :=
  List.getElem?_mapIdx

variable {g : Nat → Row → Row}

theorem placed_mapRows (g : Nat → Row → Row) (t : Tree) :
    (t.mapRows g).placed = t.placed.map fun p => (g p.2 p.1, p.2) := by
  refine List.ext_getElem? fun n => ?_
  simp only [placed, List.getElem?_zipIdx, getElem?_mapRows, List.getElem?_map, Option.map_map, Nat.zero_add]
  rfl

variable (hdepth : ∀ i r, (g i r).depth = r.depth)
include hdepth

theorem below_mapRows (t : Tree) (i : Nat) : (t.mapRows g).below i = (t.below i).map fun p => (g p.2 p.1, p.2) := by
  unfold below
  rw [getElem?_mapRows, placed_mapRows]
  cases t[i]? with
  | none => rfl
  | some r =>
      dsimp only [Option.map_some]
      rw [← List.map_drop, List.takeWhile_map]
      simp only [Function.comp_def, hdepth]

theorem aboveFrom_map (depth : Nat) (ps : List (Row × Nat)) :
    aboveFrom depth (ps.map fun p => (g p.2 p.1, p.2)) = (aboveFrom depth ps).map fun p => (g p.2 p.1, p.2) := by
  induction ps generalizing depth with
  | nil => rfl
  | cons p ps ih =>
      rw [List.map_cons, aboveFrom, aboveFrom]
      dsimp only
      rw [hdepth]
      split
      · rw [List.map_cons, ih]
      · exact ih depth

theorem above_mapRows (t : Tree) (i : Nat) : (t.mapRows g).above i = (t.above i).map fun p => (g p.2 p.1, p.2) := by
  unfold above
  rw [getElem?_mapRows, placed_mapRows]
  cases t[i]? with
  | none => rfl
  | some r =>
      dsimp only [Option.map_some]
      rw [← List.map_take, ← List.map_reverse, aboveFrom_map hdepth, hdepth]

end Tree

/-! ## Typing -/

/-- The last text typed into a place, where each typing is a place with a text, the earliest first. -/
def lastTyped (ts : List (Nat × String)) (i : Nat) : Option String := ts.reverse.lookup i

theorem lastTyped_append (ts : List (Nat × String)) (i : Nat) (text : String) (j : Nat) :
    lastTyped (ts ++ [(i, text)]) j = if j = i then some text else lastTyped ts j := by
  rw [lastTyped, List.reverse_append, List.reverse_singleton, List.singleton_append, List.lookup_cons]
  by_cases h : j = i
  · rw [if_pos h, beq_iff_eq.mpr h]
  · rw [if_neg h, beq_eq_false_iff_ne.mpr h]
    rfl

/-- A row as the typings leave it: an input has the last text as its value, and so has the slot behind a text area. -/
def Row.typed (t : Tree) (ts : List (Nat × String)) (i : Nat) (r : Row) : Row :=
  match r.content with
  | .element tag _ => if tag = "input" then (lastTyped ts i).elim r fun text => Tree.setRowAttr "value" text r else r
  | .text _ =>
    if i ≠ 0 ∧ t.tag? (i - 1) = some "textarea" then
      (lastTyped ts (i - 1)).elim r fun text => Tree.setRowText (some text) r
    else r
  | _ => r

/-- A tree as the typings leave it. -/
def Tree.typed (t : Tree) (ts : List (Nat × String)) : Tree := t.mapRows (Row.typed t ts)

theorem typed_input (t : Tree) (ts : List (Nat × String)) (i depth : Nat) (attrs : List (String × String)) :
    Row.typed t ts i ⟨depth, .element "input" attrs⟩ =
      ⟨depth, .element "input" ((lastTyped ts i).elim attrs fun text => Tree.setIn "value" text attrs)⟩ := by
  unfold Row.typed
  dsimp only
  rw [if_pos rfl]
  cases lastTyped ts i <;> rfl

theorem typed_element {tag : String} (htag : tag ≠ "input") (t : Tree) (ts : List (Nat × String)) (i depth : Nat)
    (attrs : List (String × String)) : Row.typed t ts i ⟨depth, .element tag attrs⟩ = ⟨depth, .element tag attrs⟩ :=
  if_neg htag

theorem typed_slot {m : Nat} (harea : t.tag? m = some "textarea") (ts : List (Nat × String)) (depth : Nat) (s : Option String) :
    Row.typed t ts (m + 1) ⟨depth, .text s⟩ = ⟨depth, .text ((lastTyped ts m).elim s some)⟩ := by
  unfold Row.typed
  dsimp only
  rw [if_pos ⟨Nat.succ_ne_zero m, harea⟩, Nat.add_sub_cancel]
  cases lastTyped ts m <;> rfl

/-- Whatever was typed, a row has its depth and its tag, and all attributes but the value. -/
theorem typed_same (t : Tree) (ts : List (Nat × String)) (i : Nat) (r : Row) :
    (Row.typed t ts i r).depth = r.depth ∧ (Row.typed t ts i r).tag? = r.tag? ∧
      ∀ name, name ≠ "value" → (Row.typed t ts i r).attr? name = r.attr? name := by
  obtain ⟨depth, content⟩ := r
  cases content with
  | root => exact ⟨rfl, rfl, fun _ _ => rfl⟩
  | comment s => exact ⟨rfl, rfl, fun _ _ => rfl⟩
  | text s =>
      unfold Row.typed
      dsimp only
      split
      · cases lastTyped ts (i - 1) <;> exact ⟨rfl, rfl, fun _ _ => rfl⟩
      · exact ⟨rfl, rfl, fun _ _ => rfl⟩
  | element tag attrs =>
      by_cases htag : tag = "input"
      · subst htag
        rw [typed_input]
        refine ⟨rfl, rfl, fun name hname => ?_⟩
        cases lastTyped ts i with
        | none => rfl
        | some text => exact lookup_setIn hname text attrs
      · rw [typed_element htag]
        exact ⟨rfl, rfl, fun _ _ => rfl⟩

theorem typed_depth (t : Tree) (ts : List (Nat × String)) (i : Nat) (r : Row) : (Row.typed t ts i r).depth = r.depth :=
  (typed_same t ts i r).1

theorem typed_nil (t : Tree) : t.typed [] = t := by
  refine List.ext_getElem? fun n => ?_
  rw [Tree.typed, Tree.getElem?_mapRows]
  cases t[n]? with
  | none => rfl
  | some r =>
      obtain ⟨depth, content⟩ := r
      refine congrArg some ?_
      unfold Row.typed
      cases content with
      | root => rfl
      | comment s => rfl
      | text s => exact ite_self _
      | element tag attrs => exact ite_self _

/-- A row that is not at the place typed into, nor its slot, is as the typings before have left it. -/
theorem typed_append_of_ne {j : Nat} (h : r.tag? = some "input" → j ≠ i) (h' : t.tag? i = some "textarea" → j ≠ i + 1)
    (text : String) : Row.typed t (ts ++ [(i, text)]) j r = Row.typed t ts j r := by
  obtain ⟨depth, content⟩ := r
  unfold Row.typed
  cases content with
  | root => rfl
  | comment s => rfl
  | text s =>
      dsimp only
      split
      · next hslot =>
          have hne : j - 1 ≠ i := by
            intro hj
            have hj' := h' (hj ▸ hslot.2)
            omega
          rw [lastTyped_append, if_neg hne]
      · rfl
  | element tag attrs =>
      dsimp only
      split
      · next htag => rw [lastTyped_append, if_neg (h (congrArg some htag))]
      · rfl

/-- One more text typed into an input. -/
theorem typed_append_input {depth : Nat} {attrs : List (String × String)} (hrow : t[i]? = some ⟨depth, .element "input" attrs⟩)
    (ts : List (Nat × String)) (text : String) : (t.typed ts).setAttr i "value" text = t.typed (ts ++ [(i, text)]) := by
  have htag : t.tag? i = some "input" := by
    rw [Tree.tag?, hrow]
    rfl
  refine List.ext_getElem? fun n => ?_
  rw [Tree.setAttr, List.getElem?_modify, Tree.typed, Tree.typed, Tree.getElem?_mapRows, Tree.getElem?_mapRows]
  by_cases hn : i = n
  · subst hn
    rw [hrow]
    simp only [Option.map_some, if_true, typed_input, lastTyped_append, Option.map_eq_map]
    cases lastTyped ts i with
    | none => rfl
    | some old =>
        exact congrArg (fun attrs => some (Row.mk depth (.element "input" attrs))) (setIn_setIn "value" old text attrs)
  · cases hr : t[n]? with
    | none => rfl
    | some r =>
        simp only [Option.map_some, if_neg hn]
        refine congrArg some (typed_append_of_ne (fun _ => Ne.symm hn) (fun harea => ?_) text).symm
        rw [htag] at harea
        exact absurd harea (by decide)

/-- One more text typed into a text area, whose slot is emptied first. -/
theorem typed_append_area {depth : Nat} {s : Option String} (htag : t.tag? i = some "textarea")
    (hslot : t[i + 1]? = some ⟨depth, .text s⟩) (ts : List (Nat × String)) (text : String) :
    ((t.typed ts).setFirstText i none).setFirstText i (some text) = t.typed (ts ++ [(i, text)]) := by
  refine List.ext_getElem? fun n => ?_
  rw [Tree.setFirstText, Tree.setFirstText, List.getElem?_modify, List.getElem?_modify, Tree.typed, Tree.typed,
    Tree.getElem?_mapRows, Tree.getElem?_mapRows]
  by_cases hn : i + 1 = n
  · subst hn
    rw [hslot]
    simp only [Option.map_some, if_true, typed_slot htag, lastTyped_append]
    rfl
  · cases hr : t[n]? with
    | none => rfl
    | some r =>
        simp only [Option.map_some, if_neg hn]
        refine congrArg some (typed_append_of_ne (fun hinput hni => ?_) (fun _ => Ne.symm hn) text).symm
        rw [hni] at hr
        rw [Tree.tag?, hr, Option.bind_some, hinput] at htag
        exact absurd htag (by decide)

/-! ## What a form holds then -/

namespace Form

/-- An element that sends the text it holds: a text area, or an input of a type that neither waits for a mark nor is
silent. -/
def TakesText (r : Row) : Prop :=
  r.tag? = some "textarea" ∨
    r.tag? = some "input" ∧ ["checkbox", "radio"].contains (inputType r) = false ∧ silentTypes.contains (inputType r) = false

/-- What a control sends after some typings: the last text typed into it under its name, unless it is disabled or has no
name, and what it sent before if nothing was typed into it. -/
def fieldsTyped (t : Tree) (ts : List (Nat × String)) (control : Row × Nat) : List (String × String) :=
  match lastTyped ts control.2 with
  | some text => match filled? control.1 "name" with
    | some name => if has control.1 "disabled" then [] else [(name, text)]
    | none => []
  | none => controlFields t control

theorem firstText_typed (h : t.tag? i = some "textarea" → lastTyped ts i = none) :
    (t.typed ts).firstText i = t.firstText i := by
  unfold Tree.firstText
  rw [Tree.typed, Tree.getElem?_mapRows]
  cases t[i + 1]? with
  | none => rfl
  | some q =>
      obtain ⟨depth, content⟩ := q
      cases content with
      | root => rfl
      | comment s => rfl
      | element tag attrs =>
          by_cases htag : tag = "input"
          · rw [htag, Option.map_some, typed_input]
            rfl
          · rw [Option.map_some, typed_element htag]
      | text s =>
          by_cases harea : t.tag? i = some "textarea"
          · rw [Option.map_some, typed_slot harea, h harea]
            rfl
          · refine congrArg (fun r => ((Option.some r).map Row.ownText).getD "") (if_neg fun hslot => harea ?_)
            exact hslot.2

theorem firstText_typed_area (hsound : t.Sound) {text : String} (htag : t.tag? i = some "textarea")
    (hlast : lastTyped ts i = some text) : (t.typed ts).firstText i = text := by
  obtain ⟨r, hr, htag'⟩ := Option.bind_eq_some_iff.mp htag
  obtain ⟨⟨depth, content⟩, hslot, s, rfl⟩ := hsound.slots i r hr (Row.isElement_of_tag? htag')
  unfold Tree.firstText
  rw [Tree.typed, Tree.getElem?_mapRows, hslot, Option.map_some, typed_slot htag, hlast]
  rfl

/-- The options below a choice are what they were. -/
theorem options_typed (t : Tree) (ts : List (Nat × String)) (i : Nat) :
    ((t.typed ts).below i).filter (·.1.hasTag "option") = (t.below i).filter (·.1.hasTag "option") := by
  have htag : ((fun p : Row × Nat => p.1.hasTag "option") ∘ fun p : Row × Nat => (Row.typed t ts p.2 p.1, p.2)) =
      fun p => p.1.hasTag "option" := by
    funext p
    show Row.hasTag (Row.typed t ts p.2 p.1) "option" = _
    rw [Row.hasTag, (typed_same t ts p.2 p.1).2.1]
    rfl
  rw [Tree.typed, Tree.below_mapRows (typed_depth t ts), List.filter_map, htag]
  refine (List.map_congr_left fun p hp => ?_).trans (List.map_id _)
  -- an option is no input and no text, so nothing is typed into its row
  obtain ⟨⟨depth, content⟩, n⟩ := p
  have hoption := (List.mem_filter.mp hp).2
  cases content with
  | element tag attrs =>
      have hne : tag ≠ "input" := by
        rintro rfl
        exact absurd (show (some "input" == some "option") = true from hoption) (by decide)
      exact congrArg (·, n) (typed_element hne t ts n depth attrs)
  | _ => cases hoption

theorem selectValues_typed (t : Tree) (ts : List (Nat × String)) (r : Row) (i : Nat) :
    selectValues (t.typed ts) r i = selectValues t r i := by
  have hvalue : ∀ p ∈ (t.below i).filter (·.1.hasTag "option"), optionValue (t.typed ts) p = optionValue t p := by
    intro p hp
    obtain ⟨hbelow, hoption⟩ := List.mem_filter.mp hp
    have htag : t.tag? p.2 = some "option" := by
      rw [Tree.tag?, (Tree.mem_below.mp hbelow).1]
      exact beq_iff_eq.mp hoption
    unfold optionValue
    rw [firstText_typed fun harea => by rw [htag] at harea; exact absurd harea (by decide)]
  unfold selectValues
  rw [options_typed]
  dsimp only
  split
  · exact List.map_congr_left fun p hp => hvalue p (List.mem_filter.mp hp).1
  · split
    · next option hlast =>
        rw [hvalue option (List.mem_filter.mp (List.mem_of_getLast? hlast)).1]
    · cases hfind : ((t.below i).filter (·.1.hasTag "option")).find? fun o => !has o.1 "disabled" with
      | none => rfl
      | some option =>
          rw [Option.map_some, Option.map_some, hvalue option (List.mem_of_find?_eq_some hfind)]

/-- An input that takes text sends the value that was set last. -/
theorem inputValues_typed {depth : Nat} {attrs : List (String × String)} {text : String}
    (hrow : r = ⟨depth, .element "input" attrs⟩) (hlast : lastTyped ts i = some text)
    (hbox : ["checkbox", "radio"].contains (inputType r) = false) (hsilent : silentTypes.contains (inputType r) = false) :
    inputValues (Row.typed t ts i r) = [text] := by
  have htype : inputType (Row.typed t ts i r) = inputType r := by
    rw [inputType, (typed_same t ts i r).2.2 "type" (by decide), inputType]
  have hvalue : (Row.typed t ts i r).attr? "value" = some text := by
    rw [hrow, typed_input, hlast]
    exact lookup_setIn_self "value" text attrs
  rw [inputValues, htype]
  simp only [hbox, hsilent, hvalue, Bool.false_eq_true, if_false, Option.toList_some]

/-- The values of a control after some typings. -/
theorem controlValues_typed (hsound : t.Sound) (hrow : t[i]? = some r)
    (htakes : ∀ text, lastTyped ts i = some text → TakesText r) :
    controlValues (t.typed ts) (Row.typed t ts i r) i =
      (lastTyped ts i).elim (controlValues t r i) fun text => [text] := by
  have htree : t.tag? i = r.tag? := by rw [Tree.tag?, hrow]; rfl
  have htag := (typed_same t ts i r).2.1
  cases hlast : lastTyped ts i with
  | some text =>
      rcases htakes text hlast with harea | ⟨hinput, hbox, hsilent⟩
      · simp only [controlValues, htag, harea, firstText_typed_area hsound (htree.trans harea) hlast, Option.elim_some]
      · obtain ⟨depth, content⟩ := r
        cases content with
        | element tag attrs =>
            cases hinput
            simp only [controlValues, htag, Option.elim_some]
            exact inputValues_typed rfl hlast hbox hsilent
        | _ => cases hinput
  | none =>
      rw [Option.elim_none]
      obtain ⟨depth, content⟩ := r
      cases content with
      | element tag attrs =>
          have hsame : Row.typed t ts i ⟨depth, .element tag attrs⟩ = ⟨depth, .element tag attrs⟩ := by
            unfold Row.typed
            rw [hlast]
            exact ite_self _
          rw [hsame]
          unfold controlValues
          split
          · rw [firstText_typed fun _ => hlast]
          · exact selectValues_typed t ts _ i
          · rfl
          · rfl
      | root => rfl
      | comment s => rfl
      | text s =>
          unfold controlValues
          rw [htag]
          rfl

/-- What a control sends after some typings. -/
theorem controlFields_typed (hsound : t.Sound) (hrow : t[i]? = some r)
    (htakes : ∀ text, lastTyped ts i = some text → TakesText r) :
    controlFields (t.typed ts) (Row.typed t ts i r, i) = fieldsTyped t ts (r, i) := by
  have hattr := (typed_same t ts i r).2.2
  have hvalues := controlValues_typed hsound hrow htakes
  have hname : filled? (Row.typed t ts i r) "name" = filled? r "name" := by rw [filled?, hattr "name" (by decide), filled?]
  have hdisabled : has (Row.typed t ts i r) "disabled" = has r "disabled" := by rw [has, hattr "disabled" (by decide), has]
  unfold controlFields fieldsTyped
  dsimp only
  rw [hname, hdisabled, hvalues]
  cases hlast : lastTyped ts i with
  | none => rfl
  | some text => rfl

/-- **What a form holds after some typings**: each control in its place, with the last text typed into it. -/
theorem fields_typed (hsound : t.Sound)
    (htakes : ∀ j text, lastTyped ts j = some text → ∃ r, t[j]? = some r ∧ TakesText r) (form : Nat) :
    fields (t.typed ts) form = (t.below form).flatMap (fieldsTyped t ts) := by
  have hcontrol : ∀ p ∈ t.below form,
      controlFields (t.typed ts) (Row.typed t ts p.2 p.1, p.2) = fieldsTyped t ts p := by
    intro p hp
    have hrow := (Tree.mem_below.mp hp).1
    refine controlFields_typed hsound hrow fun text hlast => ?_
    obtain ⟨r, hr, htake⟩ := htakes p.2 text hlast
    cases hrow.symm.trans hr
    exact htake
  rw [fields]
  conv => lhs; rw [Tree.typed, Tree.below_mapRows (typed_depth t ts)]
  rw [List.flatMap_def, List.map_map, List.flatMap_def]
  exact congrArg List.flatten (List.map_congr_left hcontrol)

end Form

end Crawl.Html
