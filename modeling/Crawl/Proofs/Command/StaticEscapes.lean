import Crawl.Proofs.Command.Matches
import Crawl.Proofs.Static.Obstacles
/-!
# Failures that leave a listing on the static engine

A listing on the static engine fails with a failure that is not the crawl's own for one of few reasons: there is an
obstacle on the way to the page, or the page can be had but not read, since the path is empty, since it holds what no
tree can hold, or since one of the names to look up on a match is not the name of an attribute.
-/

namespace Crawl.Command

open Crawl.Action (failureOf bind_ok read_eq stateOf)
open Static (Obstacle pageTree? attrKey)

variable {s : Static.State} {url xpath : String} {names : List String} {f : Failure}

/-- The failure of a look at an attribute. -/
def nameFault (name : String) : Option Failure :=
  match attrKey name with
  | .error e => some (.refused e)
  | .ok _ => none

/-- The failures, other than the crawl's own, with which the matches on a page are read. -/
inductive Unreadable (t : Html.Tree) (xpath : String) (names : List String) : Failure → Prop
  | emptyPath (empty : xpath = "") : Unreadable t xpath names (.refused (.descriptor (.emptyValue .xpath)))
  | path (path : xpath ≠ "") (unfit : Text.isTreeText xpath = false) : Unreadable t xpath names (.refused .notTreeText)
  | name {row : Nat} {rows : List Nat} {f : Failure} (path : xpath ≠ "") (fit : Text.isTreeText xpath = true)
      (selected : XPath.select t (t.rootElement?.getD 0) xpath = .ok (row :: rows))
      (fault : names.findSome? nameFault = some f) : Unreadable t xpath names f

/-- The failures, other than the crawl's own, that leave a listing on the static engine. -/
inductive StaticEscape (s : Static.State) (url xpath : String) (names : List String) (f : Failure) : Prop
  | obstacle (address : url ≠ "") (obstacle : Obstacle s url f)
  | reading {t : Html.Tree} (address : url ≠ "") (page : pageTree? s url = some t) (unreadable : Unreadable t xpath names f)

theorem nameFault_not_isCrawl {name : String} (h : nameFault name = some f) : f.isCrawl = false := by
  unfold nameFault at h
  split at h
  · cases h
    rfl
  · cases h

theorem StaticEscape.not_isCrawl (h : StaticEscape s url xpath names f) : f.isCrawl = false := by
  cases h with
  | obstacle _ obstacle => exact obstacle.not_isCrawl
  | reading _ _ unreadable =>
      cases unreadable with
      | emptyPath _ => rfl
      | path _ _ => rfl
      | name _ _ _ fault =>
          obtain ⟨name, -, hname⟩ := List.exists_of_findSome?_eq_some fault
          exact nameFault_not_isCrawl hname

/-- What looks lead to on the static engine: only an attribute is refused, by its name, and the engine stays as it is. -/
def staticLooks : Looks Static.State Static.Node where
  fault
    | _, .attr _ name => nameFault name
    | _, _ => none
  next s _ := s

theorem legible_static : Legible Static.engine id staticLooks := by
  intro c hc d
  cases c with
  | tagName node => exact ⟨rfl, rfl⟩
  | textContent node => exact ⟨rfl, rfl⟩
  | attr node name =>
      show failureOf (Static.attr node name d) = nameFault name ∧ (stateOf (Static.attr node name d)).device = d.device
      unfold Static.attr nameFault
      cases attrKey name with
      | error e => exact ⟨rfl, rfl⟩
      | ok key => cases key <;> exact ⟨rfl, rfl⟩
  | _ => cases hc

/-- Every look is made in the same state, so that the first one that fails can be found by itself. -/
theorem failure_staticLooks (s : Static.State) (cs : List (Engine.Call Static.Node)) :
    staticLooks.failure s cs = cs.findSome? (staticLooks.fault s) := by
  induction cs with
  | nil => rfl
  | cons c cs ih =>
      rw [Looks.failure, show staticLooks.next s c = s from rfl, ih, List.findSome?_cons]
      cases staticLooks.fault s c <;> rfl

/-- Every match is asked for the same names, so the first one settles how the reading ends. -/
theorem readFailure_static (s : Static.State) (names : List String) (node : Static.Node) (nodes : List Static.Node) :
    readFailure staticLooks names s (.ok (node :: nodes)) = names.findSome? nameFault := by
  have hmatch (node : Static.Node) : (looks names node).findSome? (staticLooks.fault s) = names.findSome? nameFault :=
    List.findSome?_map
  show staticLooks.failure s (looks names node ++ nodes.flatMap (looks names)) = _
  rw [failure_staticLooks, List.findSome?_append, hmatch]
  cases hnames : names.findSome? nameFault with
  | some f => rfl
  | none =>
      refine List.findSome?_eq_none_iff.mpr fun c hc => ?_
      obtain ⟨other, -, hc⟩ := List.mem_flatMap.mp hc
      exact List.findSome?_eq_none_iff.mp ((hmatch other).trans hnames) c hc

/-- What a path selects on a page. -/
def selected (s : Static.State) (page : Static.Node) (xpath : String) : Except Failure (List Static.Node) :=
  if Text.isTreeText xpath then
    match XPath.select (s.tree page.treeOf) (page.rowOf s) xpath with
    | .ok rows => .ok (rows.map (.element page.treeOf))
    | .error e => .error (.invalidExpression xpath e.message)
  else .error (.refused .notTreeText)

theorem selects_static (s : Static.State) (page : Static.Node) (xpath : String) :
    Selects Static.engine id s page xpath (selected s page xpath) s := by
  intro d hd
  cases hd
  refine ⟨d, rfl, ?_⟩
  show Static.findByPath page xpath d = _
  unfold Static.findByPath Static.needTreeText selected
  cases Text.isTreeText xpath with
  | false => rfl
  | true =>
      rw [bind_ok (show (if true = true then pure () else throw (.refused .notTreeText) : Static.Work Unit) d = .ok () d
        from rfl), bind_ok (read_eq d)]
      simp only [id_eq, if_true]
      cases XPath.select (d.device.tree page.treeOf) (page.rowOf d.device) xpath with
      | ok rows => rfl
      | error e => rfl

/-- What a path selects on a document is selected from its tree. -/
theorem selected_document (i k : Nat) (u : String) (hfit : Text.isTreeText xpath = true) :
    selected s (.document i k u) xpath =
      match XPath.select (s.tree k) ((s.tree k).rootElement?.getD 0) xpath with
      | .ok rows => .ok (rows.map (.element k))
      | .error e => .error (.invalidExpression xpath e.message) := by
  unfold selected
  rw [hfit]
  rfl

/-- The failures with which the matches on a document are read. -/
theorem unreadable_iff (i k : Nat) (u : String) (hf : f.isCrawl = false) :
    (if xpath = "" then some (.refused (.descriptor (.emptyValue .xpath)))
      else readFailure staticLooks names s (selected s (.document i k u) xpath)) = some f ↔
        Unreadable (s.tree k) xpath names f := by
  by_cases hpath : xpath = ""
  · rw [if_pos hpath]
    constructor
    · intro h
      cases h
      exact .emptyPath hpath
    · intro h
      cases h with
      | emptyPath _ => rfl
      | path path _ => exact absurd hpath path
      | name path _ _ _ => exact absurd hpath path
  rw [if_neg hpath]
  cases hfit : Text.isTreeText xpath with
  | false =>
      have hselected : selected s (.document i k u) xpath = .error (.refused .notTreeText) := by
        unfold selected
        rw [hfit]
        rfl
      rw [hselected]
      constructor
      · intro h
        cases h
        exact .path hpath hfit
      · intro h
        cases h with
        | emptyPath empty => exact absurd empty hpath
        | path _ _ => rfl
        | name _ fit _ _ => rw [hfit] at fit; cases fit
  | true =>
      rw [selected_document i k u hfit]
      constructor
      · intro h
        rcases hrows : XPath.select (s.tree k) ((s.tree k).rootElement?.getD 0) xpath with e | _ | ⟨row, rows⟩
        · rw [hrows] at h
          cases h
          cases hf
        · rw [hrows] at h
          cases h
        · rw [hrows] at h
          exact .name hpath hfit hrows ((readFailure_static s names _ _).symm.trans h)
      · intro h
        cases h with
        | emptyPath empty => exact absurd empty hpath
        | path _ unfit => rw [hfit] at unfit; cases unfit
        | name _ _ selected fault =>
            rw [selected]
            exact (readFailure_static s names _ _).trans fault

/-- **Escapes on the static engine.** A listing fails with a failure that is not the crawl's own just when there is such
an escape for its address, its path and its attributes. -/
theorem static_escape_iff (hf : f.isCrawl = false) :
    failureOf (list Static.engine url xpath names (Session.start s [])) = some f ↔ StaticEscape s url xpath names f := by
  have hclose (d : Desk Static.State) : failureOf (Static.engine.close d) = none := rfl
  rw [failureOf_list, hclose, Option.none_or]
  by_cases hurl : url = ""
  · obtain ⟨s', hrun, -⟩ := collect_noAddress Static.engine s xpath names
    rw [hurl, hrun]
    constructor
    · intro h
      cases h
      cases hf
    · intro h
      cases h with
      | obstacle address _ => exact absurd rfl address
      | reading address _ _ => exact absurd rfl address
  have hobstacle : failureOf (Static.load url none ⟨s, arrival url⟩) = some f ↔ Obstacle s url f :=
    Static.load_fails_iff (Static.kind_ne_of_not_isCrawl hf)
  -- the page can be had, or the load fails: then either as the crawl does or for an obstacle
  cases hpage : pageTree? s url with
  | none =>
      obtain ⟨g, d, hload⟩ := Static.load_of_pageTree?_none (j := arrival url) hpage
      obtain ⟨s', hrun, -⟩ := collect_notLoaded Static.engine s xpath names hurl hload
      rw [hload] at hobstacle
      rw [hrun]
      constructor
      · intro h
        exact .obstacle hurl (hobstacle.mp h)
      · intro h
        cases h with
        | obstacle _ obstacle => exact hobstacle.mpr obstacle
        | reading _ page _ => rw [hpage] at page; cases page
  | some t =>
      obtain ⟨i, k, u, d, hload, htree⟩ := Static.load_of_pageTree? (j := arrival url) hpage
      obtain ⟨hfailure, -⟩ := collect_ends Static.engine s xpath names hurl legible_static hload rfl
        (selects_static d.device _ xpath)
      rw [hload] at hobstacle
      rw [hfailure, unreadable_iff i k u hf, htree]
      constructor
      · intro h
        exact .reading hurl hpage h
      · intro h
        cases h with
        | obstacle _ obstacle => cases hobstacle.mpr obstacle
        | reading _ page unreadable =>
            cases hpage.symm.trans page
            exact unreadable

end Crawl.Command
