import Crawl.Proofs.Engine.Watched
import Crawl.Proofs.Session.Closed
import Crawl.Proofs.Session.Steps
/-!
# When pages are loaded

A session loads a page in one case only: when a processor for a page with an address is resolved. So nothing but that
needs the engine's way of loading, and every other operation is the same with an engine that cannot load. What is to be
shown of such an engine is little, and what follows for all steps is `loads_after`: a step loads the address of the
processor that it resolves, once, and else nothing.
-/

namespace Crawl

/-- An engine that does all but load. -/
def Engine.unloading {δ ν : Type} (E : Engine δ ν) : Engine δ ν := { E with loadDocument := fun _ => throw .notImplemented }

theorem Engine.perform_unloading {δ ν : Type} {E : Engine δ ν} {c : Engine.Call ν} (h : c.address? = none) :
    E.unloading.perform c = E.perform c := by
  cases c <;> first | rfl | cases h

/-- The address of the page that a target asks for, unless it is empty. -/
def Target.address? : Target → Option String
  | .page (some url) => if url = "" then none else some url
  | _ => none

namespace Session

open Crawl.Action (Keeps stateOf valueOf bind_ok bind_error)
open Crawl.Engine (Watched)

variable {δ ν τ α : Type}

/-- The addresses that were loaded. -/
def loads (s : Session (Watched δ ν) ν τ) : List String := s.desk.device.loads

/-- An action that loads nothing. -/
abbrev KeepsLoads (act : Action (Session (Watched δ ν) ν τ) α) : Prop := Keeps loads act

/-- A call loads what it says. -/
theorem loads_call (E : Engine δ ν) (c : Engine.Call ν) (s : Session (Watched δ ν) ν τ) :
    loads (stateOf (onDesk (E.watched.perform c) s)) = loads s ++ c.address?.toList := by
  rw [onDesk, Action.stateOf_within]
  exact Engine.loads_perform E c s.desk

theorem keepsLoads_call (E : Engine δ ν) {c : Engine.Call ν} (h : c.address? = none) :
    KeepsLoads (onDesk (E.watched.perform c) : Action (Session (Watched δ ν) ν τ) _) := by
  intro s
  rw [loads_call, h, Option.toList_none, List.append_nil]

/-- Without loading, no operation loads anything. -/
theorem keepsLoads_closed (E : Engine δ ν) : Closed E.watched.unloading (@KeepsLoads δ ν τ) := by
  refine keeps_closed E.watched.unloading (fun w _ => w.loads) fun c _ host d => ?_
  show (stateOf (E.watched.unloading.perform c d)).device.loads = d.device.loads
  cases h : c.address? with
  | none =>
      rw [Engine.perform_unloading h, Engine.loads_perform, h, Option.toList_none, List.append_nil]
  | some url =>
      cases c with
      | loadDocument url => rfl
      | _ => cases h

/-! ## Resolving -/

/-- A page is resolved by loading it when it has an address, and otherwise not. -/
theorem resolvePage_unloading (E : Engine δ ν) {p : Processor} (h : p.target.address? = none) :
    (resolvePage E p : Action (Session δ ν τ) ν) = resolvePage E.unloading p := by
  unfold resolvePage
  cases htarget : p.target with
  | element kind d =>
      cases d with
      | none => rfl
      | some d => rfl
  | page url =>
      cases url with
      | none => rfl
      | some url =>
          have hempty : ¬ url ≠ "" := by
            intro hne
            rw [htarget, Target.address?, if_neg hne] at h
            cases h
          dsimp only
          rw [if_neg hempty, if_neg hempty]

theorem resolve_unloading (E : Engine δ ν) {p : Processor} (h : p.target.address? = none) (scope : Option ν) :
    (resolve E p scope : Action (Session δ ν τ) ν) = resolve E.unloading p scope := by
  unfold resolve
  rw [resolvePage_unloading E h]
  rfl

theorem search_address (E : Engine δ ν) {p : Processor} {url : String} (h : p.target.address? = some url) (scope : Option ν) :
    (search E p scope : Action (Session δ ν τ) ν) = onDesk (E.loadDocument url) := by
  obtain ⟨serial, target⟩ := p
  cases target with
  | element kind d => cases h
  | page url' =>
      cases url' with
      | none => cases h
      | some url' =>
          simp only [Target.address?] at h
          split at h
          · cases h
          · next hne =>
              cases h
              exact if_pos hne

/-- Resolving a processor loads the address of its page, once, and nothing if it has none. -/
theorem loads_resolve (E : Engine δ ν) (p : Processor) (scope : Option ν) (s : Session (Watched δ ν) ν τ) :
    loads (stateOf (resolve E.watched p scope s)) = loads s ++ p.target.address?.toList := by
  -- without an address the engine might as well not be able to load; with one the search is the load
  cases haddress : p.target.address? with
  | none =>
      rw [resolve_unloading E.watched haddress, Option.toList_none, List.append_nil]
      exact (keepsLoads_closed E).resolve p scope s
  | some url =>
      have hload : loads (stateOf (search E.watched p scope s)) = loads s ++ [url] := by
        rw [search_address E.watched haddress]
        exact loads_call E (.loadDocument url) s
      cases hsearch : search E.watched p scope s with
      | ok node s' =>
          rw [hsearch] at hload
          rw [resolve_ok hsearch]
          exact hload
      | error f s' =>
          rw [hsearch] at hload
          rw [resolve_error hsearch]
          exact hload

/-! ## Steps -/

/-- A deed done at the engine's desk past the session. -/
def Step.AtEngine : Step δ ν τ α → Prop
  | .deed (.engine _) => True
  | _ => False

/-- The address that a step has to load. -/
def Step.address? (step : Step δ ν τ α) (s : Session δ ν τ) : Option String :=
  (step.resolving s).bind fun r => r.1.target.address?

theorem keepsLoads_close (E : Engine δ ν) (owned : Bool) :
    KeepsLoads (Session.close E.watched owned : Action (Session (Watched δ ν) ν τ) Unit) :=
  .ite (keepsLoads_call E (c := .close) rfl) (.pure _)

/-- A deed that resolves nothing loads nothing. -/
theorem keepsLoads_deed (E : Engine δ ν) {d : Deed (Watched δ ν) ν τ α} {s : Session (Watched δ ν) ν τ}
    (hdesk : ¬ (Step.deed d).AtEngine) (hnone : (Step.deed d).resolving s = none) : loads (stateOf (d.run E.watched s)) = loads s := by
  have hclosed := keepsLoads_closed (τ := τ) E
  cases d with
  | host act =>
      have hkeep : KeepsLoads ((Deed.host act : Deed (Watched δ ν) ν τ α).run E.watched) := .within act fun _ _ => rfl
      exact hkeep s
  | observe look => rfl
  | engine act => exact absurd trivial hdesk
  | describe target document => exact hclosed.describe target document s
  | navigateTo url => exact hclosed.navigateTo url s
  | entryFor p => exact hclosed.entryFor p s
  | resolve p scope => cases hnone
  | resolveList p scope => exact hclosed.resolveList p scope s
  | resolveFrom p =>
      show loads (stateOf (Session.resolveFrom E.watched p s)) = loads s
      rw [resolveFrom_noScope E.watched hnone, stateOf]
  | front => exact hclosed.front s
  | typeIn text => exact hclosed.typeIn text s
  | click => exact hclosed.click s
  | textOf node => exact hclosed.textOf node s
  | attributeOf name node => exact hclosed.attributeOf name node s
  | close owned => exact keepsLoads_close E owned s

variable [DecidableEq ν]

theorem keepsLoads_exit (E : Engine δ ν) (entry : ScopedEntry) :
    KeepsLoads (entry.exit E.watched : Action (Session (Watched δ ν) ν τ) Unit) := by
  refine .bind .get fun s => ?_
  split
  · exact .throw _
  · exact .bind (.modify fun _ => rfl) fun _ => (keepsLoads_closed E).leave _

/-- **When pages are loaded.** A step loads the address of the page that it resolves, once, and no other step loads
anything. -/
theorem loads_after (E : Engine δ ν) (t : AnyStep (Watched δ ν) ν τ) (s : Session (Watched δ ν) ν τ)
    (hdesk : ¬ t.step.AtEngine) : loads (t.after E.watched s) = loads s ++ (t.step.address? s).toList := by
  unfold Step.address?
  cases hres : t.step.resolving s with
  | some r =>
      rw [after_resolving hres]
      exact loads_resolve E r.1 r.2 s
  | none =>
      rw [Option.bind_none, Option.toList_none, List.append_nil]
      have hclosed := keepsLoads_closed (τ := τ) E
      obtain ⟨step⟩ := t
      show loads (stateOf (step.run E.watched s)) = _
      cases step with
      | deed d => exact keepsLoads_deed E hdesk hres
      | here p => cases hres
      | listHere p => exact hclosed.bind hclosed.frontOrNone (fun scope => hclosed.resolveList p scope) s
      | lookBack p => exact hclosed.resolvedNode p s
      | endPush p => exact hclosed.endPush p s
      | push node => exact hclosed.pushFront node s
      | openUse entry node =>
          exact Keeps.bind (hclosed.pushFront node) (fun _ => .bind .get fun _ => .modify fun _ => rfl) s
      | leave node => exact hclosed.leave node s
      | exit entry => exact keepsLoads_exit E entry s
      | drop => exact hclosed.drop s

end Session

end Crawl
