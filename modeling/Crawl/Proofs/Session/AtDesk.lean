import Crawl.Session.Deed
import Crawl.Proofs.Action.Keeps
/-!
# Work at the engine's desk

Most of what a session does is work at the engine's desk: it asks the engine and writes into the journal, and leaves
everything else of the session alone. This is said once here, of each such operation. What an operation does beyond
that is then little: resolving searches at the desk and afterwards remembers the node, and clicking activates at the
desk and afterwards describes the page it led to.
-/

namespace Crawl.Session

open Crawl.Action (Keeps stateOf outcomeOf bind_ok bind_error)

variable {δ ν τ α γ : Type}

/-- A session without its desk. -/
def besidesDesk (s : Session δ ν τ) : Session Unit ν τ :=
  ⟨⟨(), #[]⟩, s.frames, s.resolved, s.entered, s.serial, s.url, s.host⟩

/-- An action that changes nothing of a session but the desk. -/
abbrev AtDesk (act : Action (Session δ ν τ) α) : Prop := Keeps besidesDesk act

/-- What an action changes at the desk is no matter for a view of the rest. -/
theorem AtDesk.keeps {act : Action (Session δ ν τ) α} (h : AtDesk act) (view : Session Unit ν τ → γ) :
    Keeps (fun s => view (besidesDesk s)) act := fun s => congrArg view (h s)

theorem atDesk_onDesk (act : Action (Desk δ) α) : AtDesk (onDesk act : Action (Session δ ν τ) α) :=
  Keeps.within act fun _ _ => rfl

theorem atDesk_note (level : Level) (source : Source) (text : String) :
    AtDesk (note level source text : Action (Session δ ν τ) Unit) := atDesk_onDesk _

theorem atDesk_quoted (E : Engine δ ν) (node : ν) : AtDesk (quoted E node : Action (Session δ ν τ) String) :=
  .bind .get fun _ => .pure _

theorem atDesk_lastNode (p : Processor) : AtDesk (lastNode p : Action (Session δ ν τ) (Option ν)) :=
  .bind .get fun _ => .pure _

theorem atDesk_shown (p : Processor) : AtDesk (shown p : Action (Session δ ν τ) String) :=
  .bind (atDesk_lastNode p) fun _ => .pure _

theorem atDesk_frontOrNone : AtDesk (frontOrNone : Action (Session δ ν τ) (Option ν)) :=
  .bind .get fun _ => .pure _

theorem front_nil {s : Session δ ν τ} (h : s.frames = []) : front s = .error (.stackImbalance .noScope) s := by
  cases s
  cases h
  rfl

theorem front_cons {s : Session δ ν τ} {node : ν} {rest : List ν} (h : s.frames = node :: rest) : front s = .ok node s := by
  cases s
  cases h
  rfl

theorem frontOrNone_cons {s : Session δ ν τ} {node : ν} {rest : List ν} (h : s.frames = node :: rest) :
    frontOrNone s = .ok (some node) s := by
  cases s
  cases h
  rfl

theorem atDesk_front : AtDesk (front : Action (Session δ ν τ) ν) := by
  refine .bind atDesk_frontOrNone fun node => ?_
  cases node with
  | none => exact .throw _
  | some n => exact .pure n

theorem atDesk_orFront (node : Option ν) : AtDesk (orFront node : Action (Session δ ν τ) ν) := by
  cases node with
  | none => exact atDesk_front
  | some n => exact .pure n

theorem atDesk_resolvedNode (p : Processor) : AtDesk (resolvedNode p : Action (Session δ ν τ) ν) := by
  refine .bind (atDesk_lastNode p) fun node => ?_
  cases node with
  | none => exact .bind (atDesk_shown p) fun _ => .throw _
  | some n => exact .pure n

/-! ## Searching -/

theorem atDesk_searchRoot (E : Engine δ ν) (p : Processor) (scope : ν) (root : SearchRoot) :
    AtDesk (searchRoot E p scope root : Action (Session δ ν τ) ν) := by
  cases root with
  | document => exact atDesk_onDesk _
  | scope => exact .pure _
  | form =>
      refine .bind (atDesk_onDesk _) fun tag => ?_
      split
      · exact .pure _
      · exact .bind (atDesk_shown p) fun _ => .throw _

theorem atDesk_resolvePage (E : Engine δ ν) (p : Processor) :
    AtDesk (resolvePage E p : Action (Session δ ν τ) ν) := by
  unfold resolvePage
  split
  · exact .throw _
  · refine .ite (atDesk_onDesk _) (.bind (atDesk_lastNode p) fun node => ?_)
    cases node with
    | none => exact .throw _
    | some n => exact .pure n

theorem atDesk_resolveElement (E : Engine δ ν) (p : Processor) (scope : Option ν) :
    AtDesk (resolveElement E p scope : Action (Session δ ν τ) ν) := by
  refine .bind (.ofExcept _) fun ⟨d, rule⟩ => ?_
  cases scope with
  | none => exact .bind (atDesk_shown p) fun _ => .throw _
  | some scope =>
      refine .bind (atDesk_searchRoot E p scope rule.root) fun root => ?_
      refine .bind (atDesk_onDesk _) fun found => ?_
      cases found with
      | none => exact .throw _
      | some node =>
          dsimp only
          split
          · exact .pure _
          · refine .bind (atDesk_onDesk _) fun holds => ?_
            split
            · exact .pure _
            · exact .bind (atDesk_onDesk _) fun _ => .throw _

theorem atDesk_resolveList (E : Engine δ ν) (p : Processor) (scope : Option ν) :
    AtDesk (resolveList E p scope : Action (Session δ ν τ) (List ν)) := by
  unfold resolveList
  dsimp only
  split
  · exact .throw _
  · split
    · exact .throw _
    · cases scope with
      | none => exact .bind (atDesk_shown p) fun _ => .throw _
      | some scope =>
          exact .bind (atDesk_onDesk _) fun _ => .bind (atDesk_shown p) fun _ => .bind (atDesk_note _ _ _) fun _ => .pure _

/-! ## Resolving -/

/-- The search of a resolution, up to the node that it is going to remember. -/
def search (E : Engine δ ν) (p : Processor) (scope : Option ν) : Action (Session δ ν τ) ν :=
  if p.target.kind = .page then resolvePage E p else resolveElement E p scope

theorem atDesk_search (E : Engine δ ν) (p : Processor) (scope : Option ν) :
    AtDesk (search E p scope : Action (Session δ ν τ) ν) :=
  .ite (atDesk_resolvePage E p) (atDesk_resolveElement E p scope)

/-- What processors have resolved to, after the one with a number has resolved to a node. -/
def withNode (serial : Nat) (node : ν) (resolved : Nat → Option ν) : Nat → Option ν :=
  fun i => if i = serial then some node else resolved i

/-- The session after a processor has resolved to a node. -/
def settled (E : Engine δ ν) (p : Processor) (node : ν) (s : Session δ ν τ) : Session δ ν τ :=
  let text := "Resolved " ++ p.target.shown true ++ " to " ++ E.quoted s.desk.device node
  { s with
    desk := { s.desk with journal := s.desk.journal.push ⟨.debug, .resolver, text⟩ }
    resolved := withNode p.serial node s.resolved }

/-- A resolution remembers the node that its search has found. -/
theorem resolve_ok {E : Engine δ ν} {p : Processor} {scope : Option ν} {s s' : Session δ ν τ} {node : ν}
    (h : search E p scope s = .ok node s') : resolve E p scope s = .ok node (s'.settled E p node) := by
  have hshown : (withNode p.serial node s'.resolved p.serial).isSome = true := by simp [withNode]
  have hsettle : (do
      remember p node
      note .debug .resolver ("Resolved " ++ (← shown p) ++ " to " ++ (← quoted E node))
      return node : Action (Session δ ν τ) ν) s' = .ok node (s'.settled E p node) := by
    unfold settled
    rw [← hshown]
    rfl
  unfold resolve
  unfold search at h
  split at h
  · next hpage =>
      rw [if_pos hpage]
      exact (bind_ok h _).trans hsettle
  · next hpage =>
      rw [if_neg hpage]
      exact (bind_ok h _).trans hsettle

/-- A resolution whose search fails remembers nothing. -/
theorem resolve_error {E : Engine δ ν} {p : Processor} {scope : Option ν} {s s' : Session δ ν τ} {f : Failure}
    (h : search E p scope s = .error f s') : resolve E p scope s = .error f s' := by
  unfold resolve
  unfold search at h
  split at h
  · next hpage => rw [if_pos hpage, bind_error h]
  · next hpage => rw [if_neg hpage, bind_error h]

/-- What a resolution ends with is what its search ends with. -/
theorem outcome_resolve (E : Engine δ ν) (p : Processor) (scope : Option ν) (s : Session δ ν τ) :
    outcomeOf (resolve E p scope s) = outcomeOf (search E p scope s) := by
  cases h : search E p scope s with
  | ok node s' =>
      rw [resolve_ok h]
      rfl
  | error f s' => rw [resolve_error h]

/-! ## Reading, typing, clicking and closing -/

theorem atDesk_typeIn (E : Engine δ ν) (text : String) :
    AtDesk (typeIn E text : Action (Session δ ν τ) Unit) := by
  refine .bind atDesk_front fun node => .bind (atDesk_onDesk _) fun tag => ?_
  split
  · exact atDesk_onDesk _
  · exact .throw _

/-- Activates the current scope. -/
def activateFront (E : Engine δ ν) : Action (Session δ ν τ) ν := do
  let node ← front
  if ← onDesk (E.isDocument node) then throw (.typeMismatch .documentClicked)
  else onDesk (E.activate node)

theorem atDesk_activateFront (E : Engine δ ν) : AtDesk (activateFront E : Action (Session δ ν τ) ν) := by
  refine .bind atDesk_front fun node => .bind (atDesk_onDesk _) fun isDocument => ?_
  split
  · exact .throw _
  · exact atDesk_onDesk _

/-- A click describes the document that the activation of the current scope led to. -/
theorem click_eq (E : Engine δ ν) :
    (click E : Action (Session δ ν τ) Processor) =
      activateFront E >>= fun document => describe (.page none) (some document) := by
  unfold click activateFront
  rw [bind_assoc]
  refine bind_congr fun node => ?_
  rw [bind_assoc]
  refine bind_congr fun isDocument => ?_
  cases isDocument <;> rfl

theorem atDesk_textOf (E : Engine δ ν) (node : Option ν) :
    AtDesk (textOf E node : Action (Session δ ν τ) String) :=
  .bind (atDesk_orFront node) fun _ => atDesk_onDesk _

theorem atDesk_attributeOf (E : Engine δ ν) (name : String) (node : Option ν) :
    AtDesk (attributeOf E name node : Action (Session δ ν τ) (Option String)) :=
  .bind (atDesk_orFront node) fun _ => atDesk_onDesk _

theorem atDesk_close (E : Engine δ ν) (owned : Bool) :
    AtDesk (close E owned : Action (Session δ ν τ) Unit) := by
  unfold close
  split
  · exact atDesk_onDesk _
  · exact .pure _

end Crawl.Session
