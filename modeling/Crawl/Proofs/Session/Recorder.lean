import Crawl.Proofs.Session.AtDesk
import Crawl.Proofs.Session.Program
import Crawl.Proofs.Session.History
/-!
# Recorded runs

A recorded run is the run of a program that also writes down its history: every end-push, every failing deed, and
every block that was left, with the nodes in scope just before and just after its scope was removed. `record_result`
says that recording changes nothing: the result is that of the plain run, value, failure and state.
-/

namespace Crawl.Session

open Crawl.Action (stateOf failureOf)

variable {δ ν τ α β : Type}

/-- A result together with the history of the run that led to it. -/
structure Recorded (δ ν τ α : Type) where
  result : EStateM.Result Failure (Session δ ν τ) α
  history : History ν

/-- An action on sessions that writes down its history. -/
structure Recorder (δ ν τ α : Type) where
  record : Session δ ν τ → Recorded δ ν τ α

namespace Recorder

/-- The action without its history. -/
def plain (x : Recorder δ ν τ α) : Action (Session δ ν τ) α := fun s => (x.record s).result

/-- An action that owns no block; a failure of it is written down. -/
def lift (act : Action (Session δ ν τ) α) : Recorder δ ν τ α where
  record s := match act s with
    | .ok a s' => ⟨.ok a s', .done⟩
    | .error f s' => ⟨.error f s', .failed f .done⟩

/-- One recorded action after another. -/
def bind (x : Recorder δ ν τ α) (k : α → Recorder δ ν τ β) : Recorder δ ν τ β where
  record s := match x.record s with
    | ⟨.ok a s', t⟩ =>
      let r := (k a).record s'
      ⟨r.result, t ++ r.history⟩
    | ⟨.error f s', t⟩ => ⟨.error f s', t⟩

instance : Monad (Recorder δ ν τ) where
  pure a := ⟨fun s => ⟨.ok a s, .done⟩⟩
  bind := bind

/-- Returns a failure as a value. -/
def attempt (x : Recorder δ ν τ α) : Recorder δ ν τ (Except Failure α) where
  record s := ⟨Action.attempt x.plain s, (x.record s).history⟩

/-- Writes down that a node was put behind all others. -/
def endPushed (node : ν) : Recorder δ ν τ Unit where
  record s := ⟨.ok () s, .endPush node .done⟩

/-- Runs a block that was handed `node` and then, whatever happened in it, the action that leaves it; `mark` is what is
written down. -/
def leaving (mark : Exit ν → History ν → History ν) (node : ν) (block : Recorder δ ν τ α)
    (after : Action (Session δ ν τ) Unit) : Recorder δ ν τ α where
  record s :=
    let ended := (block.record s).result
    let left := after (stateOf ended)
    let result := Action.always block.plain after s
    let exit : Exit ν := {
      node := node
      under := s.frames.tail
      before := (stateOf ended).frames
      after := (stateOf left).frames
      block := failureOf ended
      failure := failureOf left
      outcome := failureOf result }
    ⟨result, mark exit (block.record s).history⟩

/-- Runs a block with `node` as the current scope. -/
def inScope [DecidableEq ν] (E : Engine δ ν) (node : ν) (block : Recorder δ ν τ α) : Recorder δ ν τ α := do
  lift (pushFront E node)
  leaving (.scope · · .done) node block (leave E node)

/-- Runs a block once for each node of a list, each time in the scope of that node. -/
def runOver [DecidableEq ν] (E : Engine δ ν) (block : ν → Recorder δ ν τ α) : List ν → Recorder δ ν τ (List α)
  | [] => return []
  | node :: nodes => do
    let value ← inScope E node (block node)
    return value :: (← runOver E block nodes)

end Recorder

open Recorder (lift leaving)

/-- Runs a program and writes down its history. -/
def Program.record [DecidableEq ν] (E : Engine δ ν) {α : Type} : Program δ ν τ α → Recorder δ ν τ α
  | .deed d => lift (d.run E)
  | .bind m k => m.record E >>= fun a => (k a).record E
  | .attempt m => Recorder.attempt (m.record E)
  | .call entry block => do
    let node ← lift (resolveHere E entry.processor)
    Recorder.inScope E node ((block node).record E)
  | .use entry block => do
    let node ← lift (entry.enter E)
    leaving (.scope · · .done) node ((block node).record E) (entry.exit E)
  | .forAll p block => do
    let scope ← lift frontOrNone
    let nodes ← lift (resolveList E p scope)
    Recorder.runOver E (fun n => (block n).record E) nodes
  | .endPush p => do
    -- marked once the push is done, so an end-push that fails to find its node leaves a failure and no push
    let node ← lift (resolvedNode p)
    lift (pushBack E node)
    Recorder.endPushed node
  | .endPushWith p block => do
    let node ← lift (resolvedNode p)
    Recorder.inScope E node ((block node).record E)
  | .onCurrent block => do
    let node ← lift front
    leaving (.current · · .done) node ((block node).record E) (do let _ ← popFront E)

/-- The history of a run. -/
def Program.history [DecidableEq ν] (E : Engine δ ν) (m : Program δ ν τ α) (s : Session δ ν τ) : History ν :=
  ((m.record E).record s).history

namespace Recorder

/-! ## One operation first -/

theorem record_lift_ok {act : Action (Session δ ν τ) α} {a : α} {s s' : Session δ ν τ} (h : act s = .ok a s') :
    (lift act).record s = ⟨.ok a s', .done⟩ := by
  simp only [lift, h]

theorem record_lift_error {act : Action (Session δ ν τ) α} {f : Failure} {s s' : Session δ ν τ}
    (h : act s = .error f s') : (lift act).record s = ⟨.error f s', .failed f .done⟩ := by
  simp only [lift, h]

/-- An operation that ended with a value leaves no mark of its own. -/
theorem bind_lift_ok {act : Action (Session δ ν τ) α} {a : α} {s s' : Session δ ν τ} (h : act s = .ok a s')
    (k : α → Recorder δ ν τ β) : (lift act >>= k).record s = (k a).record s' := by
  show (Recorder.bind (lift act) k).record s = (k a).record s'
  simp only [Recorder.bind, record_lift_ok h, History.done_append]

theorem bind_lift_error {act : Action (Session δ ν τ) α} {f : Failure} {s s' : Session δ ν τ}
    (h : act s = .error f s') (k : α → Recorder δ ν τ β) :
    (lift act >>= k).record s = ⟨.error f s', .failed f .done⟩ := by
  show (Recorder.bind (lift act) k).record s = _
  simp only [Recorder.bind, record_lift_error h]

/-! ## Recording changes nothing -/

@[simp]
theorem plain_pure (a : α) : plain (Pure.pure a : Recorder δ ν τ α) = Pure.pure a := rfl

@[simp]
theorem plain_lift (act : Action (Session δ ν τ) α) : plain (lift act) = act := by
  funext s
  unfold plain lift
  dsimp only
  split <;> simp only [*]

@[simp]
theorem plain_bind (x : Recorder δ ν τ α) (k : α → Recorder δ ν τ β) :
    plain (x >>= k) = plain x >>= fun a => plain (k a) := by
  funext s
  show ((Recorder.bind x k).record s).result = EStateM.bind (plain x) (fun a => plain (k a)) s
  unfold Recorder.bind EStateM.bind plain
  rcases h : x.record s with ⟨_ | _, t⟩ <;> simp only [h]

@[simp]
theorem plain_attempt (x : Recorder δ ν τ α) : plain (attempt x) = Action.attempt (plain x) := rfl

@[simp]
theorem plain_leaving (mark : Exit ν → History ν → History ν) (node : ν) (block : Recorder δ ν τ α)
    (after : Action (Session δ ν τ) Unit) : plain (leaving mark node block after) = Action.always (plain block) after :=
  rfl

variable [DecidableEq ν] (E : Engine δ ν)

@[simp]
theorem plain_inScope (node : ν) (block : Recorder δ ν τ α) :
    plain (inScope E node block) = Session.inScope E node (plain block) := by
  simp only [inScope, Session.inScope, plain_bind, plain_lift, plain_leaving]

@[simp]
theorem plain_runOver (block : ν → Recorder δ ν τ α) (nodes : List ν) :
    plain (runOver E block nodes) = Session.runOver E (fun n => plain (block n)) nodes := by
  induction nodes with
  | nil => rfl
  | cons node nodes ih => simp only [runOver, Session.runOver, plain_bind, plain_inScope, plain_pure, ih]

end Recorder

theorem Program.plain_record [DecidableEq ν] (E : Engine δ ν) (m : Program δ ν τ α) :
    (m.record E).plain = m.run E := by
  induction m with
  | deed d => exact Recorder.plain_lift _
  | bind m k ihm ihk => simp only [record, run, Recorder.plain_bind, ihm, ihk]
  | attempt m ih => simp only [record, run, Recorder.plain_attempt, ih]
  | call entry block ih =>
      simp only [record, run, ScopedEntry.call, runScoped, Recorder.plain_bind, Recorder.plain_lift,
        Recorder.plain_inScope, ih]
  | use entry block ih =>
      simp only [record, run, ScopedEntry.use, Recorder.plain_bind, Recorder.plain_lift, Recorder.plain_leaving, ih]
  | forAll p block ih =>
      simp only [record, run, runEach, Recorder.plain_bind, Recorder.plain_lift, Recorder.plain_runOver, ih]
  | endPush p =>
      simp only [record, run, Session.endPush, Recorder.plain_bind, Recorder.plain_lift]
      rfl
  | endPushWith p block ih =>
      simp only [record, run, Session.endPushWith, Recorder.plain_bind, Recorder.plain_lift, Recorder.plain_inScope, ih]
  | onCurrent block ih =>
      simp only [record, run, Session.onCurrent, Recorder.plain_bind, Recorder.plain_lift, Recorder.plain_leaving, ih]

namespace Program

variable [DecidableEq ν] (E : Engine δ ν)

/-- The result of a recorded run is the result of the run. -/
theorem record_result (m : Program δ ν τ α) (s : Session δ ν τ) : ((m.record E).record s).result = m.run E s :=
  congrFun (m.plain_record E) s

/-! ## Histories of composed programs -/

theorem run_bind_ok {m : Program δ ν τ α} {a : α} {s s' : Session δ ν τ} (h : m.run E s = .ok a s')
    (k : α → Program δ ν τ β) : (Program.bind m k).run E s = (k a).run E s' := by
  show EStateM.bind (m.run E) (fun a => (k a).run E) s = _
  simp only [EStateM.bind, h]

theorem history_bind_ok {m : Program δ ν τ α} {a : α} {s s' : Session δ ν τ} (h : m.run E s = .ok a s')
    (k : α → Program δ ν τ β) :
    (Program.bind m k).history E s = m.history E s ++ (k a).history E s' := by
  have hresult := m.record_result E s
  show ((Recorder.bind (m.record E) fun a => (k a).record E).record s).history = _
  unfold history Recorder.bind
  rcases hr : (m.record E).record s with ⟨r, t⟩
  rw [hr, h] at hresult
  dsimp only at hresult
  subst hresult
  simp only [hr]

theorem history_attempt (m : Program δ ν τ α) (s : Session δ ν τ) :
    (Program.attempt m).history E s = m.history E s := rfl

/-- A caught run always ends with a value, in the state that the run has reached. -/
theorem run_attempt (m : Program δ ν τ α) (s : Session δ ν τ) :
    ∃ r, (Program.attempt m).run E s = .ok r (stateOf (m.run E s)) := by
  show ∃ r, Action.attempt (m.run E) s = _
  unfold Action.attempt
  cases m.run E s with
  | ok a s' => exact ⟨_, rfl⟩
  | error f s' => exact ⟨_, rfl⟩

/-- When there is a current scope, a block on it begins, and is handed that scope's node. -/
theorem history_onCurrent (block : ν → Program δ ν τ α) {s : Session δ ν τ} {node : ν} {l : List ν}
    (h : s.frames = node :: l) :
    ∃ x, x.node = node ∧ (Program.onCurrent block).history E s = .current x ((block node).history E s) .done := by
  unfold history
  simp only [record, Recorder.bind_lift_ok (front_cons h)]
  exact ⟨_, rfl, rfl⟩

end Program

end Crawl.Session
