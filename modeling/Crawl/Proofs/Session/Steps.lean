import Crawl.Proofs.Session.AtDesk
import Crawl.Proofs.Session.Program
/-!
# Runs, step by step

However a program nests its blocks and catches failures, its run is a list of steps taken one after the other: deeds,
resolutions when entries are used, and the pushes and removals around blocks. Which steps are taken depends on how
earlier ones ended, so the list is written along with the run. `Stepped` is an action with its list, and carries the
proof that taking the steps leads to where the action leads; `Program.run_steps` says so of whole programs.
-/

namespace Crawl.Session

open Crawl.Action (stateOf failureOf valueOf bind_ok bind_error)

variable {δ ν τ α β : Type} [DecidableEq ν]

/-- The single steps of a run. -/
inductive Step (δ ν τ : Type) : Type → Type 1
  | deed {α : Type} (d : Deed δ ν τ α) : Step δ ν τ α
  | here (p : Processor) : Step δ ν τ ν
  | listHere (p : Processor) : Step δ ν τ (List ν)
  | lookBack (p : Processor) : Step δ ν τ ν
  | endPush (p : Processor) : Step δ ν τ Unit
  | push (node : ν) : Step δ ν τ Unit
  | openUse (entry : ScopedEntry) (node : ν) : Step δ ν τ Unit
  | leave (node : ν) : Step δ ν τ Unit
  | exit (entry : ScopedEntry) : Step δ ν τ Unit
  | drop : Step δ ν τ Unit

/-- Takes a step. -/
def Step.run (E : Engine δ ν) : Step δ ν τ α → Action (Session δ ν τ) α
  | .deed d => d.run E
  | .here p => resolveHere E p
  | .listHere p => do resolveList E p (← frontOrNone)
  | .lookBack p => resolvedNode p
  | .endPush p => Session.endPush E p
  | .push node => pushFront E node
  | .openUse entry node => do
    pushFront E node
    setEntered entry (node :: (← get).entered entry.serial)
  | .leave node => Session.leave E node
  | .exit entry => entry.exit E
  | .drop => do let _ ← popFront E

/-- A step with values of whatever type. -/
structure AnyStep (δ ν τ : Type) where
  {value : Type}
  step : Step δ ν τ value

/-- The session after a step, whatever the step ended with. -/
def AnyStep.after (E : Engine δ ν) (t : AnyStep δ ν τ) (s : Session δ ν τ) : Session δ ν τ := stateOf (t.step.run E s)

/-- The session after some steps. -/
def after (E : Engine δ ν) : List (AnyStep δ ν τ) → Session δ ν τ → Session δ ν τ
  | [], s => s
  | t :: ts, s => after E ts (t.after E s)

theorem after_append (E : Engine δ ν) (ts us : List (AnyStep δ ν τ)) (s : Session δ ν τ) :
    after E (ts ++ us) s = after E us (after E ts s) := by
  induction ts generalizing s with
  | nil => rfl
  | cons t ts ih => exact ih _

/-- An action with the steps that it takes. -/
structure Stepped (E : Engine δ ν) (τ α : Type) where
  act : Action (Session δ ν τ) α
  steps : Session δ ν τ → List (AnyStep δ ν τ)
  leads : ∀ s, after E (steps s) s = stateOf (act s)

namespace Stepped

variable {E : Engine δ ν}

/-- A single step. -/
def one (step : Step δ ν τ α) : Stepped E τ α where
  act := step.run E
  steps _ := [⟨step⟩]
  leads _ := rfl

/-- One action after another; the second takes its steps only if the first ends with a value. -/
def bind (x : Stepped E τ α) (k : α → Stepped E τ β) : Stepped E τ β where
  act := x.act >>= fun a => (k a).act
  steps s := x.steps s ++ match x.act s with
    | .ok a s' => (k a).steps s'
    | .error _ _ => []
  leads s := by
    rw [after_append, x.leads]
    cases h : x.act s with
    | ok a s' =>
        rw [bind_ok h]
        exact (k a).leads s'
    | error f s' =>
        rw [bind_error h]
        rfl

instance : Monad (Stepped E τ) where
  pure a := ⟨Pure.pure a, fun _ => [], fun _ => rfl⟩
  bind := bind

/-- Returns a failure as a value. -/
def attempt (x : Stepped E τ α) : Stepped E τ (Except Failure α) where
  act := Action.attempt x.act
  steps := x.steps
  leads s := (x.leads s).trans (Action.stateOf_attempt x.act s).symm

/-- Takes a last step whatever happens before it. -/
def always (x : Stepped E τ α) (last : Step δ ν τ Unit) : Stepped E τ α where
  act := Action.always x.act (last.run E)
  steps s := x.steps s ++ [⟨last⟩]
  leads s := by
    rw [after_append, x.leads, Action.stateOf_always]
    rfl

/-- Runs a block with `node` as the current scope. -/
def inScope (node : ν) (block : Stepped E τ α) : Stepped E τ α := do
  one (.push node)
  always block (.leave node)

/-- Runs a block once for each node of a list, each time in the scope of that node. -/
def runOver (block : ν → Stepped E τ α) : List ν → Stepped E τ (List α)
  | [] => return []
  | node :: nodes => do
    let value ← inScope node (block node)
    return value :: (← runOver block nodes)

end Stepped

open Stepped (one always)

/-- A program with the steps of its run. -/
def Program.stepped (E : Engine δ ν) {α : Type} : Program δ ν τ α → Stepped E τ α
  | .deed d => one (.deed d)
  | .bind m k => m.stepped E >>= fun a => (k a).stepped E
  | .attempt m => Stepped.attempt (m.stepped E)
  | .call entry block => do
    let node ← one (.here entry.processor)
    Stepped.inScope node ((block node).stepped E)
  | .use entry block => do
    let node ← one (.here entry.processor)
    one (.openUse entry node)
    always ((block node).stepped E) (.exit entry)
  | .forAll p block => do
    let nodes ← one (.listHere p)
    Stepped.runOver (fun n => (block n).stepped E) nodes
  | .endPush p => one (.endPush p)
  | .endPushWith p block => do
    let node ← one (.lookBack p)
    Stepped.inScope node ((block node).stepped E)
  | .onCurrent block => do
    let node ← one (.deed .front)
    always ((block node).stepped E) .drop

/-- The steps that the run of a program takes from a session. -/
def Program.steps (E : Engine δ ν) (m : Program δ ν τ α) (s : Session δ ν τ) : List (AnyStep δ ν τ) :=
  (m.stepped E).steps s

namespace Stepped

variable {E : Engine δ ν}

@[simp]
theorem act_pure (a : α) : act (Pure.pure a : Stepped E τ α) = Pure.pure a := rfl

@[simp]
theorem act_one (step : Step δ ν τ α) : act (one step : Stepped E τ α) = step.run E := rfl

@[simp]
theorem act_bind (x : Stepped E τ α) (k : α → Stepped E τ β) : act (x >>= k) = act x >>= fun a => act (k a) := rfl

@[simp]
theorem act_attempt (x : Stepped E τ α) : act (attempt x) = Action.attempt (act x) := rfl

@[simp]
theorem act_always (x : Stepped E τ α) (last : Step δ ν τ Unit) :
    act (always x last) = Action.always (act x) (last.run E) := rfl

@[simp]
theorem act_inScope (node : ν) (block : Stepped E τ α) :
    act (inScope node block) = Session.inScope E node (act block) := rfl

@[simp]
theorem act_runOver (block : ν → Stepped E τ α) (nodes : List ν) :
    act (runOver block nodes) = Session.runOver E (fun n => act (block n)) nodes := by
  induction nodes with
  | nil => rfl
  | cons node nodes ih => simp only [runOver, Session.runOver, act_bind, act_inScope, act_pure, ih]

end Stepped

/-- Using an entry resolves its processor, opens the use, and closes it after the block. -/
theorem use_eq_steps (E : Engine δ ν) (entry : ScopedEntry) (block : Block δ ν τ α) :
    entry.use E block = (Step.here entry.processor).run E >>= fun node =>
      (Step.openUse entry node).run E >>= fun _ => Action.always (block node) (entry.exit E) := by
  simp only [ScopedEntry.use, ScopedEntry.enter, Step.run, bind_assoc, pure_bind]

/-- Writing the steps down changes nothing. -/
theorem Program.act_stepped (E : Engine δ ν) (m : Program δ ν τ α) : (m.stepped E).act = m.run E := by
  induction m with
  | deed d => rfl
  | bind m k ihm ihk => simp only [stepped, run, Stepped.act_bind, ihm, ihk]
  | attempt m ih => simp only [stepped, run, Stepped.act_attempt, ih]
  | call entry block ih =>
      simp only [stepped, run, Stepped.act_bind, Stepped.act_one, Stepped.act_inScope, ih]
      rfl
  | use entry block ih =>
      simp only [stepped, run, Stepped.act_bind, Stepped.act_one, Stepped.act_always, ih, use_eq_steps]
      rfl
  | forAll p block ih =>
      simp only [stepped, run, Stepped.act_bind, Stepped.act_one, Stepped.act_runOver, ih, runEach, Step.run, bind_assoc]
  | endPush p => rfl
  | endPushWith p block ih =>
      simp only [stepped, run, Stepped.act_bind, Stepped.act_one, Stepped.act_inScope, ih]
      rfl
  | onCurrent block ih =>
      simp only [stepped, run, Stepped.act_bind, Stepped.act_one, Stepped.act_always, ih]
      rfl

/-- **Runs are made of steps.** The session after a run is the session after the steps that the run takes. -/
theorem Program.run_steps (E : Engine δ ν) (m : Program δ ν τ α) (s : Session δ ν τ) :
    stateOf (m.run E s) = after E (m.steps E s) s := by
  rw [← m.act_stepped E]
  exact ((m.stepped E).leads s).symm

/-! ## Resolutions among the steps -/

/-- The resolution of a single node that a step is: the processor and the scope it is resolved in. Resolving from the
current scope is none when there is no scope. -/
def Step.resolving : Step δ ν τ α → Session δ ν τ → Option (Processor × Option ν)
  | .here p, s => some (p, s.frames.head?)
  | .deed (.resolve p scope), _ => some (p, scope)
  | .deed (.resolveFrom p), s => s.frames.head?.map fun node => (p, some node)
  | _, _ => none

/-- A step that is a resolution leads where the resolution leads. -/
theorem after_resolving {E : Engine δ ν} {t : AnyStep δ ν τ} {s : Session δ ν τ} {p : Processor} {scope : Option ν}
    (h : t.step.resolving s = some (p, scope)) : t.after E s = stateOf (resolve E p scope s) := by
  obtain ⟨step⟩ := t
  cases step with
  | here q =>
      cases h
      rfl
  | deed d =>
      cases d with
      | resolve q scope' =>
          cases h
          rfl
      | resolveFrom q =>
          cases hframes : s.frames with
          | nil =>
              simp only [Step.resolving, hframes, List.head?_nil, Option.map_none] at h
              cases h
          | cons node rest =>
              simp only [Step.resolving, hframes, List.head?_cons, Option.map_some] at h
              cases h
              show stateOf (Session.resolveFrom E p s) = _
              rw [Session.resolveFrom, bind_ok (front_cons hframes)]
      | _ => cases h
  | _ => cases h

omit [DecidableEq ν] in
/-- Without a scope, resolving from the current one fails before anything is done. -/
theorem resolveFrom_noScope (E : Engine δ ν) {p : Processor} {s : Session δ ν τ}
    (h : (Step.deed (.resolveFrom p)).resolving s = none) : resolveFrom E p s = .error (.stackImbalance .noScope) s := by
  have hframes : s.frames = [] := List.head?_eq_none_iff.mp (Option.map_eq_none_iff.mp h)
  rw [resolveFrom, bind_error (front_nil hframes)]

end Crawl.Session
