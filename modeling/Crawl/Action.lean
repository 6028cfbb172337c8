import Crawl.Failure
import Crawl.Journal
/-!
# Actions

An action reads and changes a state and ends with a value or with a failure; in either case the state that it has
reached stays. Two ways of closing an action off are needed beside the usual ones: to run a second action after
it whatever happens (`always`), and to turn a failure into a value (`attempt`).
-/

namespace Crawl

/-- An action on states `σ` with values `α`. -/
abbrev Action (σ α : Type) := EStateM Failure σ α

namespace Action

variable {σ τ α : Type}

/-- Runs `body`, then `after` whether `body` failed or not. A failure of `after` takes the place of whatever `body`
ended with. -/
def always (body : Action σ α) (after : Action σ Unit) : Action σ α := fun s =>
  match body s with
  | .ok a s => match after s with
    | .ok _ s => .ok a s
    | .error e s => .error e s
  | .error e s => match after s with
    | .ok _ s => .error e s
    | .error e' s => .error e' s

/-- Runs `body` and returns its failure as a value. -/
def attempt (body : Action σ α) : Action σ (Except Failure α) := fun s =>
  match body s with
  | .ok a s => .ok (.ok a) s
  | .error e s => .ok (.error e) s

/-- Runs `body` and puts another failure in the place of its failure. -/
def recast (body : Action σ α) (f : Failure → Failure) : Action σ α := fun s =>
  match body s with
  | .ok a s => .ok a s
  | .error e s => .error (f e) s

/-- The value of a result, or its failure. -/
def ofExcept (r : Except Failure α) : Action σ α :=
  match r with
  | .ok a => pure a
  | .error e => throw e

/-- Runs an action on a part of the state. -/
def within (get : σ → τ) (put : τ → σ → σ) (act : Action τ α) : Action σ α := fun s =>
  match act (get s) with
  | .ok a t => .ok a (put t s)
  | .error e t => .error e (put t s)

end Action

/-- The desk an engine works at: its own state and the journal that it shares with the session. -/
structure Desk (δ : Type) where
  device : δ
  journal : Journal

namespace Desk

variable {δ α : Type}

/-- Writes an entry into the journal. -/
def note (level : Level) (source : Source) (text : String) : Action (Desk δ) Unit :=
  modify fun d => { d with journal := d.journal.push ⟨level, source, text⟩ }

/-- The engine's own state. -/
def read : Action (Desk δ) δ := do return (← get).device

/-- Changes the engine's own state. -/
def update (f : δ → δ) : Action (Desk δ) Unit :=
  modify fun d => { d with device := f d.device }

end Desk

end Crawl
