import Crawl.Session.Deed
import Crawl.Engine.Tabled
/-!
# Programs

A program is whatever the code around a session can make of its operations: it may do anything with its own state
`τ`, raise and catch failures at any place, look at the session before it decides what to do next, and nest and
repeat the operations as it likes. Blocks are functions from the node they run against to programs. Direct changes
of the nodes in scope are left out; everything else a session offers is in.

Running a program is running the session's own operations: `Program.run` says only which one stands for which form.
-/

namespace Crawl.Session

/-- What a program can do without a block of its own. -/
inductive Deed (δ ν τ : Type) : Type → Type 1
  | host {α : Type} (act : Action τ α) : Deed δ ν τ α
  | observe {α : Type} (look : Session δ ν τ → α) : Deed δ ν τ α
  | engine {α : Type} (act : Action (Desk δ) α) : Deed δ ν τ α
  | describe (target : Target) (document : Option ν) : Deed δ ν τ Processor
  | navigateTo (url : String) : Deed δ ν τ ScopedEntry
  | entryFor (p : Processor) : Deed δ ν τ ScopedEntry
  | resolve (p : Processor) (scope : Option ν) : Deed δ ν τ ν
  | resolveList (p : Processor) (scope : Option ν) : Deed δ ν τ (List ν)
  | resolveFrom (p : Processor) : Deed δ ν τ ν
  | front : Deed δ ν τ ν
  | typeIn (text : String) : Deed δ ν τ Unit
  | click : Deed δ ν τ Processor
  | textOf (node : Option ν) : Deed δ ν τ String
  | attributeOf (name : String) (node : Option ν) : Deed δ ν τ (Option String)
  | close (owned : Bool) : Deed δ ν τ Unit

/-- A program with values `α`. An entry is called with a block or used, that is entered and left, around it. -/
inductive Program (δ ν τ : Type) : Type → Type 1
  | deed {α : Type} (d : Deed δ ν τ α) : Program δ ν τ α
  | bind {α β : Type} (m : Program δ ν τ α) (k : α → Program δ ν τ β) : Program δ ν τ β
  | attempt {α : Type} (m : Program δ ν τ α) : Program δ ν τ (Except Failure α)
  | call {α : Type} (entry : ScopedEntry) (block : ν → Program δ ν τ α) : Program δ ν τ α
  | use {α : Type} (entry : ScopedEntry) (block : ν → Program δ ν τ α) : Program δ ν τ α
  | forAll {α : Type} (p : Processor) (block : ν → Program δ ν τ α) : Program δ ν τ (List α)
  | endPush (p : Processor) : Program δ ν τ Unit
  | endPushWith {α : Type} (p : Processor) (block : ν → Program δ ν τ α) : Program δ ν τ α
  | onCurrent {α : Type} (block : ν → Program δ ν τ α) : Program δ ν τ α

variable {δ ν τ α : Type}

/-- Does a deed. -/
def Deed.run (E : Engine δ ν) : Deed δ ν τ α → Action (Session δ ν τ) α
  | .host act => Action.within (·.host) (fun h s => { s with host := h }) act
  | .observe look => return look (← get)
  | .engine act => onDesk act
  | .describe target document => Session.describe target document
  | .navigateTo url => Session.navigateTo url
  | .entryFor p => Session.entryFor p
  | .resolve p scope => Session.resolve E p scope
  | .resolveList p scope => Session.resolveList E p scope
  | .resolveFrom p => Session.resolveFrom E p
  | .front => Session.front
  | .typeIn text => Session.typeIn E text
  | .click => Session.click E
  | .textOf node => Session.textOf E node
  | .attributeOf name node => Session.attributeOf E name node
  | .close owned => Session.close E owned

namespace Program

/-- The program that does nothing and has a value. -/
def pure (a : α) : Program δ ν τ α := .deed (.host (Pure.pure a))

/-- The program that fails. -/
def raise (f : Failure) : Program δ ν τ α := .deed (.host (throw f))

/-- Runs a program. -/
def run [DecidableEq ν] (E : Engine δ ν) {α : Type} : Program δ ν τ α → Action (Session δ ν τ) α
  | .deed d => d.run E
  | .bind m k => m.run E >>= fun a => (k a).run E
  | .attempt m => Action.attempt (m.run E)
  | .call entry block => entry.call E fun n => (block n).run E
  | .use entry block => entry.use E fun n => (block n).run E
  | .forAll p block => runEach E p fun n => (block n).run E
  | .endPush p => Session.endPush E p
  | .endPushWith p block => Session.endPushWith E p fun n => (block n).run E
  | .onCurrent block => Session.onCurrent E fun n => (block n).run E

/-- No block of the program runs on the current scope: every block has a scope of its own. -/
def Scoped {α : Type} : Program δ ν τ α → Prop
  | .deed _ => True
  | .bind m k => m.Scoped ∧ ∀ a, (k a).Scoped
  | .attempt m => m.Scoped
  | .call _ block => ∀ n, (block n).Scoped
  | .use _ block => ∀ n, (block n).Scoped
  | .forAll _ block => ∀ n, (block n).Scoped
  | .endPush _ => True
  | .endPushWith _ block => ∀ n, (block n).Scoped
  | .onCurrent _ => False

/-- Everything that the program does without a block of its own has a property. -/
def AllDeeds (P : ∀ {α : Type}, Deed δ ν τ α → Prop) {α : Type} : Program δ ν τ α → Prop
  | .deed d => P d
  | .bind m k => m.AllDeeds P ∧ ∀ a, (k a).AllDeeds P
  | .attempt m => m.AllDeeds P
  | .call _ block => ∀ n, (block n).AllDeeds P
  | .use _ block => ∀ n, (block n).AllDeeds P
  | .forAll _ block => ∀ n, (block n).AllDeeds P
  | .endPush _ => True
  | .endPushWith _ block => ∀ n, (block n).AllDeeds P
  | .onCurrent block => ∀ n, (block n).AllDeeds P

/-! ## Small programs

Programs on pages that need not be loaded, for an engine that has nothing to tell. -/

/-- A processor for a page that is at hand. -/
def page (node : ν) : Program δ ν τ Processor := .deed (.describe (.page none) (some node))

/-- Runs a block in the scope of what a processor resolves to. -/
def inside (p : Processor) (block : ν → Program δ ν τ α) : Program δ ν τ α :=
  .bind (.deed (.entryFor p)) fun entry => .call entry block

/-- An engine whose table is empty. -/
def bareEngine : Engine (Array Tabled.Call) String := Tabled.engine ⟨[], [], []⟩

/-- A session on that engine, with pages in scope. -/
def bareSession (pages : List String) : Session (Array Tabled.Call) String Unit :=
  { Session.start #[] () with frames := pages }

/-- A program for such a session. -/
abbrev Bare (α : Type) : Type 1 := Program (Array Tabled.Call) String Unit α

end Program

end Crawl.Session
