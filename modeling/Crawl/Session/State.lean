import Crawl.Engine
/-!
# The state of a session

A session keeps the nodes in scope, the innermost first, what each processor last resolved to, the nodes that the
open uses of each entry brought into scope, and the address it was last sent to. It works over any engine, and
carries a further state `τ` for whatever program is run in it.
-/

namespace Crawl

/-- The state of a session on an engine with states `δ` and nodes `ν`. -/
structure Session (δ ν τ : Type) where
  desk : Desk δ
  frames : List ν
  resolved : Nat → Option ν
  entered : Nat → List ν
  serial : Nat
  url : String
  host : τ

namespace Session

variable {δ ν τ α : Type}

/-- A session at its start. -/
def start (device : δ) (host : τ) : Session δ ν τ where
  desk := ⟨device, #[]⟩
  frames := []
  resolved _ := none
  entered _ := []
  serial := 0
  url := ""
  host := host

/-- Runs an action of the engine. -/
def onDesk (act : Action (Desk δ) α) : Action (Session δ ν τ) α :=
  Action.within (·.desk) (fun d s => { s with desk := d }) act

/-- Writes an entry into the journal. -/
def note (level : Level) (source : Source) (text : String) : Action (Session δ ν τ) Unit :=
  onDesk (Desk.note level source text)

/-- A node as it stands in a message. -/
def quoted (E : Engine δ ν) (node : ν) : Action (Session δ ν τ) String :=
  return E.quoted (← get).desk.device node

/-- A number that was not given out before. -/
def fresh : Action (Session δ ν τ) Nat :=
  modifyGet fun s => (s.serial, { s with serial := s.serial + 1 })

/-- What a processor last resolved to. -/
def lastNode (p : Processor) : Action (Session δ ν τ) (Option ν) :=
  return (← get).resolved p.serial

/-- Remembers what a processor resolved to. -/
def remember (p : Processor) (node : ν) : Action (Session δ ν τ) Unit :=
  modify fun s => { s with resolved := fun i => if i = p.serial then some node else s.resolved i }

/-- A new processor for a target, with the document it starts from. -/
def describe (target : Target) (document : Option ν) : Action (Session δ ν τ) Processor := do
  let p : Processor := ⟨← fresh, target⟩
  match document with
  | some node => remember p node
  | none => pure ()
  return p

/-- A processor as it stands in a message. -/
def shown (p : Processor) : Action (Session δ ν τ) String :=
  return p.target.shown (← lastNode p).isSome

end Session

end Crawl
