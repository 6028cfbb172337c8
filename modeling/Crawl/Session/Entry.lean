import Crawl.Session.Block
/-!
# Entries

An entry is a scope that waits to be used. It can be called with a block, or entered and left again, and it may be
entered once more before it is left. Leaving it ends the latest of its open uses.
-/

namespace Crawl.Session

variable {δ ν τ α : Type}

/-- A scope that waits to be used. -/
structure ScopedEntry where
  serial : Nat
  processor : Processor
deriving DecidableEq

/-- A new entry for a processor. -/
def entryFor (p : Processor) : Action (Session δ ν τ) ScopedEntry := do return ⟨← fresh, p⟩

/-- Replaces the nodes of an entry's open uses. -/
def setEntered (entry : ScopedEntry) (nodes : List ν) : Action (Session δ ν τ) Unit :=
  modify fun s => { s with entered := fun i => if i = entry.serial then nodes else s.entered i }

namespace ScopedEntry

/-- Runs a block in the entry's scope. -/
def call [DecidableEq ν] (E : Engine δ ν) (entry : ScopedEntry) (block : Block δ ν τ α) :
    Action (Session δ ν τ) α :=
  runScoped E entry.processor block

/-- Enters the scope and returns its node. -/
def enter (E : Engine δ ν) (entry : ScopedEntry) : Action (Session δ ν τ) ν := do
  let node ← resolveHere E entry.processor
  pushFront E node
  setEntered entry (node :: (← get).entered entry.serial)
  return node

/-- Leaves the scope of the latest open use. -/
def exit [DecidableEq ν] (E : Engine δ ν) (entry : ScopedEntry) : Action (Session δ ν τ) Unit := do
  match (← get).entered entry.serial with
  | [] => throw .notEntered
  | node :: nodes =>
    setEntered entry nodes
    leave E node

/-- Enters the scope, runs a block, and leaves the scope whatever happens. -/
def use [DecidableEq ν] (E : Engine δ ν) (entry : ScopedEntry) (block : Block δ ν τ α) :
    Action (Session δ ν τ) α := do
  let node ← enter E entry
  Action.always (block node) (exit E entry)

end ScopedEntry

end Crawl.Session
