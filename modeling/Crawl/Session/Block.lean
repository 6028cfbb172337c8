import Crawl.Resolution
/-!
# Blocks

A block is run against a node and returns a value. Every block that runs inside a scope has that scope removed
again on every way out of it.
-/

namespace Crawl.Session

variable {δ ν τ α : Type}

/-- A block: an action that is handed the node it runs against. -/
abbrev Block (δ ν τ α : Type) := ν → Action (Session δ ν τ) α

/-- Resolves a processor against the current scope, if there is one. -/
def resolveHere (E : Engine δ ν) (p : Processor) : Action (Session δ ν τ) ν := do
  resolve E p (← frontOrNone)

/-- Runs a block with the processor's node as its scope. -/
def runScoped [DecidableEq ν] (E : Engine δ ν) (p : Processor) (block : Block δ ν τ α) :
    Action (Session δ ν τ) α := do
  let node ← resolveHere E p
  inScope E node (block node)

/-- Runs a block once for each node of a list, each time in the scope of that node. -/
def runOver [DecidableEq ν] (E : Engine δ ν) (block : Block δ ν τ α) : List ν → Action (Session δ ν τ) (List α)
  | [] => return []
  | node :: nodes => do
    let value ← inScope E node (block node)
    return value :: (← runOver E block nodes)

/-- Runs a block once for each match of a processor's path, in document order. -/
def runEach [DecidableEq ν] (E : Engine δ ν) (p : Processor) (block : Block δ ν τ α) :
    Action (Session δ ν τ) (List α) := do
  let nodes ← resolveList E p (← frontOrNone)
  runOver E block nodes

/-- The node that a processor has resolved to. -/
def resolvedNode (p : Processor) : Action (Session δ ν τ) ν := do
  match ← lastNode p with
  | some node => return node
  | none => throw (.nodeNotFound (.unresolved (← shown p)))

/-- Puts the processor's node behind all others, where it waits until the open blocks have ended. -/
def endPush (E : Engine δ ν) (p : Processor) : Action (Session δ ν τ) Unit := do
  pushBack E (← resolvedNode p)

/-- Runs a block in the scope of the processor's node. -/
def endPushWith [DecidableEq ν] (E : Engine δ ν) (p : Processor) (block : Block δ ν τ α) :
    Action (Session δ ν τ) α := do
  let node ← resolvedNode p
  inScope E node (block node)

/-- Runs a block against the current scope, and drops that scope. -/
def onCurrent (E : Engine δ ν) (block : Block δ ν τ α) : Action (Session δ ν τ) α := do
  let node ← front
  Action.always (block node) (do let _ ← popFront E)

end Crawl.Session
