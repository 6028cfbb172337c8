import Crawl.Session.State
/-!
# Scopes

The nodes in scope form a queue whose front is the current scope. Blocks push and pop at the front; `pushBack` puts
a node behind all others, where it becomes the current scope once every open block has ended. A block's scope is
left whatever happens in the block, and leaving it tells when the node found in front is not the one that was
brought in.
-/

namespace Crawl.Session

variable {δ ν τ α : Type}

/-- How many nodes are in scope. -/
def depth : Action (Session δ ν τ) Nat := return (← get).frames.length

/-- The nodes in scope, the current one first. -/
def snapshot : Action (Session δ ν τ) (List ν) := return (← get).frames

/-- The current scope, if there is one. -/
def frontOrNone : Action (Session δ ν τ) (Option ν) := return (← get).frames.head?

/-- The current scope. -/
def front : Action (Session δ ν τ) ν := do
  match ← frontOrNone with
  | some node => return node
  | none => throw (.stackImbalance .noScope)

/-- Makes a node the current scope. -/
def pushFront (E : Engine δ ν) (node : ν) : Action (Session δ ν τ) Unit := do
  note .debug .scope ("Pushing: " ++ (← quoted E node))
  modify fun s => { s with frames := node :: s.frames }

/-- Puts a node behind all others. -/
def pushBack (E : Engine δ ν) (node : ν) : Action (Session δ ν τ) Unit := do
  note .debug .scope ("Pushing to end: " ++ (← quoted E node))
  modify fun s => { s with frames := s.frames ++ [node] }

/-- Removes the current scope and returns it. -/
def popFront (E : Engine δ ν) : Action (Session δ ν τ) ν := do
  match (← get).frames with
  | [] => throw (.stackImbalance .emptyPop)
  | node :: rest =>
    modify fun s => { s with frames := rest }
    note .debug .scope ("Popped: " ++ (← quoted E node))
    return node

/-- Removes the current scope, which must be `node`; another one is removed and reported. -/
def leave [DecidableEq ν] (E : Engine δ ν) (node : ν) : Action (Session δ ν τ) Unit := do
  let popped ← popFront E
  if popped = node then pure ()
  else throw (.stackImbalance (.foreign (← quoted E node) (← quoted E popped)))

/-- Runs `body` with `node` as the current scope. -/
def inScope [DecidableEq ν] (E : Engine δ ν) (node : ν) (body : Action (Session δ ν τ) α) :
    Action (Session δ ν τ) α := do
  pushFront E node
  Action.always body (leave E node)

end Crawl.Session
