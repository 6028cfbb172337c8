import Crawl.Proofs.Engine.Calls
/-!
# Engines under watch

Any engine can be watched: beside its own state it then keeps the calls that were made to it. A call is written down
whether it succeeds or not, and apart from that a watched engine does what the engine does.
-/

namespace Crawl.Engine

open Crawl.Action (stateOf)

variable {δ ν α : Type}

/-- The state of an engine with the calls made to it, the earliest first. -/
structure Watched (δ ν : Type) where
  device : δ
  calls : List (Call ν)

/-- Does what a call does, and writes the call down. -/
def watch (c : Call ν) (act : Action (Desk δ) α) : Action (Desk (Watched δ ν)) α :=
  Action.within (fun d => ⟨d.device.device, d.journal⟩) (fun d w => ⟨⟨d.device, w.device.calls ++ [c]⟩, d.journal⟩) act

/-- An engine under watch. -/
def watched (E : Engine δ ν) : Engine (Watched δ ν) ν where
  name := E.name
  loadDocument url := watch (.loadDocument url) (E.loadDocument url)
  findByIdentifier root value := watch (.findByIdentifier root value) (E.findByIdentifier root value)
  findByName root value := watch (.findByName root value) (E.findByName root value)
  findByPath root expression := watch (.findByPath root expression) (E.findByPath root expression)
  findAnchorByText root text := watch (.findAnchorByText root text) (E.findAnchorByText root text)
  setValue node text := watch (.setValue node text) (E.setValue node text)
  activate node := watch (.activate node) (E.activate node)
  ownerDocument node := watch (.ownerDocument node) (E.ownerDocument node)
  isDocument node := watch (.isDocument node) (E.isDocument node)
  tagName node := watch (.tagName node) (E.tagName node)
  attr node name := watch (.attr node name) (E.attr node name)
  textContent node := watch (.textContent node) (E.textContent node)
  close := watch .close E.close
  quoted w := E.quoted w.device
  same := E.same

theorem perform_watched (E : Engine δ ν) (c : Call ν) : E.watched.perform c = watch c (E.perform c) := by
  cases c <;> rfl

/-- Every call to a watched engine is written down once, however it ends. -/
theorem calls_perform (E : Engine δ ν) (c : Call ν) (d : Desk (Watched δ ν)) :
    (stateOf (E.watched.perform c d)).device.calls = d.device.calls ++ [c] := by
  rw [perform_watched, watch, Action.stateOf_within]

/-- The address that a call loads. -/
def Call.address? : Call ν → Option String
  | .loadDocument url => some url
  | _ => none

/-- The addresses that were loaded, the earliest first. -/
def Watched.loads (w : Watched δ ν) : List String := w.calls.filterMap Call.address?

theorem loads_perform (E : Engine δ ν) (c : Call ν) (d : Desk (Watched δ ν)) :
    (stateOf (E.watched.perform c d)).device.loads = d.device.loads ++ c.address?.toList := by
  unfold Watched.loads
  rw [calls_perform, List.filterMap_append]
  cases c <;> rfl

end Crawl.Engine
