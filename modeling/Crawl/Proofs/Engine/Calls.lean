import Crawl.Proofs.Action.Keeps
import Crawl.Engine
/-!
# Calls to an engine

The calls an engine can be asked for, as data beside the engine that answers them. What is to hold of everything an
engine does is said once, of `Engine.perform`, and what is to hold of every state an engine can come to is said of
`Engine.Reaches`.
-/

namespace Crawl.Engine

open Crawl.Action (stateOf)

variable {δ ν : Type}

/-- A call to an engine that hands out nodes `ν`. -/
inductive Call (ν : Type)
  | loadDocument (url : String)
  | findByIdentifier (root : ν) (value : String)
  | findByName (root : ν) (value : String)
  | findByPath (root : ν) (expression : String)
  | findAnchorByText (root : ν) (text : String)
  | setValue (node : ν) (text : String)
  | activate (node : ν)
  | ownerDocument (node : ν)
  | isDocument (node : ν)
  | tagName (node : ν)
  | attr (node : ν) (name : String)
  | textContent (node : ν)
  | close
deriving DecidableEq

/-- What a call is answered with. -/
def Call.Answer : Call ν → Type
  | .loadDocument _ => ν
  | .findByIdentifier .. => Option ν
  | .findByName .. => Option ν
  | .findByPath .. => List ν
  | .findAnchorByText .. => Option ν
  | .setValue .. => Unit
  | .activate _ => ν
  | .ownerDocument _ => ν
  | .isDocument _ => Bool
  | .tagName _ => String
  | .attr .. => Option String
  | .textContent _ => String
  | .close => Unit

/-- Performs a call. -/
def perform (E : Engine δ ν) : (c : Call ν) → Action (Desk δ) c.Answer
  | .loadDocument url => E.loadDocument url
  | .findByIdentifier root value => E.findByIdentifier root value
  | .findByName root value => E.findByName root value
  | .findByPath root expression => E.findByPath root expression
  | .findAnchorByText root text => E.findAnchorByText root text
  | .setValue node text => E.setValue node text
  | .activate node => E.activate node
  | .ownerDocument node => E.ownerDocument node
  | .isDocument node => E.isDocument node
  | .tagName node => E.tagName node
  | .attr node name => E.attr node name
  | .textContent node => E.textContent node
  | .close => E.close

/-- The states that an engine comes to by calls, whatever they end with and whatever is written into the journal
meanwhile. -/
inductive Reaches (E : Engine δ ν) (s : δ) : δ → Prop
  | refl : E.Reaches s s
  | call {s' : δ} (c : Call ν) (j : Journal) (before : E.Reaches s s') :
      E.Reaches s (stateOf (E.perform c ⟨s', j⟩)).device

end Crawl.Engine
