import Crawl.Session.Deed
/-!
# Scripts

A script is a program of session operations written down as data: a sequence of steps, some of which own a block of
further steps. Steps refer to each other's values by name. `Value` is what a step may produce, and `Picture` what a
reader of the trace is shown of it.
-/

namespace Crawl.Script

/-- A value mentioned in a step: a plain one, or one that was saved, perhaps one item of it or the node that a saved
processor has resolved to. -/
inductive Ref
  | plain (d : Datum)
  | saved (name : String) (item : Option Int) (resolved : Bool)

/-- How a step says which processor it means. -/
inductive Sketch
  | having (kind : ElementKind) (variant : Variant) (value : Datum)
  | ofKind (kind : Datum) (draft : Option Descriptor.Draft)
  | page (url : Option String) (document : Option Ref)
  | saved (name : String)

/-- A call of one of the engine's operations. -/
inductive Call
  | loadDocument (url : Ref)
  | findByIdentifier (root value : Ref)
  | findByName (root value : Ref)
  | findByPath (root value : Ref)
  | findAnchorByText (root value : Ref)
  | setValue (node text : Ref)
  | activate (node : Ref)
  | ownerDocument (node : Ref)
  | isDocument (node : Ref)
  | tagName (node : Ref)
  | attr (node name : Ref)
  | textContent (node : Ref)
  | close
  | addPage (url markup : Ref)

/-- A step without a block. -/
inductive Act
  | prepareNavigate (url : String) (entry : Option String)
  | prepareWithin (target : Sketch) (entry : Option String)
  | prepareForAll (target : Sketch) (entry : Option String)
  | describe (target : Sketch)
  | resolveFrom (target : Sketch)
  | endPush (target : Sketch)
  | current
  | frontOrNone
  | depth
  | isEmpty
  | snapshot
  | stackText
  | url
  | click
  | close
  | typeIn (text : String)
  | text (node : Option Ref)
  | attr (name : String) (node : Option Ref)
  | pop
  | pushFront (node : Ref)
  | pushBack (node : Ref)
  | resolve (target : Sketch) (scope : Ref)
  | resolveList (target : Sketch) (scope : Ref)
  | call (call : Call)
  | compare (a b : Ref)
  | sameHash (a b : Ref)
  | quote (a : Ref)
  | fail (message : String)

/-- A step that owns a block; an entry is called with the block, or, when `used` holds, entered and left around
it. An `attempt` turns a failure of its block into a value, and has the value of the block itself only when `keeps`
holds. -/
inductive Opening
  | navigate (url : String) (used : Bool)
  | within (target : Sketch) (used : Bool)
  | forAll (target : Sketch)
  | entry (name : String) (used : Bool)
  | endPush (target : Sketch)
  | onCurrent
  | framed (node : Ref)
  | attempt (keeps : Bool)
  | session
  | engine

end Crawl.Script

namespace Crawl

/-- A sequence of steps. Each step has the label under which the trace shows it, and perhaps a name under which its
value is saved. -/
inductive Script
  | done
  | act (label : String) (act : Script.Act) (save : Option String) (rest : Script)
  | block (label : String) (opening : Script.Opening) (body : Script) (save : Option String) (rest : Script)
deriving Inhabited

namespace Script

/-- What a step may produce on an engine with nodes `ν`. -/
inductive Value (ν : Type) where
  | datum (d : Datum)
  | node (n : ν)
  | processor (p : Processor)
  | list (items : List (Value ν))
  | row (items : List (Value ν))
  | failure (f : Failure)

/-- No value. -/
def Value.null {ν : Type} : Value ν := .datum .null

/-- A text as a value. -/
def Value.text {ν : Type} (s : String) : Value ν := .datum (.text s)

/-- A value that may be missing. -/
def Value.ofOption {α ν : Type} (f : α → Value ν) : Option α → Value ν
  | some a => f a
  | none => .null

/-- What a reader of a trace is shown of a value. -/
inductive Picture where
  | datum (d : Datum)
  | document (url title : String)
  | element (path : String)
  | handle (name : String)
  | processor (shown : String) (resolved : Option Picture)
  | list (items : List Picture)
  | failure (f : Failure)

/-- What happened at a step. -/
inductive Event
  | entered (node : Picture)
  | value (v : Picture)
  | failed (f : Failure)

/-- One line of a trace: where, under which label, what happened, and the nodes in scope afterwards. -/
structure Line where
  place : List Nat
  label : String
  event : Event
  frames : List Picture

/-- An entry that a script saved for later. -/
inductive Prepared
  | scope (entry : Session.ScopedEntry)
  | matching (p : Processor)

/-- What a running script keeps beside the session. -/
structure Host (ν : Type) where
  values : List (String × Value ν)
  entries : List (String × Prepared)
  trace : Array Line

/-- A host before its script runs. -/
def Host.empty {ν : Type} : Host ν := ⟨[], [], #[]⟩

/-- Where a script runs: the engine, whether the session owns it, which nodes plain texts stand for, how a node is
pictured, and how a page is added to the engine. -/
structure Stage (δ ν : Type) where
  engine : Engine δ ν
  owned : Bool
  ofText? : String → Option ν
  picture : δ → ν → Picture
  addPage : String → String → Action (Desk δ) Unit

end Script

end Crawl
