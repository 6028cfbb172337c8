import Crawl.Script.Basic
/-!
# Running a script

A script is run step by step in a session. Every step leaves a line in the trace, also a step that fails; a failure
leaves the steps that own the failing one, each of which writes its line after its own scope was left, until an
`attempt` catches it. The value of a script is the value of its last step.
-/

namespace Crawl.Script

variable {δ ν : Type}

/-- An action of a running script. -/
abbrev Run (δ ν α : Type) := Action (Session δ ν (Host ν)) α

/-! ## Values -/

mutual

/-- The picture of a value, from pictures of nodes and processors. -/
def Value.picture (node : ν → Picture) (processor : Processor → Picture) : Value ν → Picture
  | .datum d => .datum d
  | .node n => node n
  | .processor p => processor p
  | .list items => .list (Value.pictures node processor items)
  | .row items => .list (Value.pictures node processor items)
  | .failure f => .failure f

/-- The pictures of some values. -/
def Value.pictures (node : ν → Picture) (processor : Processor → Picture) : List (Value ν) → List Picture
  | [] => []
  | v :: vs => Value.picture node processor v :: Value.pictures node processor vs

end

mutual

/-- Whether two values are equal: nodes that stand for the same thing are. -/
def Value.equal (S : Stage δ ν) : Value ν → Value ν → Bool
  | .node a, .node b => S.engine.same a b
  | .node a, .datum (.text t) => (S.ofText? t).any (S.engine.same a)
  | .datum (.text t), .node b => (S.ofText? t).any (S.engine.same · b)
  | .datum a, .datum b => a.same b
  | .processor p, .processor q => p == q
  | .list as, .list bs => Value.equalAll S as bs
  | .row as, .row bs => Value.equalAll S as bs
  | .failure f, .failure g => f.kind == g.kind && f.message == g.message
  | _, _ => false

/-- Whether two lists of values are equal. -/
def Value.equalAll (S : Stage δ ν) : List (Value ν) → List (Value ν) → Bool
  | [], [] => true
  | a :: as, b :: bs => Value.equal S a b && Value.equalAll S as bs
  | _, _ => false

end

/-- Whether two values are one: handles are told apart even if they stand for the same thing. -/
def Value.identical [DecidableEq ν] (S : Stage δ ν) : Value ν → Value ν → Bool
  | .node a, .node b => a = b
  | a, b => Value.equal S a b

/-- Items between brackets; a row of one item has a comma behind it. -/
def bracketed (isRow : Bool) (parts : List String) : String :=
  if isRow then
    match parts with
    | [p] => "(" ++ p ++ ",)"
    | _ => "(" ++ Datum.commas parts ++ ")"
  else "[" ++ Datum.commas parts ++ "]"

mutual

/-- A value as it stands in a message. -/
def Value.quoted (node : ν → String) (processor : Processor → String) : Value ν → String
  | .datum d => d.quoted
  | .node n => node n
  | .processor p => processor p
  | .list items => bracketed false (Value.quotedAll node processor items)
  | .row items => bracketed true (Value.quotedAll node processor items)
  | .failure f =>
    (Datum.record [("error", .text f.kind.name), ("message", .text f.message)]).quoted

/-- Values as they stand in a message. -/
def Value.quotedAll (node : ν → String) (processor : Processor → String) : List (Value ν) → List String
  | [] => []
  | v :: vs => Value.quoted node processor v :: Value.quotedAll node processor vs

end

/-! ## Names -/

/-- Changes what the script keeps. -/
def modifyHost (f : Host ν → Host ν) : Run δ ν Unit := modify fun s => { s with host := f s.host }

/-- Saves a value under a name. -/
def saveAs (name : String) (v : Value ν) : Run δ ν Unit :=
  modifyHost fun h => { h with values := (name, v) :: h.values }

/-- The value saved under a name. -/
def saved (name : String) : Run δ ν (Value ν) := do
  match (← get).host.values.lookup name with
  | some v => return v
  | none => throw (.unknownName name)

/-- An item of a list; a negative place counts from the end. -/
def itemAt (v : Value ν) (i : Int) : Option (Value ν) :=
  let pick (items : List (Value ν)) := items[(if i < 0 then i + items.length else i).toNat]?
  match v with
  | .list items => pick items
  | .row items => pick items
  | _ => none

/-- The value that a reference means. -/
def value : Ref → Run δ ν (Value ν)
  | .plain d => return .datum d
  | .saved name item resolved => do
    let v ← saved name
    let v ← match item with
      | none => pure v
      | some i => match itemAt v i with
        | some w => pure w
        | none => throw (.unknownName (toString i))
    if resolved then
      match v with
      | .processor p => return Value.ofOption .node (← Session.lastNode p)
      | _ => throw (.misuse "only a processor resolves to a node")
    else return v

/-- The node that a value is, if it is one. -/
def Value.node? (S : Stage δ ν) : Value ν → Option ν
  | .node n => some n
  | .datum (.text t) => S.ofText? t
  | _ => none

/-- The node that a reference means. -/
def node (S : Stage δ ν) (r : Ref) : Run δ ν ν := do
  match (← value r).node? S with
  | some n => return n
  | none => throw (.misuse "not a node")

/-- The node that a reference means, if it means one. -/
def node? (S : Stage δ ν) (r : Ref) : Run δ ν (Option ν) := do
  return (← value r).node? S

/-- The text that a reference means. -/
def text (r : Ref) : Run δ ν String := do
  match ← value r with
  | .datum d => return d.display
  | _ => throw (.misuse "not a text")

/-- A refusal of a descriptor as a failure of an action. -/
def descriptor (r : Except Descriptor.Fault Descriptor) : Run δ ν Descriptor :=
  match r with
  | .ok d => pure d
  | .error e => throw (.refused (.descriptor e))

/-- The processor that a step means. -/
def processor (S : Stage δ ν) : Sketch → Run δ ν Processor
  | .having kind variant v => do
    let accepted := Descriptor.Draft.accept ⟨.text variant.word, v⟩
    let d ← descriptor (accepted.bind Descriptor.Accepted.descriptor)
    Session.describe (.element kind (some d)) none
  | .ofKind kind draft => do
    match ElementKind.ofDatum kind with
    | .error words => throw (.refused (.kind words))
    | .ok kind => match draft with
      | none => Session.describe (.element kind none) none
      | some draft => do
        let d ← descriptor (draft.accept.bind Descriptor.Accepted.descriptor)
        Session.describe (.element kind (some d)) none
  | .page url document => do
    match document with
    | none => Session.describe (.page url) none
    | some r => Session.describe (.page url) (← node? S r)
  | .saved name => do
    match ← saved name with
    | .processor p => return p
    | _ => throw (.misuse "not a processor")

/-! ## The trace -/

/-- The picture of a value as the session stands. -/
def picture (S : Stage δ ν) (v : Value ν) : Run δ ν Picture := do
  let s ← get
  let node := S.picture s.desk.device
  let processor (p : Processor) : Picture :=
    .processor (p.target.shown (s.resolved p.serial).isSome) ((s.resolved p.serial).map node)
  return v.picture node processor

/-- Writes a line into the trace. -/
def trace (S : Stage δ ν) (place : List Nat) (label : String) (event : Event) : Run δ ν Unit := do
  let s ← get
  let frames := s.frames.map (S.picture s.desk.device)
  modifyHost fun h => { h with trace := h.trace.push ⟨place, label, event, frames⟩ }

/-! ## Steps -/

/-- Makes a call of the engine. -/
def engineCall (S : Stage δ ν) (call : Call) : Run δ ν (Value ν) := do
  let E := S.engine
  match call with
  | .loadDocument url => return .node (← Session.onDesk (E.loadDocument (← text url)))
  | .findByIdentifier root v =>
    return Value.ofOption .node (← Session.onDesk (E.findByIdentifier (← node S root) (← text v)))
  | .findByName root v =>
    return Value.ofOption .node (← Session.onDesk (E.findByName (← node S root) (← text v)))
  | .findByPath root v =>
    return .list ((← Session.onDesk (E.findByPath (← node S root) (← text v))).map .node)
  | .findAnchorByText root v =>
    return Value.ofOption .node (← Session.onDesk (E.findAnchorByText (← node S root) (← text v)))
  | .setValue n t =>
    Session.onDesk (E.setValue (← node S n) (← text t))
    return .null
  | .activate n => return .node (← Session.onDesk (E.activate (← node S n)))
  | .ownerDocument n => return .node (← Session.onDesk (E.ownerDocument (← node S n)))
  | .isDocument n => return .datum (.flag (← Session.onDesk (E.isDocument (← node S n))))
  | .tagName n => return .text (← Session.onDesk (E.tagName (← node S n)))
  | .attr n name => return Value.ofOption .text (← Session.onDesk (E.attr (← node S n) (← text name)))
  | .textContent n => return .text (← Session.onDesk (E.textContent (← node S n)))
  | .close =>
    Session.onDesk E.close
    return .null
  | .addPage url markup =>
    Session.onDesk (S.addPage (← text url) (← text markup))
    return .null

/-- Keeps an entry for later under a name. -/
def keep (name : Option String) (prepared : Prepared) : Run δ ν (Value ν) := do
  match name with
  | some name => modifyHost fun h => { h with entries := (name, prepared) :: h.entries }
  | none => pure ()
  return .null

/-- Performs a step without a block. -/
def perform [DecidableEq ν] (S : Stage δ ν) (act : Act) : Run δ ν (Value ν) := do
  let E := S.engine
  match act with
  | .prepareNavigate url entry => keep entry (.scope (← Session.navigateTo url))
  | .prepareWithin target entry => keep entry (.scope (← Session.entryFor (← processor S target)))
  | .prepareForAll target entry => keep entry (.matching (← processor S target))
  | .describe target => return .processor (← processor S target)
  | .resolveFrom target => return .node (← Session.resolveFrom E (← processor S target))
  | .endPush target =>
    Session.endPush E (← processor S target)
    return .null
  | .current => return .node (← Session.front)
  | .frontOrNone => return Value.ofOption .node (← Session.frontOrNone)
  | .depth => return .datum (.whole (← Session.depth))
  | .isEmpty => return .datum (.flag ((← Session.depth) == 0))
  | .snapshot => return .row ((← Session.snapshot).map .node)
  | .stackText => return .text ("ScopeStack(depth=" ++ toString (← Session.depth) ++ ")")
  | .url => return .text (← get).url
  | .click => return .processor (← Session.click E)
  | .close =>
    Session.close E S.owned
    return .null
  | .typeIn t =>
    Session.typeIn E t
    return .null
  | .text none => return .text (← Session.textOf E none)
  | .text (some n) => return .text (← Session.textOf E (← node? S n))
  | .attr name none => return Value.ofOption .text (← Session.attributeOf E name none)
  | .attr name (some n) => return Value.ofOption .text (← Session.attributeOf E name (← node? S n))
  | .pop => return .node (← Session.popFront E)
  | .pushFront n =>
    Session.pushFront E (← node S n)
    return .null
  | .pushBack n =>
    Session.pushBack E (← node S n)
    return .null
  | .resolve target scope =>
    let p ← processor S target
    return .node (← Session.resolve E p (← node? S scope))
  | .resolveList target scope =>
    let p ← processor S target
    return .list ((← Session.resolveList E p (← node? S scope)).map .node)
  | .call c => engineCall S c
  | .compare a b =>
    let a ← value a
    let b ← value b
    return .list [.datum (.flag (a.equal S b)), .datum (.flag (a.identical S b))]
  | .sameHash a b => return .datum (.flag ((← value a).equal S (← value b)))
  | .quote a =>
    let v ← value a
    let s ← get
    return .text
      (v.quoted (E.quoted s.desk.device) fun p => p.target.shown (s.resolved p.serial).isSome)
  | .fail message => throw (.block message)

/-- Performs a step that owns a block: `scope` is the block as run against a node, `plain` the block by itself. -/
def enclose [DecidableEq ν] (S : Stage δ ν) (scope : Session.Block δ ν (Host ν) (Value ν))
    (plain : Run δ ν (Value ν)) (opening : Opening) : Run δ ν (Value ν) := do
  let E := S.engine
  let run (used : Bool) (entry : Session.ScopedEntry) : Run δ ν (Value ν) :=
    if used then entry.use E scope else entry.call E scope
  match opening with
  | .navigate url used => run used (← Session.navigateTo url)
  | .within target used => run used (← Session.entryFor (← processor S target))
  | .forAll target => return .list (← Session.runEach E (← processor S target) scope)
  | .entry name used =>
    match (← get).host.entries.lookup name with
    | some (.scope entry) => run used entry
    | some (.matching p) => return .list (← Session.runEach E p scope)
    | none => throw (.unknownName name)
  | .endPush target => Session.endPushWith E (← processor S target) scope
  | .onCurrent => Session.onCurrent E scope
  | .framed n =>
    let n ← node S n
    let _ ← Session.inScope E n (scope n)
    return .null
  | .attempt keeps =>
    match ← Action.attempt plain with
    | .ok v => return if keeps then v else .null
    | .error f => return .failure f
  | .session =>
    let _ ← Action.always plain (Session.close E S.owned)
    return .datum (.flag true)
  | .engine =>
    let _ ← Action.always plain (Session.onDesk E.close)
    return .datum (.flag true)

/-- Runs a step: saves its value under its name and writes its line, and writes a line also when it fails. -/
def step (S : Stage δ ν) (place : List Nat) (label : String) (save : Option String)
    (body : Run δ ν (Value ν)) : Run δ ν (Value ν) := do
  match ← Action.attempt body with
  | .ok v =>
    match save with
    | some name => saveAs name v
    | none => pure ()
    trace S place label (.value (← picture S v))
    return v
  | .error f =>
    trace S place label (.failed f)
    throw f

/-- Runs a script whose next step is the one numbered `i` at `path`; `last` is the value of the step before. -/
def run [DecidableEq ν] (S : Stage δ ν) : Script → (path : List Nat) → (i : Nat) → (last : Value ν) →
    Run δ ν (Value ν)
  | .done, _, _, last => return last
  | .act label deed save rest, path, i, _ => do
    let v ← step S (path ++ [i]) label save (perform S deed)
    run S rest path (i + 1) v
  | .block label opening body save rest, path, i, _ => do
    let here := path ++ [i]
    let plain := run S body here 0 .null
    let scope (n : ν) : Run δ ν (Value ν) := do
      saveAs "node" (.node n)
      trace S here "enter" (.entered (← picture S (.node n)))
      plain
    let v ← step S here label save (enclose S scope plain opening)
    run S rest path (i + 1) v

/-- How a script ended: its value or its failure, and the session it left. -/
structure Outcome (δ ν : Type) where
  result : Except Failure Picture
  session : Session δ ν (Host ν)

/-- Runs a script in a new session. -/
def play [DecidableEq ν] (S : Stage δ ν) (device : δ) (script : Script) : Outcome δ ν :=
  let start : Session δ ν (Host ν) := Session.start device Host.empty
  match (do picture S (← run S script [] 0 .null)) start with
  | .ok v s => ⟨.ok v, s⟩
  | .error f s => ⟨.error f, s⟩

end Crawl.Script
