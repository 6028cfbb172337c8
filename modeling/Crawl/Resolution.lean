import Crawl.Session.Scope
import Crawl.XPath.Literal
import Crawl.Text.Case
import Crawl.Text.Blank
/-!
# Resolution

A processor is resolved to a node by one rule of a closed table, keyed by the kind of element and the property in
the descriptor. A rule names the query, the node under which it searches, and the check that the match must pass.
Not every rule searches below the scope: some search the whole document that the scope belongs to, and then the
scope only selects the document.
-/

namespace Crawl

/-- Where a rule searches. -/
inductive SearchRoot
  | document
  | scope
  | form
deriving DecidableEq, Repr

/-- The word for a search root. -/
def SearchRoot.word : SearchRoot → String
  | document => "document"
  | scope => "scope"
  | form => "form"

/-- What a rule asks the engine. -/
inductive Query
  | identifier
  | name
  | firstByPath
  | anchorText
  | anchorTitle
deriving DecidableEq, Repr

/-- What a match must be. -/
inductive Check
  | textField
  | submitControl
  | tag (name : String)
deriving DecidableEq, Repr

/-- How a pair of kind and property is resolved. -/
structure Rule where
  query : Query
  root : SearchRoot
  check : Option Check
  expected : String
deriving DecidableEq, Repr

namespace Rule

/-- A rule whose match may be any element. -/
def unchecked (query : Query) (root : SearchRoot) : Rule := ⟨query, root, none, "element"⟩

/-- A rule whose match must have a tag. -/
def tagged (query : Query) (root : SearchRoot) (tag : String) : Rule :=
  ⟨query, root, some (.tag tag), "<" ++ tag ++ ">"⟩

/-- A rule whose match must be a text field. -/
def forTextField (query : Query) (root : SearchRoot) : Rule := ⟨query, root, some .textField, "text input"⟩

/-- A rule whose match must be a submit control. -/
def forSubmit (query : Query) (root : SearchRoot) : Rule := ⟨query, root, some .submitControl, "submit control"⟩

/-- All rules, in the order of the table. -/
def table : List ((ElementKind × Variant) × Rule) := [
  ((.form, .identifier), tagged .identifier .document "form"),
  ((.textField, .name), forTextField .name .form),
  ((.textField, .identifier), forTextField .identifier .scope),
  ((.submitControl, .name), forSubmit .name .form),
  ((.submitControl, .identifier), forSubmit .identifier .scope),
  ((.link, .xpath), tagged .firstByPath .scope "a"),
  ((.link, .text), unchecked .anchorText .document),
  ((.link, .identifier), unchecked .identifier .document),
  ((.link, .title), tagged .anchorTitle .scope "a"),
  ((.image, .xpath), tagged .firstByPath .scope "img"),
  ((.container, .xpath), unchecked .firstByPath .scope),
  ((.container, .identifier), unchecked .identifier .document),
  ((.area, .xpath), tagged .firstByPath .scope "area")]

/-- The rule for a pair, if there is one. -/
def find? (kind : ElementKind) (variant : Variant) : Option Rule :=
  (table.find? (·.1 == (kind, variant))).map (·.2)

/-- The properties a kind can be found by, in the order of the table. -/
def variants (kind : ElementKind) : List Variant :=
  (table.filter (·.1.1 == kind)).map (·.1.2)

/-- The descriptor of a target together with its rule. -/
def forTarget (target : Target) : Except Failure (Descriptor × Rule) :=
  match target.descriptor with
  | none => .error (.unsupportedDescriptor target.kind.word none)
  | some d => match find? target.kind d.variant with
    | none => .error (.unsupportedDescriptor target.kind.word (some d.variant.word))
    | some rule => .ok (d, rule)

end Rule

variable {δ ν τ : Type}

/-- The types of an `input` that text can be typed into. -/
def textInputTypes : List String :=
  ["", "text", "password", "email", "search", "tel", "url", "number", "date", "datetime-local", "month", "week",
    "time"]

/-- The type of an input or a button, in lower case and without blanks around it. -/
def inputType (E : Engine δ ν) (node : ν) : Action (Desk δ) String := do
  return Text.lower (Text.strip ((← E.attr node "type").getD ""))

/-- Whether a node passes a check. -/
def Check.holds (E : Engine δ ν) (node : ν) : Check → Action (Desk δ) Bool
  | .textField => do
    let tag ← E.tagName node
    if tag == "textarea" then return true
    else if tag == "input" then return textInputTypes.contains (← inputType E node)
    else return false
  | .submitControl => do
    let tag ← E.tagName node
    if tag == "input" then return ["submit", "image"].contains (← inputType E node)
    else if tag == "button" then return ["", "submit"].contains (← inputType E node)
    else return false
  | .tag name => return (← E.tagName node) == name

/-- The path to the anchors with a title. -/
def anchorTitlePath (title : String) : String := "//a[@title=" ++ XPath.literal title ++ "]"

/-- Asks the engine a rule's question under a root. -/
def Query.ask (E : Engine δ ν) (root : ν) (value : String) : Query → Action (Desk δ) (Option ν)
  | .identifier => E.findByIdentifier root value
  | .name => E.findByName root value
  | .firstByPath => return (← E.findByPath root value).head?
  | .anchorText => E.findAnchorByText root value
  | .anchorTitle => return (← E.findByPath root (anchorTitlePath value)).head?

namespace Session

/-- The node under which a rule searches. -/
def searchRoot (E : Engine δ ν) (p : Processor) (scope : ν) : SearchRoot → Action (Session δ ν τ) ν
  | .document => onDesk (E.ownerDocument scope)
  | .scope => return scope
  | .form => do
    let tag ← onDesk (E.tagName scope)
    if tag = "form" then return scope
    else throw (.typeMismatch (.outsideForm (← shown p) tag))

/-- Resolves a page: a descriptor is refused, an address is loaded, and without one the document at hand is the
page. -/
def resolvePage (E : Engine δ ν) (p : Processor) : Action (Session δ ν τ) ν := do
  match p.target with
  | .element kind (some d) => throw (.unsupportedDescriptor kind.word (some d.variant.word))
  | target =>
    let url := match target with
      | .page (some url) => url
      | _ => ""
    if url ≠ "" then onDesk (E.loadDocument url)
    else match ← lastNode p with
      | some node => return node
      | none => throw (.navigation .noAddress)

/-- Resolves any other element by its rule. -/
def resolveElement (E : Engine δ ν) (p : Processor) (scope : Option ν) : Action (Session δ ν τ) ν := do
  let (d, rule) ← Action.ofExcept (Rule.forTarget p.target)
  match scope with
  | none => throw (.typeMismatch (.needsScope (← shown p)))
  | some scope =>
    let root ← searchRoot E p scope rule.root
    match ← onDesk (rule.query.ask E root d.value) with
    | none => throw (.nodeNotFound (.noMatch p.target.kind d))
    | some node =>
      match rule.check with
      | none => return node
      | some check =>
        if ← onDesk (check.holds E node) then return node
        else throw (.typeMismatch (.unexpected p.target.kind d (← onDesk (E.tagName node)) rule.expected))

/-- Resolves a processor relative to a scope and remembers the node. -/
def resolve (E : Engine δ ν) (p : Processor) (scope : Option ν) : Action (Session δ ν τ) ν := do
  let node ← if p.target.kind = .page then resolvePage E p else resolveElement E p scope
  remember p node
  note .debug .resolver ("Resolved " ++ (← shown p) ++ " to " ++ (← quoted E node))
  return node

/-- All matches of a processor's path, in document order. -/
def resolveList (E : Engine δ ν) (p : Processor) (scope : Option ν) : Action (Session δ ν τ) (List ν) := do
  let refuse (variant : Option Variant) : Failure :=
    .unsupportedDescriptor p.target.kind.word (variant.map Variant.word)
  match p.target.descriptor with
  | none => throw (refuse none)
  | some d =>
    if d.variant ≠ .xpath then throw (refuse (some d.variant))
    else match scope with
      | none => throw (.typeMismatch (.needsScope (← shown p)))
      | some scope =>
        let nodes ← onDesk (E.findByPath scope d.value)
        note .debug .resolver ("Resolved " ++ (← shown p) ++ " to " ++ toString nodes.length ++ " nodes")
        return nodes

end Session

end Crawl
