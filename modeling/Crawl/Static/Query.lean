import Crawl.Static.State
import Crawl.XPath.Eval
import Crawl.Text.Compatible
/-!
# Finding and reading nodes

Lookups run over the rows at and below a node. A text that no tree can hold is refused before anything is looked
up.
-/

namespace Crawl.Static

/-- Refuses a text that no tree can hold. -/
def needTreeText (s : String) : Work Unit :=
  if Text.isTreeText s then pure () else throw (.refused .notTreeText)

/-- The first element at or below a node for which a test holds. -/
def findRow (test : Html.Row → Bool) (n : Node) : Work (Option Node) := do
  let s ← Desk.read
  match ((s.tree n.treeOf).fromHere (n.rowOf s)).find? fun p => p.1.isElement && test p.1 with
  | some p => return some (.element n.treeOf p.2)
  | none => return none

/-- The first element with an attribute of the given value. -/
def findByAttr (name : String) (n : Node) (value : String) : Work (Option Node) := do
  needTreeText value
  findRow (fun r => r.attr? name == some value) n

/-- The elements a path expression leads to. -/
def findByPath (n : Node) (expression : String) : Work (List Node) := do
  needTreeText expression
  let s ← Desk.read
  match XPath.select (s.tree n.treeOf) (n.rowOf s) expression with
  | .ok rows => return rows.map (.element n.treeOf)
  | .error e => throw (.invalidExpression expression e.message)

/-- The text at a row, with one space between words. -/
def wordsAt (t : Html.Tree) (i : Nat) : String := Text.normalize (t.textContent i)

/-- The first anchor with the given words. -/
def findAnchorByText (n : Node) (text : String) : Work (Option Node) := do
  let s ← Desk.read
  let t := s.tree n.treeOf
  let wanted := Text.normalize text
  match (t.fromHere (n.rowOf s)).find? fun p => p.1.hasTag "a" && wordsAt t p.2 == wanted with
  | some p => return some (.element n.treeOf p.2)
  | none => return none

/-- The name that an attribute is looked up by. A name may have a space before it in braces; none is ever found in
a space. -/
def attrKey (name : String) : Except Refused (Option String) :=
  if !Text.isTreeText name then .error .notTreeText
  else match name.toList with
    | [] => .error .emptyName
    | '\x7b' :: cs =>
      let space := cs.takeWhile (· != '\x7d')
      match cs.dropWhile (· != '\x7d') with
      | [] => .error .malformedName
      | _ :: key =>
        if key.isEmpty then .error .emptyName
        else .ok (if space.isEmpty then some (String.ofList key) else none)
    | _ => .ok (some name)

/-- An attribute of a node. -/
def attr (n : Node) (name : String) : Work (Option String) := do
  match attrKey name with
  | .error e => throw (.refused e)
  | .ok none => return none
  | .ok (some key) => return n.attr? (← Desk.read) key

/-- The text of a node. -/
def textContent (n : Node) : Work String := do
  let s ← Desk.read
  return wordsAt (s.tree n.treeOf) (n.rowOf s)

/-- Sets the value of an input or the text of a text area. The old text of a text area is taken away before the
new one is looked at. -/
def setValue (n : Node) (text : String) : Work Unit := do
  let s ← Desk.read
  let tag := n.tag s
  if tag = "input" then
    needTreeText text
    Desk.update (·.changeTree n.treeOf (·.setAttr (n.rowOf s) "value" text))
  else if tag = "textarea" then
    Desk.update (·.changeTree n.treeOf (·.setFirstText (n.rowOf s) none))
    needTreeText text
    Desk.update (·.changeTree n.treeOf (·.setFirstText (n.rowOf s) (some text)))
  else throw (.typeMismatch (.notSettable tag))

end Crawl.Static
