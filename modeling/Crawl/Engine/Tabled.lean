import Crawl.Engine
/-!
# The tabled engine

An engine whose answers stand in a table and whose nodes are names. It records every call made to it, which is what
it is for: to see what a program asks of an engine, and in which order.
-/

namespace Crawl

namespace Tabled

/-- What the table says about a node. -/
structure Row where
  tag : Option String
  attrs : List (String × String)
  text : Option String
  owner : Option String
  activate : Option String

/-- The answer to a query. -/
inductive Answer
  | node (name : String)
  | nodes (names : List String)
  | invalid (reason : String)

/-- A table of answers: rows by node, documents by address, and answers by method, root and value. -/
structure Table where
  rows : List (String × Row)
  load : List (String × String)
  find : List (String × Answer)

/-- A call: the name of the method and its arguments. -/
abbrev Call := List String

/-- The row of a node; a node that is not in the table has an empty row. -/
def Table.row (t : Table) (node : String) : Row :=
  (t.rows.lookup node).getD ⟨none, [], none, none, none⟩

/-- The tag of a node. -/
def Table.tag (t : Table) (node : String) : String := (t.row node).tag.getD "#document"

/-- Records a call. -/
def record (call : Call) : Action (Desk (Array Call)) Unit := Desk.update (·.push call)

/-- The answer to a query, which may be that its value is no valid expression. -/
def Table.answer (t : Table) (method root value : String) : Action (Desk (Array Call)) (Option Answer) := do
  record [method, root, value]
  match t.find.lookup (method ++ "|" ++ root ++ "|" ++ value) with
  | some (.invalid reason) => throw (.invalidExpression value reason)
  | answer => return answer

/-- The answer to a query for one node. -/
def Table.findOne (t : Table) (method root value : String) : Action (Desk (Array Call)) (Option String) := do
  match ← t.answer method root value with
  | some (.node name) => return some name
  | _ => return none

/-- The answer to a query for all nodes. -/
def Table.findAll (t : Table) (method root value : String) : Action (Desk (Array Call)) (List String) := do
  match ← t.answer method root value with
  | some (.nodes names) => return names
  | some (.node name) => return [name]
  | _ => return []

/-- The engine that answers from a table. -/
def engine (t : Table) : Engine (Array Call) String where
  name := "stub"
  loadDocument url := do
    record ["load_document", url]
    match t.load.lookup url with
    | some node => return node
    | none => throw (.navigation (.untabled url))
  findByIdentifier := t.findOne "find_by_identifier"
  findByName := t.findOne "find_by_name"
  findByPath := t.findAll "find_by_path"
  findAnchorByText := t.findOne "find_anchor_by_text"
  setValue node text := record ["set_value", node, text]
  activate node := do
    record ["activate", node]
    return (t.row node).activate.getD "doc"
  ownerDocument node := do
    record ["owner_document", node]
    return (t.row node).owner.getD "doc"
  isDocument node := do
    record ["is_document", node]
    return t.tag node == "#document"
  tagName node := do
    record ["tag_name", node]
    return t.tag node
  attr node name := do
    record ["attribute", node, name]
    return (t.row node).attrs.lookup name
  textContent node := do
    record ["text_content", node]
    return (t.row node).text.getD ""
  close := record ["close"]
  quoted _ := Text.quoted
  same a b := a == b

end Tabled

end Crawl
