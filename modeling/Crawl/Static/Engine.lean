import Crawl.Static.Query
import Crawl.Static.Activate
/-!
# The static engine

Pages without scripts: what is loaded is read once, and only typing into fields changes it.
-/

namespace Crawl.Static

/-- The static engine. -/
def engine : Engine State Node where
  name := "static"
  loadDocument url := load url none
  findByIdentifier := findByAttr "id"
  findByName := findByAttr "name"
  findByPath := findByPath
  findAnchorByText := findAnchorByText
  setValue := setValue
  activate := activate
  ownerDocument := ownerDocument
  isDocument n := return match n with
    | .document .. => true
    | .element .. => false
  tagName n := return n.tag (← Desk.read)
  attr := attr
  textContent := textContent
  close := Desk.update fun s => { s with client := { s.client with closed := s.client.closed + 1 } }
  quoted := Node.quoted
  same := Node.same

/-- The words of the first title of a document. -/
def title (s : State) (n : Node) : String :=
  let t := s.tree n.treeOf
  match (t.below (n.rowOf s)).find? (·.1.hasTag "title") with
  | some p => wordsAt t p.2
  | none => ""

end Crawl.Static
