import Crawl.Engine
import Crawl.Static.Files
import Crawl.Static.Client
import Crawl.Html.Parse
/-!
# The state of the static engine

The engine knows some pages by heart, reads files, and asks a client for remote pages. Every page it loads becomes
a tree of its own, also when the same address is loaded again. A document is a handle to such a tree together with
the address it goes by; there may be several handles to one tree.
-/

namespace Crawl.Static

/-- A loaded page: its tree and the address that was recorded for it. -/
structure Loaded where
  tree : Html.Tree
  base : Option String

/-- The state of the engine. -/
structure State where
  pages : List (String × String)
  files : Files
  client : Client
  timeout : Float
  loaded : Array Loaded
  handles : Nat

/-- What the engine hands out: a handle to a whole document, or an element, by the numbers of its tree and row. -/
inductive Node
  | document (handle tree : Nat) (url : String)
  | element (tree row : Nat)
deriving DecidableEq, Repr

/-- An action of the engine. -/
abbrev Work (α : Type) := Action (Desk State) α

/-- The timeout in seconds for one in milliseconds; a number too large to be a double is refused. -/
def timeoutOf (ms : Int) : Except Failure Float :=
  let x := Float.ofInt ms
  if x.isInf then .error .tooLarge
  else
    let seconds := x / 1000.0
    .ok (if seconds > 0.001 then seconds else 0.001)

namespace State

/-- The state of a new engine. -/
def start (pages : List (String × String)) (files : Files) (replies : List Reply) (agent : Option String)
    (timeoutMs : Int) : Except Failure State :=
  match timeoutOf timeoutMs with
  | .error e => .error e
  | .ok timeout =>
    let client := Client.start replies
    let client := match agent with
      | some name => if name.isEmpty then client else { client with agent := name }
      | none => client
    .ok ⟨pages, files, client, timeout, #[], 0⟩

/-- Puts a page into the engine's memory. -/
def addPage (s : State) (url markup : String) : State := { s with pages := (url, markup) :: s.pages }

/-- The tree with a number. -/
def tree (s : State) (k : Nat) : Html.Tree := (s.loaded[k]?.map Loaded.tree).getD []

/-- Changes the tree with a number. -/
def changeTree (s : State) (k : Nat) (f : Html.Tree → Html.Tree) : State :=
  { s with loaded := s.loaded.modify k fun d => { d with tree := f d.tree } }

end State

namespace Node

/-- The number of the tree a node belongs to. -/
def treeOf : Node → Nat
  | document _ k _ => k
  | element k _ => k

/-- The row of a node in its tree; a document has the row of its first element. -/
def rowOf (s : State) : Node → Nat
  | document _ k _ => (s.tree k).rootElement?.getD 0
  | element _ i => i

/-- The row of a node. -/
def row? (s : State) (n : Node) : Option Html.Row := (s.tree n.treeOf)[n.rowOf s]?

/-- The tag of a node. -/
def tag (s : State) (n : Node) : String :=
  match n with
  | document .. => "#document"
  | element k i => Text.lower (((s.tree k).tag? i).getD "")

/-- An attribute of a node. -/
def attr? (s : State) (n : Node) (name : String) : Option String := (n.row? s).bind (·.attr? name)

/-- A node as it stands in a message. -/
def quoted (s : State) : Node → String
  | document _ _ url => "StaticDocument(url=" ++ Text.quoted url ++ ")"
  | element k i => "<element " ++ ((s.tree k).tag? i).getD "" ++ ">"

/-- Whether two nodes stand for the same thing: handles to one tree do. -/
def same : Node → Node → Bool
  | document _ k _, document _ l _ => k == l
  | a, b => a = b

end Node

/-- A new handle to a tree. -/
def newHandle (tree : Nat) (url : String) : Work Node := do
  let s ← Desk.read
  Desk.update fun s => { s with handles := s.handles + 1 }
  return .document s.handles tree url

end Crawl.Static
