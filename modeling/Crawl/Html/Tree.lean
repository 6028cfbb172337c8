/-!
# Trees of markup

A tree is kept as the list of its rows in document order, each with its depth: what stands below a row is the
unbroken run of deeper rows behind it. Every element is followed by a slot for the text before its first child,
which may hold none, so that setting this text changes one row and moves no other. A place is the index of a row.
-/

namespace Crawl.Html

/-- What a row holds. -/
inductive Content
  | root
  | element (tag : String) (attrs : List (String × String))
  | text (s : Option String)
  | comment (s : String)
deriving DecidableEq, Repr

/-- A row of a tree. -/
structure Row where
  depth : Nat
  content : Content
deriving DecidableEq, Repr

namespace Row

/-- The tag of an element. -/
def tag? (r : Row) : Option String :=
  match r.content with
  | .element tag _ => some tag
  | _ => none

/-- Whether a row is an element. -/
def isElement (r : Row) : Bool := r.tag?.isSome

/-- Whether a row is an element with a tag. -/
def hasTag (r : Row) (tag : String) : Bool := r.tag? == some tag

/-- The attributes of an element. -/
def attrs (r : Row) : List (String × String) :=
  match r.content with
  | .element _ attrs => attrs
  | _ => []

/-- The value of an attribute. -/
def attr? (r : Row) (name : String) : Option String := r.attrs.lookup name

/-- The text a row holds itself. -/
def ownText (r : Row) : String :=
  match r.content with
  | .text (some s) => s
  | _ => ""

/-- Whether a row is there for a reader; a slot without text is not. -/
def isVisible (r : Row) : Bool :=
  match r.content with
  | .text none => false
  | _ => true

end Row

/-- A tree of markup. -/
abbrev Tree := List Row

namespace Tree

/-- The rows of a tree, each with its place. -/
def placed (t : Tree) : List (Row × Nat) := List.zipIdx t

/-- The rows below a place. -/
def below (t : Tree) (i : Nat) : List (Row × Nat) :=
  match t[i]? with
  | some r => (t.placed.drop (i + 1)).takeWhile fun p => r.depth < p.1.depth
  | none => []

/-- The row at a place and the rows below it. -/
def fromHere (t : Tree) (i : Nat) : List (Row × Nat) :=
  match t[i]? with
  | some r => (r, i) :: t.below i
  | none => []

/-- The rows that a row of some depth stands under, nearest first, among those before it, the last one first. -/
def aboveFrom : (depth : Nat) → List (Row × Nat) → List (Row × Nat)
  | _, [] => []
  | depth, p :: ps => if p.1.depth < depth then p :: aboveFrom p.1.depth ps else aboveFrom depth ps

/-- The rows that a place stands under, nearest first. -/
def above (t : Tree) (i : Nat) : List (Row × Nat) :=
  match t[i]? with
  | some r => aboveFrom r.depth (t.placed.take i).reverse
  | none => []

/-- The rows directly below a place that are there for a reader. -/
def children (t : Tree) (i : Nat) : List (Row × Nat) :=
  match t[i]? with
  | some r => (t.below i).filter fun p => p.1.depth == r.depth + 1 && p.1.isVisible
  | none => []

/-- The first element, which all others stand below. -/
def rootElement? (t : Tree) : Option Nat := (t.placed.find? (·.1.isElement)).map (·.2)

/-- The tag of the element at a place. -/
def tag? (t : Tree) (i : Nat) : Option String := t[i]?.bind Row.tag?

/-- An attribute of the element at a place. -/
def attr? (t : Tree) (i : Nat) (name : String) : Option String := t[i]?.bind (·.attr? name)

/-- All text below a place. -/
def textContent (t : Tree) (i : Nat) : String := String.join ((t.below i).map fun p => p.1.ownText)

/-- The text before the first child of an element. -/
def firstText (t : Tree) (i : Nat) : String := (t[i + 1]?.map Row.ownText).getD ""

/-! ## Changes -/

/-- Attributes with one of them set, in its place or behind the others. -/
def setIn (name value : String) : List (String × String) → List (String × String)
  | [] => [(name, value)]
  | a :: as => if a.1 == name then (name, value) :: as else a :: setIn name value as

/-- A row with an attribute set. -/
def setRowAttr (name value : String) (r : Row) : Row :=
  match r.content with
  | .element tag attrs => { r with content := .element tag (setIn name value attrs) }
  | _ => r

/-- A tree with an attribute of one element set. -/
def setAttr (t : Tree) (i : Nat) (name value : String) : Tree := t.modify i (setRowAttr name value)

/-- A row with its text set or taken away. -/
def setRowText (s : Option String) (r : Row) : Row :=
  match r.content with
  | .text _ => { r with content := .text s }
  | _ => r

/-- A tree with the text before the first child of an element set or taken away. -/
def setFirstText (t : Tree) (i : Nat) (s : Option String) : Tree := t.modify (i + 1) (setRowText s)

/-! ## Paths -/

/-- One step of a path: the tag, with its number where a tag occurs more than once among the children. -/
def stepTo (t : Tree) (parent i : Nat) (tag : String) : String :=
  let same := (t.children parent).filter (·.1.hasTag tag)
  if same.length ≤ 1 then "/" ++ tag
  else "/" ++ tag ++ "[" ++ toString ((same.findIdx (·.2 == i)) + 1) ++ "]"

/-- The path from the root to an element whose surroundings are given, nearest first. -/
def pathFrom (t : Tree) (i : Nat) : List (Row × Nat) → String
  | [] => ""
  | p :: ps => pathFrom t p.2 ps ++ stepTo t p.2 i ((t.tag? i).getD "")

/-- The path from the root to an element. -/
def path (t : Tree) (i : Nat) : String := pathFrom t i (t.above i)

end Tree

end Crawl.Html
