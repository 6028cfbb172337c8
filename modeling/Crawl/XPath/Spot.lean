import Crawl.Html.Tree
import Crawl.XPath.Syntax
/-!
# Places in a tree

What a path can lead to: a row of the tree, an attribute of an element, or the one name space that every element
has. For each axis the places it leads to from a place, nearest first, and which of them a test takes.
-/

namespace Crawl.XPath

open Html

/-- A place a path can lead to. -/
inductive Spot
  | row (i : Nat)
  | space (i : Nat)
  | attr (i k : Nat)
deriving DecidableEq, Repr

namespace Spot

/-- The row at or above a place. -/
def place : Spot → Nat
  | row i => i
  | space i => i
  | attr i _ => i

/-- The order of places with the same row. -/
def rank : Spot → Nat
  | row _ => 0
  | space _ => 1
  | attr _ k => k + 2

/-- Whether a place stands before another in the document. -/
def before (a b : Spot) : Bool := a.place < b.place || (a.place == b.place && a.rank < b.rank)

/-- Puts a place among others in document order, once. -/
def insert (a : Spot) : List Spot → List Spot
  | [] => [a]
  | b :: bs => if a.before b then a :: b :: bs else if a = b then b :: bs else b :: insert a bs

/-- Places in document order, each once. -/
def sort (spots : List Spot) : List Spot := spots.foldr insert []

/-- The name of the name space that every element has, and its address. -/
def spaceName : String × String := ("xml", "http://www.w3.org/XML/1998/namespace")

/-- The text of a place. -/
def text (t : Tree) : Spot → String
  | row i => match (t[i]?).map Row.content with
    | some (.text s) => s.getD ""
    | some (.comment s) => s
    | _ => t.textContent i
  | space _ => spaceName.2
  | attr i k => ((t[i]?.bind fun r => r.attrs[k]?).map (·.2)).getD ""

/-- The name of a place. -/
def name (t : Tree) : Spot → String
  | row i => (t.tag? i).getD ""
  | space _ => spaceName.1
  | attr i k => ((t[i]?.bind fun r => r.attrs[k]?).map (·.1)).getD ""

/-! ## Axes -/

/-- Rows as places, without those that are not there for a reader. -/
def ofRows (rows : List (Row × Nat)) : List Spot := (rows.filter (·.1.isVisible)).map fun p => row p.2

/-- The rows beside a row. -/
def siblings (t : Tree) (i : Nat) : List (Row × Nat) :=
  match t.above i with
  | p :: _ => t.children p.2
  | [] => []

/-- The rows behind a row and everything below it. -/
def after (t : Tree) (i : Nat) : List (Row × Nat) :=
  match t[i]? with
  | some r => (t.placed.drop (i + 1)).dropWhile fun p => r.depth < p.1.depth
  | none => []

/-- The rows before a row that it does not stand under, the nearest first. -/
def ahead (t : Tree) (i : Nat) : List (Row × Nat) :=
  let above := (t.above i).map (·.2)
  (t.placed.take i).reverse.filter fun p => !above.contains p.2

/-- The attributes of the element at a row. -/
def attrsOf (t : Tree) (i : Nat) : List Spot :=
  (List.range ((t[i]?.map (·.attrs.length)).getD 0)).map (attr i)

/-- The places an axis leads to from a row, nearest first. -/
def alongRow (t : Tree) (i : Nat) : Axis → List Spot
  | .ancestor => ofRows (t.above i)
  | .ancestorOrSelf => row i :: ofRows (t.above i)
  | .attr => attrsOf t i
  | .child => ofRows (t.children i)
  | .descendant => ofRows (t.below i)
  | .descendantOrSelf => row i :: ofRows (t.below i)
  | .following => ofRows (after t i)
  | .followingSibling => ofRows ((siblings t i).filter (i < ·.2))
  | .space => if (t.tag? i).isSome then [space i] else []
  | .parent => ofRows ((t.above i).take 1)
  | .preceding => ofRows (ahead t i)
  | .precedingSibling => ofRows ((siblings t i).filter (·.2 < i)).reverse
  | .self => [row i]

/-- The places an axis leads to, nearest first. -/
def along (t : Tree) (axis : Axis) (a : Spot) : List Spot :=
  match a with
  | row i => alongRow t i axis
  | _ =>
    let i := a.place
    match axis with
    | .ancestor => alongRow t i .ancestorOrSelf
    | .ancestorOrSelf => a :: alongRow t i .ancestorOrSelf
    | .descendantOrSelf => [a]
    | .following => alongRow t i .following
    | .parent => [row i]
    | .preceding => alongRow t i .preceding
    | .self => [a]
    | _ => []

/-! ## Tests -/

/-- Whether a row is of a type. -/
def isOfType (t : Tree) (a : Spot) : NodeType → Bool
  | .node => true
  | .instruction => false
  | .comment => match a with
    | row i => match (t[i]?).map Row.content with
      | some (.comment _) => true
      | _ => false
    | _ => false
  | .text => match a with
    | row i => match (t[i]?).map Row.content with
      | some (.text _) => true
      | _ => false
    | _ => false

/-- Whether a place is of the kind that an axis is for: attributes and name spaces on their own axes, and elements
on all others. -/
def isPrincipal (t : Tree) (axis : Axis) (a : Spot) : Bool :=
  match a with
  | row i => (t.tag? i).isSome && axis != .attr && axis != .space
  | space _ => axis == .space
  | attr _ _ => axis == .attr

/-- Whether a test takes a place. No name in a name space occurs in a tree of markup. -/
def passes (t : Tree) (axis : Axis) (a : Spot) : Test → Bool
  | .any none => isPrincipal t axis a
  | .named none name => isPrincipal t axis a && a.name t == name
  | .type type => isOfType t a type
  | _ => false

end Spot

end Crawl.XPath
