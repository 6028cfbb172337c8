import Crawl.XPath.Spot
import Crawl.XPath.Number
/-!
# Values of path expressions

A value is a set of places, a truth value, a number or a text, and each of them can be taken for one of the last
three. How two values compare depends on what they are: a set of places compares by what any one of its places has
for a text.
-/

namespace Crawl.XPath

open Html

/-- The value of an expression. -/
inductive Value
  | spots (spots : List Spot)
  | truth (b : Bool)
  | number (x : Float)
  | text (s : String)

namespace Value

/-- The text of a truth value. -/
def truthText (b : Bool) : String := if b then "true" else "false"

/-- The text of the first of some places. -/
def firstText (t : Tree) (spots : List Spot) : String :=
  match Spot.sort spots with
  | a :: _ => a.text t
  | [] => ""

/-- A value as a text. -/
def toText (t : Tree) : Value → String
  | spots ss => firstText t ss
  | truth b => truthText b
  | number x => Number.text x
  | text s => s

/-- A value as a number. -/
def toNumber (t : Tree) : Value → Float
  | spots ss => Number.ofText (firstText t ss)
  | truth b => if b then 1.0 else 0.0
  | number x => x
  | text s => Number.ofText s

/-- A value as a truth value. -/
def toTruth : Value → Bool
  | spots ss => !ss.isEmpty
  | truth b => b
  | number x => x != 0.0 && !x.isNaN
  | text s => !s.isEmpty

/-- Whether two values that are no sets of places are equal. -/
def equalPlain (t : Tree) (a b : Value) : Bool :=
  match a, b with
  | truth x, b => x == b.toTruth
  | a, truth y => a.toTruth == y
  | number x, b => x == b.toNumber t
  | a, number y => a.toNumber t == y
  | a, b => a.toText t == b.toText t

/-- The values that a value compares by: the texts of its places, or itself. -/
def each (t : Tree) : Value → List Value
  | spots ss => ss.map fun a => text (a.text t)
  | v => [v]

/-- Whether a comparison holds for some of the values that two values compare by; a set of places compares with a
truth value as a whole. -/
def compare (t : Tree) (holds : Value → Value → Bool) (a b : Value) : Bool :=
  match a, b with
  | spots _, truth _ => holds (truth a.toTruth) b
  | truth _, spots _ => holds a (truth b.toTruth)
  | a, b => (a.each t).any fun x => (b.each t).any fun y => holds x y

/-- The value of a binary operator that needs the values of both sides. -/
def combine (t : Tree) (op : Operator) (a b : Value) : Except Fault Value :=
  let order (f : Float → Float → Bool) : Except Fault Value :=
    .ok (truth (compare t (fun x y => f (x.toNumber t) (y.toNumber t)) a b))
  let sum (f : Float → Float → Float) : Except Fault Value := .ok (number (f (a.toNumber t) (b.toNumber t)))
  match op with
  | .or => .ok (truth (a.toTruth || b.toTruth))
  | .and => .ok (truth (a.toTruth && b.toTruth))
  | .equal => .ok (truth (compare t (equalPlain t) a b))
  | .unequal => .ok (truth (compare t (fun x y => !equalPlain t x y) a b))
  | .less => order fun x y => x < y
  | .lessOrEqual => order fun x y => x ≤ y
  | .greater => order fun x y => x > y
  | .greaterOrEqual => order fun x y => x ≥ y
  | .add => sum (· + ·)
  | .subtract => sum (· - ·)
  | .multiply => sum (· * ·)
  | .divide => sum (· / ·)
  | .remainder => sum Number.remainder
  | .union => match a, b with
    | spots ss, spots ts => .ok (spots (Spot.sort (ss ++ ts)))
    | _, _ => .error .invalidType

end Value

end Crawl.XPath
