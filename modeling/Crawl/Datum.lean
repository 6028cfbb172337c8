import Crawl.Text.Quoted
import Crawl.Decimal.Shortest
/-!
# Data from outside

A description of a node may arrive from outside the crawl, where nothing says that its parts are texts. `Datum` is
such a value: what it looks like in a message, whether it counts as empty, and when two of them are the same.
-/

namespace Crawl

/-- A value that arrived from outside. -/
inductive Datum where
  | null
  | flag (b : Bool)
  | whole (n : Int)
  | real (x : Float)
  | text (s : String)
  | list (items : List Datum)
  | record (fields : List (String × Datum))
deriving Inhabited

namespace Datum

/-- Whether a value counts as not given: nothing, no, zero, or a collection or text without content. -/
def isVoid : Datum → Bool
  | null => true
  | flag b => !b
  | whole n => n == 0
  | real x => x == 0.0
  | text s => s.isEmpty
  | list items => items.isEmpty
  | record fields => fields.isEmpty

/-- Texts with a comma and a space between neighbours. -/
def commas (parts : List String) : String := String.intercalate ", " parts

mutual

/-- A value as it stands inside a message. -/
def quoted : Datum → String
  | null => "None"
  | flag true => "True"
  | flag false => "False"
  | whole n => toString n
  | real x => Decimal.ofFloat x
  | text s => Text.quoted s
  | list items => "[" ++ commas (quotedItems items) ++ "]"
  | record fields => "\x7b" ++ commas (quotedFields fields) ++ "\x7d"

/-- The items of a list as they stand inside a message. -/
def quotedItems : List Datum → List String
  | [] => []
  | d :: ds => quoted d :: quotedItems ds

/-- The fields of a record as they stand inside a message. -/
def quotedFields : List (String × Datum) → List String
  | [] => []
  | f :: fs => quotedField f :: quotedFields fs

/-- One field of a record as it stands inside a message. -/
def quotedField : String × Datum → String
  | (name, d) => Text.quoted name ++ ": " ++ quoted d

end

/-- A value as it is shown by itself: a text without quotes, anything else as in a message. -/
def display : Datum → String
  | text s => s
  | d => d.quoted

/-- The number a value counts as: a yes is one and a no is zero. -/
def number? : Datum → Option Int
  | flag b => some (if b then 1 else 0)
  | whole n => some n
  | _ => none

mutual

/-- Whether two values are the same; numbers are compared by size, and records without regard to order. -/
def same : Datum → Datum → Bool
  | null, null => true
  | text s, text t => s == t
  | list xs, list ys => sameItems xs ys
  | record fs, record gs => fs.length == gs.length && sameFields fs gs
  | real x, real y => x == y
  | real x, d => match d.number? with
    | some n => x == Float.ofInt n
    | none => false
  | d, real y => match d.number? with
    | some n => Float.ofInt n == y
    | none => false
  | d, d' => match d.number?, d'.number? with
    | some m, some n => m == n
    | _, _ => false

/-- Whether two lists have the same items in the same order. -/
def sameItems : List Datum → List Datum → Bool
  | [], [] => true
  | x :: xs, y :: ys => same x y && sameItems xs ys
  | _, _ => false

/-- Whether each of some fields has the same value in a record. -/
def sameFields : List (String × Datum) → List (String × Datum) → Bool
  | [], _ => true
  | f :: fs, gs => sameField f gs && sameFields fs gs

/-- Whether a field has the same value in a record. -/
def sameField : String × Datum → List (String × Datum) → Bool
  | (name, d), gs => match gs.find? fun g => g.1 == name with
    | some g => same d g.2
    | none => false

end

end Datum

end Crawl
