import Crawl.XPath.Value
/-!
# The functions of path expressions

The functions that any path expression may call. Most take a value as a text or as a number, whatever it is; a few
insist on places. A function that is called without arguments may speak of the node it is called at.
-/

namespace Crawl.XPath

open Html

/-- Where an expression is evaluated: a node, and its position among `size` nodes. -/
structure Focus where
  spot : Spot
  position : Nat
  size : Nat

namespace Library

/-- The words of a text between blanks. -/
def tokens : List Char → List (List Char)
  | [] => []
  | c :: cs =>
    if isBlank c then tokens cs
    else match cs with
      | [] => [[c]]
      | d :: _ =>
        if isBlank d then [c] :: tokens cs
        else match tokens cs with
          | w :: ws => (c :: w) :: ws
          | [] => [[c]]

/-- Words with one space between neighbours. -/
def spaced : List (List Char) → List Char
  | [] => []
  | [w] => w
  | w :: ws => w ++ ' ' :: spaced ws

/-- Whether an attribute names its element: any `id`, and the `name` of an anchor. -/
def isKey (tag key : String) : Bool := key == "id" || (key == "name" && tag == "a")

/-- Whether a row is named by a key. -/
def hasKey (key : String) (r : Row) : Bool :=
  r.attrs.any fun a => isKey (r.tag?.getD "") a.1 && a.2 == key

/-- The first elements named by the words of a text, in the order of the words. -/
def named (t : Tree) (s : String) : List Spot :=
  let found (w : List Char) : Option Spot := (t.placed.find? (hasKey (String.ofList w) ·.1)).map fun p => .row p.2
  ((tokens s.toList).filterMap found).foldl (fun seen a => if seen.contains a then seen else seen ++ [a]) []

/-- Whether a text begins with another. -/
def isStart (part whole : List Char) : Bool := whole.take part.length == part

/-- Splits a text at the first place where another stands. -/
def splitAt (part : List Char) : List Char → Option (List Char × List Char)
  | [] => if part.isEmpty then some ([], []) else none
  | c :: cs =>
    if isStart part (c :: cs) then some ([], (c :: cs).drop part.length)
    else (splitAt part cs).map fun (a, b) => (c :: a, b)

/-- A text with characters replaced by those in the same place of another text, or dropped. -/
def translate (old new : List Char) (cs : List Char) : List Char :=
  cs.filterMap fun c =>
    let i := old.findIdx (· == c)
    if i == old.length then some c else new[i]?

/-- A double as a place in a text, cut off above. -/
def toPlace (x : Float) : Nat := if x < 2147483647.0 then x.toUInt64.toNat else 2147483647

/-- The part of a text from a place on; places and lengths are rounded first. -/
def part (cs : List Char) (start : Float) (length : Option Float) : List Char :=
  let first := if start < 2147483647.0 then (if start ≥ 1.0 then toPlace (start + 0.5).floor else 1) else 2147483647
  let stop := match length with
    | none => 2147483647
    | some n =>
      let stop := (start + 0.5).floor + (n + 0.5).floor
      if stop ≥ 1.0 then toPlace stop else 1
  if first < stop then (cs.drop (first - 1)).take (stop - first) else []

/-- The sum of the numbers that some places hold. -/
def sum (t : Tree) (spots : List Spot) : Float :=
  spots.foldl (fun x a => x + Number.ofText (a.text t)) 0.0

/-- The value of a text function of one argument, or of the node at hand. -/
def ofOneText (t : Tree) (f : Focus) (args : List Value) (g : String → Value) : Except Fault Value :=
  match args with
  | [] => .ok (g (f.spot.text t))
  | [a] => .ok (g (a.toText t))
  | _ => .error .invalidArity

/-- The value of a function of the first of some places, or of the node at hand. -/
def ofOneSpot (f : Focus) (args : List Value) (g : Spot → String) : Except Fault Value :=
  match args with
  | [] => .ok (.text (g f.spot))
  | [.spots ss] => .ok (.text (((Spot.sort ss).head?.map g).getD ""))
  | [_] => .error .invalidType
  | _ => .error .invalidArity

/-- The value of a function of two texts. -/
def ofTwoTexts (t : Tree) (args : List Value) (g : List Char → List Char → Value) : Except Fault Value :=
  match args with
  | [a, b] => .ok (g (a.toText t).toList (b.toText t).toList)
  | _ => .error .invalidArity

/-- The value of a function of one number. -/
def ofNumber (t : Tree) (args : List Value) (g : Float → Float) : Except Fault Value :=
  match args with
  | [a] => .ok (.number (g (a.toNumber t)))
  | _ => .error .invalidArity

/-- The value of a function of places. -/
def ofSpots (args : List Value) (g : List Spot → Value) : Except Fault Value :=
  match args with
  | [.spots ss] => .ok (g ss)
  | [_] => .error .invalidType
  | _ => .error .invalidArity

/-- The value of a constant. -/
def constant (args : List Value) (v : Value) : Except Fault Value :=
  match args with
  | [] => .ok v
  | _ => .error .invalidArity

/-- A text as a value. -/
def text (cs : List Char) : Value := .text (String.ofList cs)

/-- A whole number as a value. -/
def count (n : Nat) : Value := .number (Float.ofNat n)

/-- Calls a function. -/
def call (t : Tree) (f : Focus) (name : String) (args : List Value) : Except Fault Value :=
  match name with
  | "last" => constant args (count f.size)
  | "position" => constant args (count f.position)
  | "true" => constant args (.truth true)
  | "false" => constant args (.truth false)
  | "count" => ofSpots args fun ss => count ss.length
  | "sum" => ofSpots args fun ss => .number (sum t ss)
  | "id" => match args with
    | [.spots ss] => .ok (.spots (named t (String.join (ss.map fun a => a.text t ++ " "))))
    | [a] => .ok (.spots (named t (a.toText t)))
    | _ => .error .invalidArity
  | "name" => ofOneSpot f args (Spot.name t)
  | "local-name" => ofOneSpot f args (Spot.name t)
  | "namespace-uri" => ofOneSpot f args fun _ => ""
  | "string" => ofOneText t f args .text
  | "string-length" => ofOneText t f args fun s => count s.length
  | "normalize-space" => ofOneText t f args fun s => text (spaced (tokens s.toList))
  | "number" => match args with
    | [] => .ok (.number (Number.ofText (f.spot.text t)))
    | _ => ofNumber t args id
  | "concat" =>
    if args.length < 2 then .error .invalidArity
    else .ok (.text (String.join (args.map (Value.toText t))))
  | "contains" => ofTwoTexts t args fun a b => .truth (splitAt b a).isSome
  | "starts-with" => ofTwoTexts t args fun a b => .truth (isStart b a)
  | "substring-before" => ofTwoTexts t args fun a b => text (((splitAt b a).map (·.1)).getD [])
  | "substring-after" => ofTwoTexts t args fun a b => text (((splitAt b a).map (·.2)).getD [])
  | "substring" => match args with
    | [a, b] => .ok (text (part (a.toText t).toList (b.toNumber t) none))
    | [a, b, c] => .ok (text (part (a.toText t).toList (b.toNumber t) (some (c.toNumber t))))
    | _ => .error .invalidArity
  | "translate" => match args with
    | [a, b, c] => .ok (text (translate (b.toText t).toList (c.toText t).toList (a.toText t).toList))
    | _ => .error .invalidArity
  | "boolean" => match args with
    | [a] => .ok (.truth a.toTruth)
    | _ => .error .invalidArity
  | "not" => match args with
    | [a] => .ok (.truth !a.toTruth)
    | _ => .error .invalidArity
  | "lang" => match args with
    | [_] => .ok (.truth false)
    | _ => .error .invalidArity
  | "floor" => ofNumber t args Float.floor
  | "ceiling" => ofNumber t args Float.ceil
  | "round" => ofNumber t args Number.round
  | _ => .error .unknownFunction

end Library

end Crawl.XPath
