import Crawl.Html.Name
/-!
# Character references

`&name;`, `&#233;` and `&#xe9;` each stand for one character. A reference that means nothing is left as it is.
In the value of an attribute a name without its semicolon means nothing when a letter, a digit or an equals sign
follows it.
-/

namespace Crawl.Html

/-- A blank between the parts of markup. -/
def isSpace (c : Char) : Bool := c == ' ' || c == '\t' || c == '\n' || c == '\r' || c == '\x0c'

/-- The value of a digit in base ten or sixteen. -/
def digit? (base : Nat) (c : Char) : Option Nat :=
  if c.isDigit then some (c.toNat - 48)
  else if base == 16 && 'a' ≤ c && c ≤ 'f' then some (c.toNat - 87)
  else if base == 16 && 'A' ≤ c && c ≤ 'F' then some (c.toNat - 55)
  else none

/-- The character a number stands for. -/
def numbered (n : Nat) : Char :=
  if n == 0 || 0x110000 ≤ n || (0xd800 ≤ n && n < 0xe000) then '\ufffd'
  else if 128 ≤ n && n < 160 then Char.ofNat (secondControls.getD (n - 128) n)
  else Char.ofNat n

/-- A number in a base, cut off above the code points. -/
def numberIn (base : Nat) (cs : List Char) : Nat :=
  cs.foldl (fun n c => min 0x110000 (n * base + (digit? base c).getD 0)) 0

/-- A numeric reference: its character, and the text after it. -/
def numeric (base : Nat) (cs : List Char) : Option (Char × List Char) :=
  let ds := cs.takeWhile fun c => (digit? base c).isSome
  let rest := cs.dropWhile fun c => (digit? base c).isSome
  if ds.isEmpty then none
  else some (numbered (numberIn base ds), if rest.head? == some ';' then rest.tail else rest)

/-- The longest beginning of a text, of `n` characters at most, that is a short name. -/
def shortName (cs : List Char) : (n : Nat) → Option (Char × List Char)
  | 0 => none
  | n + 1 => match shortNames.lookup (String.ofList (cs.take (n + 1))) with
    | some code => some (Char.ofNat code, cs.drop (n + 1))
    | none => shortName cs n

/-- A named reference: its character, and the text after it. -/
def named (inValue : Bool) (cs : List Char) : Option (Char × List Char) :=
  let word := cs.takeWhile Char.isAlphanum
  let rest := cs.dropWhile Char.isAlphanum
  let whole :=
    if rest.head? == some ';' then
      match (shortNames ++ longNames).lookup (String.ofList word) with
      | some code => some (Char.ofNat code, rest.tail)
      | none => none
    else none
  match whole with
  | some r => some r
  | none => match shortName cs word.length with
    | some (c, rest) =>
      if inValue && rest.head?.any (fun d => d == '=' || d.isAlphanum) then none else some (c, rest)
    | none => none

/-- What the text behind an ampersand refers to. -/
def reference (inValue : Bool) : List Char → Option (Char × List Char)
  | '#' :: 'x' :: cs => numeric 16 cs
  | '#' :: 'X' :: cs => numeric 16 cs
  | '#' :: cs => numeric 10 cs
  | cs => named inValue cs

/-- A text with its references replaced; `skip` characters belong to a reference that was already read. -/
def decodeFrom (inValue : Bool) : (skip : Nat) → List Char → List Char
  | _, [] => []
  | skip + 1, _ :: cs => decodeFrom inValue skip cs
  | 0, c :: cs =>
    if c == '&' then
      match reference inValue cs with
      | some (d, rest) => d :: decodeFrom inValue (cs.length - rest.length) cs
      | none => c :: decodeFrom inValue 0 cs
    else c :: decodeFrom inValue 0 cs

/-- A text with its references replaced. -/
def decode (inValue : Bool) (cs : List Char) : List Char := decodeFrom inValue 0 cs

end Crawl.Html
