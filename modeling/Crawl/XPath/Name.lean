/-!
# Names in path expressions

The characters that may begin a name and those that may continue it.
-/

namespace Crawl.XPath

/-- Whether a number lies in one of some ranges. -/
def inRanges (ranges : List (Nat × Nat)) (n : Nat) : Bool := ranges.any fun (a, b) => a ≤ n && n ≤ b

/-- Whether a name may begin with a character. -/
def isNameStart (c : Char) : Bool :=
  c.isAlpha || c == '_'
    || inRanges [(0xc0, 0xd6), (0xd8, 0xf6), (0xf8, 0x2ff), (0x370, 0x37d), (0x37f, 0x1fff), (0x200c, 0x200d),
      (0x2070, 0x218f), (0x2c00, 0x2fef), (0x3001, 0xd7ff), (0xf900, 0xfdcf), (0xfdf0, 0xfffd),
      (0x10000, 0xeffff)] c.toNat

/-- Whether a name may go on with a character. -/
def isNameChar (c : Char) : Bool :=
  isNameStart c || c.isDigit || c == '-' || c == '.' || c.toNat == 0xb7
    || inRanges [(0x300, 0x36f), (0x203f, 0x2040)] c.toNat

/-- The name at the start of a text, if one stands there, and the text behind it. -/
def takeName (cs : List Char) : Option (String × List Char) :=
  match cs with
  | [] => none
  | c :: rest =>
    if isNameStart c then some (String.ofList (c :: rest.takeWhile isNameChar), rest.dropWhile isNameChar)
    else none

/-- The name at the start of a text, colons counting as part of it. -/
def takeColonName (cs : List Char) : Option (List Char × List Char) :=
  let goesOn (c : Char) : Bool := isNameChar c || c == ':'
  match cs with
  | [] => none
  | c :: rest =>
    if isNameStart c || c == ':' then some (c :: rest.takeWhile goesOn, rest.dropWhile goesOn) else none

/-- The name at the start of a text with the short name of its space, and the text behind it. -/
def takeQualified (cs : List Char) : Option (Option String × String × List Char) :=
  match takeName cs with
  | none => none
  | some (name, ':' :: rest) => match takeName rest with
    | some (inner, rest) => some (some name, inner, rest)
    | none => none
  | some (name, rest) => some (none, name, rest)

end Crawl.XPath
