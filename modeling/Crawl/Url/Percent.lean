import Crawl.Text.Utf8
/-!
# Percent encoding

Characters outside a safe set are written as the bytes of their UTF-8 form, each a percent sign and two hexadecimal
digits. The fields of a form are written as `name=value` pairs with `&` between neighbours and `+` for a space.
-/

namespace Crawl.Url

/-- One hexadecimal digit in upper case. -/
def upperHex (n : Nat) : Char := if n < 10 then Char.ofNat (48 + n) else Char.ofNat (55 + n)

/-- A byte as a percent sign and two digits. -/
def percentByte (b : UInt8) : List Char := ['%', upperHex (b.toNat / 16), upperHex (b.toNat % 16)]

/-- A character as the percent forms of its bytes. -/
def percentChar (c : Char) : List Char := (Text.Utf8.encodeChar c).flatMap percentByte

/-- Characters that are written as themselves in a form field. -/
def isUnreserved (c : Char) : Bool := c.isAlphanum || c == '_' || c == '.' || c == '-' || c == '~'

/-- A character of a form field. -/
def fieldChar (c : Char) : List Char :=
  if isUnreserved c then [c] else if c == ' ' then ['+'] else percentChar c

/-- A form field's name or value. -/
def fieldText (cs : List Char) : List Char := cs.flatMap fieldChar

/-- One `name=value` pair. -/
def fieldPair (field : String × String) : List Char :=
  fieldText field.1.toList ++ '=' :: fieldText field.2.toList

/-- The query of a list of form fields. -/
def formQuery : List (String × String) → List Char
  | [] => []
  | [f] => fieldPair f
  | f :: fs => fieldPair f ++ '&' :: formQuery fs

/-- The value of a hexadecimal digit. -/
def hexValue? (c : Char) : Option Nat :=
  if c.isDigit then some (c.toNat - 48)
  else if 'a' ≤ c && c ≤ 'f' then some (c.toNat - 87)
  else if 'A' ≤ c && c ≤ 'F' then some (c.toNat - 55)
  else none

/-- The bytes of a text whose percent forms are read; a percent sign without two digits stands for itself. -/
def percentBytes : List Char → List UInt8
  | '%' :: a :: b :: cs =>
    match hexValue? a, hexValue? b with
    | some x, some y => (x * 16 + y).toUInt8 :: percentBytes cs
    | _, _ => 37 :: percentBytes (a :: b :: cs)
  | c :: cs => Text.Utf8.encodeChar c ++ percentBytes cs
  | [] => []

/-- The runs of a text that are all ASCII or hold no ASCII character. -/
def asciiRuns : List Char → List (List Char)
  | [] => []
  | c :: cs =>
    match asciiRuns cs with
    | (d :: r) :: rs =>
      if (c.toNat < 128) == (d.toNat < 128) then (c :: d :: r) :: rs else [c] :: (d :: r) :: rs
    | rs => [c] :: rs

/-- A text with its percent forms decoded, run by run; bytes that are no UTF-8 become replacement characters. -/
def percentDecode (cs : List Char) : List Char :=
  (asciiRuns cs).flatMap fun run =>
    if run.all (·.toNat < 128) then Text.Utf8.decodeForgiving (percentBytes run) else run

end Crawl.Url
