import Crawl.Text.Quoted
import Crawl.Text.Blank
/-!
# Reading whole numbers

A whole number is an optional sign and decimal digits of any script, with single underscores allowed between
digits and blanks around the whole. In a text of ASCII characters only the six blanks of that set are passed over;
any other text may also have the blanks of other scripts. More than 4300 digits are refused.
-/

namespace Crawl.Integer

/-- The zeros of the scripts that have decimal digits; the other nine follow each of them. -/
def zeros : List Nat := [
  48, 1632, 1776, 1984, 2406, 2534, 2662, 2790, 2918, 3046, 3174, 3302, 3430, 3558, 3664, 3792, 3872, 4160,
  4240, 6112, 6160, 6470, 6608, 6784, 6800, 6992, 7088, 7232, 7248, 42528, 43216, 43264, 43472, 43504, 43600,
  44016, 65296, 66720, 68912, 69734, 69872, 69942, 70096, 70384, 70736, 70864, 71248, 71360, 71472, 71904,
  72016, 72784, 73040, 73120, 92768, 92864, 93008, 120782, 120792, 120802, 120812, 120822, 123200, 123632,
  125264, 130032]

/-- The value of a decimal digit of any script. -/
def digit? (c : Char) : Option Nat :=
  (zeros.find? fun z => z ≤ c.toNat && c.toNat < z + 10).map (c.toNat - ·)

/-- Why a text is no whole number. -/
inductive Fault
  | malformed (text : String)
  | tooLong (digits : Nat)
deriving DecidableEq, Repr

/-- The message for a refused text; a quoted text is cut after two hundred characters. -/
def Fault.message : Fault → String
  | .malformed text =>
    "invalid literal for int() with base 10: " ++ String.ofList ((Text.quoted text).toList.take 200)
  | .tooLong n =>
    "Exceeds the limit (4300 digits) for integer string conversion: value has " ++ toString n
      ++ " digits; use sys.set_int_max_str_digits() to increase the limit"

/-- A blank of the ASCII set that may stand around a number. -/
def isSpace (c : Char) : Bool := c == ' ' || (9 ≤ c.toNat && c.toNat ≤ 13)

/-- A text in ASCII, with digits and blanks of other scripts replaced by those of ASCII; anything else is
replaced by a mark that no number holds. -/
def toAscii (cs : List Char) : List Char :=
  cs.map fun c =>
    if c.toNat < 127 then c
    else if Text.isBlank c then ' '
    else match digit? c with
      | some d => Char.ofNat (48 + d)
      | none => '?'

/-- The digits at the start of a text, with the text after them. `prev` tells whether a digit was just read, so
that an underscore may follow and an end may come; `none` is a misplaced underscore. -/
def digits : (prev : Bool) → List Char → Option (List Nat × List Char)
  | prev, [] => if prev then some ([], []) else none
  | prev, c :: cs =>
    if c == '_' then
      if prev then digits false cs else none
    else if c.isDigit then (digits true cs).map fun (ds, rest) => ((c.toNat - 48) :: ds, rest)
    else if prev then some ([], c :: cs) else none

/-- The number whose decimal digits are given, most significant first. -/
def ofDigits (ds : List Nat) : Nat := ds.foldl (fun n d => n * 10 + d) 0

/-- Reads a whole number. -/
def parse (s : String) : Except Fault Int :=
  let cs := (toAscii s.toList).dropWhile isSpace
  let (negative, body) :=
    match cs with
    | '+' :: r => (false, r)
    | '-' :: r => (true, r)
    | _ => (false, cs)
  match digits false body with
  | none => .error (.malformed s)
  | some (ds, rest) =>
    if ds.length > 4300 then .error (.tooLong ds.length)
    else if rest.all isSpace then .ok (if negative then -(ofDigits ds : Int) else ofDigits ds)
    else .error (.malformed s)

end Crawl.Integer
