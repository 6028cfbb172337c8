import Crawl.Css.Quoted
import Crawl.Url.Percent
/-!
# Strings in style sheets

How a style sheet, and so a selector, is read as far as its strings go. The characters are filtered first, so that every
line break is a line feed. A string ends at the quote it began with. A backslash makes the character behind it part of
the string, or stands before the number of one in up to six hexadecimal digits, and a line break behind a backslash is
left out; any other line break spoils the string.

Of selectors, those are read that are one test of an attribute for a value, written as a string (`AttrTest.read`).
-/

namespace Crawl.Css

/-- Whether a character breaks a line. -/
def isBreak (c : Char) : Bool := c == '\n' || c == '\r' || c == '\x0c'

/-- A character as it is read: U+FFFD stands for U+0000. -/
def legible (c : Char) : Char := if c = '\x00' then '\ufffd' else c

/-- A text as it is read: every line break is a line feed, and a carriage return is one break together with the line feed
behind it. -/
def filtered : List Char → List Char
  | [] => []
  | '\r' :: '\n' :: cs => '\n' :: filtered cs
  | c :: cs => (if isBreak c then '\n' else legible c) :: filtered cs

/-- A blank of a filtered text. -/
def isBlank (c : Char) : Bool := c == ' ' || c == '\t' || c == '\n'

/-- A filtered text from its first character that is not blank. -/
def skip (cs : List Char) : List Char := cs.dropWhile isBlank

/-! ## Strings -/

/-- The character with a number; U+FFFD for a number that no character has, and for zero. -/
def numbered (n : Nat) : Char := legible (Char.ofNat n)

/-- The character that the text behind a backslash stands for, and the text behind it: up to six hexadecimal digits are
its number, and a blank behind them belongs to them. -/
def takeEscape : List Char → Char × List Char
  | [] => ('\ufffd', [])
  | c :: cs =>
    if (Url.hexValue? c).isNone then (c, cs)
    else
      let digits := c :: (cs.takeWhile fun d => (Url.hexValue? d).isSome).take 5
      let rest := cs.drop (digits.length - 1)
      (numbered (digits.foldl (fun n d => n * 16 + (Url.hexValue? d).getD 0) 0),
        if rest.head?.any isBlank then rest.tail else rest)

theorem length_takeEscape (cs : List Char) : (takeEscape cs).2.length ≤ cs.length := by
  unfold takeEscape
  split
  · simp
  · split
    · simp
    · dsimp only
      split
      · simp
        omega
      · simp
        omega

/-- What a string is read as: it has a value up to its closing quote, or up to the end of the text, or it is bad. -/
inductive StringToken
  | closed (value : List Char)
  | unclosed (value : List Char)
  | bad
deriving DecidableEq, Repr

/-- A string with one more character in front. -/
def StringToken.push (c : Char) : StringToken → StringToken
  | closed cs => closed (c :: cs)
  | unclosed cs => unclosed (c :: cs)
  | bad => bad

/-- The string behind an opening quote, and the text behind it. -/
def takeString (q : Char) (cs : List Char) : StringToken × List Char :=
  match cs with
  | [] => (.unclosed [], [])
  | '\n' :: cs => (.bad, '\n' :: cs)
  | ['\\'] => (.unclosed [], [])
  | '\\' :: '\n' :: cs => takeString q cs
  | '\\' :: cs =>
    let (token, rest) := takeString q (takeEscape cs).2
    (token.push (takeEscape cs).1, rest)
  | c :: cs =>
    if c = q then (.closed [], cs)
    else
      let (token, rest) := takeString q cs
      (token.push c, rest)
termination_by cs.length
decreasing_by
  · simp only [List.length_cons]
    omega
  · have := length_takeEscape cs
    simp only [List.length_cons]
    omega
  · simp only [List.length_cons]
    omega

/-- The string at the start of a text, if a quote stands there, and the filtered text behind it. -/
def readString (cs : List Char) : Option (StringToken × List Char) :=
  match filtered cs with
  | '\x22' :: cs => some (takeString '\x22' cs)
  | '\x27' :: cs => some (takeString '\x27' cs)
  | _ => none

/-! ## Tests of attributes -/

/-- A test of an attribute for a value. -/
structure AttrTest where
  name : String
  value : String
deriving DecidableEq, Repr

namespace AttrTest

/-- Whether a name may hold a character. -/
def isNameChar (c : Char) : Bool := c.isAlphanum || c == '-' || c == '_' || 0x80 ≤ c.toNat

/-- The name at the start of a filtered text, if one that begins with a letter stands there, and the text behind it. -/
def takeName (cs : List Char) : Option (String × List Char) :=
  if cs.head?.any Char.isAlpha then some (String.ofList (cs.takeWhile isNameChar), cs.dropWhile isNameChar) else none

/-- The filtered text behind a character, if it stands there. -/
def takeMark (c : Char) : List Char → Option (List Char)
  | [] => none
  | d :: cs => if d = c then some cs else none

/-- The value of the string at the start of a filtered text, if one with a closing quote stands there, and the text
behind it. -/
def takeValue : List Char → Option (String × List Char)
  | [] => none
  | q :: cs =>
    if q = '\x22' ∨ q = '\x27' then
      match takeString q cs with
      | (.closed value, rest) => some (String.ofList value, rest)
      | _ => none
    else none

/-- Reads a selector that is a test of an attribute for a value. -/
def read (selector : String) : Option AttrTest := do
  let cs ← takeMark '[' (filtered selector.toList)
  let (name, cs) ← takeName (skip cs)
  let cs ← takeMark '=' (skip cs)
  let (value, cs) ← takeValue (skip cs)
  let cs ← takeMark ']' (skip cs)
  if cs.isEmpty then some ⟨name, value⟩ else none

/-- Whether an element with some attributes passes. -/
def passes (test : AttrTest) (attrs : List (String × String)) : Bool := attrs.lookup test.name == some test.value

end AttrTest

/-- Whether a selector is a test of an attribute and an element with some attributes passes it. -/
def selects (selector : String) (attrs : List (String × String)) : Bool :=
  (AttrTest.read selector).any (·.passes attrs)

/-! ## How strings are read -/

theorem takeString_break (q : Char) (cs : List Char) : takeString q ('\n' :: cs) = (.bad, '\n' :: cs) := by
  rw [takeString]

/-- A closing quote ends the string. -/
theorem takeString_quote {q : Char} (hq : q = '\x22' ∨ q = '\x27') (cs : List Char) :
    takeString q (q :: cs) = (.closed [], cs) := by
  rcases hq with rfl | rfl <;> simp [takeString]

/-- A backslash makes any character that is no digit and no line break part of the string. -/
theorem takeString_escaped (q : Char) {c : Char} (hbreak : c ≠ '\n') (hdigit : Url.hexValue? c = none) (cs : List Char) :
    takeString q ('\\' :: c :: cs) = ((takeString q cs).1.push c, (takeString q cs).2) := by
  have hescape : takeEscape (c :: cs) = (c, cs) := by simp [takeEscape, hdigit]
  have hline : ∀ rest, ¬ c :: cs = '\n' :: rest := by
    intro rest h
    exact hbreak (List.cons.inj h).1
  rw [takeString, hescape]
  · simp
  · exact hline

/-- Any other character is part of the string as it is. -/
theorem takeString_plain {q c : Char} (hbreak : c ≠ '\n') (hslash : c ≠ '\\') (hq : c ≠ q) (cs : List Char) :
    takeString q (c :: cs) = ((takeString q cs).1.push c, (takeString q cs).2) := by
  rw [takeString, if_neg hq]
  · exact hbreak
  · intro h
    exact absurd h hslash
  · intro _ h
    exact absurd h hslash
  · exact hslash

end Crawl.Css
