/-!
# Values on one line

Nested values in the JSON notation, each on one line: a comma and a colon are followed by one blank, and of the
characters of a text only the quote, the backslash and the control characters below the blank are escaped. No line
end survives in what is written, so a line holds exactly one value.
-/

namespace Crawl

/-- A value that can be written. -/
inductive Json
  | null
  | number (n : Nat)
  | text (s : String)
  | record (fields : List (String × Json))

namespace Json

/-- A character inside a text. -/
def escape (c : Char) : List Char :=
  if c = '\x22' then ['\\', '\x22']
  else if c = '\\' then ['\\', '\\']
  else if c = '\n' then ['\\', 'n']
  else if c = '\r' then ['\\', 'r']
  else if c = '\t' then ['\\', 't']
  else if c = '\x08' then ['\\', 'b']
  else if c = '\x0c' then ['\\', 'f']
  else if c.toNat < 32 then ['\\', 'u', '0', '0', Nat.digitChar (c.toNat / 16), Nat.digitChar (c.toNat % 16)]
  else [c]

/-- The characters of a text, up to and with the closing quote. -/
def escapeAll : List Char → List Char
  | [] => ['\x22']
  | c :: cs => escape c ++ escapeAll cs

/-- A text between quotes. -/
def quoted (s : String) : List Char := '\x22' :: escapeAll s.toList

mutual

/-- A value as it is written. -/
def written : Json → List Char
  | null => ['n', 'u', 'l', 'l']
  | number n => Nat.toDigits 10 n
  | text s => quoted s
  | record [] => ['\x7b', '\x7d']
  | record ((k, v) :: fields) => '\x7b' :: (quoted k ++ ':' :: ' ' :: (written v ++ writtenRest fields))

/-- The fields of a record behind its first one, up to and with the closing brace. -/
def writtenRest : List (String × Json) → List Char
  | [] => ['\x7d']
  | (k, v) :: fields => ',' :: ' ' :: (quoted k ++ ':' :: ' ' :: (written v ++ writtenRest fields))

end

/-- A value on a line of its own. -/
def line (j : Json) : String := String.ofList (written j ++ ['\n'])

end Json

end Crawl
