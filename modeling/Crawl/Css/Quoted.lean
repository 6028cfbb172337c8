/-!
# Text inside a selector

A text stands in a selector between double quotes, with a backslash before every backslash and double quote.
-/

namespace Crawl.Css

/-- One character between the quotes. -/
def escapeChar (c : Char) : List Char :=
  if c = '\\' ∨ c = '\x22' then ['\\', c] else [c]

/-- A list of characters as a quoted text. -/
def quotedList (cs : List Char) : List Char := '\x22' :: cs.flatMap escapeChar ++ ['\x22']

/-- A text as a quoted text. -/
def quoted (s : String) : String := String.ofList (quotedList s.toList)

/-- The selector of the elements with an attribute of the given value. -/
def attributeIs (name value : String) : String := "[" ++ name ++ "=" ++ quoted value ++ "]"

end Crawl.Css
