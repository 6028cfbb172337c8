import Crawl.Url.Host
/-!
# Text inside a path expression

A text without a double quote is a literal between double quotes, a text with double quotes only is one between
apostrophes, and a text with both is a `concat` of its pieces between the double quotes.
-/

namespace Crawl.XPath

/-- A text between two equal quotes. -/
def between (q : Char) (cs : List Char) : List Char := q :: cs ++ [q]

/-- The arguments of the `concat` for pieces of text: each between double quotes, with a quoted double quote
between neighbours. -/
def concatArguments : List (List Char) → List Char
  | [] => []
  | [p] => between '\x22' p
  | p :: ps => between '\x22' p ++ ", '\x22', ".toList ++ concatArguments ps

/-- A path expression whose value is the given text. -/
def literalList (cs : List Char) : List Char :=
  if !cs.contains '\x22' then between '\x22' cs
  else if !cs.contains '\x27' then between '\x27' cs
  else "concat(".toList ++ concatArguments (Url.Host.pieces '\x22' cs) ++ [')']

/-- A path expression whose value is the given text. -/
def literal (s : String) : String := String.ofList (literalList s.toList)

end Crawl.XPath
