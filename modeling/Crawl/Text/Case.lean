import Crawl.Text.CaseTable
/-!
# Upper and lower case

Each character is mapped by itself, whatever stands beside it; a few have an image of two or three characters.
-/

namespace Crawl.Text

/-- The image of a code point under a table of runs. -/
def imageIn (runs : List (Nat × Nat × Nat × Nat)) (n : Nat) : Nat :=
  match runs.find? fun (first, last, stride, _) => first ≤ n && n ≤ last && (n - first) % stride == 0 with
  | some (first, _, _, image) => image + (n - first)
  | none => n

/-- The characters a character is mapped to by a table of longer images and a table of runs. -/
def imageOf (long : List (Nat × List Nat)) (runs : List (Nat × Nat × Nat × Nat)) (c : Char) : List Char :=
  match long.find? fun (n, _) => n == c.toNat with
  | some (_, ns) => ns.map Char.ofNat
  | none => [Char.ofNat (imageIn runs c.toNat)]

/-- The lower case of one character. -/
def lowerChar (c : Char) : List Char :=
  if c.toNat < 128 then [c.toLower] else imageOf lowerLong lowerRuns c

/-- The upper case of one character. -/
def upperChar (c : Char) : List Char :=
  if c.toNat < 128 then [c.toUpper] else imageOf upperLong upperRuns c

/-- A text in lower case. -/
def lower (s : String) : String := String.ofList (s.toList.flatMap lowerChar)

/-- A text in upper case. -/
def upper (s : String) : String := String.ofList (s.toList.flatMap upperChar)

end Crawl.Text
