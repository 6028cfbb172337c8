import Crawl.Json
/-!
# Records of matches

What the command tells about one match: its tag, its text, and the attributes it was asked for. An attribute that
was asked for twice keeps its first place and its latest value.
-/

namespace Crawl.Command

/-- What is told about a match. -/
structure Record where
  tag : String
  text : String
  attrs : List (String × Option String)
deriving DecidableEq, Repr

namespace Record

/-- Writes a value under a name: over the value it has, or else behind all others. -/
def put {α : Type} (name : String) (value : α) : List (String × α) → List (String × α)
  | [] => [(name, value)]
  | e :: rest => if e.1 = name then (name, value) :: rest else e :: put name value rest

/-- A value that may be missing. -/
def optional : Option String → Json
  | some s => .text s
  | none => .null

/-- A record with its place among the records; attributes are told only when some were asked for. -/
def json (r : Record) (index : Nat) : Json :=
  .record ([("tag", .text r.tag), ("text", .text r.text)]
    ++ (if r.attrs.isEmpty then [] else [("attributes", .record (r.attrs.map fun e => (e.1, optional e.2)))])
    ++ [("index", .number index)])

/-- The lines for some records, the first of which has the given place. -/
def lines : (index : Nat) → List Record → List String
  | _, [] => []
  | index, r :: rs => (r.json index).line :: lines (index + 1) rs

end Record

end Crawl.Command
