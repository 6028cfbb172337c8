import Crawl.Failure
import Crawl.Url.Percent
/-!
# Files

The files that a `file:` address can lead to. A path is brought into normal form before it is looked up: slashes
are not repeated and lone dots are dropped, but double dots stay, since what stands before them must exist.
-/

namespace Crawl.Static

/-- What stands at a path. -/
inductive FileEntry
  | directory
  | file (bytes : List UInt8)

/-- Files and directories by the names on the way to them, from the root or, for a path that does not begin there,
from the working directory. -/
abbrev Files := List ((Bool × List (List Char)) × FileEntry)

/-- A path in normal form: how it begins, and the names on it. -/
structure FilePath where
  lead : List Char
  names : List (List Char)

namespace FilePath

/-- Reads a path. Two slashes at the start stay two; any other number becomes one. -/
def ofText (cs : List Char) : FilePath :=
  let slashes := (cs.takeWhile (· == '/')).length
  let lead := if slashes == 0 then [] else if slashes == 2 then ['/', '/'] else ['/']
  ⟨lead, (Url.Host.pieces '/' cs).filter fun s => !s.isEmpty && s != ['.']⟩

/-- Names with one slash between neighbours. -/
def joined : List (List Char) → List Char
  | [] => []
  | [s] => s
  | s :: ss => s ++ '/' :: joined ss

/-- A path as a text. -/
def text (p : FilePath) : String :=
  String.ofList (if p.lead.isEmpty && p.names.isEmpty then ['.'] else p.lead ++ joined p.names)

end FilePath

namespace Files

/-- What stands at some names. The root and the working directory are directories. -/
def entry? (fs : Files) (absolute : Bool) (names : List (List Char)) : Option FileEntry :=
  if names.isEmpty then some .directory else fs.lookup (absolute, names)

/-- Follows the names of a path from the names already passed, the last of them first. -/
def walk (fs : Files) (absolute : Bool) : (passed : List (List Char)) → List (List Char) →
    Except FileFault FileEntry
  | passed, [] => match fs.entry? absolute passed.reverse with
    | some e => .ok e
    | none => .error .missing
  | passed, name :: names => match fs.entry? absolute passed.reverse with
    | none => .error .missing
    | some (.file _) => .error .notDirectory
    | some .directory =>
      if name == ['.', '.'] then walk fs absolute passed.tail names
      else if 255 < (Text.Utf8.encode name).length then .error .nameTooLong
      else walk fs absolute (name :: passed) names

/-- The bytes of a file. -/
def read (fs : Files) (p : FilePath) : Except FileFault (List UInt8) :=
  if 4096 ≤ (Text.Utf8.encode p.text.toList).length then .error .nameTooLong
  else match walk fs (!p.lead.isEmpty) [] p.names with
    | .ok (.file bytes) => .ok bytes
    | .ok .directory => .error .directory
    | .error e => .error e

end Files

end Crawl.Static
