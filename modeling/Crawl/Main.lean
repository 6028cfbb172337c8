import Crawl.Command.Invocation
/-!
# The program

Looks at what surrounds the command (its environment and the file that its address leads to), runs the command, and
prints what it leaves behind. There is no client for remote pages and no browser here, so loading any other page
fails and says so.
-/

namespace Crawl

/-- The variableNames that the command looks at. -/
def variableNames : List String := [
  "LOG_LEVEL", "CRAWLDSL_ENGINE", "CRAWLDSL_BROWSER", "CRAWLDSL_USER_AGENT", "CRAWLDSL_HEADLESS",
  "CRAWLDSL_FAIL_ON_SCRIPT_ERROR", "CRAWLDSL_TIMEOUT_MS"]

/-- The places that are looked at on the way along some names, from the place already reached. -/
def visits : (passed : List (List Char)) → List (List Char) → List (List (List Char))
  | _, [] => []
  | passed, name :: names =>
    let next := if name = ['.', '.'] then passed.tail else name :: passed
    next.reverse :: visits next names

/-- The path of the file that an address leads to. -/
def fileOf? (url : String) : Option Static.FilePath :=
  match Url.split url.toList with
  | .error _ => none
  | .ok parts =>
    if String.ofList parts.scheme = "file" then some (.ofText (Url.percentDecode parts.path)) else none

/-- What stands at a place. -/
def look (lead : List Char) (names : List (List Char)) : IO (Option Static.FileEntry) := do
  try
    let bytes ← IO.FS.readBinFile (Static.FilePath.mk lead names).text
    return some (.file bytes.toList)
  catch e =>
    match e with
    | .inappropriateType _ 21 _ => return some .directory
    | _ => return none

/-- The files on the way to the one that an address leads to. -/
def filesFor (url : String) : IO Static.Files := do
  match fileOf? url with
  | none => return []
  | some p =>
    let mut files : Static.Files := []
    for place in visits [] p.names do
      if let some entry ← look p.lead place then
        files := ((!p.lead.isEmpty, place), entry) :: files
    return files

/-- The address among some arguments. -/
def addressOf (argv : List String) : String :=
  match Command.Arguments.parse argv with
  | .ok a => a.url
  | .error _ => ""

/-- What stands for the replies of remote pages. -/
def offline : Static.Reply := .failed "there is no client for remote pages"

/-- A browser in which no page loads. -/
def noBrowser : Browser.World :=
  { Browser.World.quiet with visits := [⟨none, [], some (false, "there is no browser")⟩] }

/-- Runs the command on some arguments and prints what it leaves behind. -/
def program (argv : List String) : IO UInt32 := do
  let values ← variableNames.mapM fun name => do return (name, ← IO.getEnv name)
  let surroundings : Command.Surroundings :=
    ⟨fun name => (values.lookup name).join, [], ← filesFor (addressOf argv), [offline], noBrowser, .none⟩
  let report := Command.invoke surroundings argv
  IO.print report.output
  IO.eprint report.errors
  match report.ending with
  | .exit code => return code.toUInt32
  | .failed f =>
    IO.eprintln (f.kind.name ++ ": " ++ f.message)
    return 1

end Crawl

/-- Runs the command on its arguments. -/
def main (argv : List String) : IO UInt32 := Crawl.program argv
