import Crawl.Session.Deed
import Crawl.Command.Arguments
import Crawl.Command.Record
/-!
# Listing the matches of a path

The command goes to an address, reads every match of a path there, and closes the engine; only then are the records
written, all of them. The session carries what was written so far as its further state.
-/

namespace Crawl.Command

/-- What was written to the output, piece by piece. -/
abbrev Output := List String

variable {δ ν : Type}

/-- The attributes of the current scope under some names, put into those already read. -/
def readAttrs (E : Engine δ ν) (known : List (String × Option String)) :
    List String → Action (Session δ ν Output) (List (String × Option String))
  | [] => return known
  | name :: names => do
    let value ← Session.attributeOf E name none
    readAttrs E (Record.put name value known) names

/-- The record of a node that is the current scope. -/
def describe (E : Engine δ ν) (names : List String) (node : ν) : Action (Session δ ν Output) Record := do
  let tag ← Session.onDesk (E.tagName node)
  let text ← Session.textOf E none
  return ⟨tag, text, ← readAttrs E [] names⟩

/-- Reads all matches of a path on the current page. -/
def readMatches [DecidableEq ν] (E : Engine δ ν) (xpath : String) (names : List String) :
    Action (Session δ ν Output) (List Record) := do
  match Descriptor.make .xpath xpath with
  | .error fault => throw (.refused (.descriptor fault))
  | .ok d =>
    let matching ← Session.describe (.element .container (some d)) none
    Session.runEach E matching (describe E names)

/-- Goes to an address and reads all matches of a path there. -/
def collect [DecidableEq ν] (E : Engine δ ν) (url xpath : String) (names : List String) :
    Action (Session δ ν Output) (List Record) := do
  let page ← Session.navigateTo url
  page.call E fun _ => readMatches E xpath names

/-- Writes lines to the output. -/
def writeAll (lines : List String) : Action (Session δ ν Output) Unit :=
  modify fun s => { s with host := s.host ++ lines }

/-- Lists the matches of a path: the engine is closed whatever happens, and nothing is written before that. -/
def list [DecidableEq ν] (E : Engine δ ν) (url xpath : String) (names : List String) :
    Action (Session δ ν Output) Unit := do
  let records ← Action.always (collect E url xpath names) (Session.close E true)
  writeAll (Record.lines 0 records)
  Session.note .info .commandLine (toString records.length ++ " nodes matched " ++ xpath)

end Crawl.Command
