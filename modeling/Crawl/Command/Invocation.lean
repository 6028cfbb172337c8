import Crawl.Command.Listing
import Crawl.Command.Usage
import Crawl.Command.Verbosity
import Crawl.Static.Engine
import Crawl.Browser.Engine
/-!
# The command

What the command does from its arguments to its exit code. Everything it meets outside is given beforehand: the
environment, the pages that are known, the files, the replies of remote pages, and what happens in the browser and
befalls each call to it.
A failure of the crawl itself ends with an exit code; any other failure leaves the command as it is.
-/

namespace Crawl.Command

/-- What surrounds the command. -/
structure Surroundings where
  environment : Config.Environment
  pages : List (String × String)
  files : Static.Files
  replies : List Static.Reply
  world : Browser.World
  incident : Browser.Incidents

/-- The engine a crawl has left behind. -/
inductive Device
  | static (state : Static.State)
  | browser (state : Browser.State)

/-- What a crawl leaves behind: its failure, if it has one, its journal, what it wrote, and its engine if there was
one. -/
structure Crawled where
  failure : Option Failure
  journal : Journal
  output : Output
  device : Option Device

/-- How the command ends: with an exit code, or by a failure that is not the crawl's own. -/
inductive Ending
  | exit (code : Nat)
  | failed (failure : Failure)
deriving DecidableEq

/-- What the command leaves behind: how it ended, its two outputs, everything that was entered into the journal, shown
or not, and its engine if there was one. -/
structure Report where
  ending : Ending
  output : String
  errors : String
  journal : Journal
  device : Option Device

/-- What a session leaves behind that has listed its matches. -/
def Crawled.ofResult {δ ν : Type} (device : δ → Device) :
    EStateM.Result Failure (Session δ ν Output) Unit → Crawled
  | .ok _ s => ⟨none, s.desk.journal, s.host, some (device s.desk.device)⟩
  | .error f s => ⟨some f, s.desk.journal, s.host, some (device s.desk.device)⟩

/-- Lists the matches on a new engine. -/
def crawl (w : Surroundings) (c : Config) (a : Arguments) : Crawled :=
  match c.engine with
  | .static => match Static.State.start w.pages w.files w.replies c.userAgent c.timeoutMs with
    | .error f => ⟨some f, #[], [], none⟩
    | .ok s => .ofResult .static (list Static.engine a.url a.xpath a.attrs (Session.start s []))
  | .playwright =>
    let s := Browser.State.start (Browser.Options.ofConfig c) w.world w.incident
    .ofResult .browser (list Browser.engine a.url a.xpath a.attrs (Session.start s []))

/-- Lists the matches for some arguments, with a given configuration or with the one they describe. -/
def run (w : Surroundings) (a : Arguments) (base : Option Config) : Crawled :=
  match base with
  | some c => crawl w c a
  | none => match a.config w.environment none with
    | .error fault => ⟨some (.refused (.config fault)), #[], [], none⟩
    | .ok c => crawl w c a

/-- The entry that reports a failure. -/
def report (text : String) : Entry := ⟨.error, .commandLine, text⟩

/-- The lines for the entries of a journal that reach a threshold. -/
def errorText (least : Nat) (j : Journal) : String := unlines ((shown least j).map entryLine)

/-- What the command leaves behind after a crawl. -/
def Report.ofCrawled (least : Nat) (r : Crawled) : Report :=
  let output := String.join r.output
  let ended (ending : Ending) (j : Journal) : Report := ⟨ending, output, errorText least j, j, r.device⟩
  match r.failure with
  | none => ended (.exit 0) r.journal
  | some f =>
    if f.isCrawl then ended (.exit 1) (r.journal.push (report f.message))
    else ended (.failed f) r.journal

/-- Runs the command. -/
def invoke (w : Surroundings) (argv : List String) : Report :=
  match threshold (w.environment "LOG_LEVEL") with
  | .error f => ⟨.failed f, "", "", #[], none⟩
  | .ok least => match Arguments.parse argv with
    | .error .help => ⟨.exit 0, help, "", #[], none⟩
    | .error (.refused message) => ⟨.exit 2, "", complaint message, #[], none⟩
    | .ok a => match a.config w.environment none with
      | .error fault =>
        let j := #[report ("Invalid configuration: " ++ fault.message)]
        ⟨.exit 1, "", errorText least j, j, none⟩
      | .ok c => .ofCrawled least (crawl w c a)

end Crawl.Command
