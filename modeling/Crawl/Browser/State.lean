import Crawl.Engine
import Crawl.Browser.World
/-!
# The state of the browser engine

The engine launches its browser when the first page is loaded and keeps one page for the whole crawl, until it is
closed. What the launch handed out is kept piece by piece, as the calls that need it come one after the other. Errors that
scripts report are collected, and each load and each click starts with none of them.
-/

namespace Crawl.Browser

/-- How the browser is launched, and whether an error in a script is a failure. -/
structure Options where
  browser : String
  agent : Option String
  headless : Bool
  failOnScriptError : Bool
  timeoutMs : Int

/-- The state of the engine: its options, what happens in the browser and has been asked of it, what it holds of a launched
browser, and the errors of scripts that were not reported yet. -/
structure State where
  options : Options
  world : World
  calls : Array Call
  driver : Option Nat
  browser : Option Nat
  context : Option Nat
  page : Option Nat
  pending : List String
  incident : Incidents

/-- The state of a new engine. -/
def State.start (options : Options) (world : World) (incident : Incidents) : State :=
  ⟨options, world, #[], none, none, none, none, [], incident⟩

/-- The launch options of a configuration. -/
def Options.ofConfig (c : Config) : Options :=
  ⟨c.browser.word, c.userAgent, c.headless, c.failOnScriptError, c.timeoutMs⟩

/-- An action of the engine. -/
abbrev Work (α : Type) := Action (Desk State) α

/-- Makes a call. -/
def record (call : Call) : Work Unit := Desk.update fun s => { s with calls := s.calls.push call }

/-- Changes what will happen. -/
def changeWorld (f : World → World) : Work Unit := Desk.update fun s => { s with world := f s.world }

/-- Lets a step turn out as it does: errors of scripts are collected, and a failure fails. -/
def happen (step : Step) : Work Unit := do
  Desk.update fun s =>
    { s with
      world := { s.world with url := step.url.getD s.world.url }
      pending := s.pending ++ step.errors }
  match step.failure with
  | some (timedOut, message) => throw (.browser timedOut message)
  | none => pure ()

/-- Makes a call to the page or to an element, and lets whatever befalls it happen. -/
def make (call : Call) : Work Unit := do
  record call
  let s ← Desk.read
  happen (s.incident s.calls)

/-- Puts another failure in the place of one of the browser's. -/
def translate {α : Type} (f : String → Failure) (body : Work α) : Work α :=
  Action.recast body fun e => match e with
    | .browser _ message => f message
    | e => e

/-! ## Launching and closing -/

/-- Launches the browser, unless its page is there already. -/
def ensurePage : Work Nat := do
  let s ← Desk.read
  match s.page with
  | some page => return page
  | none =>
    let o := s.options
    let given := s.world.launch
    record .start
    Desk.update fun s => { s with driver := some given.driver }
    record (.launch given.driver o.browser o.headless)
    Desk.update fun s => { s with browser := some given.browser }
    record (.newContext given.browser (o.agent.filter (!·.isEmpty)))
    Desk.update fun s => { s with context := some given.context }
    record (.newPage given.context)
    record (.setTimeout given.page o.timeoutMs)
    record (.listen given.page)
    Desk.update fun s => { s with page := some given.page }
    Desk.note .info .browserEngine
      ("Launched " ++ o.browser ++ " (headless=" ++ (if o.headless then "True" else "False") ++ ")")
    return given.page

/-- Makes the call that releases something, if there is something to release. -/
def letGo (handle : Option Nat) (call : Nat → Call) (turn : Step) : Work Unit := do
  match handle with
  | some number =>
    record (call number)
    happen turn
  | none => pure ()

/-- Closes the context and then the browser. -/
def release : Work Unit := do
  let s ← Desk.read
  letGo s.context .closeContext s.world.closeContext
  letGo s.browser .closeBrowser s.world.closeBrowser

/-- Stops the driver and forgets whatever was launched. -/
def forget : Work Unit := do
  let s ← Desk.read
  letGo s.driver .stop .quiet
  Desk.update fun s => { s with driver := none, browser := none, context := none, page := none }

/-- Closes what there is of a browser; the driver is stopped whatever happens. -/
def close : Work Unit := Action.always release forget

/-! ## Errors of scripts -/

/-- Forgets the errors collected so far. -/
def clearErrors : Work Unit := Desk.update fun s => { s with pending := [] }

/-- Writes a warning for each error. -/
def warnAll (url : String) : List String → Work Unit
  | [] => pure ()
  | m :: ms => do
    Desk.note .warning .browserEngine ("Ignoring script error on " ++ url ++ ": " ++ m)
    warnAll url ms

/-- Reports the errors collected since they were last cleared: as a failure, or as warnings. -/
def settle : Work Unit := do
  let s ← Desk.read
  clearErrors
  match s.pending with
  | [] => pure ()
  | errors =>
    if s.options.failOnScriptError then throw (.script s.world.url errors)
    else warnAll s.world.url errors

end Crawl.Browser
