import Crawl.Text.Case
import Crawl.Text.Blank
import Crawl.Decimal.Integer
/-!
# Configuration

A configuration names an engine and a browser that exist and has a positive timeout; these are parts of its type.
It comes from six given values, from an environment, or from another configuration by overriding some values.
-/

namespace Crawl

/-- The engines a crawl can run on. -/
inductive EngineName
  | playwright
  | static
deriving DecidableEq, Repr

namespace EngineName

/-- The word for an engine. -/
def word : EngineName → String
  | playwright => "playwright"
  | static => "static"

/-- All engines. -/
def all : List EngineName := [playwright, static]

/-- The engine with the given word. -/
def ofWord? (w : String) : Option EngineName := all.find? (·.word == w)

end EngineName

/-- The browsers that can be driven. -/
inductive BrowserName
  | chromium
  | firefox
  | webkit
deriving DecidableEq, Repr

namespace BrowserName

/-- The word for a browser. -/
def word : BrowserName → String
  | chromium => "chromium"
  | firefox => "firefox"
  | webkit => "webkit"

/-- All browsers. -/
def all : List BrowserName := [chromium, firefox, webkit]

/-- The browser with the given word. -/
def ofWord? (w : String) : Option BrowserName := all.find? (·.word == w)

end BrowserName

/-- How a crawl is run. -/
structure Config where
  engine : EngineName
  browser : BrowserName
  userAgent : Option String
  headless : Bool
  failOnScriptError : Bool
  timeoutMs : Int
  timeout_pos : 0 < timeoutMs

namespace Config

/-- The six values a configuration is made from. -/
structure Draft where
  engine : String
  browser : String
  userAgent : Option String
  headless : Bool
  failOnScriptError : Bool
  timeoutMs : Int
deriving DecidableEq, Repr

/-- The values of a configuration when none is given. -/
def Draft.default : Draft := ⟨"playwright", "chromium", none, true, false, 30000⟩

/-- Why six values make no configuration. -/
inductive Fault
  | unknownEngine (name : String)
  | unknownBrowser (name : String)
  | timeoutNotPositive
  | timeoutUnreadable (fault : Integer.Fault)
deriving DecidableEq, Repr

/-- The message for values that make no configuration. -/
def Fault.message : Fault → String
  | unknownEngine name =>
    "Unknown engine " ++ Text.quoted name ++ "; expected one of "
      ++ String.intercalate ", " (EngineName.all.map EngineName.word)
  | unknownBrowser name =>
    "Unknown browser " ++ Text.quoted name ++ "; expected one of "
      ++ String.intercalate ", " (BrowserName.all.map BrowserName.word)
  | timeoutNotPositive => "default_timeout_ms must be positive"
  | timeoutUnreadable fault => fault.message

/-- Makes a configuration; the engine is checked first, then the browser, then the timeout. -/
def Draft.check (d : Draft) : Except Fault Config :=
  match EngineName.ofWord? d.engine with
  | none => .error (.unknownEngine d.engine)
  | some engine => match BrowserName.ofWord? d.browser with
    | none => .error (.unknownBrowser d.browser)
    | some browser =>
      if h : 0 < d.timeoutMs then
        .ok ⟨engine, browser, d.userAgent, d.headless, d.failOnScriptError, d.timeoutMs, h⟩
      else .error .timeoutNotPositive

/-- The values a configuration was made from. -/
def draft (c : Config) : Draft :=
  ⟨c.engine.word, c.browser.word, c.userAgent, c.headless, c.failOnScriptError, c.timeoutMs⟩

/-- The configuration when no value is given. -/
def default : Config := ⟨.playwright, .chromium, none, true, false, 30000, by decide⟩

/-- The variables of an environment. -/
abbrev Environment := String → Option String

/-- The words that mean yes. -/
def yesWords : List String := ["1", "true", "yes", "on"]

/-- A switch in an environment: a variable that is missing or empty leaves the default. -/
def switch (env : Environment) (key : String) (default : Bool) : Bool :=
  match env key with
  | none => default
  | some raw => if raw.isEmpty then default else yesWords.contains (Text.lower (Text.strip raw))

/-- The configuration an environment describes; its timeout is read before anything is checked. -/
def ofEnvironment (env : Environment) : Except Fault Config :=
  match Integer.parse ((env "CRAWLDSL_TIMEOUT_MS").getD "30000") with
  | .error e => .error (.timeoutUnreadable e)
  | .ok timeout =>
    Draft.check
      ⟨(env "CRAWLDSL_ENGINE").getD "playwright", (env "CRAWLDSL_BROWSER").getD "chromium",
        (env "CRAWLDSL_USER_AGENT").filter (!·.isEmpty), switch env "CRAWLDSL_HEADLESS" true,
        switch env "CRAWLDSL_FAIL_ON_SCRIPT_ERROR" false, timeout⟩

end Config

end Crawl
