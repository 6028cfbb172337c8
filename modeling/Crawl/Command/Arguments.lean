import Crawl.Command.Option
/-!
# The arguments of the command

An address and options in any order. What the command is asked for is read from left to right: the first plain
argument is the address, an option takes the plain argument behind it when it needs a value, and what is left over
is refused at the end, after it was seen that nothing is missing.
-/

namespace Crawl.Command

/-- What the command is asked for. -/
structure Arguments where
  url : String
  xpath : String
  attrs : List String
  engine : Option EngineName
  browser : Option BrowserName
  userAgent : Option String
  headed : Bool
  failOnScriptError : Bool
  timeoutMs : Option Int
deriving DecidableEq, Repr

/-- Why the command does not run: it is asked for help, or its arguments are refused. -/
inductive Stop
  | help
  | refused (message : String)
deriving DecidableEq, Repr

/-- What was read so far. -/
structure Reading where
  url : Option String
  xpath : Option String
  attrs : List String
  engine : Option EngineName
  browser : Option BrowserName
  userAgent : Option String
  headed : Bool
  failOnScriptError : Bool
  timeoutMs : Option Int
  extras : List String

/-- Nothing read yet. -/
def Reading.empty : Reading := ⟨none, none, [], none, none, none, false, false, none, []⟩

/-- A refusal of an option. -/
def refuse {α : Type} (f : Flag) (message : String) : Except Stop α :=
  .error (.refused ("argument " ++ f.title ++ ": " ++ message))

/-- A refusal of a value that is none of some words. -/
def refuseChoice {α : Type} (f : Flag) (value : String) (words : List String) : Except Stop α :=
  refuse f ("invalid choice: " ++ Text.quoted value ++ " (choose from "
    ++ String.intercalate ", " (words.map Text.quoted) ++ ")")

/-- A refusal of a value that an option has no use for. -/
def refuseJoined {α : Type} (f : Flag) (value : List Char) : Except Stop α :=
  refuse f ("ignored explicit argument " ++ Text.quoted (String.ofList value))

namespace Reading

/-- Takes an option with its value. -/
def withValue (r : Reading) (f : Flag) (value : String) : Except Stop Reading :=
  match f with
  | .xpath => .ok { r with xpath := some value }
  | .attr => .ok { r with attrs := r.attrs ++ [value] }
  | .engine => match EngineName.ofWord? value with
    | some e => .ok { r with engine := some e }
    | none => refuseChoice f value (EngineName.all.map EngineName.word)
  | .browser => match BrowserName.ofWord? value with
    | some b => .ok { r with browser := some b }
    | none => refuseChoice f value (BrowserName.all.map BrowserName.word)
  | .userAgent => .ok { r with userAgent := some value }
  | .timeoutMs => match Integer.parse value with
    | .ok n => .ok { r with timeoutMs := some n }
    | .error _ => refuse f ("invalid int value: " ++ Text.quoted value)
  | _ => .ok r

/-- Takes an option without a value. -/
def withFlag (r : Reading) (f : Flag) : Except Stop Reading :=
  match f with
  | .help => .error .help
  | .headed => .ok { r with headed := true }
  | .failOnScriptError => .ok { r with failOnScriptError := true }
  | _ => .ok r

/-- What follows from the short option for help with a value written right behind it: further letters are options
of the same kind. -/
def afterShortHelp : (equals : Bool) → List Char → Stop
  | equals, cs =>
    let ignored : Stop :=
      .refused ("argument " ++ Flag.help.title ++ ": ignored explicit argument " ++ Text.quoted (String.ofList cs))
    match equals, cs with
    | _, [] => ignored
    | true, _ => ignored
    | false, '-' :: _ => ignored
    | false, 'h' :: '=' :: rest => afterShortHelp true rest
    | false, 'h' :: d :: rest => afterShortHelp false (d :: rest)
    | false, _ => .help

/-- Takes an option with the value it is written together with. -/
def withJoined (r : Reading) (written : String) (f : Flag) (j : Joined) : Except Stop Reading :=
  if f.takesValue then r.withValue f (String.ofList j.value)
  else if f = .help ∧ "--".toList.isPrefixOf written.toList = false then .error (afterShortHelp j.equals j.value)
  else refuseJoined f j.value

/-- Takes a plain argument. -/
def withPlain (r : Reading) (s : String) : Reading :=
  match r.url with
  | none => { r with url := some s }
  | some _ => { r with extras := r.extras ++ [s] }

/-- Takes the arguments one after the other. Two lone dashes beside the argument that is the address vanish. -/
def takeAll (r : Reading) : List (String × Shape) → Except Stop Reading
  | [] => .ok r
  | (s, .plain) :: (d, .dashes) :: rest =>
    if r.url.isNone then takeAll (r.withPlain s) rest
    else takeAll { r with extras := r.extras ++ [s, d] } rest
  | (s, .plain) :: rest => takeAll (r.withPlain s) rest
  | (d, .dashes) :: rest =>
    match rest with
    | [] => takeAll { r with extras := r.extras ++ [d] } rest
    | _ :: _ =>
      if r.url.isNone then takeAll r rest else takeAll { r with extras := r.extras ++ [d] } rest
  | (s, .unknown) :: rest => takeAll { r with extras := r.extras ++ [s] } rest
  | (s, .option f (some j)) :: rest => match r.withJoined s f j with
    | .ok r => takeAll r rest
    | .error e => .error e
  | (_, .option f none) :: rest =>
    if f.takesValue then
      match rest with
      | (v, .plain) :: rest => match r.withValue f v with
        | .ok r => takeAll r rest
        | .error e => .error e
      | _ => refuse f "expected one argument"
    else match r.withFlag f with
      | .ok r => takeAll r rest
      | .error e => .error e

/-- What was read, if nothing is missing and nothing is left over. -/
def complete (r : Reading) : Except Stop Arguments :=
  let missing := (if r.url.isNone then ["url"] else []) ++ (if r.xpath.isNone then [Flag.xpath.title] else [])
  match r.url, r.xpath with
  | some url, some xpath =>
    if r.extras.isEmpty then
      .ok ⟨url, xpath, r.attrs, r.engine, r.browser, r.userAgent, r.headed, r.failOnScriptError, r.timeoutMs⟩
    else .error (.refused ("unrecognized arguments: " ++ String.intercalate " " r.extras))
  | _, _ => .error (.refused ("the following arguments are required: " ++ String.intercalate ", " missing))

end Reading

/-- Reads the arguments of the command. -/
def Arguments.parse (argv : List String) : Except Stop Arguments :=
  match shapesOf argv with
  | .error e => .error (.refused e)
  | .ok shapes => match Reading.empty.takeAll shapes with
    | .error e => .error e
    | .ok r => r.complete

/-! ## From arguments to a configuration -/

/-- The values of a configuration with those of the arguments in their place. An empty text is not given. -/
def Arguments.override (a : Arguments) (d : Config.Draft) : Config.Draft where
  engine := (a.engine.map EngineName.word).getD d.engine
  browser := (a.browser.map BrowserName.word).getD d.browser
  userAgent := match a.userAgent with
    | some name => if name.isEmpty then d.userAgent else some name
    | none => d.userAgent
  headless := if a.headed then false else d.headless
  failOnScriptError := a.failOnScriptError || d.failOnScriptError
  timeoutMs := a.timeoutMs.getD d.timeoutMs

/-- The configuration for some arguments, over a given one or over the one of the environment. -/
def Arguments.config (a : Arguments) (env : Config.Environment) (base : Option Config) : Except Config.Fault Config :=
  match base with
  | some c => (a.override c.draft).check
  | none => match Config.ofEnvironment env with
    | .error e => .error e
    | .ok c => (a.override c.draft).check

end Crawl.Command
