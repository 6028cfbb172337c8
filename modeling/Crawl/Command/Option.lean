import Crawl.Config
/-!
# Options of the command line

The options, the texts they may be written as, and how one argument is to be understood: as an option, perhaps with
a value of its own, or as something else. An option may be cut short as long as only one begins like that.
-/

namespace Crawl.Command

/-- The options. -/
inductive Flag
  | help
  | xpath
  | attr
  | engine
  | browser
  | userAgent
  | headed
  | failOnScriptError
  | timeoutMs
deriving DecidableEq, Repr

namespace Flag

/-- Whether an option takes a value. -/
def takesValue : Flag → Bool
  | help => false
  | headed => false
  | failOnScriptError => false
  | _ => true

/-- The texts for options, in the order in which they are looked through. -/
def table : List (String × Flag) := [
  ("-h", help), ("--help", help), ("--xpath", xpath), ("--attribute", attr), ("--engine", engine),
  ("--browser", browser), ("--user-agent", userAgent), ("--headed", headed),
  ("--fail-on-script-error", failOnScriptError), ("--timeout-ms", timeoutMs)]

/-- An option as messages speak of it: all its texts. -/
def title (f : Flag) : String := String.intercalate "/" ((table.filter (·.2 == f)).map (·.1))

end Flag

/-- A value written together with its option, and whether an equals sign stands between them. -/
structure Joined where
  equals : Bool
  value : List Char
deriving DecidableEq, Repr

/-- How an argument is to be understood. -/
inductive Shape
  | plain
  | dashes
  | option (flag : Flag) (joined : Option Joined)
  | unknown
deriving DecidableEq, Repr

/-- Splits a text at its first equals sign. -/
def splitEquals (cs : List Char) : List Char × Option Joined :=
  match cs.dropWhile (· != '=') with
  | _ :: value => (cs.takeWhile (· != '='), some ⟨true, value⟩)
  | [] => (cs, none)

/-- The options that an argument could be short for. One that begins with a single dash can only be the first
option of the table with its value right behind it. -/
def candidates (cs : List Char) : List (String × Shape) :=
  let (short, joined) := splitEquals cs
  if "--".toList.isPrefixOf cs then
    (Flag.table.filter fun e => short.isPrefixOf e.1.toList).map fun e => (e.1, .option e.2 joined)
  else
    (Flag.table.filter fun e => e.1.toList == cs.take 2).map fun e => (e.1, .option e.2 (some ⟨false, cs.drop 2⟩))

/-- Whether all characters of a text that is not empty are digits. -/
def areDigits (cs : List Char) : Bool := !cs.isEmpty && cs.all fun c => (Integer.digit? c).isSome

/-- Whether a text is a negative number; a line end may stand behind it. -/
def isNegativeNumber (cs : List Char) : Bool :=
  match cs with
  | '-' :: r =>
    let r := if r.getLast? == some '\n' then r.dropLast else r
    let whole := r.takeWhile (· != '.')
    areDigits r || ((whole.isEmpty || areDigits whole) && areDigits ((r.dropWhile (· != '.')).drop 1))
  | _ => false

/-- How an argument is to be understood; an argument that could be several options is refused. -/
def shapeOf (s : String) : Except String Shape :=
  let cs := s.toList
  if cs.head? != some '-' then .ok .plain
  else match Flag.table.lookup s with
    | some flag => .ok (.option flag none)
    | none =>
      if cs.length == 1 then .ok .plain
      else
        let (name, joined) := splitEquals cs
        match joined, Flag.table.lookup (String.ofList name) with
        | some j, some flag => .ok (.option flag (some j))
        | _, _ => match candidates cs with
          | [c] => .ok c.2
          | [] =>
            if isNegativeNumber cs || cs.contains ' ' then .ok .plain else .ok .unknown
          | many =>
            .error ("ambiguous option: " ++ s ++ " could match " ++ String.intercalate ", " (many.map (·.1)))

/-- How the arguments are to be understood; behind two dashes that stand by themselves all are plain. -/
def shapesOf : List String → Except String (List (String × Shape))
  | [] => .ok []
  | s :: ss =>
    if s = "--" then .ok ((s, .dashes) :: ss.map (·, .plain))
    else match shapeOf s with
      | .error e => .error e
      | .ok shape => match shapesOf ss with
        | .error e => .error e
        | .ok rest => .ok ((s, shape) :: rest)

end Crawl.Command
