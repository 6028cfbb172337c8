import Crawl.XPath.Syntax
import Crawl.XPath.Name
import Crawl.XPath.Number
/-!
# Reading path expressions

Expressions are read from the text itself, without tokens: what a word means depends on where it stands, and the
words `or`, `and`, `div` and `mod` end where their letters end, whatever follows them. The first fault is the one
that is reported. Every call consumes fuel; `parse` gives enough for any text.
-/

namespace Crawl.XPath

/-- The levels of binary operators, from the loosest to the tightest. -/
inductive Binding
  | or
  | and
  | equality
  | relation
  | sum
  | product
  | union
deriving DecidableEq, Repr

/-- The operator of a level at the start of a text, and the text behind it. -/
def operatorAt : Binding → List Char → Option (Operator × List Char)
  | .or, 'o' :: 'r' :: cs => some (.or, cs)
  | .and, 'a' :: 'n' :: 'd' :: cs => some (.and, cs)
  | .equality, '=' :: cs => some (.equal, cs)
  | .equality, '!' :: '=' :: cs => some (.unequal, cs)
  | .relation, '<' :: '=' :: cs => some (.lessOrEqual, cs)
  | .relation, '<' :: cs => some (.less, cs)
  | .relation, '>' :: '=' :: cs => some (.greaterOrEqual, cs)
  | .relation, '>' :: cs => some (.greater, cs)
  | .sum, '+' :: cs => some (.add, cs)
  | .sum, '-' :: cs => some (.subtract, cs)
  | .product, '*' :: cs => some (.multiply, cs)
  | .product, 'd' :: 'i' :: 'v' :: cs => some (.divide, cs)
  | .product, 'm' :: 'o' :: 'd' :: cs => some (.remainder, cs)
  | .union, '|' :: cs => some (.union, cs)
  | _, _ => none

/-- The minus signs at the start of a text: whether there are any, whether their number is odd, and the text behind
them. -/
def takeSigns : (found odd : Bool) → List Char → Bool × Bool × List Char
  | _, odd, '-' :: cs => takeSigns true (!odd) cs
  | found, odd, c :: cs => if isBlank c then takeSigns found odd cs else (found, odd, c :: cs)
  | found, odd, [] => (found, odd, [])

/-- The literal behind an opening quote, and the text behind it. -/
def takeLiteral (q : Char) (cs : List Char) : Except Fault (String × List Char) :=
  match cs.dropWhile (· != q) with
  | _ :: rest => .ok (String.ofList (cs.takeWhile (· != q)), rest)
  | [] => .error .unfinishedLiteral

/-- Whether a path begins with an expression of its own instead of a step. -/
def beginsWithValue (cs : List Char) : Except Fault Bool :=
  match cs with
  | [] => .error .invalidExpression
  | c :: rest =>
    if c == '$' || c == '(' || c.isDigit || c == '\x27' || c == '\x22'
        || (c == '.' && rest.head?.any Char.isDigit) then .ok true
    else if c == '*' || c == '/' || c == '@' || c == '.' then .ok false
    else match takeColonName cs with
      | none => .error .invalidExpression
      | some (name, rest) =>
        .ok ((skip rest).head? == some '(' && (NodeType.ofWord? (String.ofList name)).isNone)

/-- Whether a step may follow a lone slash. -/
def beginsStep (c : Char) : Bool :=
  c.isAlpha || 0x80 ≤ c.toNat || c == '_' || c == '.' || c == '@' || c == '*'

/-- The axis at the start of a step, with the name read on the way that turned out to be none, and the text behind
them. -/
def takeAxis (cs : List Char) : Axis × Option String × List Char :=
  match takeName cs with
  | some (name, rest) => match Axis.ofWord? name with
    | some axis => match skip rest with
      | ':' :: ':' :: rest => (axis, none, rest)
      | rest => (.child, some name, rest)
    | none => (.child, some name, rest)
  | none => match cs with
    | '@' :: rest => (.attr, none, rest)
    | _ => (.child, none, cs)

/-- The rest of a test for a type of node, from behind its opening bracket. -/
def takeTypeTest (name : String) (cs : List Char) : Except Fault (Test × List Char) :=
  match NodeType.ofWord? name with
  | none => .error .invalidExpression
  | some type =>
    let close : List Char → Except Fault (Test × List Char)
      | ')' :: rest => .ok (.type type, rest)
      | _ => .error .unclosed
    match type, skip cs with
    | .instruction, '\x27' :: cs => match takeLiteral '\x27' cs with
      | .ok (_, cs) => close (skip cs)
      | .error e => .error e
    | .instruction, '\x22' :: cs => match takeLiteral '\x22' cs with
      | .ok (_, cs) => close (skip cs)
      | .error e => .error e
    | .instruction, ')' :: cs => close (')' :: cs)
    | .instruction, _ => .error .literalExpected
    | _, cs => close cs

/-- The test of a step whose name was read. -/
def takeNameTest (name : String) (cs : List Char) : Except Fault (Test × List Char) :=
  match skip cs with
  | '(' :: rest => takeTypeTest name rest
  | ':' :: rest =>
    if cs.head?.any isBlank then .ok (.named none name, ':' :: rest)
    else match rest with
      | '*' :: rest => .ok (.any (some name), rest)
      | _ => match takeName rest with
        | some (inner, rest) => .ok (.named (some name) inner, rest)
        | none => .error .invalidExpression
  | rest => .ok (.named none name, rest)

/-- The test of a step. -/
def takeTest (name : Option String) (cs : List Char) : Except Fault (Test × List Char) :=
  match name with
  | some name => takeNameTest name cs
  | none => match skip cs with
    | '*' :: rest => .ok (.any none, rest)
    | cs => match takeName cs with
      | some (name, rest) => takeNameTest name rest
      | none => .error .invalidExpression

mutual

/-- Reads an expression of a level. -/
def parseLevel : (fuel : Nat) → Binding → List Char → Except Fault (Expr × List Char)
  | 0, _, _ => .error .tooDeep
  | fuel + 1, level, cs => do
    let (e, cs) ← parseOperand fuel level cs
    parseMore fuel level e (skip cs)

/-- Reads an operand of the operators of a level. -/
def parseOperand : (fuel : Nat) → Binding → List Char → Except Fault (Expr × List Char)
  | 0, _, _ => .error .tooDeep
  | fuel + 1, level, cs => match level with
    | .or => parseLevel fuel .and cs
    | .and => parseLevel fuel .equality cs
    | .equality => parseLevel fuel .relation cs
    | .relation => parseLevel fuel .sum cs
    | .sum => parseLevel fuel .product cs
    | .product => do
      let (found, odd, cs) := takeSigns false false (skip cs)
      let (e, cs) ← parseLevel fuel .union cs
      return (if found then .signed odd e else e, cs)
    | .union => parsePath fuel (skip cs)

/-- Reads the further operators of a level and their right sides. -/
def parseMore : (fuel : Nat) → Binding → Expr → List Char → Except Fault (Expr × List Char)
  | 0, _, _, _ => .error .tooDeep
  | fuel + 1, level, left, cs => match operatorAt level cs with
    | none => .ok (left, cs)
    | some (op, rest) => do
      let (right, rest) ← parseOperand fuel level (skip rest)
      parseMore fuel level (.binary op left right) (skip rest)

/-- Reads a path: steps, or a value with predicates and perhaps steps behind it. -/
def parsePath : (fuel : Nat) → List Char → Except Fault (Expr × List Char)
  | 0, _ => .error .tooDeep
  | fuel + 1, cs => do
    if ← beginsWithValue cs then
      let (e, cs) ← parseValue fuel cs
      let (e, cs) ← parseFilters fuel e (skip cs)
      match cs with
      | '/' :: '/' :: rest => parseRelative fuel e.everywhere (skip rest)
      | '/' :: _ => parseRelative fuel e cs
      | _ => return (e, cs)
    else match cs with
      | '/' :: _ => parseAbsolute fuel .root cs
      | _ => parseRelative fuel .here cs

/-- Reads a value that stands by itself. -/
def parseValue : (fuel : Nat) → List Char → Except Fault (Expr × List Char)
  | 0, _ => .error .tooDeep
  | fuel + 1, cs => match cs with
    | '$' :: cs => match takeQualified cs with
      | some (space, name, rest) => .ok (.variable space name, skip rest)
      | none => .error .variableExpected
    | '(' :: cs => do
      let (e, cs) ← parseLevel fuel .or (skip cs)
      match cs with
      | ')' :: rest => return (.sorted e, skip rest)
      | _ => throw .invalidExpression
    | '\x22' :: cs => do
      let (s, rest) ← takeLiteral '\x22' cs
      return (.literal s, skip rest)
    | '\x27' :: cs => do
      let (s, rest) ← takeLiteral '\x27' cs
      return (.literal s, skip rest)
    | c :: cs' =>
      if c.isDigit || (c == '.' && cs'.head?.any Char.isDigit) then
        match Number.take cs with
        | some (x, rest) => .ok (.number x, skip rest)
        | none => .error .numberExpected
      else match takeQualified cs with
        | none => .error .invalidExpression
        | some (space, name, rest) => match skip rest with
          | '(' :: rest => do
            let (args, rest) ← match skip rest with
              | ')' :: rest => .ok ([], ')' :: rest)
              | rest => parseArguments fuel rest
            return (.call space name args, skip (rest.drop 1))
          | _ => .error .invalidExpression
    | [] => .error .invalidExpression

/-- Reads the arguments of a call up to its closing bracket; the end of the text also closes it where an argument
could begin. -/
def parseArguments : (fuel : Nat) → List Char → Except Fault (List Expr × List Char)
  | 0, _ => .error .tooDeep
  | _ + 1, [] => .ok ([], [])
  | fuel + 1, cs => do
    let (e, cs) ← parseLevel fuel .or cs
    match cs with
    | ')' :: _ => return ([e], cs)
    | ',' :: rest =>
      let (es, rest) ← parseArguments fuel (skip rest)
      return (e :: es, rest)
    | _ => throw .invalidExpression

/-- Reads the predicates behind a value. -/
def parseFilters : (fuel : Nat) → Expr → List Char → Except Fault (Expr × List Char)
  | 0, _, _ => .error .tooDeep
  | fuel + 1, e, cs => match cs with
    | '[' :: rest => do
      let (p, rest) ← parseLevel fuel .or (skip rest)
      match rest with
      | ']' :: rest => parseFilters fuel (.filter e p) (skip rest)
      | _ => throw .invalidPredicate
    | _ => .ok (e, cs)

/-- Reads the predicates of a step. -/
def parsePredicates : (fuel : Nat) → List Char → Except Fault (List Expr × List Char)
  | 0, _ => .error .tooDeep
  | fuel + 1, cs => match cs with
    | '[' :: rest => do
      let (p, rest) ← parseLevel fuel .or (skip rest)
      match rest with
      | ']' :: rest => do
        let (ps, rest) ← parsePredicates fuel (skip rest)
        return (p :: ps, rest)
      | _ => throw .invalidPredicate
    | _ => .ok ([], cs)

/-- Reads a path that begins with slashes. -/
def parseAbsolute : (fuel : Nat) → Expr → List Char → Except Fault (Expr × List Char)
  | 0, _, _ => .error .tooDeep
  | fuel + 1, e, cs => match cs with
    | '/' :: '/' :: rest => do
      let (e, rest) ← parseRelative fuel e.everywhere (skip rest)
      parseAbsolute fuel e rest
    | '/' :: rest => do
      let rest := skip rest
      if rest.head?.any beginsStep then
        let (e, rest) ← parseRelative fuel e rest
        parseAbsolute fuel e rest
      else parseAbsolute fuel e rest
    | _ => .ok (e, cs)

/-- Reads steps with slashes between neighbours; a slash may also stand in front. -/
def parseRelative : (fuel : Nat) → Expr → List Char → Except Fault (Expr × List Char)
  | 0, _, _ => .error .tooDeep
  | fuel + 1, e, cs => do
    let (e, cs) := match skip cs with
      | '/' :: '/' :: rest => (e.everywhere, rest)
      | '/' :: rest => (e, rest)
      | cs => (e, cs)
    let (e, cs) ← parseStep fuel e (skip cs)
    parseSteps fuel e (skip cs)

/-- Reads the further steps. -/
def parseSteps : (fuel : Nat) → Expr → List Char → Except Fault (Expr × List Char)
  | 0, _, _ => .error .tooDeep
  | fuel + 1, e, cs => match cs with
    | '/' :: '/' :: rest => do
      let (e, rest) ← parseStep fuel e.everywhere (skip rest)
      parseSteps fuel e (skip rest)
    | '/' :: rest => do
      let (e, rest) ← parseStep fuel e (skip rest)
      parseSteps fuel e (skip rest)
    | _ => .ok (e, cs)

/-- Reads one step. -/
def parseStep : (fuel : Nat) → Expr → List Char → Except Fault (Expr × List Char)
  | 0, _, _ => .error .tooDeep
  | fuel + 1, e, cs => match cs with
    | '.' :: '.' :: rest => .ok (.step e .parent (.type .node) [], skip rest)
    | '.' :: rest => .ok (e, skip rest)
    | _ => do
      let (axis, name, rest) := takeAxis cs
      let (test, rest) ← takeTest name rest
      let (ps, rest) ← parsePredicates fuel (skip rest)
      return (.step e axis test ps, rest)

end

/-- Fuel for a text: a character is passed by at most this many calls that stand inside each other. -/
def fuelFor (cs : List Char) : Nat := 32 * (cs.length + 2)

/-- Reads a path expression. -/
def parse (s : String) : Except Fault Expr := do
  let cs := s.toList
  let (e, rest) ← parseLevel (fuelFor cs) .or cs
  if rest.isEmpty then return e else throw .invalidExpression

end Crawl.XPath
