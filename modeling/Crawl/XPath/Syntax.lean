/-!
# Path expressions

The tree of a path expression. A path is a chain of steps, each of which says from which nodes it starts, along
which axis it goes, which nodes it takes there, and by which predicates it keeps them.
-/

namespace Crawl.XPath

/-- The directions in which a step may go. -/
inductive Axis
  | ancestor
  | ancestorOrSelf
  | attr
  | child
  | descendant
  | descendantOrSelf
  | following
  | followingSibling
  | space
  | parent
  | preceding
  | precedingSibling
  | self
deriving DecidableEq, Repr

namespace Axis

/-- The word for an axis. -/
def word : Axis → String
  | ancestor => "ancestor"
  | ancestorOrSelf => "ancestor-or-self"
  | attr => "attribute"
  | child => "child"
  | descendant => "descendant"
  | descendantOrSelf => "descendant-or-self"
  | following => "following"
  | followingSibling => "following-sibling"
  | space => "namespace"
  | parent => "parent"
  | preceding => "preceding"
  | precedingSibling => "preceding-sibling"
  | self => "self"

/-- All axes. -/
def all : List Axis :=
  [ancestor, ancestorOrSelf, attr, child, descendant, descendantOrSelf, following, followingSibling, space, parent,
    preceding, precedingSibling, self]

/-- The axis with the given word. -/
def ofWord? (w : String) : Option Axis := all.find? (·.word == w)

end Axis

/-- The types of node a test can ask for. -/
inductive NodeType
  | comment
  | node
  | instruction
  | text
deriving DecidableEq, Repr

/-- The type of node a word stands for. -/
def NodeType.ofWord? : String → Option NodeType
  | "comment" => some comment
  | "node" => some node
  | "processing-instruction" => some instruction
  | "text" => some text
  | _ => none

/-- Which nodes a step takes; a name may be in a name space, which is given by a short name of its own. -/
inductive Test
  | any (space : Option String)
  | named (space : Option String) (name : String)
  | type (t : NodeType)
deriving DecidableEq, Repr

/-- The operators between two expressions. -/
inductive Operator
  | or
  | and
  | equal
  | unequal
  | less
  | lessOrEqual
  | greater
  | greaterOrEqual
  | add
  | subtract
  | multiply
  | divide
  | remainder
  | union
deriving DecidableEq, Repr

/-- A path expression. `here` is the node it is evaluated at and `root` the node above all others. -/
inductive Expr where
  | number (x : Float)
  | literal (s : String)
  | variable (space : Option String) (name : String)
  | call (space : Option String) (name : String) (args : List Expr)
  | binary (op : Operator) (left right : Expr)
  | signed (minus : Bool) (e : Expr)
  | here
  | root
  | step (start : Expr) (axis : Axis) (test : Test) (predicates : List Expr)
  | filter (e predicate : Expr)
  | sorted (e : Expr)
deriving Inhabited

/-- The step that goes to all nodes below and including each node. -/
def Expr.everywhere (e : Expr) : Expr := .step e .descendantOrSelf (.type .node) []

/-- Why an expression is refused or has no value. -/
inductive Fault
  | numberExpected
  | unfinishedLiteral
  | literalExpected
  | variableExpected
  | undefinedVariable
  | invalidPredicate
  | invalidExpression
  | unclosed
  | unknownFunction
  | invalidType
  | invalidArity
  | undefinedSpace
  | tooDeep
deriving DecidableEq, Repr

/-- The words for a fault. -/
def Fault.message : Fault → String
  | .numberExpected => "Number encoding"
  | .unfinishedLiteral => "Unfinished literal"
  | .literalExpected => "Start of literal"
  | .variableExpected => "Expected $ for variable reference"
  | .undefinedVariable => "Undefined variable"
  | .invalidPredicate => "Invalid predicate"
  | .invalidExpression => "Invalid expression"
  | .unclosed => "Missing closing curly brace"
  | .unknownFunction => "Unregistered function"
  | .invalidType => "Invalid type"
  | .invalidArity => "Invalid number of arguments"
  | .undefinedSpace => "Undefined namespace prefix"
  | .tooDeep => "Recursion limit exceeded"

end Crawl.XPath
