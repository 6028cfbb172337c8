import Crawl.XPath.Library
import Crawl.XPath.Parse
/-!
# Evaluating path expressions

An expression is evaluated at a node of a tree. No variables are defined, and the only name space with a short name
is that of `xml`, in which no function and no element is. The nodes of a step are those its axis leads to from each
of the nodes before it, as its test takes them and its predicates keep them.
-/

namespace Crawl.XPath

open Html

/-- Whether a short name stands for a name space. -/
def isKnownSpace : Option String → Bool
  | none => true
  | some name => name == Spot.spaceName.1

/-- Whether a predicate with a value keeps the node at a position. -/
def keeps (v : Value) (position : Nat) : Bool :=
  match v with
  | .number x => x == Float.ofNat position
  | v => v.toTruth

/-- Keeps the places for which a predicate holds; each is looked at with its position among them all. -/
def keepWhere (predicate : Focus → Except Fault Value) (size : Nat) :
    (position : Nat) → List Spot → Except Fault (List Spot)
  | _, [] => .ok []
  | position, a :: as => do
    let v ← predicate ⟨a, position, size⟩
    let rest ← keepWhere predicate size (position + 1) as
    return if keeps v position then a :: rest else rest

/-- The places that a function leads to from each of some places. -/
def gather (lead : Spot → Except Fault (List Spot)) : List Spot → Except Fault (List Spot)
  | [] => .ok []
  | a :: as => do
    let here ← lead a
    return here ++ (← gather lead as)

mutual

/-- The value of an expression. -/
def eval (t : Tree) : Expr → Focus → Except Fault Value
  | .number x, _ => .ok (.number x)
  | .literal s, _ => .ok (.text s)
  | .variable space _, _ => if isKnownSpace space then .error .undefinedVariable else .error .undefinedSpace
  | .call space name args, f => do
    let vs ← evalAll t args f
    match space with
    | none => Library.call t f name vs
    | space => if isKnownSpace space then throw .unknownFunction else throw .undefinedSpace
  | .binary op left right, f => do
    let a ← eval t left f
    match op with
    | .or => if a.toTruth then return .truth true else return .truth (← eval t right f).toTruth
    | .and => if a.toTruth then return .truth (← eval t right f).toTruth else return .truth false
    | op => Value.combine t op a (← eval t right f)
  | .signed minus e, f => do
    let x := (← eval t e f).toNumber t
    return .number (if minus then -x else x)
  | .here, f => .ok (.spots [f.spot])
  | .root, _ => .ok (.spots [.row 0])
  | .step start axis test predicates, f => do
    match ← eval t start f with
    | .spots ss =>
      let known := match test with
        | .any space => isKnownSpace space
        | .named space _ => isKnownSpace space
        | .type _ => true
      if known then
        let lead (a : Spot) : Except Fault (List Spot) :=
          keepAll t predicates ((Spot.along t axis a).filter fun b => Spot.passes t axis b test)
        return .spots (Spot.sort (← gather lead ss))
      else throw .undefinedSpace
    | _ => throw .invalidType
  | .filter e predicate, f => do
    match ← eval t e f with
    | .spots ss => return .spots (← keepWhere (eval t predicate) ss.length 1 ss)
    | _ => throw .invalidType
  | .sorted e, f => do
    match ← eval t e f with
    | .spots ss => return .spots (Spot.sort ss)
    | v => return v

/-- The values of some expressions. -/
def evalAll (t : Tree) : List Expr → Focus → Except Fault (List Value)
  | [], _ => .ok []
  | e :: es, f => do
    let v ← eval t e f
    return v :: (← evalAll t es f)

/-- Keeps the places for which all predicates hold, one predicate after the other. -/
def keepAll (t : Tree) : List Expr → List Spot → Except Fault (List Spot)
  | [], ss => .ok ss
  | p :: ps, ss => do keepAll t ps (← keepWhere (eval t p) ss.length 1 ss)

end

/-- The elements that an expression leads to from a row, in document order; a value that is no set of places leads
to none. -/
def select (t : Tree) (i : Nat) (s : String) : Except Fault (List Nat) := do
  let e ← parse s
  match ← eval t e ⟨.row i, 1, 1⟩ with
  | .spots ss =>
    return (Spot.sort ss).filterMap fun a => match a with
      | .row j => if (t.tag? j).isSome then some j else none
      | _ => none
  | _ => return []

end Crawl.XPath
