/-!
# Hosts in brackets

A host between brackets is an address of the sixth version of the internet protocol or of a version to come.
`Host.check` tells what is wrong with one that is neither.
-/

namespace Crawl.Url.Host

/-- The pieces of a text between the places where `sep` stands. -/
def pieces (sep : Char) : List Char → List (List Char)
  | [] => [[]]
  | c :: cs =>
    if c = sep then [] :: pieces sep cs
    else match pieces sep cs with
      | [] => [[c]]
      | p :: ps => (c :: p) :: ps

/-- Whether a character is a hexadecimal digit. -/
def isHex (c : Char) : Bool :=
  c.isDigit || ('a' ≤ c && c ≤ 'f') || ('A' ≤ c && c ≤ 'F')

/-- One of the four numbers of a dotted address: at most three digits, no needless zero, at most 255. -/
def isOctet (cs : List Char) : Bool :=
  !cs.isEmpty && cs.all Char.isDigit && cs.length ≤ 3 && (cs == ['0'] || cs.head? != some '0')
    && cs.foldl (fun n c => n * 10 + (c.toNat - 48)) 0 ≤ 255

/-- A dotted address of four numbers. -/
def isDotted (cs : List Char) : Bool :=
  let ps := pieces '.' cs
  ps.length == 4 && ps.all isOctet

/-- One group of a colon address. -/
def isGroup (cs : List Char) : Bool := !cs.isEmpty && cs.length ≤ 4 && cs.all isHex

/-- The groups of a colon address, where a dotted ending counts as two. -/
def groups (ps : List (List Char)) : Option (List (List Char)) :=
  match ps.getLast? with
  | some l =>
    if l.contains '.' then
      if isDotted l then some (ps.dropLast ++ [['0'], ['0']]) else none
    else some ps
  | none => none

/-- The places of the empty groups strictly inside an address. -/
def innerGaps (ps : List (List Char)) : List Nat :=
  (List.range ps.length).filter fun i => 0 < i && i + 1 < ps.length && (ps.getD i []).isEmpty

/-- A colon address without a zone: eight groups, or fewer around one double colon. -/
def isColonPlain (cs : List Char) : Bool :=
  let raw := pieces ':' cs
  if raw.length < 3 then false
  else match groups raw with
    | none => false
    | some ps =>
      if ps.length > 9 then false
      else match innerGaps ps with
        | [] => ps.length == 8 && ps.all isGroup
        | [gap] =>
          let hi := if (ps.headD []).isEmpty then gap - 1 else gap
          let lo := ps.length - gap - 1
          let lo' := if (ps.getLastD []).isEmpty then lo - 1 else lo
          (!(ps.headD []).isEmpty || hi == 0) && (!(ps.getLastD []).isEmpty || lo' == 0)
            && hi + lo' ≤ 7 && (ps.take hi).all isGroup && (ps.drop (ps.length - lo')).all isGroup
        | _ => false

/-- A colon address, perhaps with a zone behind a percent sign. -/
def isColon (cs : List Char) : Bool :=
  match pieces '%' cs with
  | [plain] => isColonPlain plain
  | [plain, zone] => !zone.isEmpty && !plain.contains '/' && isColonPlain plain
  | _ => false

/-- An address of a version to come: `v`, hexadecimal digits, a point, and something after it. -/
def isFuture (cs : List Char) : Bool :=
  match cs with
  | 'v' :: rest =>
    let tail := rest.dropWhile isHex
    (rest.takeWhile isHex) != [] && tail.head? == some '.' && 1 < tail.length && !tail.contains '\n'
  | _ => false

/-- What is wrong with a host between brackets. -/
inductive Fault
  | future
  | unknown (host : String)
  | dotted
deriving DecidableEq, Repr

/-- Checks a host between brackets. -/
def check (cs : List Char) : Except Fault Unit :=
  if cs.head? == some 'v' then if isFuture cs then .ok () else .error .future
  else if isDotted cs then .error .dotted
  else if isColon cs then .ok ()
  else .error (.unknown (String.ofList cs))

end Crawl.Url.Host
