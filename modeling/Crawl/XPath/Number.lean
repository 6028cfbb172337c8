import Crawl.Decimal.Shortest
/-!
# Numbers in path expressions

Numbers are doubles. They are read from decimal digits with an optional point and exponent, and written with at
most fifteen significant digits.
-/

namespace Crawl.XPath

/-- A blank in a path expression. -/
def isBlank (c : Char) : Bool := c == ' ' || c == '\t' || c == '\n' || c == '\r'

/-- A text from its first character that is not blank. -/
def skip (cs : List Char) : List Char := cs.dropWhile isBlank

namespace Number

/-- The double that is no number. -/
def nan : Float := 0.0 / 0.0

/-- Reads digits behind those already read. -/
def addDigits (x : Float) (ds : List Char) : Float :=
  ds.foldl (fun x d => x * 10.0 + Float.ofNat (d.toNat - 48)) x

/-- The value of the digits behind a point; those beyond the twentieth behind the leading zeros do not count. -/
def fraction (ds : List Char) : Float :=
  let zeros := ds.takeWhile (· == '0')
  let used := (ds.drop zeros.length).take 20
  addDigits 0.0 used / Float.pow 10.0 (Float.ofNat (zeros.length + used.length))

/-- The size of an exponent. -/
def exponentOf (ds : List Char) : Nat :=
  ds.foldl (fun n d => if n < 1000000 then n * 10 + (d.toNat - 48) else n) 0

/-- The exponent at the start of a text, if one stands there, and the text behind it. -/
def takeExponent : List Char → Option Int × List Char
  | c :: cs =>
    if c == 'e' || c == 'E' then
      let (negative, cs) := match cs with
        | '-' :: r => (true, r)
        | '+' :: r => (false, r)
        | _ => (false, cs)
      let n : Int := exponentOf (cs.takeWhile Char.isDigit)
      (some (if negative then -n else n), cs.dropWhile Char.isDigit)
    else (none, c :: cs)
  | [] => (none, [])

/-- A number scaled by a power of ten. -/
def scale (x : Float) (e : Int) : Float := x * Float.pow 10.0 (Float.ofInt e)

/-- The number at the start of a text and the text behind it; `none` for a point that no digit precedes or
follows. -/
def take (cs : List Char) : Option (Float × List Char) :=
  let whole := cs.takeWhile Char.isDigit
  let rest := cs.dropWhile Char.isDigit
  let x := addDigits 0.0 whole
  let pointed := match rest with
    | '.' :: r =>
      let ds := r.takeWhile Char.isDigit
      if ds.isEmpty && whole.isEmpty then none
      else some (x + fraction ds, r.dropWhile Char.isDigit)
    | _ => some (x, rest)
  match pointed with
  | none => none
  | some (x, rest) => match takeExponent rest with
    | (some e, rest) => some (scale x e, rest)
    | (none, rest) => some (x, rest)

/-- The number that a text is, or no number. -/
def ofText (s : String) : Float :=
  let cs := skip s.toList
  let (negative, body) := match cs with
    | '-' :: r => (true, r)
    | _ => (false, cs)
  let starts := cs.head?.any fun c => c == '-' || c == '.' || c.isDigit
  match if starts then take body else none with
  | some (x, rest) => if (skip rest).isEmpty then (if negative then -x else x) else nan
  | none => nan

/-- A positive fraction with `places` digits behind the point, the last one rounded. -/
def fixedDigits (num den places : Nat) : Nat :=
  let scaled := num * Decimal.tenTo places
  let q := scaled / den
  let twice := 2 * (scaled % den)
  if den < twice || (twice == den && q % 2 == 1) then q + 1 else q

/-- Digits with a point before the last `places` of them, and without zeros at the end. -/
def pointed (digits places : Nat) : List Char :=
  let ds := (toString digits).toList
  let ds := List.replicate (places + 1 - ds.length) '0' ++ ds
  let whole := ds.take (ds.length - places)
  let part := ((ds.drop (ds.length - places)).reverse.dropWhile (· == '0')).reverse
  if part.isEmpty then whole else whole ++ '.' :: part

/-- The text of a positive number that is not whole or too large for a whole number. -/
def textOf (x : Float) : List Char :=
  let cell := Decimal.Cell.ofBits x.toBits
  let k := Decimal.exponent cell.num cell.den 700 (-330)
  if x > 1.0e9 || x < 1.0e-5 then
    -- one digit before the point and fourteen behind it
    let e := k - 1
    let n := fixedDigits (cell.num * Decimal.tenTo (-e).toNat) (cell.den * Decimal.tenTo e.toNat) 14
    let (n, e) := if n ≥ Decimal.tenTo 15 then (n / 10, e + 1) else (n, e)
    let size := (toString e.natAbs).toList
    pointed n 14 ++ 'e' :: (if e < 0 then '-' else '+') :: (if size.length < 2 then '0' :: size else size)
  else
    let isPower := cell.num * Decimal.tenTo (1 - k).toNat == cell.den * Decimal.tenTo (k - 1).toNat
    let log : Int := if k ≤ 0 && !isPower then k else k - 1
    let places := if 0 < log then 14 - log else 15 - log
    pointed (fixedDigits cell.num cell.den places.toNat) places.toNat

/-- The text of a number. -/
def text (x : Float) : String :=
  if x.isNaN then "NaN"
  else if x.isInf then (if x > 0.0 then "Infinity" else "-Infinity")
  else if x.abs < 2147483647.0 && x.floor == x then
    (if x < 0.0 then "-" else "") ++ toString x.abs.toUInt64.toNat
  else String.ofList ((if x < 0.0 then ['-'] else []) ++ textOf x.abs)

/-- The nearest whole number; halves go up. -/
def round (x : Float) : Float :=
  if x ≥ -0.5 && x < 0.5 then x * 0.0
  else
    let f := x.floor
    if x - f ≥ 0.5 then f + 1.0 else f

/-- The remainder of a division, with the sign of the first number. -/
def remainder (x y : Float) : Float :=
  if x.isNaN || y.isNaN || x.isInf || y == 0.0 then nan
  else if y.isInf || x == 0.0 then x
  else
    let a := Decimal.Cell.ofBits x.abs.toBits
    let b := Decimal.Cell.ofBits y.abs.toBits
    let den := a.den * b.den
    let r := Float.ofNat ((a.num * b.den) % (b.num * a.den))
    let size := Float.scaleB r (-(Nat.log2 den : Int))
    if x < 0.0 then -size else size

end Number

end Crawl.XPath
