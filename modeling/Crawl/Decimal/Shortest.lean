/-!
# The shortest decimal text of a binary fraction

A finite double is an integer times a power of two. It is written with the fewest decimal digits that still read
back as the same double, and of those with the digits nearest to it. Digits are looked for on the decimal grids of
one, two, … seventeen digits: the two points of a grid beside the value are compared with the interval of numbers
that round to it, in exact arithmetic.
-/

namespace Crawl.Decimal

/-- A power of two. -/
def twoTo (k : Nat) : Nat := Nat.pow 2 k

/-- A power of ten. -/
def tenTo (k : Nat) : Nat := Nat.pow 10 k

/-- A positive double as a fraction `num / den`, with the ends of the interval that rounds to it over the same
denominator; the ends belong to the interval when `closed` holds. -/
structure Cell where
  num : Nat
  den : Nat
  low : Nat
  high : Nat
  closed : Bool

/-- The cell of a positive finite double. -/
def Cell.ofBits (bits : UInt64) : Cell :=
  let field := (bits.toNat / twoTo 52) % 2048
  let frac := bits.toNat % twoTo 52
  let m := if field = 0 then frac else twoTo 52 + frac
  let e := if field = 0 then 1 else field
  -- the value is `m * 2 ^ (e - 1075)`; four steps of the grid are kept apart so that both midpoints are whole
  let up := twoTo (e - 1075)
  let down := twoTo (1075 - e)
  let below := if frac = 0 ∧ 1 < field then 1 else 2
  ⟨4 * m * up, 4 * down, (4 * m - below) * up, (4 * m + 2) * up, m % 2 = 0⟩

/-- Whether `p / q` lies in the interval of a cell. -/
def Cell.holds (c : Cell) (p q : Nat) : Bool :=
  if c.closed then c.low * q ≤ p * c.den && p * c.den ≤ c.high * q
  else c.low * q < p * c.den && p * c.den < c.high * q

/-- The decimal exponent of a value: the `k` with `10 ^ (k - 1) ≤ value < 10 ^ k`, looked for upwards from `k`. -/
def exponent (num den : Nat) : (fuel : Nat) → (k : Int) → Int
  | 0, k => k
  | fuel + 1, k =>
    if num * tenTo (-k).toNat < den * tenTo k.toNat then k else exponent num den fuel (k + 1)

/-- The point of the grid of `n` digits that lies in the cell and is nearest to its value, with the step of the
grid as a power of ten. -/
def Cell.onGrid (c : Cell) (k : Int) (n : Nat) : Option (Nat × Int) :=
  let s : Int := k - n
  let up := tenTo s.toNat
  let down := tenTo (-s).toNat
  let d := c.num * down / (c.den * up)
  let left := c.num * down - d * (c.den * up)
  let right := (d + 1) * (c.den * up) - c.num * down
  match c.holds (d * up) down, c.holds ((d + 1) * up) down with
  | true, true => some (if left < right ∨ (left = right ∧ d % 2 = 0) then d else d + 1, s)
  | true, false => some (d, s)
  | false, true => some (d + 1, s)
  | false, false => none

/-- The shortest digits of a cell: a whole number and the power of ten it is scaled by. -/
def Cell.shortest (c : Cell) : Nat × Int :=
  let k := exponent c.num c.den 700 (-330)
  ((List.range 17).findSome? fun i => c.onGrid k (i + 1)).getD (0, 0)

/-- Drops the zeros at the end of a number, each raising the power of ten. -/
def trim : (fuel : Nat) → Nat → Int → Nat × Int
  | 0, d, s => (d, s)
  | fuel + 1, d, s => if d % 10 = 0 then trim fuel (d / 10) (s + 1) else (d, s)

/-- Digits `ds` with the point after the first `p` of them, zeros filled in on either side; at least one digit
stands on each side of the point. -/
def positional (ds : List Char) (p : Int) : List Char :=
  if p ≤ 0 then '0' :: '.' :: (List.replicate (-p).toNat '0' ++ ds)
  else
    let n := p.toNat
    if ds.length ≤ n then ds ++ List.replicate (n - ds.length) '0' ++ ['.', '0']
    else ds.take n ++ '.' :: ds.drop n

/-- Digits with the point after the first, and the power of ten in at least two digits. -/
def scientific (ds : List Char) (p : Int) : List Char :=
  let e := p - 1
  let body := match ds with
    | [] => []
    | [d] => [d]
    | d :: rest => d :: '.' :: rest
  let size := (toString e.natAbs).toList
  body ++ 'e' :: (if e < 0 then '-' else '+') :: (if size.length < 2 then '0' :: size else size)

/-- The shortest text of a finite double: positional for a leading digit between the fourth place behind the point
and the sixteenth before it, else with a power of ten. -/
def ofFloat (x : Float) : String :=
  let bits := x.toBits
  let sign := if twoTo 63 ≤ bits.toNat then "-" else ""
  let size := bits.toNat % twoTo 63
  if size = 0 then sign ++ "0.0"
  else
    let (d, s) := (Cell.ofBits size.toUInt64).shortest
    let (d, s) := trim 20 d s
    let ds := (toString d).toList
    let p := s + ds.length
    sign ++ String.ofList (if -4 < p ∧ p ≤ 16 then positional ds p else scientific ds p)

end Crawl.Decimal
