import ScopedViews.Number.Dyadic
/-!
# Decimal text of doubles

The fewest digits that read back as the same double, the exact rounding to a fixed number of
places, and the two ways the digits are laid out: positional, or with a power of ten.
-/

namespace ScopedViews

/-- A positive decimal `0.d₁d₂… · 10 ^ point`, the digits most significant first. -/
structure Decimal where
  digits : List Char
  point : Int
deriving Repr, DecidableEq

namespace Dyadic

/-- A ratio of naturals equal to `n · 2 ^ e`. -/
private def ratio (n : Nat) (e : Int) : Nat × Nat :=
  if 0 ≤ e then (n <<< e.toNat, 1) else (n, Nat.pow 2 (-e).toNat)

/-- The numbers that round to a double: ends as numerators over one denominator, and whether
the ends belong to it. -/
structure Interval where
  low : Nat
  value : Nat
  high : Nat
  denominator : Nat
  closed : Bool

/-- The interval of reals that read back as `d`, where numbers have `width` binary places after
their first and no exponent below `least`. -/
def interval (width : Nat) (least : Int) (d : Dyadic) : Interval :=
  let lowStep := if d.magnitude = Nat.pow 2 width && decide (least < d.exponent) then 1 else 2
  let (value, denominator) := ratio (4 * d.magnitude) (d.exponent - 2)
  let (unit, _) := ratio 1 (d.exponent - 2)
  { low := value - lowStep * unit
    value := value
    high := value + 2 * unit
    denominator := denominator
    closed := d.magnitude % 2 = 0 }

/-- The multiple of `10 ^ k` in the interval that lies nearest to the value, as a count of
`10 ^ k`; of two equally near the even one. -/
def Interval.onGrid? (i : Interval) (k : Int) : Option Nat :=
  let up := if 0 ≤ k then 1 else Nat.pow 10 (-k).toNat
  let step := if 0 ≤ k then i.denominator * Nat.pow 10 k.toNat else i.denominator
  let value := i.value * up
  let below := value / step
  let inside (n : Nat) : Bool :=
    let x := n * step
    if i.closed then i.low * up ≤ x && x ≤ i.high * up else i.low * up < x && x < i.high * up
  let rest := value - below * step
  match inside below && decide (0 < below), inside (below + 1) with
  | true, true =>
    if 2 * rest < step then some below
    else if step < 2 * rest then some (below + 1)
    else some (if below % 2 = 0 then below else below + 1)
  | true, false => some below
  | false, true => some (below + 1)
  | false, false => none

/-- The first grid, from coarse to fine, that meets the interval. -/
def Interval.coarsest (i : Interval) : Nat → Int → Nat × Int
  | 0, k => (i.value / i.denominator, k)
  | fuel + 1, k =>
    match i.onGrid? k with
    | some n => (n, k)
    | none => Interval.coarsest i fuel (k - 1)

/-- The fewest decimal digits that read back as `d`, which must not be zero, among numbers of a
width and a least exponent. -/
def shortestIn (width : Nat) (least : Int) (d : Dyadic) : Decimal :=
  let size : Int := d.magnitude.log2 + d.exponent
  let start := size * 30103 / 100000 + 2
  let (n, k) := (d.interval width least).coarsest 22 start
  let digits := Nat.toDigits 10 n
  { digits := digits, point := digits.length + k }

/-- The fewest decimal digits that read back as the double `d`. -/
def shortest (d : Dyadic) : Decimal := d.shortestIn 52 (-1074)

end Dyadic

namespace Decimal

/-- Positional notation without an exponent. -/
def positional (d : Decimal) : List Char :=
  if d.point ≤ 0 then '0' :: '.' :: List.replicate (-d.point).toNat '0' ++ d.digits
  else
    let whole := d.point.toNat
    if d.digits.length ≤ whole then d.digits ++ List.replicate (whole - d.digits.length) '0'
    else d.digits.take whole ++ '.' :: d.digits.drop whole

/-- The digits with a point after the first one. -/
def mantissa (d : Decimal) : List Char :=
  match d.digits with
  | [] => []
  | [c] => [c]
  | c :: rest => c :: '.' :: rest

/-- The power of ten that goes with `mantissa`. -/
def scale (d : Decimal) : Int := d.point - 1

end Decimal

namespace Number

/-- Positional between `10 ^ -6` and `10 ^ 21`, otherwise a mantissa and a signed power of ten. -/
def layOut (d : Decimal) : List Char :=
  if 21 < d.point || d.point < -5 then
    let e := d.scale
    d.mantissa ++ 'e' :: (if e < 0 then '-' else '+') :: (toString e.natAbs).toList
  else d.positional

/-- The text of a number as scripts see it: the fewest digits that read back. -/
def text (x : Float) : String :=
  match Dyadic.ofFloat? x with
  | none => if x.isNaN then "NaN" else if 0.0 < x then "Infinity" else "-Infinity"
  | some d =>
    if d.magnitude = 0 then "0"
    else if d.isWhole && decide (d.wholeMagnitude < Nat.pow 2 53) then
      (if d.negative then "-" else "") ++ toString d.wholeMagnitude
    else String.ofList ((if d.negative then ['-'] else []) ++ layOut d.shortest)

/-- The fewest digits that read back, without a power of ten behind them. -/
def plain (x : Float) : String :=
  match Dyadic.ofFloat? x with
  | none => if x.isNaN then "NaN" else if 0.0 < x then "inf" else "-inf"
  | some d =>
    if d.magnitude = 0 then "0"
    else String.ofList ((if d.negative then ['-'] else []) ++ d.shortest.positional)

/-- `n` divided by `d`, rounded to nearest with ties to even. -/
def roundDiv (n d : Nat) : Nat :=
  let q := n / d
  let r := 2 * (n % d)
  if r < d then q else if d < r then q + 1 else if q % 2 = 0 then q else q + 1

/-- Exactly `places` decimals, rounded to nearest with ties to even. -/
def fixed (x : Float) (places : Nat) : String :=
  match Dyadic.ofFloat? x with
  | none => if x.isNaN then "NaN" else if 0.0 < x then "inf" else "-inf"
  | some d =>
    let n :=
      if 0 ≤ d.exponent then (d.magnitude <<< d.exponent.toNat) * Nat.pow 10 places
      else roundDiv (d.magnitude * Nat.pow 10 places) (Nat.pow 2 (-d.exponent).toNat)
    let digits := Nat.toDigits 10 n
    let padded := List.replicate (places + 1 - digits.length) '0' ++ digits
    let whole := padded.length - places
    let body :=
      if places = 0 then padded else padded.take whole ++ '.' :: padded.drop whole
    String.ofList ((if d.negative then ['-'] else []) ++ body)

end Number

end ScopedViews
