/-!
# Finite doubles as exact dyadic numbers

A finite double is an integer times a power of two.  This module decodes one into that form,
builds one from it, and states the exact operations the script evaluator needs: the whole part,
the remainder with the sign of the dividend, and the reduction to 32 bits.
-/

namespace ScopedViews

/-- The number `±magnitude · 2 ^ exponent`; zero keeps its sign. -/
structure Dyadic where
  negative : Bool
  magnitude : Nat
  exponent : Int
deriving Repr, DecidableEq

namespace Dyadic

/-- The exact value of a finite double, and `none` for an infinity or a NaN. -/
def ofFloat? (x : Float) : Option Dyadic :=
  let bits := x.toBits
  let negative := bits >>> 63 == 1
  let biased := (bits >>> 52 &&& 2047).toNat
  let fraction := (bits &&& 0xFFFFFFFFFFFFF).toNat
  if biased = 2047 then none
  else if biased = 0 then some ⟨negative, fraction, -1074⟩
  else some ⟨negative, fraction + Nat.pow 2 52, (biased : Int) - 1075⟩

/-- The double with this value; digits below its last place are dropped. -/
def toFloat (d : Dyadic) : Float :=
  let sign := if d.negative then Nat.pow 2 63 else 0
  if d.magnitude = 0 then Float.ofBits (UInt64.ofNat sign)
  else
    let width : Int := d.magnitude.log2 + 1
    let place := max (-1074) (d.exponent + width - 53)
    let scaled :=
      if place ≤ d.exponent then d.magnitude <<< (d.exponent - place).toNat
      else d.magnitude >>> (place - d.exponent).toNat
    if scaled < Nat.pow 2 52 then Float.ofBits (UInt64.ofNat (sign + scaled))
    else
      let biased := (place + 1075).toNat
      if 2047 ≤ biased then Float.ofBits (UInt64.ofNat (sign + 2047 * Nat.pow 2 52))
      else Float.ofBits (UInt64.ofNat (sign + biased * Nat.pow 2 52 + (scaled - Nat.pow 2 52)))

/-- The absolute value rounded toward zero. -/
def wholeMagnitude (d : Dyadic) : Nat :=
  if 0 ≤ d.exponent then d.magnitude <<< d.exponent.toNat
  else d.magnitude >>> (-d.exponent).toNat

/-- The value rounded toward zero. -/
def whole (d : Dyadic) : Int :=
  if d.negative then -(d.wholeMagnitude : Int) else d.wholeMagnitude

/-- Whether the value has no fractional part. -/
def isWhole (d : Dyadic) : Bool :=
  decide (0 ≤ d.exponent) || d.magnitude % Nat.pow 2 (-d.exponent).toNat == 0

/-- The remainder of truncated division, with the sign of `a`; `b` must not be zero. -/
def remainder (a b : Dyadic) : Dyadic :=
  let place := min a.exponent b.exponent
  let x := a.magnitude <<< (a.exponent - place).toNat
  let y := b.magnitude <<< (b.exponent - place).toNat
  ⟨a.negative, x % y, place⟩

end Dyadic

namespace Number

/-- The whole part of a finite double. -/
def whole? (x : Float) : Option Int :=
  (Dyadic.ofFloat? x).map Dyadic.whole

/-- Whether a double is finite and has no fractional part. -/
def isWhole (x : Float) : Bool :=
  (Dyadic.ofFloat? x).any Dyadic.isWhole

/-- Rounding toward zero; infinities and NaN stay. -/
def truncate (x : Float) : Float :=
  match Dyadic.ofFloat? x with
  | none => x
  | some d => if d.isWhole then x else Dyadic.toFloat ⟨d.negative, d.wholeMagnitude, 0⟩

/-- The remainder of truncated division, with the sign of the dividend. -/
def remainder (x y : Float) : Float :=
  match Dyadic.ofFloat? x, Dyadic.ofFloat? y with
  | none, _ => 0.0 / 0.0
  | some _, none => if y.isNaN then y else x
  | some a, some b => if b.magnitude = 0 then 0.0 / 0.0 else (a.remainder b).toFloat

/-- The whole part modulo `2 ^ 32`, in the signed range; zero for infinities and NaN. -/
def toInt32 (x : Float) : Int :=
  match whole? x with
  | none => 0
  | some n => n.bmod (Nat.pow 2 32)

/-- The whole part modulo `2 ^ 32`, in the unsigned range. -/
def toUInt32 (x : Float) : Nat :=
  (toInt32 x % Nat.pow 2 32).toNat

end Number

end ScopedViews
