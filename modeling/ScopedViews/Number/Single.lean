import ScopedViews.Number.Shortest
/-!
# Numbers of single precision

Decoding numbers of 32 bits, and their decimal digits cut to six.
-/

namespace ScopedViews

namespace Dyadic

/-- The value of a number of single precision.  What stands for no number is read as the bits of
one with the next exponent. -/
def ofSingle (x : Float32) : Dyadic :=
  let bits := x.toBits
  let negative := bits >>> 31 == 1
  let biased := (bits >>> 23 &&& 255).toNat
  let fraction := (bits &&& 0x7FFFFF).toNat
  if biased = 0 then ⟨negative, fraction, -149⟩
  else ⟨negative, fraction + Nat.pow 2 23, (biased : Int) - 150⟩

end Dyadic

namespace Single

def isFinite (x : Float32) : Bool := x.isFinite

def isNegative (x : Float32) : Bool := x.toBits >>> 31 == 1

/-- Whether a finite number has no fractional part. -/
def isWhole (x : Float32) : Bool := isFinite x && (Dyadic.ofSingle x).isWhole

/-- The whole part of a number, kept to 32 bits. -/
def toInt32 (x : Float32) : Int :=
  if x.isNaN then 0
  else max (-2147483648) (min 2147483647 (Dyadic.ofSingle x).whole)

/-- One with the sign of a number; nothing stays nothing. -/
def signum (x : Float32) : Float32 :=
  if x == 0 || x.isNaN then x else if isNegative x then -1 else 1

/-- Toward zero. -/
def truncate (x : Float32) : Float32 :=
  if isNegative x then -(-x).floor else x.floor

/-- The remainder with the sign of the dividend. -/
def remainder (x y : Float32) : Float32 :=
  (Number.remainder x.toFloat y.toFloat).toFloat32

/-- Leading digits, half a unit up: at most so many of them. -/
def cut (places : Nat) (d : Decimal) : Decimal :=
  match d.digits[places]? with
  | none => d
  | some next =>
    let kept := (d.digits.take places).foldl (fun n c => 10 * n + (c.toNat - 48)) 0
    let digits := Nat.toDigits 10 (if '5' ≤ next then kept + 1 else kept)
    { digits := digits, point := d.point + ((digits.length : Int) - places) }

/-- Digits without the zeros at their end. -/
def trimmed (d : Decimal) : Decimal :=
  { d with digits := (d.digits.reverse.dropWhile (· = '0')).reverse }

/-- The first six digits of a number that is not zero. -/
def digits (x : Float32) : Decimal :=
  trimmed (cut 6 ((Dyadic.ofSingle x).shortestIn 23 (-149)))

/-- Positional between a millionth and `10 ^ 21`, otherwise a mantissa and a power of ten. -/
def layOut (d : Decimal) : List Char :=
  if -6 < d.point && d.point ≤ 21 then d.positional
  else d.mantissa ++ 'e' :: (toString d.scale).toList

/-- At most six digits, with a zero in front of the point if the number is less than one. -/
def text (x : Float32) : String :=
  if x == 0 then "0"
  else String.ofList ((if isNegative x then ['-'] else []) ++ layOut (digits x))

end Single

end ScopedViews
