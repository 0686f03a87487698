import ScopedViews.Number.Dyadic
/-!
# Reading decimal numbers

The decimal grammar is an optional sign, digits with at most one point and at least one digit,
and an optional power of ten.  The value is rounded to the nearest double.
-/

namespace ScopedViews.Number

/-- The digits at the front of a text, and what follows them. -/
def spanDigits (cs : List Char) : List Char × List Char :=
  cs.span Char.isDigit

/-- The value of a run of decimal digits. -/
def digitsValue (cs : List Char) : Nat :=
  cs.foldl (fun n c => 10 * n + (c.toNat - 48)) 0

/-- The double nearest to `n · 10 ^ e`. -/
def ofDecimal (n : Nat) (e : Int) : Float :=
  if n = 0 then 0.0
  else
    let width : Int := (Nat.toDigits 10 n).length
    if 310 < width + e then 1.0 / 0.0
    else if width + e < -330 then 0.0
    else if 0 ≤ e then Float.ofScientific n false e.toNat
    else Float.ofScientific n true (-e).toNat

/-- An optional sign in front of a text. -/
def sign (cs : List Char) : Bool × List Char :=
  match cs with
  | '-' :: rest => (true, rest)
  | '+' :: rest => (false, rest)
  | _ => (false, cs)

/-- The power of ten at the front of `cs`, which is all of `cs`; none is zero. -/
def exponent? (cs : List Char) : Option Int :=
  match cs with
  | [] => some 0
  | e :: rest =>
    if e = 'e' || e = 'E' then
      let (negative, rest) := sign rest
      match spanDigits rest with
      | ([], _) => none
      | (ds, []) =>
        let n := digitsValue ds
        some (if negative then -(n : Int) else n)
      | _ => none
    else none

/-- Reads an unsigned decimal that takes up the whole text. -/
def unsigned? (cs : List Char) : Option Float :=
  let (whole, rest) := spanDigits cs
  let (fraction, rest) :=
    match rest with
    | '.' :: r => spanDigits r
    | _ => ([], rest)
  if whole.isEmpty && fraction.isEmpty then none
  else
    (exponent? rest).map fun e =>
      ofDecimal (digitsValue (whole ++ fraction)) (e - fraction.length)

/-- Reads a decimal, signed or not, that takes up the whole text. -/
def decimal? (cs : List Char) : Option Float :=
  let (negative, rest) := sign cs
  (unsigned? rest).map fun x => if negative then -x else x

/-- The value of a digit in a radix up to sixteen. -/
def hexDigit? (c : Char) : Option Nat :=
  if c.isDigit then some (c.toNat - 48)
  else if 'a' ≤ c && c ≤ 'f' then some (c.toNat - 87)
  else if 'A' ≤ c && c ≤ 'F' then some (c.toNat - 55)
  else none

/-- The value of digits in a radix, each step rounded to a double. -/
def ofRadix (radix : Nat) (digits : List Nat) : Float :=
  digits.foldl (fun x d => x * Float.ofNat radix + Float.ofNat d) 0.0

end ScopedViews.Number
