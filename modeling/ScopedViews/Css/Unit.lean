import ScopedViews.Css.Written
/-!
# Units

The units of lengths, angles, times and resolutions, and the shortest form of a quantity of each.
-/

namespace ScopedViews.Css

inductive Dimension where
  | length
  | angle
  | time
  | resolution
deriving DecidableEq, Inhabited

namespace Dimension

def lengths : List String :=
  let viewport := ["vw", "vh", "vi", "vb", "vmin", "vmax"]
  ["em", "rem", "ex", "rex", "ch", "rch", "cap", "rcap", "ic", "ric", "lh", "rlh", "cqw", "cqh",
    "cqi", "cqb", "cqmin", "cqmax", "px", "in", "cm", "mm", "q", "pt", "pc"] ++
  viewport ++ viewport.map ("l" ++ ·) ++ viewport.map ("s" ++ ·) ++ viewport.map ("d" ++ ·)

/-- What a unit, in lower case, measures. -/
def ofUnit? (unit : String) : Option Dimension :=
  if lengths.contains unit then some .length
  else if ["deg", "rad", "grad", "turn"].contains unit then some .angle
  else if unit = "s" || unit = "ms" then some .time
  else if ["dpi", "dpcm", "dppx", "x"].contains unit then some .resolution
  else none

/-- Pixels of an absolute unit of length. -/
def pixels? (unit : String) : Option Float32 :=
  match unit with
  | "px" => some 1
  | "in" => some 96
  | "cm" => some (96 / 2.54)
  | "mm" => some (96 / 2.54 / 10)
  | "q" => some (96 / 2.54 / 40)
  | "pt" => some (96 / 72)
  | "pc" => some (96 / 6)
  | _ => none

def pi : Float32 := 3.14159265358979

/-- Degrees of an amount of some unit of angles. -/
def degrees? (x : Float32) (unit : String) : Option Float32 :=
  match unit with
  | "deg" => some x
  | "grad" => some (x * 180 / 200)
  | "turn" => some (x * 360)
  | "rad" => some (x * (180 / pi))
  | _ => none

/-- How a unit is spelled. -/
def spelling (unit : String) : String :=
  match unit with
  | "q" => "Q"
  | "dppx" => "x"
  | u => u

/-- A time in seconds or in thousandths, whichever is shorter. -/
def timeText (x : Float32) (unit : String) : String :=
  if unit = "s" then
    if 0 < x && x < 0.1 then Written.number (x * 1000) ++ "ms" else Written.number x ++ "s"
  else
    if x == 0 || 100 ≤ x then Written.number (x / 1000) ++ "s" else Written.number x ++ "ms"

/-- A quantity with its unit, which is in lower case. -/
def text (x : Float32) (unit : String) : String :=
  match ofUnit? unit with
  | some .time => timeText x unit
  | some .angle =>
    if unit = "rad" then Written.amount ((degrees? x unit).getD x) ++ "deg"
    else Written.amount x ++ unit
  | some .resolution => Written.number x ++ spelling unit
  | _ => Written.amount x ++ spelling unit

end Dimension

end ScopedViews.Css
