import ScopedViews.Css.Rgba
import ScopedViews.Css.Unit
/-!
# Colour spaces

Colours by three components and an opacity, and what they are in another space.  A component that
is missing is not a number.
-/

namespace ScopedViews.Css

inductive Space where
  | srgb
  | hsl
  | hwb
  | lab
  | lch
  | oklab
  | oklch
  | srgbLinear
  | displayP3
  | a98
  | prophoto
  | rec2020
  | xyz50
  | xyz65
deriving DecidableEq, Inhabited

/-- A colour of some space.  Lightness of `lab` and `lch` is up to 100, hues are in degrees, and all
else goes up to one. -/
structure Shade where
  space : Space
  x : Float32
  y : Float32
  z : Float32
  alpha : Float32
deriving DecidableEq, Inhabited

namespace Space

/-- The names of the components. -/
def names : Space → String × String × String
  | hsl => ("h", "s", "l")
  | hwb => ("h", "w", "b")
  | lab | oklab => ("l", "a", "b")
  | lch | oklch => ("l", "c", "h")
  | xyz50 | xyz65 => ("x", "y", "z")
  | _ => ("r", "g", "b")

/-- The spaces that are named alone. -/
def named : List (String × Space) :=
  [("srgb", srgb), ("srgb-linear", srgbLinear), ("display-p3", displayP3), ("a98-rgb", a98),
    ("prophoto-rgb", prophoto), ("rec2020", rec2020), ("xyz-d50", xyz50), ("xyz", xyz65),
    ("xyz-d65", xyz65)]

/-- The spaces in which colours are mixed. -/
def mixing : List (String × Space) :=
  [("srgb", srgb), ("srgb-linear", srgbLinear), ("lab", lab), ("oklab", oklab), ("xyz", xyz65),
    ("xyz-d50", xyz50), ("xyz-d65", xyz65), ("hsl", hsl), ("hwb", hwb), ("lch", lch),
    ("oklch", oklch)]

/-- Which component is a hue: the first or the last. -/
def isPolar : Space → Bool
  | hsl | hwb | lch | oklch => true
  | _ => false

def hueFirst : Space → Bool
  | hsl | hwb => true
  | _ => false

/-- The spaces of which a screen shows only a part. -/
def isBounded : Space → Bool
  | srgb | srgbLinear | displayP3 | a98 | prophoto | rec2020 | hsl | hwb => true
  | _ => false

end Space

namespace Shade

abbrev Triple := Float32 × Float32 × Float32

def zeroIfMissing (x : Float32) : Float32 := if x.isNaN then 0 else x

/-- A colour with nothing for what is missing. -/
def resolved (s : Shade) : Shade :=
  ⟨s.space, zeroIfMissing s.x, zeroIfMissing s.y, zeroIfMissing s.z, zeroIfMissing s.alpha⟩

/-- A product with a matrix, row by row. -/
def transform (m : Triple × Triple × Triple) (v : Triple) : Triple :=
  let row (r : Triple) : Float32 := r.1 * v.1 + r.2.1 * v.2.1 + r.2.2 * v.2.2
  (row m.1, row m.2.1, row m.2.2)

def each (f : Float32 → Float32) (v : Triple) : Triple := (f v.1, f v.2.1, f v.2.2)

/-- Applies a function to the size of a number and keeps its sign. -/
def odd (f : Float32 → Float32) (x : Float32) : Float32 :=
  if x < 0 then -f (-x) else f x

def cube (x : Float32) : Float32 := x * x * x

/-! ## Light and its encodings -/

def ofSrgbGamma (x : Float32) : Float32 :=
  if x.abs < 0.04045 then x / 12.92 else odd (fun x => ((x + 0.055) / 1.055).pow 2.4) x

def toSrgbGamma (x : Float32) : Float32 :=
  if 0.0031308 < x.abs then odd (fun x => 1.055 * x.pow (1 / 2.4) - 0.055) x else 12.92 * x

def ofProphotoGamma (x : Float32) : Float32 :=
  if x.abs ≤ 16 / 512 then x / 16 else odd (fun x => x.pow 1.8) x

def toProphotoGamma (x : Float32) : Float32 :=
  if 1 / 512 ≤ x.abs then odd (fun x => x.pow (1 / 1.8)) x else 16 * x

def rec2020A : Float32 := 1.09929682680944

def rec2020B : Float32 := 0.018053968510807

def ofRec2020Gamma (x : Float32) : Float32 :=
  if x.abs < rec2020B * 4.5 then x / 4.5
  else odd (fun x => ((x + rec2020A - 1) / rec2020A).pow (1 / 0.45)) x

def toRec2020Gamma (x : Float32) : Float32 :=
  if rec2020B < x.abs then odd (fun x => rec2020A * x.pow 0.45 - (rec2020A - 1)) x else 4.5 * x

/-! ## Matrices -/

def linearToXyz : Triple × Triple × Triple :=
  ((0.41239079926595934, 0.357584339383878, 0.1804807884018343),
    (0.21263900587151027, 0.715168678767756, 0.07219231536073371),
    (0.01933081871559182, 0.11919477979462598, 0.9505321522496607))

def xyzToLinear : Triple × Triple × Triple :=
  ((3.2409699419045226, -1.537383177570094, -0.4986107602930034),
    (-0.9692436362808796, 1.8759675015077202, 0.04155505740717559),
    (0.05563007969699366, -0.20397695888897652, 1.0569715142428786))

def p3ToXyz : Triple × Triple × Triple :=
  ((0.4865709486482162, 0.26566769316909306, 0.1982172852343625),
    (0.2289745640697488, 0.6917385218365064, 0.079286914093745),
    (0, 0.04511338185890264, 1.043944368900976))

def xyzToP3 : Triple × Triple × Triple :=
  ((2.493496911941425, -0.9313836179191239, -0.40271078445071684),
    (-0.8294889695615747, 1.7626640603183463, 0.023624685841943577),
    (0.03584583024378447, -0.07617238926804182, 0.9568845240076872))

def a98ToXyz : Triple × Triple × Triple :=
  ((0.5766690429101305, 0.1855582379065463, 0.1882286462349947),
    (0.29734497525053605, 0.6273635662554661, 0.07529145849399788),
    (0.02703136138641234, 0.07068885253582723, 0.9913375368376388))

def xyzToA98 : Triple × Triple × Triple :=
  ((2.0415879038107465, -0.5650069742788596, -0.34473135077832956),
    (-0.9692436362808795, 1.8759675015077202, 0.04155505740717557),
    (0.013444280632031142, -0.11836239223101838, 1.0151749943912054))

def prophotoToXyz : Triple × Triple × Triple :=
  ((0.7977604896723027, 0.13518583717574031, 0.0313493495815248),
    (0.2880711282292934, 0.7118432178101014, 0.00008565396060525902),
    (0, 0, 0.8251046025104601))

def xyzToProphoto : Triple × Triple × Triple :=
  ((1.3457989731028281, -0.25558010007997534, -0.05110628506753401),
    (-0.5446224939028347, 1.5082327413132781, 0.02053603239147973),
    (0, 0, 1.2119675456389454))

def rec2020ToXyz : Triple × Triple × Triple :=
  ((0.6369580483012914, 0.14461690358620832, 0.1688809751641721),
    (0.2627002120112671, 0.6779980715188708, 0.05930171646986196),
    (0, 0.028072693049087428, 1.060985057710791))

def xyzToRec2020 : Triple × Triple × Triple :=
  ((1.7166511879712674, -0.35567078377639233, -0.25336628137365974),
    (-0.6666843518324892, 1.6164812366349395, 0.01576854581391113),
    (0.017639857445310783, -0.042770613257808524, 0.9421031212354738))

/-- From white of 5000 kelvin to white of 6500. -/
def warmToCool : Triple × Triple × Triple :=
  ((0.9554734527042182, -0.023098536874261423, 0.0632593086610217),
    (-0.028369706963208136, 1.0099954580058226, 0.021041398966943008),
    (0.012314001688319899, -0.020507696433477912, 1.3303659366080753))

def coolToWarm : Triple × Triple × Triple :=
  ((1.0479298208405488, 0.022946793341019088, -0.05019222954313557),
    (0.029627815688159344, 0.990434484573249, -0.01707382502938514),
    (-0.009243058152591178, 0.015055144896577895, 0.7518742899580008))

def xyzToCones : Triple × Triple × Triple :=
  ((0.8190224432164319, 0.3619062562801221, -0.12887378261216414),
    (0.0329836671980271, 0.9292868468965546, 0.03614466816999844),
    (0.048177199566046255, 0.26423952494422764, 0.6335478258136937))

def conesToOklab : Triple × Triple × Triple :=
  ((0.2104542553, 0.7936177850, -0.0040720468),
    (1.9779984951, -2.4285922050, 0.4505937099),
    (0.0259040371, 0.7827717662, -0.8086757660))

def conesToXyz : Triple × Triple × Triple :=
  ((1.2268798733741557, -0.5578149965554813, 0.28139105017721583),
    (-0.04057576262431372, 1.1122868293970594, -0.07171106666151701),
    (-0.07637294974672142, -0.4214933239627914, 1.5869240244272418))

def oklabToCones : Triple × Triple × Triple :=
  ((0.99999999845051981432, 0.39633779217376785678, 0.21580375806075880339),
    (1.0000000088817607767, -0.1055613423236563494, -0.063854174771705903402),
    (1.0000000546724109177, -0.089484182094965759684, -1.2914855378640917399))

/-! ## From one space to another -/

/-- White of 5000 kelvin. -/
def white : Triple := (0.3457 / 0.3585, 1, (1 - 0.3457 - 0.3585) / 0.3585)

def kappa : Float32 := 24389 / 27

def epsilon : Float32 := 216 / 24389

def labToXyz (v : Triple) : Triple :=
  let (l, a, b) := v
  let f1 := (l + 16) / 116
  let f0 := a / 500 + f1
  let f2 := f1 - b / 200
  let part (f : Float32) : Float32 :=
    if epsilon < cube f then cube f else (116 * f - 16) / kappa
  let y := if kappa * epsilon < l then cube ((l + 16) / 116) else l / kappa
  (part f0 * white.1, y * white.2.1, part f2 * white.2.2)

def xyzToLab (v : Triple) : Triple :=
  let part (x : Float32) : Float32 := if epsilon < x then x.cbrt else (kappa * x + 16) / 116
  let f0 := part (v.1 / white.1)
  let f1 := part (v.2.1 / white.2.1)
  let f2 := part (v.2.2 / white.2.2)
  (116 * f1 - 16, 500 * (f0 - f1), 200 * (f1 - f2))

/-- A hue and how far from gray, instead of two axes. -/
def toPolar (v : Triple) : Triple :=
  let (l, a, b) := v
  let h := b.atan2 a * 180 / Dimension.pi
  (l, (a * a + b * b).sqrt, if h < 0 then h + 360 else h)

def ofPolar (v : Triple) : Triple :=
  let (l, c, h) := v
  (l, c * (h * Dimension.pi / 180).cos, c * (h * Dimension.pi / 180).sin)

def hslToSrgb (v : Triple) : Triple :=
  let (h, s, l) := v
  let h := (h - 360 * (h / 360).floor) / 360
  let m2 := if l ≤ 0.5 then l * (s + 1) else l + s - l * s
  let m1 := l * 2 - m2
  let part (h : Float32) : Float32 :=
    let h := if h < 0 then h + 3 else h
    let h := if 3 < h then h - 3 else h
    if h * 2 < 1 then m1 + (m2 - m1) * h * 2
    else if h * 2 < 3 then m2
    else if h < 2 then m1 + (m2 - m1) * (2 - h) * 2
    else m1
  (part (h * 3 + 1), part (h * 3), part (h * 3 - 1))

def srgbToHsl (v : Triple) : Triple :=
  let (r, g, b) := v
  let most := max (max r g) b
  let least := min (min r g) b
  let l := (least + most) / 2
  let d := most - least
  if d == 0 then (0 / 0, 0, l)
  else
    let s := if l == 0 || l == 1 then 0 else (most - l) / min l (1 - l)
    let h :=
      if most == r then (g - b) / d + (if g < b then 6 else 0)
      else if most == g then (b - r) / d + 2
      else (r - g) / d + 4
    (h * 60, s, l)

def hwbToSrgb (v : Triple) : Triple :=
  let (h, w, b) := v
  if 1 ≤ w + b then
    let gray := w / (w + b)
    (gray, gray, gray)
  else each (fun x => x * (1 - w - b) + w) (hslToSrgb (h, 1, 0.5))

def srgbToHwb (v : Triple) : Triple :=
  let (r, g, b) := v
  ((srgbToHsl v).1, min (min r g) b, 1 - max (max r g) b)

/-- The step from a space towards the one that all are reached from. -/
def outward? : Space → Option (Space × (Triple → Triple))
  | .hsl => some (.srgb, hslToSrgb)
  | .hwb => some (.srgb, hwbToSrgb)
  | .srgb => some (.srgbLinear, each ofSrgbGamma)
  | .srgbLinear => some (.xyz65, transform linearToXyz)
  | .displayP3 => some (.xyz65, fun v => transform p3ToXyz (each ofSrgbGamma v))
  | .a98 => some (.xyz65, fun v => transform a98ToXyz (each (odd fun x => x.pow (563 / 256)) v))
  | .rec2020 => some (.xyz65, fun v => transform rec2020ToXyz (each ofRec2020Gamma v))
  | .prophoto => some (.xyz50, fun v => transform prophotoToXyz (each ofProphotoGamma v))
  | .lch => some (.lab, ofPolar)
  | .lab => some (.xyz50, labToXyz)
  | .xyz50 => some (.xyz65, transform warmToCool)
  | .oklch => some (.oklab, ofPolar)
  | .oklab => some (.xyz65, fun v => transform conesToXyz (each cube (transform oklabToCones v)))
  | .xyz65 => none

/-- The step to a space from the one before it. -/
def inward : Space → Triple → Triple
  | .hsl => srgbToHsl
  | .hwb => srgbToHwb
  | .srgb => each toSrgbGamma
  | .srgbLinear => transform xyzToLinear
  | .displayP3 => fun v => each toSrgbGamma (transform xyzToP3 v)
  | .a98 => fun v => each (odd fun x => x.pow (256 / 563)) (transform xyzToA98 v)
  | .rec2020 => fun v => each toRec2020Gamma (transform xyzToRec2020 v)
  | .prophoto => fun v => each toProphotoGamma (transform xyzToProphoto v)
  | .lch => toPolar
  | .lab => xyzToLab
  | .xyz50 => transform coolToWarm
  | .oklch => toPolar
  | .oklab => fun v => transform conesToOklab (each Float32.cbrt (transform xyzToCones v))
  | .xyz65 => id

/-- The spaces on the way from a space to the one that all are reached from. -/
def route (s : Space) : List Space :=
  let rec go (fuel : Nat) (s : Space) : List Space :=
    match fuel, outward? s with
    | fuel + 1, some (t, _) => s :: go fuel t
    | _, _ => [s]
  go 5 s

/-- The same colour in another space, reached by the shortest way. -/
def into (target : Space) (s : Shade) : Shade :=
  if s.space = target then s
  else
    let s := s.resolved
    let goal := route target
    let rec out (fuel : Nat) (space : Space) (v : Triple) : Space × Triple :=
      if goal.contains space then (space, v)
      else
        match fuel, outward? space with
        | fuel + 1, some (t, f) => out fuel t (f v)
        | _, _ => (space, v)
    let (turn, v) := out 5 s.space (s.x, s.y, s.z)
    let steps := (goal.takeWhile (· != turn)).reverse
    let (x, y, z) := steps.foldl (fun v t => inward t v) v
    ⟨target, x, y, z, s.alpha⟩

/-! ## What a screen can show -/

def unit (x : Float32) : Float32 := min (max x 0) 1

def inGamut (s : Shade) : Bool :=
  let within (x : Float32) : Bool := 0 ≤ x && x ≤ 1
  if !s.space.isBounded then true
  else if s.space.hueFirst then within s.y && within s.z
  else within s.x && within s.y && within s.z

def clipped (s : Shade) : Shade :=
  if !s.space.isBounded then s
  else ⟨s.space, if s.space.hueFirst then s.x else unit s.x, unit s.y, unit s.z, unit s.alpha⟩

/-- How far apart two colours look. -/
def distance (a b : Shade) : Float32 :=
  let a := (a.into .oklab).resolved
  let b := (b.into .oklab).resolved
  let square (x : Float32) : Float32 := x * x
  (square (a.x - b.x) + square (a.y - b.y) + square (a.z - b.z)).sqrt

/-- The nearest colour of a space that a screen can show, found by taking away from its strength. -/
def mapped (s : Shade) : Shade :=
  let c := (s.into .oklch).resolved
  if (c.x - 1).abs < 0.00001 || 1 < c.x then Shade.into s.space ⟨.oklch, 1, 0, 0, c.alpha⟩
  else if c.x < 0.00001 then Shade.into s.space ⟨.oklch, 0, 0, 0, c.alpha⟩
  else search 64 c 0 c.y
where
  search : Nat → Shade → Float32 → Float32 → Shade
    | 0, c, _, _ => c.into s.space
    | fuel + 1, c, low, high =>
      if 0.00001 < high - low then
        let y := (low + high) / 2
        let c := { c with y := y }
        let t := c.into s.space
        if t.inGamut then search fuel c y high
        else if distance t.clipped c < 0.02 then t.clipped
        else search fuel c low y
      else c.into s.space

/-! ## Mixing -/

def missing : Float32 := 0 / 0

/-- A converted colour without the components that make no difference to it. -/
def withoutPowerless (s : Shade) : Shade :=
  let none (x : Float32) : Bool := x.abs < 1.1920929e-7
  match s.space with
  | .hsl =>
    let s := if none s.y then { s with x := missing } else s
    if none s.z || none (s.z - 1) then { s with x := missing, y := missing } else s
  | .hwb => if 1 ≤ s.y + s.z then { s with x := missing } else s
  | .lab | .oklab => if none s.x then { s with y := missing, z := missing } else s
  | .lch | .oklch =>
    let s := if none s.y then { s with z := missing } else s
    if none s.x then { s with y := missing, z := missing } else s
  | _ => s

/-- A colour with the components of another for those it misses. -/
def filled (s t : Shade) : Shade :=
  let pick (a b : Float32) : Float32 := if a.isNaN then b else a
  ⟨s.space, pick s.x t.x, pick s.y t.y, pick s.z t.z, pick s.alpha t.alpha⟩

/-- Two hues between which the way goes as is said. -/
def hues (method : String) (a b : Float32) : Float32 × Float32 :=
  let turned (x : Float32) : Float32 := Single.remainder (Single.remainder x 360 + 360) 360
  let a := turned a
  let b := turned b
  let d := b - a
  match method with
  | "longer" =>
    if 0 < d && d < 180 then (a + 360, b) else if -180 < d && d ≤ 0 then (a, b + 360) else (a, b)
  | "increasing" => if b < a then (a, b + 360) else (a, b)
  | "decreasing" => if a < b then (a + 360, b) else (a, b)
  | "specified" => (a, b)
  | _ => if 180 < d then (a + 360, b) else if d < -180 then (a, b + 360) else (a, b)

def weighed (k : Float32) (s : Shade) : Shade :=
  ⟨s.space, if s.space.hueFirst then s.x else s.x * k, s.y * k,
    if s.space.isPolar && !s.space.hueFirst then s.z else s.z * k, s.alpha⟩

/-- So much of one colour and so much of another. -/
def mix (space : Space) (method : String) (a : Shade) (p : Float32) (b : Shade) (q : Float32) :
    Shade :=
  let ready (s : Shade) : Shade :=
    if s.space = space then s
    else
      let t := s.into space
      (if t.inGamut then t else t.mapped).withoutPowerless
  let a := ready a
  let b := ready b
  let a := a.filled b
  let b := b.filled a
  let (a, b) :=
    if space.hueFirst then
      let (h, k) := hues method a.x b.x
      ({ a with x := h }, { b with x := k })
    else if space.isPolar then
      let (h, k) := hues method a.z b.z
      ({ a with z := h }, { b with z := k })
    else (a, b)
  let premultiplied (s : Shade) : Shade := if s.alpha.isNaN then s else s.weighed s.alpha
  let a := premultiplied a
  let b := premultiplied b
  let whole := p + q
  let (p, q) := if whole == 1 then (p, q) else (p / whole, q / whole)
  let both (x y : Float32) : Float32 := x * p + y * q
  let m : Shade := ⟨space, both a.x b.x, both a.y b.y, both a.z b.z, both a.alpha b.alpha⟩
  if m.alpha.isNaN || m.alpha == 0 then m
  else
    let divided (x : Float32) : Float32 := x / m.alpha
    ⟨space, if space.hueFirst then m.x else divided m.x, divided m.y,
      if space.isPolar && !space.hueFirst then m.z else divided m.z,
      m.alpha * (if 1 < whole then 1 else whole)⟩

end Shade

end ScopedViews.Css
