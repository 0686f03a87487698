import ScopedViews.Css.Calc
import ScopedViews.Css.ColorSpace
/-!
# Colours

Colours as values: names, hexadecimal digits, functions of channels, colours relative to others and
mixtures, and the shortest form of each.
-/

namespace ScopedViews.Css

inductive Color where
  | current
  | bytes (c : Rgba)
  /-- A colour of a space of its own. -/
  | shade (s : Shade)
  /-- A colour for a light scheme and one for a dark one. -/
  | schemes (light dark : Color)
  | system (name : String)
deriving Inhabited

namespace Color

/-- Names of colours that the system chooses, in lower case. -/
def systemNames : List String :=
  ["accentcolor", "accentcolortext", "activetext", "buttonborder", "buttonface", "buttontext",
    "canvas", "canvastext", "field", "fieldtext", "graytext", "highlight", "highlighttext",
    "linktext", "mark", "marktext", "selecteditem", "selecteditemtext", "visitedtext",
    "activeborder", "activecaption", "appworkspace", "background", "buttonhighlight",
    "buttonshadow", "captiontext", "inactiveborder", "inactivecaption", "inactivecaptiontext",
    "infobackground", "infotext", "menu", "menutext", "scrollbar", "threeddarkshadow",
    "threedface", "threedhighlight", "threedlightshadow", "threedshadow", "window", "windowframe",
    "windowtext"]

/-! ## Writing -/

def component (x : Float32) : String := if x.isNaN then "none" else Written.number x

def shadeText (s : Shade) : String :=
  let alpha :=
    if s.alpha.isNaN || 1.1920929e-7 < (s.alpha - 1).abs then "/" ++ component s.alpha else ""
  let plain (name : String) : String :=
    "color(" ++ name ++ " " ++ component s.x ++ " " ++ component s.y ++ " " ++ component s.z ++
      alpha ++ ")"
  let light (name : String) (x : Float32) : String :=
    name ++ "(" ++ (if x.isNaN then "none" else Written.percentage x) ++ " " ++ component s.y ++
      " " ++ component s.z ++ alpha ++ ")"
  match s.space with
  | .lab => light "lab" (s.x / 100)
  | .lch => light "lch" (s.x / 100)
  | .oklab => light "oklab" s.x
  | .oklch => light "oklch" s.x
  | .xyz65 => plain "xyz"
  | space => plain ((Space.named.find? fun (_, t) => t = space).elim "srgb" (·.1))

def text : Color → String
  | current => "currentColor"
  | bytes c => c.text
  | shade s => shadeText s
  | schemes light dark => "light-dark(" ++ text light ++ "," ++ text dark ++ ")"
  | system name => name

/-! ## Conversions -/

/-- The bytes nearest to a colour of a space that screens have. -/
def toBytes (s : Shade) : Rgba :=
  let c := (s.into .srgb).resolved
  ⟨Rgba.channel c.x, Rgba.channel c.y, Rgba.channel c.z, Rgba.channel c.alpha⟩

def ofBytes (c : Rgba) : Shade :=
  let part (n : Nat) : Float32 := Float32.ofNat n / 255
  ⟨.srgb, part c.red, part c.green, part c.blue, part c.alpha⟩

/-- A colour by its components, if they are known. -/
def shade? : Color → Option Shade
  | bytes c => some (ofBytes c)
  | shade s => some s
  | _ => none

/-- A mixture as a colour: one of the spaces of screens is written in bytes. -/
def ofShade (s : Shade) : Color :=
  match s.space with
  | .srgb | .hsl | .hwb => .bytes (toBytes s)
  | _ => .shade s

/-! ## Reading -/

/-- The colour that others are relative to: names of its components and what they are. -/
abbrev Origin := List (String × Float32)

/-- A component that may be missing, as a number; hundredths are of `whole`. -/
def channel? (origin : Option Origin) (whole : Float32) (c : Component) : Option Float32 :=
  let names := origin.getD []
  let word (s : String) : Option Calc := (names.lookup s.toLower).map .number
  match c with
  | .token (.ident s) =>
    match names.lookup s.toLower with
    | some x => some x
    | none => if s.toLower = "none" then some Shade.missing else none
  | c =>
    match Calc.ofComponent? .percentage word c with
    | some (.number x) => some x
    | some (.value q) => some (q.amount * whole)
    | _ => none

/-- A number that is no share of another. -/
def number? (origin : Option Origin) (c : Component) : Option Float32 :=
  match c with
  | .token (.percentage _) => none
  | c =>
    match Calc.ofComponent? .number (fun _ => none) c with
    | some (.number x) => some x
    | _ =>
      match c with
      | .token (.ident _) => channel? origin 1 c
      | _ => none

/-- A share as a number of `whole`. -/
def share? (origin : Option Origin) (whole : Float32) (c : Component) : Option Float32 :=
  match c with
  | .token (.number _) => none
  | c => channel? origin whole c

/-- A hue in degrees. -/
def hue? (origin : Option Origin) (c : Component) : Option Float32 :=
  let names := origin.getD []
  let word (make : Float32 → Calc) (s : String) : Option Calc := (names.lookup s.toLower).map make
  match c with
  | .token (.ident _) => channel? origin 1 c
  | c =>
    match Calc.ofComponent? .number (word .number) c with
    | some (.number x) => some x
    | _ =>
      match Calc.ofComponent? .angle (word fun x => .value ⟨x, "deg"⟩) c with
      | some (.value q) => Dimension.degrees? q.amount q.unit
      | _ => none

def between (low high x : Float32) : Float32 :=
  if x.isNaN then x else min (max x low) high

/-- Components between commas, as old style sheets have them. -/
def commas? (cs : List Component) : Option (List Component) :=
  let only (part : List Component) : Option Component :=
    match part with
    | [c] => some c
    | _ => none
  ((Component.splitCommas cs).mapM only).filter fun parts =>
    parts.length = 3 || parts.length = 4

/-- Three components, and the opacity after a slash. -/
def blanks? (cs : List Component) : Option (Component × Component × Component × Option Component) :=
  match cs with
  | [a, b, c] => some (a, b, c, none)
  | [a, b, c, .token (.delim '/'), d] => some (a, b, c, some d)
  | _ => none

def opacity? (origin : Option Origin) : Option Component → Option Float32
  | none => some 1
  | some c => (channel? origin 1 c).map (between 0 1)

/-- A colour of bytes, unless something of it is missing. -/
def ofParts (space : Space) (x y z alpha : Float32) : Color :=
  if x.isNaN || y.isNaN || z.isNaN || alpha.isNaN then .shade ⟨space, x, y, z, alpha⟩
  else .bytes (toBytes ⟨space, x, y, z, alpha⟩)

/-- A colour with commas between its components, none of which is missing. -/
def legacy? (name : String) (cs : List Component) : Option Color := do
  let parts ← commas? cs
  match parts with
  | a :: b :: c :: rest =>
    let alpha ←
      match rest with
      | [] => some 1
      | [d] => (channel? none 1 d).map (between 0 1)
      | _ => none
    if name = "rgb" then
      let read : Component → Option Float32 :=
        if (number? none a).isSome then number? none else share? none 255
      let x ← read a
      let y ← read b
      let z ← read c
      if x.isNaN || y.isNaN || z.isNaN then none
      let byte (x : Float32) : Nat := (between 0 255 x.round).toUInt8.toNat
      some (.bytes ⟨byte x, byte y, byte z, Rgba.channel alpha⟩)
    else if name = "hsl" then
      let x ← hue? none a
      let y ← share? none 1 b
      let z ← share? none 1 c
      if x.isNaN || y.isNaN || z.isNaN then none
      some (ofParts .hsl x (between 0 1 y) (between 0 1 z) alpha)
    else none
  | _ => none

/-- The components of a colour that another is relative to. -/
def originOf (space : Space) (s : Shade) : Origin :=
  let t := (s.into space).resolved
  let t := if t.inGamut then t else t.mapped.resolved
  let (a, b, c) := space.names
  let (x, y, z) :=
    match space with
    | .hsl | .hwb => (t.x, t.y * 100, t.z * 100)
    | _ => (t.x, t.y, t.z)
  [(a, x), (b, y), (c, z), ("alpha", t.alpha)]

/-- The functions that are named for a space. -/
def space? (name : String) : Option Space :=
  match name with
  | "rgb" | "rgba" => some .srgb
  | "hsl" | "hsla" => some .hsl
  | "hwb" => some .hwb
  | "lab" => some .lab
  | "lch" => some .lch
  | "oklab" => some .oklab
  | "oklch" => some .oklch
  | _ => none

/-- A colour of a space by its components, which may be relative to another's. -/
def components? (space : Space) (origin : Option Origin) (cs : List Component) :
    Option Color := do
  let (a, b, c, d) ← blanks? cs
  let alpha ← opacity? origin d
  match space with
  | .srgb =>
    let origin := origin.map fun names => names.map fun (n, x) =>
      if n = "alpha" then (n, x) else (n, x * 255)
    let read (c : Component) : Option Float32 :=
      (channel? origin 255 c).map fun x => between 0 255 x.round / 255
    some (ofParts .srgb (← read a) (← read b) (← read c) alpha)
  | .hsl | .hwb =>
    let read (c : Component) : Option Float32 :=
      (channel? origin 100 c).map fun x => between 0 100 x / 100
    some (ofParts space (← hue? origin a) (← read b) (← read c) alpha)
  | .lab | .oklab =>
    let (light, axis) := if space = .lab then (100, 125) else (1, 0.4)
    let l ← channel? origin light a
    some (.shade ⟨space, between 0 (1 / 0) l, ← channel? origin axis b, ← channel? origin axis c,
      alpha⟩)
  | _ =>
    let (light, axis) := if space = .lch then (100, 150) else (1, 0.4)
    let l ← channel? origin light a
    let s ← channel? origin axis b
    some (.shade ⟨space, between 0 (1 / 0) l, between 0 (1 / 0) s, ← hue? origin c, alpha⟩)

def isWord (w : String) : Component → Bool
  | .token (.ident s) => s.toLower = w
  | _ => false

def percentage? : Component → Option Float32
  | .token (.percentage n) => some n.part
  | _ => none

/-- A colour that is relative to no other. -/
def absolute? (space : Space) (name : String) (cs : List Component) : Option Color :=
  let family :=
    if name.startsWith "rgb" then "rgb" else if name.startsWith "hsl" then "hsl" else name
  (legacy? family cs).orElse fun _ => components? space none cs

def namedSpace? : Component → Option Space
  | .token (.ident s) => Space.named.lookup s.toLower
  | _ => none

/-- A colour of a space that is named, whose components go up to one. -/
def predefined? (space : Space) (origin : Option Origin) (cs : List Component) :
    Option Color := do
  let (a, b, c, d) ← blanks? cs
  some (.shade ⟨space, ← channel? origin 1 a, ← channel? origin 1 b, ← channel? origin 1 c,
    ← opacity? origin d⟩)

/-- The space of a mixture, and which way its hues go. -/
def method? (cs : List Component) : Option (Space × String) :=
  match cs with
  | i :: .token (.ident s) :: rest =>
    if !isWord "in" i then none
    else do
      let space ← Space.mixing.lookup s.toLower
      match rest with
      | [] => some (space, "shorter")
      | [.token (.ident way), hue] =>
        if space.isPolar && isWord "hue" hue &&
            ["shorter", "longer", "increasing", "decreasing", "specified"].contains way.toLower
        then some (space, way.toLower)
        else none
      | _ => none
  | _ => none

mutual

/-- The colour that a component is. -/
def ofComponent? (fuel : Nat) (c : Component) : Option Color :=
  match fuel with
  | 0 => none
  | fuel + 1 =>
    match c with
    | .token (.ident s) =>
      let name := s.toLower
      if name = "currentcolor" then some .current
      else
        match Rgba.ofName? name with
        | some c => some (.bytes c)
        | none => if systemNames.contains name then some (.system name) else none
    | .token (.hash s _) => (Rgba.ofHex? s).map .bytes
    | .call name body => ofCall? fuel name.toLower (Component.solid body)
    | _ => none

/-- What a function makes of a colour, or of each of two colours. -/
def relative? (fuel : Nat) (make : Shade → Option Color) (origin : Color) : Option Color :=
  match fuel with
  | 0 => none
  | fuel + 1 =>
    match origin with
    | .schemes light dark => do
      some (.schemes (← relative? fuel make light) (← relative? fuel make dark))
    | c => c.shade?.bind make

def ofCall? (fuel : Nat) (name : String) (cs : List Component) : Option Color :=
  match fuel with
  | 0 => none
  | fuel + 1 =>
    match space? name with
    | some space =>
      match cs with
      | from_ :: origin :: rest =>
        if isWord "from" from_ then do
          let origin ← ofComponent? fuel origin
          relative? fuel (fun s => components? space (some (originOf space s)) rest) origin
        else absolute? space name cs
      | cs => absolute? space name cs
    | none =>
      match name with
      | "color" =>
        match cs with
        | from_ :: origin :: s :: rest =>
          if isWord "from" from_ then do
            let origin ← ofComponent? fuel origin
            relative? fuel (fun t => do
              let space ← namedSpace? s
              predefined? space (some (originOf space t)) rest) origin
          else do predefined? (← namedSpace? from_) none (origin :: s :: rest)
        | _ => none
      | "light-dark" =>
        match Component.splitCommas cs with
        | [[light], [dark]] => do
          let light ← ofComponent? fuel light
          let dark ← ofComponent? fuel dark
          some (.schemes
            (match light with
              | .schemes light _ => light
              | light => light)
            (match dark with
              | .schemes _ dark => dark
              | dark => dark))
        | _ => none
      | "color-mix" =>
        match Component.splitCommas cs with
        | [method, first, second] => do
          let (space, way) ← method? method
          let (a, p) ← portion? fuel first
          let (b, q) ← portion? fuel second
          let (p, q) :=
            match p, q with
            | none, none => (0.5, 0.5)
            | some p, none => (p, 1 - p)
            | none, some q => (1 - q, q)
            | some p, some q => (p, q)
          if p + q == 0 then none
          else mixed? fuel space way a p b q
        | _ => none
      | _ => none

/-- A colour and how much of it is taken. -/
def portion? (fuel : Nat) (cs : List Component) : Option (Color × Option Float32) :=
  match fuel with
  | 0 => none
  | fuel + 1 =>
    match cs with
    | [c] => (ofComponent? fuel c).map (·, none)
    | [a, b] =>
      match percentage? a, percentage? b with
      | some p, _ => (ofComponent? fuel b).map (·, some p)
      | none, some p => (ofComponent? fuel a).map (·, some p)
      | none, none => none
    | _ => none

def mixed? (fuel : Nat) (space : Space) (way : String) (a : Color) (p : Float32) (b : Color)
    (q : Float32) : Option Color :=
  match fuel with
  | 0 => none
  | fuel + 1 =>
    match a, b with
    | .schemes l d, .schemes m e => do
      some (.schemes (← mixed? fuel space way l p m q) (← mixed? fuel space way d p e q))
    | .schemes l d, b => do
      some (.schemes (← mixed? fuel space way l p b q) (← mixed? fuel space way d p b q))
    | a, .schemes m e => do
      some (.schemes (← mixed? fuel space way a p m q) (← mixed? fuel space way a p e q))
    | a, b => do some (ofShade (Shade.mix space way (← a.shade?) p (← b.shade?) q))

end
/-- How deep colours may be made of others. -/
def fuel (c : Component) : Nat := 4 * c.weight + 4

/-- The colour that a component is. -/
def read? (c : Component) : Option Color := ofComponent? (fuel c) c

/-- A component that is a colour, in its shortest form. -/
def text? (c : Component) : Option String := (read? c).map text

end Color

end ScopedViews.Css
