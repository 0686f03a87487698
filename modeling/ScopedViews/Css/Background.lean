import ScopedViews.Css.Border
import ScopedViews.Css.Box
/-!
# Backgrounds and masks

Layers of images behind a box, and layers that show parts of it.
-/

namespace ScopedViews.Css

namespace Background

open Reader

def size : Reader String :=
  oneOf [keyword ["cover", "contain"], do
    let w ← Box.lengthOrAuto
    match ← Reader.optional Box.lengthOrAuto with
    | some h => pure (if h = "auto" then w else w ++ " " ++ h)
    | none => pure w]

def repetition : Reader String :=
  oneOf [keyword ["repeat-x", "repeat-y"], do
    let one := keyword ["repeat", "space", "round", "no-repeat"]
    let a ← one
    let b := (← Reader.optional one).getD a
    pure (match a, b with
      | "repeat", "no-repeat" => "repeat-x"
      | "no-repeat", "repeat" => "repeat-y"
      | a, b => if a = b then a else a ++ " " ++ b)]

def attachment : Reader String := keyword ["scroll", "fixed", "local"]

def originBox : Reader String := keyword ["border-box", "padding-box", "content-box"]

def clipBox : Reader String := oneOf [originBox, keyword ["text", "border-area"]]

/-- A place along one direction so that it can be read again. -/
def placeText : Place → String
  | .center => "center"
  | p => p.text

/-- A position and the size after a slash. -/
def placed : Reader (List (String × String)) := do
  let (x, y) ← Place.pair
  let s ← Reader.optional (do
    mark '/'
    size)
  pure ([("position-x", placeText x), ("position-y", placeText y)] ++
    s.toList.map fun s => ("size", s))

/-- A reader of one part of a layer. -/
def part (n : String) (r : Reader String) : String × Reader (List (String × String)) :=
  (n, (fun s => [(n, s)]) <$> r)

def layer : Reader (List (String × String)) :=
  anyParts [part "color" color, ("position", placed), part "image" image,
    part "repeat" repetition, part "attachment" attachment, part "origin" originBox,
    part "clip" clipBox]

/-- A longhand's values, layer by layer. -/
def eachLayer (front : String) (layers : List (List (String × String))) (n default : String) :
    String × List String :=
  (front ++ n, layers.map fun l => (l.lookup n).getD default)

def background? (cs : List Component) : Option Values := do
  let layers ← all? (commas layer) cs
  let each := eachLayer "background-" layers
  some [("background-color", [((layers.getLastD []).lookup "color").getD "#0000"]),
    each "image" "none", each "position-x" "0", each "position-y" "0", each "size" "auto",
    each "repeat" "repeat", each "attachment" "scroll", each "origin" "padding-box",
    ("background-clip", layers.map fun l =>
      (l.lookup "clip").getD ((l.lookup "origin").getD "border-box"))]

/-- Positions layer by layer, across and down. -/
def positions? (front : String) (cs : List Component) : Option Values := do
  let places ← all? (commas Place.pair) cs
  some [(front ++ "position-x", places.map fun (x, _) => placeText x),
    (front ++ "position-y", places.map fun (_, y) => placeText y)]

def across : Reader String := placeText <$> Place.along Place.across

def down : Reader String := placeText <$> Place.along Place.down

def readers : Readers :=
  [("background", background?), ("background-color", one color "background-color"),
    ("background-image", layered image "background-image"),
    ("background-position", positions? "background-"),
    ("background-position-x", layered across "background-position-x"),
    ("background-position-y", layered down "background-position-y"),
    ("background-size", layered size "background-size"),
    ("background-repeat", layered repetition "background-repeat"),
    ("background-attachment", layered attachment "background-attachment"),
    ("background-origin", layered originBox "background-origin"),
    ("background-clip", layered clipBox "background-clip")]

/-- A position from its two directions. -/
def position (x y : String) : String :=
  match ofText? (Place.along Place.across) x, ofText? (Place.along Place.down) y with
  | some x, some y => Place.pairText x y
  | _, _ => x ++ " " ++ y

/-- The layers of some longhands, if there are as many of each. -/
def layers? (held : Values) (names : List String) : Option (List (List String)) := do
  let values ← names.mapM held.get?
  let n := (values.headD []).length
  if values.all fun v => v.length = n then
    some ((List.range n).map fun i => values.map fun v => v.getD i "")
  else none

/-- Whether a position is the start of a box both ways. -/
def isOrigin (p : String) : Bool := ["0 0", "0% 0%", "0% 0", "0 0%"].contains p

def layerText (color : Option String) : List String → String
  | [image, x, y, size, repetition, attachment, origin, clip] =>
    let position := position x y
    let place := if size != "auto" then [position ++ "/" ++ size]
      else if isOrigin position then [] else [position]
    let boxed := origin != "padding-box" || (clip != "border-box" && clip != "text")
    let parts := (color.toList.filter (· != "#0000")) ++ [image].filter (· != "none") ++ place ++
      [repetition].filter (· != "repeat") ++ [attachment].filter (· != "scroll") ++
      (if boxed then [origin] else []) ++
      (if boxed && origin != clip || !boxed && clip != "border-box" then [clip] else [])
    if parts.isEmpty then position else " ".intercalate parts
  | _ => ""

/-- Positions as one property, if both directions are said of as many layers. -/
def writePosition (front : String) (held : Values) : List Setting :=
  let names := [front ++ "position-x", front ++ "position-y"]
  match layers? held names with
  | some layers =>
    [⟨front ++ "position", ",".intercalate (layers.map fun l =>
      match l with
      | [x, y] => position x y
      | l => " ".intercalate l), held.those names⟩]
  | none =>
    (held.those names).map fun (n, vs) =>
      ⟨n, ",".intercalate (vs.map fun v => if v = "center" then "50%" else v), [(n, vs)]⟩

def names : List String :=
  ["background-image", "background-position-x", "background-position-y", "background-size",
    "background-repeat", "background-attachment", "background-origin", "background-clip"]

def write (held : Values) : List Setting :=
  match held.one? "background-color", layers? held names with
  | some color, some layers =>
    let last := layers.length - 1
    let texts := layers.zipIdx.map fun (l, i) =>
      layerText (if i = last then some color else none) l
    [⟨"background", ",".intercalate texts, held.those ("background-color" :: names)⟩]
  | _, _ =>
    Setting.each held ["background-color", "background-image"] ++
      writePosition "background-" held ++
      Setting.each held ["background-repeat", "background-size", "background-attachment",
        "background-origin", "background-clip"]

end Background

namespace Mask

open Reader

def boxes : List String :=
  ["border-box", "padding-box", "content-box", "margin-box", "fill-box", "stroke-box", "view-box"]

def origin : Reader String := keyword boxes

def clip : Reader String := keyword (boxes ++ ["no-clip"])

def composite : Reader String := keyword ["add", "subtract", "intersect", "exclude"]

def mode : Reader String := keyword ["alpha", "luminance", "match-source"]

def layer : Reader (List (String × String)) :=
  anyParts [Background.part "image" image, ("position", Background.placed),
    Background.part "repeat" Background.repetition, Background.part "origin" origin,
    Background.part "clip" clip, Background.part "composite" composite,
    Background.part "mode" mode]

def mask? (cs : List Component) : Option Values := do
  let layers ← all? (commas layer) cs
  let each := Background.eachLayer "mask-" layers
  some [each "image" "none", each "position-x" "0", each "position-y" "0", each "size" "auto",
    each "repeat" "repeat", each "origin" "border-box",
    ("mask-clip", layers.map fun l =>
      (l.lookup "clip").getD ((l.lookup "origin").getD "border-box")),
    each "composite" "add", each "mode" "match-source"]

def border : Reader String := keyword ["luminance", "alpha"]

def borderNames : List String := ["source", "slice", "width", "outset", "repeat", "mode"]

def readers : Readers :=
  [("mask", mask?), ("mask-image", layered image "mask-image"),
    ("mask-position", Background.positions? "mask-"),
    ("mask-position-x", layered Background.across "mask-position-x"),
    ("mask-position-y", layered Background.down "mask-position-y"),
    ("mask-size", layered Background.size "mask-size"),
    ("mask-repeat", layered Background.repetition "mask-repeat"),
    ("mask-origin", layered origin "mask-origin"), ("mask-clip", layered clip "mask-clip"),
    ("mask-composite", layered composite "mask-composite"),
    ("mask-mode", layered mode "mask-mode"),
    ("mask-border", Border.imageValues? "mask-border-" borderNames [("mode", border)]),
    ("mask-border-source", one image "mask-border-source"),
    ("mask-border-slice", one Border.slice "mask-border-slice"),
    ("mask-border-width", one Border.imageWidth "mask-border-width"),
    ("mask-border-outset", one Border.outset "mask-border-outset"),
    ("mask-border-repeat", one Border.repetition "mask-border-repeat"),
    ("mask-border-mode", one border "mask-border-mode")]

def names : List String :=
  ["mask-image", "mask-position-x", "mask-position-y", "mask-size", "mask-repeat", "mask-origin",
    "mask-clip", "mask-composite", "mask-mode"]

def layerText : List String → String
  | [image, x, y, size, repetition, origin, clip, composite, mode] =>
    let position := Background.position x y
    let place := if size != "auto" then [position ++ "/" ++ size]
      else if Background.isOrigin position then [] else [position]
    let boxed := origin != "border-box" || clip != "border-box"
    " ".intercalate ([image] ++ place ++ [repetition].filter (· != "repeat") ++
      (if boxed then [origin] else []) ++ (if boxed && clip != origin then [clip] else []) ++
      [composite].filter (· != "add") ++ [mode].filter (· != "match-source"))
  | _ => ""

def write (held : Values) : List Setting :=
  (match Background.layers? held names with
    | some layers => [⟨"mask", ",".intercalate (layers.map layerText), held.those names⟩]
    | none =>
      Setting.each held ["mask-image"] ++ Background.writePosition "mask-" held ++
        Setting.each held ["mask-size", "mask-repeat", "mask-clip", "mask-origin",
          "mask-composite", "mask-mode"]) ++
  Setting.shorthand held "mask-border" (borderNames.map ("mask-border-" ++ ·)) Border.imageText

end Mask

end ScopedViews.Css
