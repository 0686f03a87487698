import ScopedViews.Css.Border
/-!
# Shadows, filters and shapes

What is painted behind a box, what is done to its picture, and the outline that it is cut along.
-/

namespace ScopedViews.Css

namespace Shadow

open Reader

/-- Offsets, blur and spread of a shadow, without the zeros that may be left out. -/
def lengths (most : Nat) : Reader String := do
  let ls ← many1 length
  match ls with
  | [x, y] => pure (x ++ " " ++ y)
  | [x, y, b] => pure (x ++ " " ++ y ++ (if b = "0" then "" else " " ++ b))
  | [x, y, b, s] =>
    if most < 4 then failure
    else
      pure (x ++ " " ++ y ++
        (if s != "0" then " " ++ b ++ " " ++ s else if b = "0" then "" else " " ++ b))
  | _ => failure

/-- One shadow; one with a spread may also fall inside the box. -/
def one (most : Nat) : Reader String := do
  let found ← anyOrder ([("lengths", lengths most), ("color", color)] ++
    if most = 4 then [("inset", keyword ["inset"])] else [])
  match found.lookup "lengths" with
  | none => failure
  | some lengths =>
    let ink := (found.lookup "color").filter (· != "currentColor")
    pure (" ".intercalate ((found.lookup "inset").toList ++ lengths :: ink.toList))

def many (most : Nat) (name : String) (cs : List Component) : Option Values :=
  (all? (oneOf [List.singleton <$> keyword ["none"], commas (one most)]) cs).map fun ss =>
    [(name, ss)]

end Shadow

namespace Filter

open Reader

def call (name : String) (args : List String) : String :=
  name ++ "(" ++ ",".intercalate args ++ ")"

/-- A function with an argument that may be left out if it is the usual one. -/
def function (name : String) (r : Reader String) (usual : String) : Reader String :=
  (fun s => call name (s.toList.filter (· != usual))) <$> inside name (Reader.optional r)

def one : Reader String :=
  oneOf [function "blur" length "0",
    oneOf (["brightness", "contrast", "grayscale", "invert", "opacity", "saturate", "sepia"].map
      fun n => function n (Written.number <$> part) "1"),
    function "hue-rotate" angle "0",
    (fun s => call "drop-shadow" [s]) <$> inside "drop-shadow" (Shadow.one 3),
    url]

def list : Reader String := oneOf [keyword ["none"], String.join <$> many1 one]

end Filter

namespace Shape

open Reader

def boxes : List String :=
  ["border-box", "padding-box", "content-box", "margin-box", "fill-box", "stroke-box", "view-box"]

/-- Distances from the sides of a box, and how its corners are rounded. -/
def inset : Reader String := do
  let sides ← rect lengthPercentage
  let corners ← Reader.optional (do
    let _ ← keyword ["round"]
    Border.corners)
  let round :=
    match corners with
    | some four =>
      let text := Border.cornersText four
      if text = "0" then [] else ["round", text]
    | none => []
  pure ("inset(" ++ " ".intercalate (sides :: round) ++ ")")

def radius : Reader String :=
  oneOf [lengthPercentage, keyword ["closest-side", "farthest-side"]]

/-- Where the middle of a shape is, which goes without saying if it is that of the box. -/
def middle : Reader (List String) := do
  let place ← Reader.optional (do
    let _ ← keyword ["at"]
    Place.pair)
  pure (match place with
    | some (x, y) => if x.isCenter && y.isCenter then [] else ["at", Place.pairText x y]
    | none => [])

def circle : Reader String := do
  let r ← Reader.optional radius
  let at_ ← middle
  pure ("circle(" ++ " ".intercalate (r.toList.filter (· != "closest-side") ++ at_) ++ ")")

def ellipse : Reader String := do
  let radii ← Reader.optional (do
    let x ← radius
    pure (x, ← radius))
  let at_ ← middle
  let said :=
    match radii with
    | some (x, y) => if x = "closest-side" && y = "closest-side" then [] else [x, y]
    | none => []
  pure ("ellipse(" ++ " ".intercalate (said ++ at_) ++ ")")

/-- A point of a polygon. -/
def point : Reader String := do
  let x ← lengthPercentage
  pure (x ++ " " ++ (← lengthPercentage))

def polygon? (body : List Component) : Option String := do
  let parts := Component.splitCommas body
  let (rule, points) :=
    match parts with
    | first :: rest =>
      match all? (keyword ["nonzero", "evenodd"]) first with
      | some rule => (some rule, rest)
      | none => (none, parts)
    | [] => (none, [])
  let points ← points.mapM (all? point)
  if points.isEmpty then none
  else some ("polygon(" ++ ",".intercalate ((rule.toList.filter (· != "nonzero")) ++ points) ++ ")")

def shape : Reader String :=
  pick fun c =>
    match c with
    | .call name body =>
      match name.toLower with
      | "inset" => all? inset body
      | "circle" => if (Component.solid body).isEmpty then some "circle()" else all? circle body
      | "ellipse" => if (Component.solid body).isEmpty then some "ellipse()" else all? ellipse body
      | "polygon" => polygon? body
      | _ => none
    | _ => none

/-- What a box is cut along: a shape, a box that it is measured from, or both. -/
def clip : Reader String :=
  oneOf [keyword ["none"], url, do
    let found ← anyOrder [("shape", shape), ("box", keyword boxes)]
    match found.lookup "shape", found.lookup "box" with
    | some s, some b => pure (if b = "border-box" then s else s ++ " " ++ b)
    | some s, none => pure s
    | none, some b => pure b
    | none, none => failure]

end Shape

end ScopedViews.Css
