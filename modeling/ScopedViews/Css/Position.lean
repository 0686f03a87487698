import ScopedViews.Css.Value
/-!
# Positions

Places in a box, across and down.
-/

namespace ScopedViews.Css

/-- Where something stands along one direction of a box. -/
inductive Place where
  | center
  /-- At the start or the end, as far from it as is said. -/
  | side (name : String) (offset : Option Calc)
  | at (distance : Calc)
deriving Inhabited

namespace Place

def isCenter : Place → Bool
  | .center => true
  | .at (.value q) => q.isPercent && q.amount == 0.5
  | _ => false

/-- Along the box from its start, if that says it all. -/
def distance? : Place → Option String
  | .center => some "50%"
  | .at c => some (if c.isZero then "0" else c.text)
  | .side name offset =>
    if name = "left" || name = "top" then
      some (match offset with
        | some c => if c.isZero then "0" else c.text
        | none => "0")
    else none

/-- How far along the box a side is. -/
def sideText (name : String) : String :=
  if name = "left" || name = "top" then "0" else "100%"

def text : Place → String
  | .center => "50%"
  | .at c => c.text
  | .side name none => name
  | .side name (some c) => name ++ " " ++ c.text

def across : Reader String := Reader.keyword ["left", "right"]

def down : Reader String := Reader.keyword ["top", "bottom"]

def middle : Reader Unit := do
  let _ ← Reader.keyword ["center"]

def offset : Reader (Option Calc) := Reader.optional Reader.lengthPercentageCalc

/-- A place in one direction, by the words for its sides. -/
def along (sides : Reader String) : Reader Place :=
  Reader.oneOf [(fun _ => .center) <$> middle, .at <$> Reader.lengthPercentageCalc,
    do
      let s ← sides
      pure (.side s (← offset))]

/-- What follows a place across. -/
def afterAcross (x : Place) : Reader (Place × Place) := do
  match x with
  | .center =>
    match ← Reader.optional (along down) with
    | some y => pure (.center, y)
    | none => pure ((← Reader.optional (along across)).getD .center, .center)
  | .at _ =>
    match ← Reader.optional down with
    | some s => pure (x, .side s none)
    | none =>
      match ← Reader.optional Reader.lengthPercentageCalc with
      | some c => pure (x, .at c)
      | none => do
        let _ ← Reader.optional middle
        pure (x, .center)
  | .side s c =>
    match ← Reader.optional middle with
    | some _ => pure (x, .center)
    | none =>
      match ← Reader.optional down with
      | some t => pure (x, .side t (← offset))
      | none => pure (.side s none, (c.map Place.at).getD .center)

/-- What follows a side of the way down. -/
def afterDown (s : String) : Reader (Place × Place) := do
  let rest : Reader (Option Calc × Place) := do
    let c ← offset
    match ← Reader.optional across with
    | some t => pure (c, .side t (← offset))
    | none => do
      middle
      pure (c, .center)
  match ← Reader.optional rest with
  | some (c, x) => pure (x, .side s c)
  | none => pure (.center, .side s none)

/-- A place across and one down. -/
def pair : Reader (Place × Place) := do
  match ← Reader.optional (along across) with
  | some x => afterAcross x
  | none => afterDown (← down)

/-- A position in its shortest form. -/
def pairText (x y : Place) : String :=
  match x, y with
  | .side "right" (some c), .at d => "right " ++ c.text ++ " top " ++ d.text
  | .at c, .side "bottom" (some d) => "left " ++ c.text ++ " bottom " ++ d.text
  | x, y =>
    match x, x.isCenter, y, y.isCenter with
    | .side "right" (some c), _, _, true => "right " ++ c.text ++ " center"
    | _, true, _, true => x.text
    | .at c, _, _, true => c.text
    | .side s none, _, _, true => sideText s
    | _, true, .side s none, _ => s
    | _, true, .side "bottom" (some d), _ => "center bottom " ++ d.text
    | .side s none, _, .side t none, _ => sideText s ++ " " ++ sideText t
    | x, _, y, _ =>
      match x.distance?, y.distance? with
      | some a, some b => a ++ " " ++ b
      | _, _ => x.text ++ " " ++ y.text

def position : Reader String := do
  let (x, y) ← pair
  pure (pairText x y)

end Place

end ScopedViews.Css
