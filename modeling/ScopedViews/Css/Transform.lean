import ScopedViews.Css.Longhand
/-!
# Transforms

The functions that move, turn and stretch a box, each by the shortest function that does the same.
-/

namespace ScopedViews.Css

namespace Transform

def call (name : String) (args : List String) : String :=
  name ++ "(" ++ ",".intercalate args ++ ")"

/-- Whether a length is written as nothing at all. -/
def isNothing (x : String) : Bool := x = "0" || x = "0%"

/-- A move across and down. -/
def translate (x y : String) : String :=
  if isNothing y then call "translate" [x]
  else if isNothing x then call "translateY" [y]
  else call "translate" [x, y]

/-- A move in space.  One that goes nowhere keeps both of its lengths in the plane. -/
def translate3d (x y z : String) : String :=
  match isNothing x, isNothing y, isNothing z with
  | true, true, true => call "translate" [x, y]
  | _, _, true => translate x y
  | true, true, false => call "translateZ" [z]
  | _, _, false => call "translate3d" [x, y, z]

def scale (x y : String) : String :=
  if x = y then call "scale" [x]
  else if x = "1" then call "scaleY" [y]
  else if y = "1" then call "scaleX" [x]
  else call "scale" [x, y]

def scale3d (x y z : String) : String :=
  if z = "1" then scale x y
  else if x = "1" && y = "1" then call "scaleZ" [z]
  else call "scale3d" [x, y, z]

def rotate3d (x y z a : String) : String :=
  match x, y, z with
  | "1", "0", "0" => call "rotateX" [a]
  | "0", "1", "0" => call "rotateY" [a]
  | "0", "0", "1" => call "rotate" [a]
  | _, _, _ => call "rotate3d" [x, y, z, a]

def skew (x y : String) : String :=
  if y = "0" then call "skew" [x]
  else if x = "0" then call "skewY" [y]
  else call "skew" [x, y]

def factor : Reader String := Written.number <$> Reader.part

/-- The arguments of a function, each by its reader. -/
def args? (rs : List (Reader String)) (body : List Component) : Option (List String) :=
  let parts := Component.splitCommas body
  if parts.length = rs.length then
    (rs.zip parts).mapM fun (r, cs) => Reader.all? r cs
  else none

/-- A function, by its name in lower case. -/
def ofCall? (name : String) (body : List Component) : Option String :=
  let args := fun rs => args? rs body
  let move := Reader.lengthPercentage
  let turn := Reader.angle
  match name with
  | "translate" =>
    match args [move], args [move, move] with
    | some [x], _ => some (translate x "0")
    | _, some [x, y] => some (translate x y)
    | _, _ => none
  | "translatex" => (args [move]).map (call "translate")
  | "translatey" => (args [move]).map (call "translateY")
  | "translatez" => (args [Reader.length]).map (call "translateZ")
  | "translate3d" =>
    match args [move, move, Reader.length] with
    | some [x, y, z] => some (translate3d x y z)
    | _ => none
  | "scale" =>
    match args [factor], args [factor, factor] with
    | some [x], _ => some (scale x x)
    | _, some [x, y] => some (scale x y)
    | _, _ => none
  | "scalex" => (args [factor]).map (call "scaleX")
  | "scaley" => (args [factor]).map (call "scaleY")
  | "scalez" => (args [factor]).map (call "scaleZ")
  | "scale3d" =>
    match args [factor, factor, factor] with
    | some [x, y, z] => some (scale3d x y z)
    | _ => none
  | "rotate" | "rotatez" => (args [turn]).map (call "rotate")
  | "rotatex" => (args [turn]).map (call "rotateX")
  | "rotatey" => (args [turn]).map (call "rotateY")
  | "rotate3d" =>
    match args [Reader.numberText, Reader.numberText, Reader.numberText, turn] with
    | some [x, y, z, a] => some (rotate3d x y z a)
    | _ => none
  | "skew" =>
    match args [turn], args [turn, turn] with
    | some [x], _ => some (skew x "0")
    | _, some [x, y] => some (skew x y)
    | _, _ => none
  | "skewx" => (args [turn]).map (call "skew")
  | "skewy" => (args [turn]).map (call "skewY")
  | "perspective" => (args [Reader.length]).map (call "perspective")
  | "matrix" => (args (List.replicate 6 Reader.numberText)).map (call "matrix")
  | "matrix3d" => (args (List.replicate 16 Reader.numberText)).map (call "matrix3d")
  | _ => none

def function : Reader String :=
  Reader.pick fun c =>
    match c with
    | .call name body => ofCall? name.toLower body
    | _ => none

/-- A list of functions, or none. -/
def read : Reader String :=
  Reader.oneOf [Reader.keyword ["none"], String.join <$> Reader.many1 function]

/-! ## Transforms of one kind -/

/-- A move: across, down, and out of the plane. -/
def moveParts : Reader (String × String × String) :=
  Reader.oneOf [(fun _ => ("0", "0", "0")) <$> Reader.keyword ["none"], do
    let x ← Reader.lengthPercentage
    match ← Reader.optional Reader.lengthPercentage with
    | some y => do pure (x, y, (← Reader.optional Reader.length).getD "0")
    | none => pure (x, "0", "0")]

def move : Reader String :=
  Reader.oneOf [Reader.keyword ["none"], do
    let (x, y, z) ← moveParts
    pure (" ".intercalate ([x] ++
      if !isNothing z then [y, z] else if isNothing y then [] else [y]))]

/-- An axis and an angle round it. -/
def turnParts : Reader (String × String × String × String) :=
  Reader.oneOf [(fun _ => ("0", "0", "1", "0deg")) <$> Reader.keyword ["none"], do
    let before ← Reader.optional Reader.angleUnit
    let named : Reader (String × String × String) := do
      match ← Reader.keyword ["x", "y", "z"] with
      | "x" => pure ("1", "0", "0")
      | "y" => pure ("0", "1", "0")
      | _ => pure ("0", "0", "1")
    let free : Reader (String × String × String) := do
      let x ← Reader.numberText
      let y ← Reader.numberText
      pure (x, y, ← Reader.numberText)
    let axis := (← Reader.optional (Reader.oneOf [named, free])).getD ("0", "0", "1")
    let angle ←
      match before with
      | some a => pure a
      | none => Reader.angleUnit
    pure (axis.1, axis.2.1, axis.2.2, angle)]

def turn : Reader String := do
  let (x, y, z, a) ← turnParts
  let isZero := Reader.ofText? (Reader.quantity .angle) a |>.any (·.isZero)
  pure (match x, y, z with
    | "1", "0", "0" => "x " ++ a
    | "0", "1", "0" => "y " ++ a
    | "0", "0", "1" => if isZero then "none" else a
    | x, y, z => " ".intercalate [x, y, z, a])

def stretchParts : Reader (String × String × String) :=
  Reader.oneOf [(fun _ => ("1", "1", "1")) <$> Reader.keyword ["none"], do
    let x ← factor
    match ← Reader.optional factor with
    | some y => do pure (x, y, (← Reader.optional factor).getD "1")
    | none => pure (x, x, "1")]

def stretch : Reader String :=
  Reader.oneOf [Reader.keyword ["none"], do
    let (x, y, z) ← stretchParts
    pure (" ".intercalate ([x] ++
      if z != "1" then [y, z] else if x = y then [] else [y]))]

/-- A transform of one kind as a function. -/
def asFunction (name value : String) : String :=
  match name with
  | "translate" => (Reader.ofText? moveParts value).elim "" fun (x, y, z) => translate3d x y z
  | "rotate" => (Reader.ofText? turnParts value).elim "" fun (x, y, z, a) => rotate3d x y z a
  | _ => (Reader.ofText? stretchParts value).elim "" fun (x, y, z) => scale3d x y z

def readers : Readers :=
  [("transform", Reader.one read "transform"), ("translate", Reader.one move "translate"),
    ("rotate", Reader.one turn "rotate"), ("scale", Reader.one stretch "scale")]

def write (held : Values) : List Setting :=
  Setting.each held ["transform", "translate", "rotate", "scale"]

end Transform

end ScopedViews.Css
