import ScopedViews.Css.Position
/-!
# Images

Gradients, sets of images, and images elsewhere.
-/

namespace ScopedViews.Css

namespace Gradient

/-- A colour and where it stands, or a place half-way between two colours. -/
structure Stop where
  color : Option String
  place : Option Calc
deriving Inhabited

namespace Stop

def text (s : Stop) : String :=
  " ".intercalate (s.color.toList ++ s.place.toList.map Calc.text)

/-- Whether a stop stands half-way between two colours, as it would anyway. -/
def isUseless (s : Stop) : Bool :=
  match s with
  | ⟨none, some (.value q)⟩ => q.isPercent && q.amount == 0.5
  | _ => false

/-- Whether a stop stands nowhere or at a share of the whole. -/
def isShare (s : Stop) : Bool :=
  match s.place with
  | none => true
  | some (.value q) => q.isPercent
  | some _ => false

/-- The stop of the gradient seen from its other end. -/
def flipped (s : Stop) : Stop :=
  match s.place with
  | some (.value q) => { s with place := some (.value ⟨1 - q.amount, q.unit⟩) }
  | _ => s

end Stop

/-- Stops between commas; two places make two stops, and a place alone only follows a stop. -/
def stops (place : Reader Calc) : Bool → List (List Component) → Option (List Stop)
  | _, [] => some []
  | seen, part :: parts =>
    match if seen then Reader.all? place part else none with
    | some p => (stops place false parts).map (⟨none, some p⟩ :: ·)
    | none => do
      let stop : Reader (List Stop) := do
        let c ← Reader.color
        match ← Reader.optional place, ← Reader.optional place with
        | some a, some b => pure [⟨some c, some a⟩, ⟨some c, some b⟩]
        | a, _ => pure [⟨some c, a⟩]
      let found ← Reader.all? stop part
      (stops place true parts).map (found ++ ·)

/-- Stops in their shortest form: two places of one colour share it. -/
def stopsText (acc : List String) : Option Stop → List Stop → List String
  | _, [] => acc.reverse
  | last, s :: rest =>
    if s.isUseless then stopsText acc last rest
    else
      match last, s, acc with
      | some ⟨some c, some _⟩, ⟨some d, some p⟩, a :: more =>
        if c = d then stopsText ((a ++ " " ++ p.text) :: more) none rest
        else stopsText (s.text :: acc) (some s) rest
      | _, _, _ => stopsText (s.text :: acc) (some s) rest

def join (front : List String) (ss : List Stop) : String :=
  ",".intercalate (front ++ stopsText [] none ss)

/-- Where a linear gradient goes: its degrees where they are known, and its text. -/
structure Line where
  degrees : Option Float32
  text : String

def bottom : Line := ⟨some 180, ""⟩

def line (bare : Bool) : Reader Line :=
  let zero : Reader Quantity := do
    match ← Reader.bareZero "deg" with
    | .value q => pure q
    | _ => failure
  let word : Reader Line := do
    if !bare then
      let _ ← Reader.keyword ["to"]
    let corner (v h : String) : Line := ⟨none, (if bare then "" else "to ") ++ v ++ " " ++ h⟩
    match ← Reader.optional Place.across with
    | some h =>
      match ← Reader.optional Place.down with
      | some v => pure (corner v h)
      | none => pure ⟨none, if h = "left" then "270deg" else "90deg"⟩
    | none => do
      let v ← Place.down
      match ← Reader.optional Place.across with
      | some h => pure (corner v h)
      | none => pure ⟨some (if v = "top" then 0 else 180), if v = "top" then "0deg" else "180deg"⟩
  Reader.oneOf [do
      let q ← zero <|> Reader.quantity .angle
      pure ⟨Dimension.degrees? q.amount q.unit, q.text⟩,
    word]

/-- The arguments after those that a reader takes up, if it takes up the first of them. -/
def headed {α : Type} (r : Reader α) (args : List (List Component)) :
    Option α × List (List Component) :=
  match args with
  | first :: rest =>
    match Reader.all? r first with
    | some a => (some a, rest)
    | none => (none, args)
  | [] => (none, [])

/-- A linear gradient.  One that goes up is turned round, if its stops are shares. -/
def linear? (bare : Bool) (args : List (List Component)) : Option String := do
  let (way, args) := headed (line bare) args
  let way := way.getD bottom
  let ss ← stops Reader.lengthPercentageCalc false args
  if way.degrees == some 180 then some (join [] ss)
  else if way.degrees == some 0 && ss.all (·.isShare) then
    some (join [] (ss.reverse.map (·.flipped)))
  else some (join [way.text] ss)

def extent : Reader String :=
  Reader.keyword ["closest-side", "farthest-side", "closest-corner", "farthest-corner"]

def word (w : String) : Reader Unit := do
  let _ ← Reader.keyword [w]

/-- The end of an ellipse; nothing, if it is the usual one. -/
def ellipse : Reader String :=
  let size : Reader String := do
    let x ← Reader.lengthPercentage
    let y ← Reader.lengthPercentage
    pure (x ++ " " ++ y)
  let usual (e : String) : String := if e = "farthest-corner" then "" else e
  Reader.oneOf [
    do
      let e ← extent
      match ← Reader.optional (word "circle") with
      | some _ => failure
      | none =>
        let _ ← Reader.optional (word "ellipse")
        pure (usual e),
    do
      let s ← size
      let _ ← Reader.optional (word "ellipse")
      pure s,
    do
      word "ellipse"
      match ← Reader.optional extent with
      | some e => pure (usual e)
      | none => pure ((← Reader.optional size).getD "")]

def circle : Reader String :=
  let round (e : String) : String := if e = "farthest-corner" then "circle" else "circle " ++ e
  Reader.oneOf [
    do
      let e ← extent
      word "circle"
      pure (round e),
    do
      let r ← Reader.length
      let _ ← Reader.optional (word "circle")
      pure r,
    do
      word "circle"
      match ← Reader.optional extent with
      | some e => pure (round e)
      | none => pure ((← Reader.optional Reader.length).getD "circle")]

/-- Where a gradient starts, unless that is the middle. -/
def start : Reader String := do
  word "at"
  let (x, y) ← Place.pair
  pure (if x.isCenter && y.isCenter then "" else "at " ++ Place.pairText x y)

/-- Two things of which at least one is there. -/
def either (a b : Reader String) : Reader String := do
  let x ← Reader.optional a
  let y ← Reader.optional b
  if x.isNone && y.isNone then failure
  else
    pure (" ".intercalate ((x.getD "" :: [y.getD ""]).filter (!·.isEmpty)))

def radial? (args : List (List Component)) : Option String := do
  let (front, args) := headed (either (ellipse <|> circle) start) args
  let ss ← stops Reader.lengthPercentageCalc false args
  some (join ((front.toList).filter (!·.isEmpty)) ss)

def turned : Reader String := do
  word "from"
  let a ← Reader.angle
  pure (if a = "0" then "" else "from " ++ a)

def anglePercentageCalc : Reader Calc :=
  Reader.bareZero "deg" <|> Reader.calculation .anglePercentage

def conic? (args : List (List Component)) : Option String := do
  let (front, args) := headed (either turned start) args
  let ss ← stops anglePercentageCalc false args
  some (join ((front.toList).filter (!·.isEmpty)) ss)

/-! ## The first gradients of one maker -/

def oldPoint : Reader String :=
  let part (sides : Reader String) : Reader String :=
    Reader.oneOf [(fun _ => "50%") <$> Place.middle,
      (fun s => if s = "0%" then "0" else s) <$> Reader.numberOrPercentage,
      Place.sideText <$> sides]
  do
    let x ← part Place.across
    let y ← part Place.down
    pure (x ++ " " ++ y)

def oldStop : Reader String :=
  let written (x : Float32) (c : String) : String :=
    if x == 0 then "from(" ++ c ++ ")" else if x == 1 then "to(" ++ c ++ ")"
    else "color-stop(" ++ Written.number x ++ "," ++ c ++ ")"
  Reader.pick fun c =>
    match c with
    | .call name body =>
      match name.toLower, Component.splitCommas body with
      | "from", [c] => (Reader.all? Reader.color c).map (written 0)
      | "to", [c] => (Reader.all? Reader.color c).map (written 1)
      | "color-stop", [p, c] => do
        some (written (← Reader.all? Reader.part p) (← Reader.all? Reader.color c))
      | _, _ => none
    | _ => none

def old? (args : List (List Component)) : Option String := do
  let stops (parts : List (List Component)) : Option (List String) :=
    if parts.isEmpty then none else parts.mapM (Reader.all? oldStop)
  match args with
  | [.token (.ident kind)] :: args =>
    match kind.toLower, args with
    | "linear", a :: b :: rest => do
      some (",".intercalate ("linear" :: (← Reader.all? oldPoint a) ::
        (← Reader.all? oldPoint b) :: (← stops rest)))
    | "radial", a :: r :: b :: s :: rest => do
      some (",".intercalate (["radial", ← Reader.all? oldPoint a,
        ← Reader.all? Reader.numberText r, ← Reader.all? oldPoint b,
        ← Reader.all? Reader.numberText s] ++ (← stops rest)))
    | _, _ => none
  | _ => none

def read : Reader String :=
  Reader.pick fun c =>
    match c with
    | .call name body =>
      let n := name.toLower
      let args := (Component.splitCommas body).map Component.solid
      let maker := (["-webkit-", "-moz-", "-o-"].find? fun m => n.startsWith m).getD ""
      let base := String.ofList (n.toList.drop maker.length)
      let plain :=
        if base.startsWith "repeating-" then String.ofList (base.toList.drop 10) else base
      (match plain with
        | "linear-gradient" => linear? (!maker.isEmpty) args
        | "radial-gradient" => radial? args
        | "conic-gradient" => if maker.isEmpty then conic? args else none
        | "gradient" => if n = "-webkit-gradient" then old? args else none
        | _ => none).map fun s => n ++ "(" ++ s ++ ")"
    | _ => none

end Gradient

/-- An address that may do without its function. -/
def Reader.address : Reader String :=
  Reader.pick fun c =>
    match c with
    | .token (.string s) => some s
    | .token (.url s) => some s
    | .call n body =>
      match n.toLower, Component.solid body with
      | "url", [.token (.string s)] => some s
      | _, _ => none
    | _ => none

namespace ImageSet

def resolution : Reader String := Quantity.text <$> Reader.quantity .resolution

def type : Reader String :=
  (fun s => " type(" ++ s ++ ")") <$> Reader.inside "type" Reader.text

/-- One of the images, what it is made for, and its kind. -/
def option (bare : Bool) : Reader String := do
  let image ← Reader.oneOf [
    (fun s => if bare then Written.url s else Written.string s) <$> Reader.address, Gradient.read]
  let first ← Reader.optional resolution
  let kind ← Reader.optional type
  let resolution ←
    match first with
    | some r => pure r
    | none => do pure ((← Reader.optional resolution).getD "1x")
  pure (image ++ " " ++ resolution ++ kind.getD "")

def read : Reader String :=
  Reader.pick fun c =>
    match c with
    | .call name body =>
      let n := name.toLower
      if n = "image-set" || n = "-webkit-image-set" then
        (Reader.all? (Reader.commas (option (n = "-webkit-image-set"))) body).map fun ss =>
          n ++ "(" ++ ",".intercalate ss ++ ")"
      else none
    | _ => none

end ImageSet

/-- An image that is not missing. -/
def Reader.picture : Reader String := Reader.oneOf [Reader.url, Gradient.read, ImageSet.read]

def Reader.image : Reader String := Reader.oneOf [Reader.keyword ["none"], Reader.picture]

end ScopedViews.Css
