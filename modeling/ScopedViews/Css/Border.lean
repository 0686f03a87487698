import ScopedViews.Css.Longhand
/-!
# Borders and outlines

Lines along the sides of a box, their corners, and images in their place.
-/

namespace ScopedViews.Css

namespace Border

open Reader

def styles : List String :=
  ["none", "hidden", "inset", "groove", "outset", "ridge", "dotted", "dashed", "solid", "double"]

def width : Reader String := oneOf [length, keyword ["thin", "medium", "thick"]]

def style : Reader String := keyword styles

def sideNames : List String := ["top", "right", "bottom", "left"]

def logicalNames : List String := ["block-start", "block-end", "inline-start", "inline-end"]

/-- A line: its width, style and colour, of which each may be left out. -/
def line (style : Reader String) (cs : List Component) : Option (String × String × String) := do
  let found ← all? (anyOrder [("width", width), ("style", style), ("color", color)]) cs
  some ((found.lookup "width").getD "medium", (found.lookup "style").getD "none",
    (found.lookup "color").getD "currentColor")

def lineOf (names : List String) (style : Reader String) (cs : List Component) :
    Option Values := do
  let (w, s, c) ← line style cs
  some (names.flatMap fun n => [(n ++ "-width", [w]), (n ++ "-style", [s]), (n ++ "-color", [c])])

/-! ## Corners -/

def cornerNames : List String := ["top-left", "top-right", "bottom-right", "bottom-left"]

def logicalCorners : List String := ["start-start", "start-end", "end-start", "end-end"]

def radiusName (corner : String) : String := "border-" ++ corner ++ "-radius"

def corner : Reader String := pair lengthPercentage

/-- How far a corner reaches across and down. -/
def twice : Reader (String × String) := do
  let h ← lengthPercentage
  pure (h, (← Reader.optional lengthPercentage).getD h)

/-- Four corners across, and four down after a slash. -/
def corners : Reader (List (String × String)) := do
  let four : Reader (String × String × String × String) := do
    match Sides.ofList? ((← many1 lengthPercentage).take 4) with
    | some q => pure q
    | none => failure
  let (a, b, c, d) ← four
  match ← Reader.optional (mark '/') with
  | some _ => do
    let (a', b', c', d') ← four
    pure [(a, a'), (b, b'), (c, c'), (d, d')]
  | none => pure [(a, a), (b, b), (c, c), (d, d)]

def corners? (cs : List Component) : Option Values := do
  let four ← all? corners cs
  some ((cornerNames.map radiusName).zip (four.map fun (h, v) => [Setting.pairText h v]))

/-- Four corners as a text, without what goes without saying. -/
def cornersText (four : List (String × String)) : String :=
  let rect (vs : List String) : String :=
    match vs with
    | [a, b, c, d] => Sides.text a b c d
    | vs => " ".intercalate vs
  let across := four.map (·.1)
  let down := four.map (·.2)
  if across = down then rect across else rect across ++ "/" ++ rect down

/-! ## Images -/

def slice : Reader String := do
  let front ← Reader.optional (keyword ["fill"])
  let offsets ← rect numberOrPercentage
  let back ← if front.isSome then pure none else Reader.optional (keyword ["fill"])
  pure (if front.isSome || back.isSome then offsets ++ " fill" else offsets)

def imageWidth : Reader String := rect (oneOf [numberText, lengthPercentage, keyword ["auto"]])

def outset : Reader String := rect (oneOf [numberText, length])

def repetition : Reader String := pair (keyword ["stretch", "repeat", "round", "space"])

/-- A slice, and a width and an outset after slashes. -/
def sliced : Reader (List (String × String)) := do
  let s ← slice
  let more : Reader (List (String × String)) := do
    mark '/'
    let w ← Reader.optional imageWidth
    let o ← Reader.optional (do
      mark '/'
      outset)
    if w.isNone && o.isNone then failure
    else
      pure ((w.toList.map fun w => ("width", w)) ++ o.toList.map fun o => ("outset", o))
  pure (("slice", s) :: (← Reader.optional more).getD [])

/-- The parts of an image in place of a border, in any order. -/
def imageParts (extra : List (String × Reader String)) :
    Reader (List (String × String)) := fun cs =>
  let rec go (fuel : Nat) (found : List (String × String)) (cs : List Component) :
      List (String × String) × List Component :=
    match fuel with
    | 0 => (found, cs)
    | fuel + 1 =>
      let has (n : String) : Bool := (found.lookup n).isSome
      let sliced := if has "slice" then none else sliced.run cs
      match sliced with
      | some (parts, rest) => go fuel (parts ++ found) rest
      | none =>
        let others := ([("source", image), ("repeat", repetition)] ++ extra).filter fun (n, _) =>
          !has n
        match others.findSome? fun (n, r) => (r.run cs).map fun (s, rest) => (n, s, rest) with
        | some (n, s, rest) => go fuel ((n, s) :: found) rest
        | none => (found, cs)
  let (found, rest) := go (extra.length + 4) [] cs
  if found.isEmpty then none else some (found, rest)

/-- What is meant where nothing is said of a part. -/
def imageDefault (part : String) : String :=
  match part with
  | "source" => "none"
  | "slice" => "100%"
  | "width" => "1"
  | "outset" => "0"
  | "repeat" => "stretch"
  | "mode" => "alpha"
  | _ => ""

def imageNames : List String := ["source", "slice", "width", "outset", "repeat"]

def imageValues? (front : String) (names : List String) (extra : List (String × Reader String))
    (cs : List Component) : Option Values := do
  let found ← all? (imageParts extra) cs
  some (names.map fun n => (front ++ n, [(found.lookup n).getD (imageDefault n)]))

/-- An image in place of a border as a text. -/
def imageText (vs : List String) : String :=
  match vs with
  | source :: slice :: width :: outset :: repetition :: rest =>
    let has (n v : String) : Bool := v != imageDefault n
    let sliced :=
      if has "slice" slice || has "width" width || has "outset" outset then
        [slice ++
          (if has "width" width || has "outset" outset then "/" else "") ++
          (if has "width" width then width else "") ++
          (if has "outset" outset then "/" ++ outset else "")]
      else []
    let parts := [source].filter (has "source") ++ sliced ++
      [repetition].filter (has "repeat") ++ rest.filter (has "mode")
    if parts.isEmpty then "none" else " ".intercalate parts
  | vs => " ".intercalate vs

/-! ## Lines that are put together -/

/-- What is said of one side: width, style and colour. -/
structure Line where
  width : Option String
  style : Option String
  color : Option String
deriving BEq, Inhabited

namespace Line

def ofSide (held : Values) (name : String) : Line :=
  ⟨held.one? (name ++ "-width"), held.one? (name ++ "-style"), held.one? (name ++ "-color")⟩

def isWhole (l : Line) : Bool := l.width.isSome && l.style.isSome && l.color.isSome

/-- A line without what goes without saying. -/
def text (width style color : String) : String :=
  let parts := (if width = "medium" then [] else [width]) ++
    (if style = "none" then [] else [style]) ++
    (if color = "currentColor" then [] else [color])
  if parts.isEmpty then "none" else " ".intercalate parts

def written (l : Line) : String :=
  text (l.width.getD "medium") (l.style.getD "none") (l.color.getD "currentColor")

def values (l : Line) (name : String) : Values :=
  (l.width.toList.map fun v => (name ++ "-width", [v])) ++
    (l.style.toList.map fun v => (name ++ "-style", [v])) ++
    (l.color.toList.map fun v => (name ++ "-color", [v]))

/-- One setting for a side of which all is known, else one for each thing that is. -/
def settings (l : Line) (name : String) : List Setting :=
  if l.isWhole then [⟨name, l.written, l.values name⟩]
  else Setting.each (l.values name) [name ++ "-style", name ++ "-width", name ++ "-color"]

/-- What a side says beyond the line that all sides have. -/
def beyond (base l : Line) (name : String) : List Setting :=
  let one (what : String) (v : Option String) : List Setting :=
    v.toList.map fun v => Setting.ofLonghand (name ++ what, [v])
  if base.width == l.width && base.style == l.style then one "-color" l.color
  else if base.width == l.width && base.color == l.color then one "-style" l.style
  else if base.style == l.style && base.color == l.color then one "-width" l.width
  else l.settings name

end Line

/-- The four sides of a box: physical ones, or the starts and ends of its axes. -/
structure Box where
  isLogical : Bool
  top : Line
  bottom : Line
  left : Line
  right : Line

namespace Box

def names (logical : Bool) : String × String × String × String :=
  if logical then ("border-block-start", "border-block-end", "border-inline-start",
    "border-inline-end")
  else ("border-top", "border-bottom", "border-left", "border-right")

def ofValues (logical : Bool) (held : Values) : Box :=
  let (t, b, l, r) := names logical
  ⟨logical, .ofSide held t, .ofSide held b, .ofSide held l, .ofSide held r⟩

def isWhole (x : Box) : Bool :=
  x.top.isWhole && x.bottom.isWhole && x.left.isWhole && x.right.isWhole

/-- Whether all four sides agree in one thing. -/
def agree (x : Box) (f : Line → Option String) : Bool :=
  f x.top == f x.bottom && f x.left == f x.right && f x.left == f x.top

/-- One setting for all sides. -/
def all (x : Box) (line : Line) : Setting :=
  let (t, b, l, r) := names x.isLogical
  ⟨"border", line.written, [t, b, l, r].flatMap line.values⟩

/-- What is said of the four sides about one thing. -/
def rect (x : Box) (what : String) (f : Line → Option String) : Setting :=
  let (t, b, l, r) := names x.isLogical
  let v (line : Line) : String := (f line).getD ""
  ⟨"border-" ++ what, Sides.text (v x.top) (v x.right) (v x.bottom) (v x.left),
    [(t, x.top), (b, x.bottom), (l, x.left), (r, x.right)].map fun (n, line) =>
      (n ++ "-" ++ what, [v line])⟩

/-- A line for all sides with what differs in one thing; else whatever else is said, behind the
line if that is worth it. -/
def differing (x : Box) (base : Line) (otherwise : List Setting) (useful : Bool) :
    List Setting :=
  if !x.isLogical && x.agree (·.color) && x.agree (·.style) then
    [x.all base, x.rect "width" (·.width)]
  else if !x.isLogical && x.agree (·.width) && x.agree (·.style) then
    [x.all base, x.rect "color" (·.color)]
  else if !x.isLogical && x.agree (·.width) && x.agree (·.color) then
    [x.all base, x.rect "style" (·.style)]
  else (if useful then [x.all base] else []) ++ otherwise

/-- The inline axis beside a line for all sides. -/
def inlineAxis (x : Box) : List Setting :=
  let l := x.left
  let set (what : String) (v : Option String) : List Setting :=
    [⟨"border-inline" ++ what, v.getD "",
      [("border-inline-start" ++ what, [v.getD ""]), ("border-inline-end" ++ what, [v.getD ""])]⟩]
  let w := l.width == x.top.width
  let s := l.style == x.top.style
  let c := l.color == x.top.color
  if s && c then set "-width" l.width
  else if w && c then set "-style" l.style
  else if w && s then set "-color" l.color
  else
    [⟨"border-inline", l.written, l.values "border-inline-start" ++ l.values "border-inline-end"⟩]

/-- The whole of a border, of which all four sides are known. -/
def whole (x : Box) : List Setting :=
  let (nt, nb, nl, nr) := names x.isLogical
  let t := x.top
  let b := x.bottom
  let l := x.left
  let r := x.right
  if t == b && t == l && t == r then [x.all t]
  else if t == b && t == l then x.all t :: t.beyond r nr
  else if t == b && t == r then x.all t :: t.beyond l nl
  else if l == r && b == l then x.all l :: l.beyond t nt
  else if l == r && t == l then x.all l :: l.beyond b nb
  else if t == b then
    x.differing t
      (if x.isLogical && l == r then x.inlineAxis else t.beyond l nl ++ t.beyond r nr) true
  else if l == r then x.differing l (l.beyond t nt ++ l.beyond b nb) true
  else if b == r then x.differing b (b.beyond t nt ++ b.beyond l nl) true
  else x.differing t (t.settings nt ++ b.settings nb ++ l.settings nl ++ r.settings nr) false

/-- What is said of all of some sides about one thing, which is then said of none of them. -/
def across (held : Values) (name : String) (names : List String)
    (write : List String → String) : List Setting × Values :=
  match held.all? names with
  | some vs => ([⟨name, write vs, held.those names⟩], held.without names)
  | none => ([], held)

def steps (held : Values) (name : String) (sides : List String)
    (write : List String → String) : List Setting × Values :=
  ["style", "width", "color"].foldl
    (fun acc what =>
      let (ds, h) := across acc.2 (name ++ "-" ++ what) (sides.map (· ++ "-" ++ what)) write
      (acc.1 ++ ds, h))
    ([], held)

/-- The sides of a border of which not all is known. -/
def partial? (held : Values) (logical : Bool) : List Setting :=
  let (t, b, l, r) := names logical
  if logical then
    let axis (n s e : String) : List Setting :=
      let ls := Line.ofSide held s
      let le := Line.ofSide held e
      if ls.isWhole && ls == le then [⟨n, ls.written, ls.values s ++ le.values e⟩]
      else
        let (ds, h) :=
          if ls.isWhole && le.isWhole then ([], held) else steps held n [s, e] Setting.pairOf
        ds ++ (Line.ofSide h s).settings s ++ (Line.ofSide h e).settings e
    axis "border-block" t b ++ axis "border-inline" l r
  else
    let (ds, h) := steps held "border" [t, r, b, l] fun vs =>
      match vs with
      | [a, b, c, d] => Sides.text a b c d
      | vs => " ".intercalate vs
    ds ++ [t, b, l, r].flatMap fun n => (Line.ofSide h n).settings n

def settings (held : Values) (logical : Bool) : List Setting :=
  let x := ofValues logical held
  if x.isWhole then x.whole else partial? held logical

end Box

/-! ## The family -/

def sidesOf (n : String) : Readers :=
  [(n, lineOf [n] style), (n ++ "-width", one width (n ++ "-width")),
    (n ++ "-style", one style (n ++ "-style")), (n ++ "-color", one color (n ++ "-color"))]

def axis (n : String) : Readers :=
  let two (what : String) (r : Reader String) :=
    (n ++ what, ends? (n ++ "-start" ++ what) (n ++ "-end" ++ what) r)
  [(n, lineOf [n ++ "-start", n ++ "-end"] style), two "-width" width, two "-style" style,
    two "-color" color]

def lines : Readers :=
  [("border", lineOf (sideNames.map ("border-" ++ ·)) style),
    ("border-width", sides? (fun s => "border-" ++ s ++ "-width") width),
    ("border-style", sides? (fun s => "border-" ++ s ++ "-style") style),
    ("border-color", sides? (fun s => "border-" ++ s ++ "-color") color)] ++
  (sideNames ++ logicalNames).flatMap (fun s => sidesOf ("border-" ++ s)) ++
  axis "border-block" ++ axis "border-inline"

def images : Readers :=
  [("border-image", imageValues? "border-image-" imageNames []),
    ("border-image-source", one image "border-image-source"),
    ("border-image-slice", one slice "border-image-slice"),
    ("border-image-width", one imageWidth "border-image-width"),
    ("border-image-outset", one outset "border-image-outset"),
    ("border-image-repeat", one repetition "border-image-repeat")]

def radii : Readers :=
  ("border-radius", corners?) ::
    (cornerNames ++ logicalCorners).map fun c => (radiusName c, one corner (radiusName c))

def writeLines (held : Values) : List Setting := Box.settings held false ++ Box.settings held true

def writeImage (held : Values) : List Setting :=
  Setting.shorthand held "border-image" (imageNames.map ("border-image-" ++ ·)) imageText

def writeRadius (held : Values) : List Setting :=
  Setting.shorthand held "border-radius" (cornerNames.map radiusName) (fun vs =>
      cornersText (vs.map fun v => (ofText? twice v).getD (v, v))) ++
    Setting.each held (logicalCorners.map radiusName)

/-- The side of a box that a longhand of a logical side speaks of where text runs from left to right
and lines from top to bottom. -/
def physical (name : String) : String :=
  let sides := [("border-block-start-", "border-top-"), ("border-block-end-", "border-bottom-"),
    ("border-inline-start-", "border-left-"), ("border-inline-end-", "border-right-")]
  match sides.find? fun (l, _) => name.startsWith l with
  | some (l, p) => p ++ String.ofList (name.toList.drop l.length)
  | none => name

end Border

namespace Outline

open Reader

def style : Reader String := oneOf [Border.style, keyword ["auto"]]

def readers : Readers :=
  [("outline", Border.lineOf ["outline"] style),
    ("outline-width", one Border.width "outline-width"),
    ("outline-style", one style "outline-style"), ("outline-color", one color "outline-color")]

def write (held : Values) : List Setting :=
  let l := Border.Line.ofSide held "outline"
  if l.isWhole then [⟨"outline", l.written, l.values "outline"⟩]
  else Setting.each held ["outline-width", "outline-style", "outline-color"]

end Outline

end ScopedViews.Css
