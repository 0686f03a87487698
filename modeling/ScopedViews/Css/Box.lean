import ScopedViews.Css.Longhand
/-!
# Boxes

Sizes, margins and the like: properties of the sides of a box and of its axes, and the kind of box.
-/

namespace ScopedViews.Css

namespace Box

open Reader

def sideNames : List String := ["top", "right", "bottom", "left"]

def logicalNames : List String := ["block-start", "block-end", "inline-start", "inline-end"]

def lengthOrAuto : Reader String := oneOf [lengthPercentage, keyword ["auto"]]

/-- The properties of the sides of a box: physical ones, logical ones, and their shorthands. -/
def readers (name logical : String) (side : String → String) (r : Reader String) : Readers :=
  [(name, sides? side r),
    (logical ++ "block", ends? (logical ++ "block-start") (logical ++ "block-end") r),
    (logical ++ "inline", ends? (logical ++ "inline-start") (logical ++ "inline-end") r)] ++
  (sideNames.map side ++ logicalNames.map (logical ++ ·)).map fun n => (n, one r n)

/-- The four sides of a box, or the starts and ends of its axes. -/
def write (name logical : String) (side : String → String) (held : Values) : List Setting :=
  let physical :=
    match held.all? (sideNames.map side) with
    | some [t, r, b, l] => [⟨name, Sides.text t r b l, held.those (sideNames.map side)⟩]
    | _ => Setting.each held (["top", "bottom", "left", "right"].map side)
  let axis (a : String) : List Setting :=
    Setting.shorthand held (logical ++ a) [logical ++ a ++ "-start", logical ++ a ++ "-end"]
      Setting.pairOf
  physical ++ axis "block" ++ axis "inline"

/-! ## Sizes -/

def sizeNames : List String :=
  ["width", "min-width", "max-width", "height", "min-height", "max-height", "block-size",
    "min-block-size", "max-block-size", "inline-size", "min-inline-size", "max-inline-size"]

def extent (word : String) : Reader String :=
  oneOf [keyword [word, "min-content", "max-content", "fit-content", "stretch", "contain",
      "-webkit-fill-available", "-moz-available", "-webkit-min-content", "-webkit-max-content",
      "-webkit-fit-content", "-moz-fit-content", "-moz-min-content", "-moz-max-content"],
    (fun s => "fit-content(" ++ s ++ ")") <$> inside "fit-content" lengthPercentage,
    lengthPercentage]

def sizes : Readers :=
  sizeNames.map fun n => (n, one (extent (if n.startsWith "max-" then "none" else "auto")) n)

/-- A ratio of two numbers, of which the second may be left out if it is one. -/
def ratio : Reader String := do
  let a ← numberText
  match ← Reader.optional (mark '/') with
  | some _ => do
    let b ← numberText
    pure (if b = "1" then a else a ++ "/" ++ b)
  | none => pure a

def aspectRatio : Reader String := do
  let front ← Reader.optional (keyword ["auto"])
  let r ← Reader.optional ratio
  let back ← if front.isSome then pure none else Reader.optional (keyword ["auto"])
  let parts := (if front.isSome || back.isSome then ["auto"] else []) ++ r.toList
  if parts.isEmpty then failure else pure (" ".intercalate parts)

/-! ## Kinds of boxes -/

def insideBoxes : List String :=
  ["flow", "flow-root", "table", "flex", "-webkit-flex", "-ms-flexbox", "-webkit-box", "-moz-box",
    "box", "grid", "ruby"]

def inlineBoxes : List String :=
  ["inline-block", "inline-table", "inline-flex", "-webkit-inline-flex", "-ms-inline-flexbox",
    "-webkit-inline-box", "-moz-inline-box", "inline-grid"]

def plainBoxes : List String :=
  ["none", "contents", "table-row-group", "table-header-group", "table-footer-group", "table-row",
    "table-cell", "table-column-group", "table-column", "table-caption", "ruby-base", "ruby-text",
    "ruby-base-container", "ruby-text-container"]

/-- A box with an outside and an inside, by one word if there is one. -/
def boxText (outside inside : String) (isItem : Bool) : String :=
  match outside, inside, isItem with
  | "inline", "flow-root", false => "inline-block"
  | "inline", "table", false => "inline-table"
  | "inline", "flex", false => "inline-flex"
  | "inline", "-webkit-flex", false => "-webkit-inline-flex"
  | "inline", "-ms-flexbox", false => "-ms-inline-flexbox"
  | "inline", "-webkit-box", false => "-webkit-inline-box"
  | "inline", "-moz-box", false => "-moz-inline-box"
  | "inline", "grid", false => "inline-grid"
  | _, _, _ =>
    let usual := if inside = "ruby" then "inline" else "block"
    " ".intercalate ((if outside != usual || (inside = "flow" && !isItem) then [outside] else []) ++
      [inside].filter (· != "flow") ++ if isItem then ["list-item"] else [])

def display : Reader String :=
  oneOf [do
      let found ← anyOrder [("item", keyword ["list-item"]),
        ("outside", keyword ["block", "inline", "run-in"]), ("inside", keyword insideBoxes)]
      let isItem := (found.lookup "item").isSome
      let inside := (found.lookup "inside").getD "flow"
      if isItem && inside != "flow" && inside != "flow-root" then failure
      let usual := if inside = "ruby" then "inline" else "block"
      pure (boxText ((found.lookup "outside").getD usual) inside isItem),
    keyword inlineBoxes, keyword plainBoxes]

def overflows : List String := ["visible", "hidden", "clip", "scroll", "auto"]

def overflow : Readers :=
  [("overflow", ends? "overflow-x" "overflow-y" (keyword overflows)),
    ("overflow-x", one (keyword overflows) "overflow-x"),
    ("overflow-y", one (keyword overflows) "overflow-y")]

def positions : List String := ["static", "relative", "absolute", "fixed", "sticky",
  "-webkit-sticky"]

/-! ## Containers -/

/-- The names of a container. -/
def containerName : Reader String :=
  oneOf [keyword ["none"], spaced (do
    let n ← custom
    if ["none", "and", "not", "or"].contains n.toLower then failure else pure n)]

def containerType : Reader String := keyword ["normal", "inline-size", "size", "scroll-state"]

def container? (cs : List Component) : Option Values :=
  all? (do
    let n ← containerName
    let t ← Reader.optional (do
      mark '/'
      containerType)
    pure [("container-name", [n]), ("container-type", [t.getD "normal"])]) cs

def container : Readers :=
  [("container", container?), ("container-name", one containerName "container-name"),
    ("container-type", one containerType "container-type")]

def writeContainer (held : Values) : List Setting :=
  match held.one? "container-name", held.one? "container-type" with
  | some n, some t =>
    [⟨"container", if t = "normal" then n else n ++ "/" ++ t,
      held.those ["container-name", "container-type"]⟩]
  | _, _ => Setting.each held ["container-name", "container-type"]

end Box

end ScopedViews.Css
