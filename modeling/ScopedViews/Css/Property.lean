import ScopedViews.Css.Background
import ScopedViews.Css.Flex
import ScopedViews.Css.Font
import ScopedViews.Css.Grid
import ScopedViews.Css.Motion
import ScopedViews.Css.Paint
import ScopedViews.Css.Text
import ScopedViews.Css.Transform
/-!
# Properties

The properties that are known: what their values are, under which makers' names they go, and where
in a block they are written.
-/

namespace ScopedViews.Css

/-- Properties that are gathered while a block is read and written together at its end, in this
order. -/
inductive Group where
  | writing
  | background
  | border
  | borderImage
  | borderRadius
  | outline
  | flex
  | grid
  | align
  | size
  | margin
  | padding
  | scrollMargin
  | scrollPadding
  | font
  | decoration
  | list
  | transition
  | animation
  | display
  | position
  | inset
  | overflow
  | transform
  | boxShadow
  | mask
  | container
  | scheme
deriving DecidableEq, Inhabited

namespace Group

def all : List Group :=
  [writing, background, border, borderImage, borderRadius, outline, flex, grid, align, size, margin,
    padding, scrollMargin, scrollPadding, font, decoration, list, transition, animation, display,
    position, inset, overflow, transform, boxShadow, mask, container, scheme]

/-- What is written for the longhands of a group. -/
def write : Group → Values → List Setting
  | writing, held => Setting.each held ["direction", "unicode-bidi"]
  | background, held => Background.write held
  | border, held => Border.writeLines held
  | borderImage, held => Border.writeImage held
  | borderRadius, held => Border.writeRadius held
  | outline, held => Outline.write held
  | flex, held => Flex.write held
  | grid, held => Grid.write held
  | align, held => Align.write held
  | size, held => Setting.each held Box.sizeNames
  | margin, held => Box.write "margin" "margin-" ("margin-" ++ ·) held
  | padding, held => Box.write "padding" "padding-" ("padding-" ++ ·) held
  | scrollMargin, held => Box.write "scroll-margin" "scroll-margin-" ("scroll-margin-" ++ ·) held
  | scrollPadding, held =>
    Box.write "scroll-padding" "scroll-padding-" ("scroll-padding-" ++ ·) held
  | font, held => Font.write held
  | decoration, held => Decoration.write held
  | list, held => ListStyle.write held
  | transition, held => Transition.write held
  | animation, held => Animation.write held
  | display, held => Setting.each held ["display"]
  | position, held => held.flatMap fun (n, vs) => vs.map fun v => ⟨n, v, [(n, [v])]⟩
  | inset, held => Box.write "inset" "inset-" id held
  | overflow, held =>
    Setting.shorthand held "overflow" ["overflow-x", "overflow-y"] Setting.pairOf
  | transform, held => Transform.write held
  | boxShadow, held => Setting.each held ["box-shadow"]
  | mask, held => Mask.write held
  | container, held => Box.writeContainer held
  | scheme, held => Setting.each held ["color-scheme"]

/-- Whether the longhands of a group speak either of sides or of axes. -/
def isSided : Group → Bool
  | border | borderRadius | size | margin | padding | scrollMargin | scrollPadding | inset => true
  | _ => false

/-- Whether a group looks at a value before sizes do. -/
def isBeforeSize : Group → Bool
  | background | border | borderImage | borderRadius | outline | flex | grid | align => true
  | _ => false

end Group

/-- Where the values of a property are written. -/
inductive Placing where
  /-- With the other properties of a group. -/
  | held (g : Group)
  /-- Where the first of them stood, the last alone. -/
  | replaced
  /-- Where they stand, or where the one before stands if it says the same or goes under the same
  name. -/
  | merged
  /-- Where they stand, every one. -/
  | kept
deriving DecidableEq, Inhabited

structure Property where
  placing : Placing
  /-- The marks under which it goes. -/
  fronts : List String
  /-- The longhands that a value stands for, if it can be understood. -/
  values? : List Component → Option Values

namespace Property

open Reader

/-! ## Values of properties that stand alone -/

def directions : List String := ["ltr", "rtl"]

def embeddings : List String :=
  ["normal", "embed", "isolate", "bidi-override", "isolate-override", "plaintext"]

/-- Schemes of colour in their order; other words mean nothing. -/
def scheme : Reader String := do
  let words ← many1 word
  match words with
  | ["normal"] => pure "normal"
  | first :: rest =>
    let more := if first = "only" then rest else rest.takeWhile (· != "only")
    let closed := first = "only" && rest.contains "only" ||
      first != "only" && (rest.dropWhile (· != "only")).length > 1
    if closed || rest.contains "normal" then failure
    else
      let said := first :: more ++ if rest.contains "only" then ["only"] else []
      let kept := ["light", "dark", "only"].filter said.contains
      pure (if kept.isEmpty then "normal" else " ".intercalate kept)
  | [] => failure

/-- What a line or an area is painted with. -/
def paint : Reader String :=
  oneOf [do
      let u ← url
      match ← Reader.optional (oneOf [keyword ["none"], color]) with
      | some c => pure (u ++ " " ++ c)
      | none => pure u,
    color, keyword ["none", "context-fill", "context-stroke"]]

/-- A caret by its colour and its shape. -/
def caret : Reader String := do
  let found ← anyOrder [("color", oneOf [color, keyword ["auto"]]),
    ("shape", keyword ["auto", "bar", "block", "underscore"])]
  let parts := [found.lookup "color", found.lookup "shape"].filterMap fun p =>
    p.filter (· != "auto")
  pure (if parts.isEmpty then "auto" else " ".intercalate parts)

def cursors : List String :=
  ["auto", "default", "none", "context-menu", "help", "pointer", "progress", "wait", "cell",
    "crosshair", "text", "vertical-text", "alias", "copy", "move", "no-drop", "not-allowed", "grab",
    "grabbing", "e-resize", "n-resize", "ne-resize", "nw-resize", "s-resize", "se-resize",
    "sw-resize", "w-resize", "ew-resize", "ns-resize", "nesw-resize", "nwse-resize", "col-resize",
    "row-resize", "all-scroll", "zoom-in", "zoom-out"]

/-- Pictures of a cursor with the point that counts, and the cursor that stands in for them. -/
def cursor? (cs : List Component) : Option Values := do
  let picture : Reader String := do
    let u ← url
    let at_ ← Reader.optional (do
      let x ← numberText
      pure (x ++ " " ++ (← numberText)))
    pure (" ".intercalate (u :: at_.toList))
  let parts := Component.splitCommas cs
  let front ← parts.dropLast.mapM (all? picture)
  let last ← all? (keyword cursors) (parts.getLastD [])
  some [("cursor", [",".intercalate (front ++ [last])])]

def appearances : List String :=
  ["none", "auto", "textfield", "menulist-button", "button", "checkbox", "listbox", "menulist",
    "meter", "progress-bar", "push-button", "radio", "searchfield", "slider-horizontal",
    "square-button", "textarea"]

/-- Dashes and gaps of a line, where pixels do without their unit. -/
def dashes? (cs : List Component) : Option Values := do
  let bare (s : String) : String :=
    if s.endsWith "px" && s.toList.head?.any (fun c => c.isDigit || c = '.' || c = '-') then
      String.ofList (s.toList.take (s.length - 2))
    else s
  let said : Option (List String) := do
    let parts ← (Component.splitCommas cs).mapM (all? (many1 lengthPercentage))
    some (parts.flatten.map bare)
  match all? (keyword ["none"]) cs with
  | some w => some [("stroke-dasharray", [w])]
  | none => said.map fun ds => [("stroke-dasharray", [" ".intercalate ds])]

/-- A name that starts with two dashes. -/
def dashed : Reader String :=
  pick fun c =>
    match c with
    | .token (.ident s) => if s.startsWith "--" then some (Written.ident s) else none
    | _ => none

def verticals : List String :=
  ["baseline", "sub", "super", "top", "text-top", "middle", "bottom", "text-bottom"]

/-! ## The table -/

def webkit : List String := ["-webkit-", ""]

def webkitMoz : List String := ["-webkit-", "-moz-", ""]

def webkitMozMs : List String := ["-webkit-", "-moz-", "-ms-", ""]

/-- The properties of a family. -/
def family (g : Group) (fronts : String → List String) (rs : Readers) : List (String × Property) :=
  rs.map fun (n, r) => (n, ⟨.held g, fronts n, r⟩)

def bare (_ : String) : List String := [""]

/-- Properties that are written by themselves. -/
def alone (placing : Placing) (fronts : List String) (names : List String) (r : Reader String) :
    List (String × Property) :=
  names.map fun n => (n, ⟨placing, fronts, one r n⟩)

def flexFronts (n : String) : List String :=
  if n.startsWith "box-" then
    if n = "box-flex-group" then ["-webkit-"] else ["-webkit-", "-moz-"]
  else if ["flex-pack", "flex-order", "flex-align", "flex-item-align", "flex-line-pack",
      "flex-positive", "flex-negative", "flex-preferred-size"].contains n then ["-ms-"]
  else if ["flex", "flex-flow", "flex-direction", "flex-wrap"].contains n then
    ["-webkit-", "-ms-", ""]
  else if ["flex-grow", "flex-shrink", "flex-basis", "order", "align-content", "justify-content",
      "align-self", "align-items"].contains n then webkit
  else [""]

def maskFronts (n : String) : List String :=
  if ["mask", "mask-image", "mask-repeat", "mask-position", "mask-clip", "mask-origin",
    "mask-size"].contains n then webkit else [""]

def decorationFronts (n : String) : List String :=
  if n = "text-decoration-thickness" then [""]
  else if n.startsWith "text-emphasis" then webkit
  else webkitMoz

def animationFronts (n : String) : List String :=
  if n = "animation-timeline" || n.startsWith "animation-range" then [""]
  else ["-webkit-", "-moz-", "-o-", ""]

def families : List (String × Property) :=
  let box (g : Group) (n : String) (r : Reader String) : List (String × Property) :=
    family g bare (Box.readers n (n ++ "-") (n ++ "-" ++ ·) r)
  family .background (fun n => if n = "background-clip" then webkitMoz else [""])
    Background.readers ++
  family .border bare Border.lines ++
  family .borderImage (fun n => if n = "border-image" then ["-webkit-", "-moz-", "-o-", ""]
    else [""]) Border.images ++
  family .borderRadius (fun n =>
    if (n.splitOn "-").contains "start" || (n.splitOn "-").contains "end" then [""]
    else webkitMoz) Border.radii ++
  family .outline bare Outline.readers ++ family .flex flexFronts Flex.readers ++
  family .grid bare Grid.readers ++ family .align flexFronts Align.readers ++
  family .size bare Box.sizes ++ box .margin "margin" Box.lengthOrAuto ++
  box .padding "padding" lengthPercentage ++ box .scrollMargin "scroll-margin" Box.lengthOrAuto ++
  box .scrollPadding "scroll-padding" Box.lengthOrAuto ++
  family .inset bare (Box.readers "inset" "inset-" id Box.lengthOrAuto) ++
  family .font bare Font.readers ++ family .decoration decorationFronts Decoration.readers ++
  family .list bare ListStyle.readers ++
  family .transition (fun _ => webkitMozMs) Transition.readers ++
  family .animation animationFronts Animation.readers ++
  family .display bare [("display", one Box.display "display")] ++
  family .position bare [("position", one (keyword Box.positions) "position")] ++
  family .overflow bare Box.overflow ++
  family .transform (fun n => if n = "transform" then Front.all else [""]) Transform.readers ++
  family .boxShadow (fun _ => webkitMoz) [("box-shadow", Shadow.many 4 "box-shadow")] ++
  family .mask maskFronts Mask.readers ++ family .container bare Box.container ++
  family .scheme bare [("color-scheme", one scheme "color-scheme")] ++
  family .writing bare [("direction", one (keyword directions) "direction"),
    ("unicode-bidi", one (keyword embeddings) "unicode-bidi")]

def replacing : List (String × Property) :=
  [("text-shadow", ⟨.replaced, [""], Shadow.many 3 "text-shadow"⟩)] ++
  alone .replaced [""] ["color"] color ++
  alone .replaced webkit ["filter", "backdrop-filter"] Filter.list ++
  alone .replaced [""] ["fill", "stroke"] paint ++
  alone .replaced [""] ["caret-color"] (oneOf [color, keyword ["auto"]]) ++
  alone .replaced [""] ["caret"] caret

def merging : List (String × Property) :=
  alone .merged Front.all ["transform-origin"] Place.position ++
  alone .merged webkitMoz ["transform-style"] (keyword ["flat", "preserve-3d"]) ++
  alone .merged webkitMoz ["backface-visibility"] (keyword ["visible", "hidden"]) ++
  alone .merged webkitMoz ["perspective"] (oneOf [keyword ["none"], length]) ++
  alone .merged webkitMoz ["perspective-origin"] Place.position ++
  alone .merged webkitMoz ["box-sizing"] (keyword ["content-box", "border-box"]) ++
  alone .merged ["-moz-", "-o-", ""] ["tab-size"] (oneOf [numberText, length]) ++
  alone .merged webkitMozMs ["hyphens"] (keyword ["none", "manual", "auto"]) ++
  alone .merged ["-moz-", ""] ["text-align-last"]
    (keyword ["auto", "start", "end", "left", "right", "center", "justify", "match-parent"]) ++
  alone .merged webkit ["text-decoration-skip-ink"] (keyword ["auto", "none", "all"]) ++
  alone .merged ["-o-", ""] ["text-overflow"] (keyword ["clip", "ellipsis"]) ++
  alone .merged webkitMozMs ["user-select"] (keyword ["auto", "text", "none", "contain", "all"]) ++
  alone .merged webkitMozMs ["appearance"] (oneOf [keyword appearances, custom]) ++
  alone .merged webkit ["clip-path"] Shape.clip ++
  alone .merged webkit ["box-decoration-break"] (keyword ["slice", "clone"]) ++
  alone .merged webkitMozMs ["text-size-adjust"] (oneOf [keyword ["auto", "none"], percentage]) ++
  alone .merged webkit ["print-color-adjust"] (keyword ["economy", "exact"])

/-- Properties whose values are words. -/
def worded : List (String × List String) :=
  [("visibility", ["visible", "hidden", "collapse"]),
    ("white-space", ["normal", "pre", "nowrap", "pre-wrap", "break-spaces", "pre-line"]),
    ("word-break", ["normal", "keep-all", "break-all", "break-word"]),
    ("line-break", ["auto", "loose", "normal", "strict", "anywhere"]),
    ("overflow-wrap", ["normal", "anywhere", "break-word"]),
    ("word-wrap", ["normal", "anywhere", "break-word"]),
    ("text-align", ["start", "end", "left", "right", "center", "justify", "match-parent",
      "justify-all"]),
    ("text-justify", ["auto", "none", "inter-word", "inter-character"]),
    ("resize", ["none", "both", "horizontal", "vertical", "block", "inline"]),
    ("transform-box", ["content-box", "border-box", "fill-box", "stroke-box", "view-box"]),
    ("fill-rule", ["nonzero", "evenodd"]), ("clip-rule", ["nonzero", "evenodd"]),
    ("stroke-linecap", ["butt", "round", "square"]),
    ("stroke-linejoin", ["miter", "miter-clip", "round", "bevel", "arcs"]),
    ("color-interpolation", ["auto", "srgb", "linearrgb"]),
    ("color-interpolation-filters", ["auto", "srgb", "linearrgb"]),
    ("color-rendering", ["auto", "optimizespeed", "optimizequality"]),
    ("shape-rendering", ["auto", "optimizespeed", "crispedges", "geometricprecision"]),
    ("text-rendering", ["auto", "optimizespeed", "optimizelegibility", "geometricprecision"]),
    ("image-rendering", ["auto", "optimizespeed", "optimizequality"]),
    ("mask-type", ["luminance", "alpha"]), ("caret-shape", ["auto", "bar", "block", "underscore"])]

def keeping : List (String × Property) :=
  (worded.flatMap fun (n, ws) => alone .kept [""] [n] (keyword ws)) ++
  alone .kept [""] ["opacity", "fill-opacity", "stroke-opacity"] (Written.number <$> part) ++
  alone .kept [""] ["z-index"] (oneOf [keyword ["auto"], integer]) ++
  alone .kept [""] ["aspect-ratio"] Box.aspectRatio ++
  alone .kept [""] ["text-transform"] Decoration.letters ++
  alone .kept [""] ["text-indent"] Decoration.indent ++
  alone .kept [""] ["letter-spacing", "word-spacing"] (oneOf [keyword ["normal"], length]) ++
  alone .kept [""] ["vertical-align"] (oneOf [keyword verticals, lengthPercentage]) ++
  alone .kept [""] ["stroke-width", "stroke-dashoffset"] lengthPercentage ++
  alone .kept [""] ["stroke-miterlimit"] numberText ++
  alone .kept [""] ["border-spacing"] (pair length) ++
  alone .kept [""] ["accent-color"] (oneOf [color, keyword ["auto"]]) ++
  alone .kept [""] ["marker", "marker-start", "marker-mid", "marker-end"]
    (oneOf [keyword ["none"], url]) ++
  alone .kept [""] ["font-palette"] (oneOf [keyword ["normal", "light", "dark"], dashed]) ++
  alone .kept [""] ["view-transition-name"] (oneOf [keyword ["none", "auto"], custom]) ++
  alone .kept [""] ["view-transition-class"] (oneOf [keyword ["none"], spaced custom]) ++
  alone .kept [""] ["animation-composition"]
    (commaText (keyword ["replace", "add", "accumulate"])) ++
  [("cursor", ⟨.kept, [""], cursor?⟩), ("stroke-dasharray", ⟨.kept, [""], dashes?⟩)]

def table : List (String × Property) := families ++ replacing ++ merging ++ keeping

/-- A property by a name in lower case: the mark of the name, the property's own name, and what is
known of it. -/
def find? (name : String) : Option (String × String × Property) :=
  match Front.all.dropLast.find? fun f => name.startsWith f with
  | some f =>
    let base := String.ofList (name.toList.drop f.length)
    match table.lookup base with
    | some p => if p.fronts.contains f then some (f, base, p) else none
    | none => none
  | none =>
    match table.lookup name with
    | some p => if p.fronts.contains "" then some ("", name, p) else none
    | none => none

end Property

end ScopedViews.Css
