import ScopedViews.Css.Longhand
/-!
# Text

Lines and marks beside text, how its letters and lines are set, and marks of lists.
-/

namespace ScopedViews.Css

namespace Decoration

open Reader

/-- Lines along text, in their order. -/
def line : Reader String :=
  oneOf [keyword ["none", "spelling-error", "grammar-error"], do
    let all := ["underline", "overline", "line-through", "blink"]
    let words ← many1 (keyword all)
    if words.eraseDups.length != words.length then failure
    else pure (" ".intercalate (all.filter words.contains))]

def styles : List String := ["solid", "double", "dotted", "dashed", "wavy"]

def thickness : Reader String := oneOf [keyword ["auto", "from-font"], lengthPercentage]

def decoration? (cs : List Component) : Option Values := do
  let found ← all? (anyOrder [("line", line), ("thickness", thickness), ("style", keyword styles),
    ("color", color)]) cs
  some [("text-decoration-line", [(found.lookup "line").getD "none"]),
    ("text-decoration-thickness", [(found.lookup "thickness").getD "auto"]),
    ("text-decoration-style", [(found.lookup "style").getD "solid"]),
    ("text-decoration-color", [(found.lookup "color").getD "currentColor"])]

/-- A mark beside each letter; a filled one need not say so. -/
def emphasisStyle : Reader String :=
  oneOf [keyword ["none"], text, do
    let shape := keyword ["dot", "circle", "double-circle", "triangle", "sesame"]
    let first ← Reader.optional shape
    let fill ← Reader.optional (keyword ["filled", "open"])
    let last ← if first.isSome then pure none else Reader.optional shape
    let form := first <|> last
    if fill.isNone && form.isNone then failure
    else
      pure (" ".intercalate ((if fill = some "open" || form.isNone then [fill.getD "filled"]
        else []) ++ form.toList))]

def emphasis? (cs : List Component) : Option Values := do
  let found ← all? (anyOrder [("style", emphasisStyle), ("color", color)]) cs
  some [("text-emphasis-style", [(found.lookup "style").getD "none"]),
    ("text-emphasis-color", [(found.lookup "color").getD "currentColor"])]

def emphasisPosition : Reader String := do
  let found ← anyOrder [("across", keyword ["left", "right"]), ("down", keyword ["over", "under"])]
  match found.lookup "down" with
  | some v => pure (if found.lookup "across" = some "left" then v ++ " left" else v)
  | none => failure

def readers : Readers :=
  [("text-decoration", decoration?), ("text-decoration-line", one line "text-decoration-line"),
    ("text-decoration-style", one (keyword styles) "text-decoration-style"),
    ("text-decoration-color", one color "text-decoration-color"),
    ("text-decoration-thickness", one thickness "text-decoration-thickness"),
    ("text-emphasis", emphasis?), ("text-emphasis-style", one emphasisStyle "text-emphasis-style"),
    ("text-emphasis-color", one color "text-emphasis-color"),
    ("text-emphasis-position", one emphasisPosition "text-emphasis-position")]

def text : List String → String
  | [line, thickness, style, color] =>
    if line = "none" then line
    else
      " ".intercalate (line :: [thickness].filter (· != "auto") ++ [style].filter (· != "solid") ++
        [color].filter (· != "currentColor"))
  | vs => " ".intercalate vs

def emphasisText : List String → String
  | [style, color] =>
    if style = "none" || color = "currentColor" then style else style ++ " " ++ color
  | vs => " ".intercalate vs

def names : List String :=
  ["text-decoration-line", "text-decoration-thickness", "text-decoration-style",
    "text-decoration-color"]

def write (held : Values) : List Setting :=
  (match held.all? names with
    | some vs => [⟨"text-decoration", text vs, held.those names⟩]
    | none => Setting.each held ["text-decoration-line", "text-decoration-style",
        "text-decoration-color", "text-decoration-thickness"]) ++
  Setting.shorthand held "text-emphasis" ["text-emphasis-style", "text-emphasis-color"]
    emphasisText ++
  Setting.each held ["text-emphasis-position"]

/-- What is done with the letters of a text: their case, then their width. -/
def letters : Reader String := do
  let found ← anyOrder [("case", keyword ["none", "uppercase", "lowercase", "capitalize"]),
    ("width", keyword ["full-width"]), ("kana", keyword ["full-size-kana"])]
  let others := (found.lookup "width").toList ++ (found.lookup "kana").toList
  let case := (found.lookup "case").getD "none"
  pure (" ".intercalate ((if case != "none" || others.isEmpty then [case] else []) ++ others))

def indent : Reader String := do
  let found ← anyOrder [("value", lengthPercentage), ("hanging", keyword ["hanging"]),
    ("each", keyword ["each-line"])]
  match found.lookup "value" with
  | some v => pure (" ".intercalate
      (v :: (found.lookup "hanging").toList ++ (found.lookup "each").toList))
  | none => failure

end Decoration

namespace ListStyle

open Reader

def counters : List String :=
  ["decimal", "decimal-leading-zero", "arabic-indic", "armenian", "upper-armenian",
    "lower-armenian", "bengali", "cambodian", "khmer", "cjk-decimal", "devanagari", "georgian",
    "gujarati", "gurmukhi", "hebrew", "kannada", "lao", "malayalam", "mongolian", "myanmar",
    "oriya", "persian", "lower-roman", "upper-roman", "tamil", "telugu", "thai", "tibetan",
    "lower-alpha", "lower-latin", "upper-alpha", "upper-latin", "lower-greek", "hiragana",
    "hiragana-iroha", "katakana", "katakana-iroha", "disc", "circle", "square",
    "disclosure-open", "disclosure-closed", "cjk-earthly-branch", "cjk-heavenly-stem",
    "japanese-informal", "japanese-formal", "korean-hangul-formal", "korean-hanja-informal",
    "korean-hanja-formal", "simp-chinese-informal", "simp-chinese-formal",
    "trad-chinese-informal", "trad-chinese-formal", "ethiopic-numeric"]

def type : Reader String := oneOf [keyword counters, custom, Reader.text]

def style? (cs : List Component) : Option Values := do
  let values (p i t : String) : Values :=
    [("list-style-position", [p]), ("list-style-image", [i]), ("list-style-type", [t])]
  match all? (keyword ["none"]) cs with
  | some _ => some (values "outside" "none" "none")
  | none =>
    let found ← all? (anyOrder [("position", keyword ["inside", "outside"]), ("image", picture),
      ("type", type)]) cs
    some (values ((found.lookup "position").getD "outside") ((found.lookup "image").getD "none")
      ((found.lookup "type").getD "disc"))

def readers : Readers :=
  [("list-style", style?),
    ("list-style-type", one (oneOf [keyword ["none"], type]) "list-style-type"),
    ("list-style-image", one image "list-style-image"),
    ("list-style-position", one (keyword ["inside", "outside"]) "list-style-position")]

def write (held : Values) : List Setting :=
  Setting.shorthand held "list-style"
    ["list-style-position", "list-style-image", "list-style-type"] fun vs =>
      match vs with
      | [position, image, type] =>
        let parts := [position].filter (· != "outside") ++ [image].filter (· != "none") ++
          [type].filter (· != "disc")
        if parts.isEmpty then "outside" else " ".intercalate parts
      | vs => " ".intercalate vs

end ListStyle

end ScopedViews.Css
