import ScopedViews.Css.Box
/-!
# Flexible boxes and alignment

How items of a row grow and shrink, in which direction they go, and how they are aligned.
-/

namespace ScopedViews.Css

namespace Flex

open Reader

def directions : List String := ["row", "row-reverse", "column", "column-reverse"]

def wraps : List String := ["nowrap", "wrap", "wrap-reverse"]

def flex? (cs : List Component) : Option Values := do
  let grow : Reader (String × String) := do
    let g ← numberText
    pure (g, (← Reader.optional numberText).getD "1")
  let set (g s b : String) : Values :=
    [("flex-grow", [g]), ("flex-shrink", [s]), ("flex-basis", [b])]
  match all? (keyword ["none"]) cs with
  | some _ => some (set "0" "0" "auto")
  | none =>
    all? (oneOf [do
        let (g, s) ← grow
        pure (set g s ((← Reader.optional Box.lengthOrAuto).getD "0%")),
      do
        let b ← Box.lengthOrAuto
        let (g, s) := (← Reader.optional grow).getD ("1", "1")
        pure (set g s b)]) cs

def flow? (cs : List Component) : Option Values := do
  let found ← all? (anyOrder [("direction", keyword directions), ("wrap", keyword wraps)]) cs
  some [("flex-direction", [(found.lookup "direction").getD "row"]),
    ("flex-wrap", [(found.lookup "wrap").getD "nowrap"])]

/-- The properties of flexible boxes as they were at first, which makers of browsers still know. -/
def early : Readers :=
  [("box-orient", one (keyword ["horizontal", "vertical", "inline-axis", "block-axis"])
      "box-orient"),
    ("box-direction", one (keyword ["normal", "reverse"]) "box-direction"),
    ("box-ordinal-group", one integer "box-ordinal-group"),
    ("box-flex", one numberText "box-flex"), ("box-flex-group", one integer "box-flex-group"),
    ("box-lines", one (keyword ["single", "multiple"]) "box-lines"),
    ("flex-order", one integer "flex-order"), ("flex-positive", one numberText "flex-positive"),
    ("flex-negative", one numberText "flex-negative"),
    ("flex-preferred-size", one Box.lengthOrAuto "flex-preferred-size")]

def readers : Readers :=
  [("flex", flex?), ("flex-flow", flow?),
    ("flex-direction", one (keyword directions) "flex-direction"),
    ("flex-wrap", one (keyword wraps) "flex-wrap"), ("flex-grow", one numberText "flex-grow"),
    ("flex-shrink", one numberText "flex-shrink"),
    ("flex-basis", one Box.lengthOrAuto "flex-basis"),
    ("order", one integer "order")] ++ early

def text : List String → String
  | [grow, shrink, basis] =>
    if grow = "0" && shrink = "0" && basis = "auto" then "none"
    else
      let front :=
        if grow != "1" || shrink != "1" || basis = "0" || basis = "0%" then
          grow :: (if shrink != "1" || basis = "0" then [shrink] else [])
        else []
      " ".intercalate (front ++ if basis = "0%" then [] else [basis])
  | vs => " ".intercalate vs

def flowText : List String → String
  | [direction, wrap] =>
    " ".intercalate ((if direction != "row" || wrap = "nowrap" then [direction] else []) ++
      [wrap].filter (· != "nowrap"))
  | vs => " ".intercalate vs

def write (held : Values) : List Setting :=
  Setting.each held ["box-orient", "box-direction", "flex-order"] ++
  Setting.shorthand held "flex-flow" ["flex-direction", "flex-wrap"] flowText ++
  Setting.shorthand held "flex" ["flex-grow", "flex-shrink", "flex-basis"] text ++
  Setting.each held ["order", "box-ordinal-group", "box-flex", "box-flex-group", "box-lines",
    "flex-positive", "flex-negative", "flex-preferred-size"]

end Flex

namespace Align

open Reader

def baseline : Reader String :=
  oneOf [keyword ["baseline"], do
    let w ← keyword ["first", "last"]
    let _ ← keyword ["baseline"]
    pure (if w = "first" then "baseline" else "last baseline")]

/-- A place, in front of which it may be said what happens to what does not fit. -/
def placed (words : List String) : Reader String := do
  let o ← Reader.optional (keyword ["safe", "unsafe"])
  let w ← keyword words
  pure (" ".intercalate (o.toList ++ [w]))

def distributions : List String := ["space-between", "space-around", "space-evenly", "stretch"]

def contentPlaces : List String := ["center", "start", "end", "flex-start", "flex-end"]

def selfPlaces : List String :=
  ["center", "start", "end", "self-start", "self-end", "flex-start", "flex-end"]

def alignContent : Reader String :=
  oneOf [keyword ["normal"], baseline, keyword distributions, placed contentPlaces]

def justifyContent : Reader String :=
  oneOf [keyword ["normal"], keyword distributions, placed (contentPlaces ++ ["left", "right"])]

def alignSelf : Reader String :=
  oneOf [keyword ["auto", "normal", "stretch"], baseline, placed selfPlaces]

def justifySelf : Reader String :=
  oneOf [keyword ["auto", "normal", "stretch"], baseline, placed (selfPlaces ++ ["left", "right"])]

def alignItems : Reader String :=
  oneOf [keyword ["normal", "stretch"], baseline, placed selfPlaces]

/-- A place that items keep only if nothing else is said of them. -/
def legacy : Reader String :=
  let word := keyword ["left", "right", "center"]
  oneOf [do
      let _ ← keyword ["legacy"]
      pure ("legacy " ++ (← word)),
    do
      let w ← word
      let _ ← keyword ["legacy"]
      pure ("legacy " ++ w)]

def justifyItems : Reader String :=
  oneOf [keyword ["normal", "stretch"], baseline, legacy, placed (selfPlaces ++ ["left", "right"])]

/-- An alignment across and one along; without the second, the first holds for both. -/
def place? (what : String) (align justify : Reader String) (cs : List Component) :
    Option Values :=
  let both (a j : String) : Values := [("align-" ++ what, [a]), ("justify-" ++ what, [j])]
  match all? align cs with
  | some a => some (both a (if what = "content" && a.endsWith "baseline" then "start" else a))
  | none => all? (do
      let a ← align
      pure (both a (← justify))) cs

def gap : Reader String := oneOf [lengthPercentage, keyword ["normal"]]

/-- The properties of alignment as they were at first, which makers of browsers still know. -/
def early : Readers :=
  [("box-align", one (keyword ["start", "end", "center", "baseline", "stretch"]) "box-align"),
    ("box-pack", one (keyword ["start", "end", "center", "justify"]) "box-pack"),
    ("flex-pack", one (keyword ["start", "end", "center", "justify", "distribute"]) "flex-pack"),
    ("flex-align", one (keyword ["start", "end", "center", "baseline", "stretch"]) "flex-align"),
    ("flex-item-align", one (keyword ["auto", "start", "end", "center", "baseline", "stretch"])
      "flex-item-align"),
    ("flex-line-pack", one (keyword ["start", "end", "center", "justify", "distribute", "stretch"])
      "flex-line-pack")]

def readers : Readers :=
  [("place-content", place? "content" alignContent justifyContent),
    ("place-self", place? "self" alignSelf justifySelf),
    ("place-items", place? "items" alignItems justifyItems),
    ("gap", ends? "row-gap" "column-gap" gap),
    ("align-content", one alignContent "align-content"),
    ("justify-content", one justifyContent "justify-content"),
    ("align-self", one alignSelf "align-self"), ("justify-self", one justifySelf "justify-self"),
    ("align-items", one alignItems "align-items"),
    ("justify-items", one justifyItems "justify-items"), ("row-gap", one gap "row-gap"),
    ("column-gap", one gap "column-gap")] ++ early

def write (held : Values) : List Setting :=
  let place (what : String) : List Setting :=
    Setting.shorthand held ("place-" ++ what) ["align-" ++ what, "justify-" ++ what] fun vs =>
      match vs with
      | [a, j] =>
        if a = j && !(what = "content" && a.endsWith "baseline") then a else a ++ " " ++ j
      | vs => " ".intercalate vs
  Setting.each held ["flex-line-pack", "box-pack", "flex-pack"] ++ place "content" ++
  Setting.each held ["box-align", "flex-align", "flex-item-align"] ++
  place "self" ++ place "items" ++
  Setting.shorthand held "gap" ["row-gap", "column-gap"] Setting.pairOf

end Align

end ScopedViews.Css
