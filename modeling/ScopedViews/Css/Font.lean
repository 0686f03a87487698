import ScopedViews.Css.Longhand
/-!
# Fonts

Families, sizes, weights and widths of fonts, and the shorthand for all of them.
-/

namespace ScopedViews.Css

namespace Font

open Reader

def weight : Reader String :=
  oneOf [numberText, keyword ["bolder", "lighter"],
    (fun w => if w = "bold" then "700" else "400") <$> keyword ["normal", "bold"]]

def stretches : List (String × String) :=
  [("normal", "100%"), ("ultra-condensed", "50%"), ("extra-condensed", "62.5%"),
    ("condensed", "75%"), ("semi-condensed", "87.5%"), ("semi-expanded", "112.5%"),
    ("expanded", "125%"), ("extra-expanded", "150%"), ("ultra-expanded", "200%")]

def stretchWord : Reader String := do
  match stretches.lookup (← word) with
  | some s => pure s
  | none => failure

def stretch : Reader String := oneOf [stretchWord, percentage]

def size : Reader String :=
  oneOf [lengthPercentage, keyword ["xx-small", "x-small", "small", "medium", "large", "x-large",
    "xx-large", "xxx-large", "smaller", "larger"]]

def style : Reader String :=
  oneOf [keyword ["normal", "italic"], do
    let o ← keyword ["oblique"]
    match ← Reader.optional angleUnit with
    | some a => pure (if a = "14deg" then o else o ++ " " ++ a)
    | none => pure o]

def capitals : Reader String :=
  keyword ["normal", "small-caps", "all-small-caps", "petite-caps", "all-petite-caps", "unicase",
    "titling-caps"]

def lineHeight : Reader String := oneOf [keyword ["normal"], numberText, lengthPercentage]

def genericFamilies : List String :=
  ["serif", "sans-serif", "cursive", "fantasy", "monospace", "system-ui", "emoji", "math",
    "fangsong", "ui-serif", "ui-sans-serif", "ui-monospace", "ui-rounded", "initial", "inherit",
    "unset", "default", "revert", "revert-layer"]

/-- The name of a family: its words, or the quoted text if that is shorter. -/
def familyName (name : String) : String :=
  let words := " ".intercalate ((name.splitOn " ").map Written.ident)
  if name.isEmpty || genericFamilies.contains name.toLower ||
      name.utf8ByteSize + 2 ≤ words.utf8ByteSize then
    Written.string name
  else words

def family : Reader String :=
  oneOf [pick fun c =>
      match c with
      | .token (.string s) => some (familyName s)
      | _ => none,
    do
      let ws ← many1 (pick fun c =>
        match c with
        | .token (.ident s) => some s
        | _ => none)
      match ws with
      | [w] =>
        if genericFamilies.contains w.toLower then
          if Reader.common.contains w.toLower then failure else pure w.toLower
        else pure (familyName w)
      | ws => pure (familyName (" ".intercalate ws))]

def font? (cs : List Component) : Option Values :=
  let normal : Reader Unit := do
    let _ ← keyword ["normal"]
  let rec front (fuel : Nat) (found : List (String × String)) (cs : List Component) :
      List (String × String) × List Component :=
    match fuel with
    | 0 => (found, cs)
    | fuel + 1 =>
      match normal.run cs with
      | some (_, rest) => front fuel found rest
      | none =>
        let readers := [("style", style), ("weight", weight), ("caps", keyword ["small-caps"]),
          ("stretch", stretchWord)].filter fun (n, _) => (found.lookup n).isNone
        match readers.findSome? fun (n, r) => (r.run cs).map fun (s, rest) => (n, s, rest) with
        | some (n, s, rest) => front fuel ((n, s) :: found) rest
        | none => (found, cs)
  let (found, rest) := front 5 [] (Component.solid cs)
  let sized : Reader (String × String) := do
    let s ← size
    match ← Reader.optional (mark '/') with
    | some _ => do pure (s, ← lineHeight)
    | none => pure (s, "normal")
  match sized.run rest with
  | some ((size, height), rest) => do
    let families ← all? (commas family) rest
    some [("font-family", families), ("font-size", [size]),
      ("font-style", [(found.lookup "style").getD "normal"]),
      ("font-variant-caps", [(found.lookup "caps").getD "normal"]),
      ("font-weight", [(found.lookup "weight").getD "400"]),
      ("font-stretch", [(found.lookup "stretch").getD "100%"]), ("line-height", [height])]
  | none => none

def readers : Readers :=
  [("font", font?), ("font-family", layered family "font-family"),
    ("font-size", one size "font-size"),
    ("font-style", one style "font-style"), ("font-weight", one weight "font-weight"),
    ("font-stretch", one stretch "font-stretch"),
    ("font-variant-caps", one capitals "font-variant-caps"),
    ("line-height", one lineHeight "line-height")]

def names : List String :=
  ["font-size", "font-style", "font-variant-caps", "font-weight", "font-stretch", "line-height"]

def write (held : Values) : List Setting :=
  let held : Values := held.map fun (n, vs) =>
    (n, if n = "font-family" then vs.eraseDups else vs)
  let apart := Setting.each held ("font-family" :: names)
  match held.get? "font-family", held.all? names with
  | some families, some [size, style, caps, weight, stretch, height] =>
    match stretches.find? fun (_, s) => s = stretch with
    | some (word, _) =>
      let plain := caps = "normal" || caps = "small-caps"
      let front := [style].filter (· != "normal") ++
        (if plain then [caps].filter (· != "normal") else []) ++
        [weight].filter (· != "400") ++ [word].filter (· != "normal")
      let size := if height = "normal" then size else size ++ "/" ++ height
      [⟨"font", " ".intercalate (front ++ [size, ",".intercalate families]),
        held.those ("font-family" :: names)⟩] ++
        if plain then [] else Setting.each held ["font-variant-caps"]
    | none => apart
  | _, _ => apart

end Font

end ScopedViews.Css
