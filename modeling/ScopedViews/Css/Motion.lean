import ScopedViews.Css.Longhand
/-!
# Change over time

Transitions from one value to another, and animations.
-/

namespace ScopedViews.Css

namespace Easing

open Reader

def words : List String :=
  ["linear", "ease", "ease-in", "ease-out", "ease-in-out", "step-start", "step-end"]

def stepsText (n : String) (place : String) : String :=
  match n, place with
  | "1", "start" => "step-start"
  | "1", "end" => "step-end"
  | n, "end" => "steps(" ++ n ++ ")"
  | n, p => "steps(" ++ n ++ "," ++ p ++ ")"

def stepPlace : Reader String :=
  (fun w => if w = "jump-start" then "start" else if w = "jump-end" then "end" else w) <$>
    keyword ["start", "end", "jump-start", "jump-end", "jump-none", "jump-both"]

def read : Reader String :=
  oneOf [keyword words,
    do
      let args ← inside "cubic-bezier" (commas numberText)
      match args with
      | ["0", "0", "1", "1"] => pure "linear"
      | [".25", ".1", ".25", "1"] => pure "ease"
      | [".42", "0", "1", "1"] => pure "ease-in"
      | ["0", "0", ".58", "1"] => pure "ease-out"
      | [".42", "0", ".58", "1"] => pure "ease-in-out"
      | [a, b, c, d] => pure ("cubic-bezier(" ++ ",".intercalate [a, b, c, d] ++ ")")
      | _ => failure,
    pick fun c =>
      match c with
      | .call name body =>
        match name.toLower, Component.splitCommas body with
        | "steps", [n] => (all? integer n).map (stepsText · "end")
        | "steps", [n, p] => do some (stepsText (← all? integer n) (← all? stepPlace p))
        | _, _ => none
      | _ => none]

end Easing

namespace Transition

open Reader

/-- The name of a property, in lower case unless the author made it up. -/
def property : Reader String :=
  pick fun c =>
    match c with
    | .token (.ident s) =>
      if common.contains s.toLower then none
      else some (if s.startsWith "--" then Written.ident s else Written.ident s.toLower)
    | _ => none

def names : List String :=
  ["transition-property", "transition-duration", "transition-delay", "transition-timing-function"]

def transition? (cs : List Component) : Option Values := do
  let layers ← (Component.splitCommas (Component.solid cs)).mapM fun cs =>
    all? (anyOrder [("duration", time), ("delay", time), ("easing", Easing.read),
      ("property", property)]) cs
  let each (name default : String) : List String :=
    layers.map fun l => (l.lookup name).getD default
  some [("transition-property", each "property" "all"),
    ("transition-duration", each "duration" "0s"), ("transition-delay", each "delay" "0s"),
    ("transition-timing-function", each "easing" "ease")]

def readers : Readers :=
  [("transition", transition?), ("transition-property", layered property "transition-property"),
    ("transition-duration", layered time "transition-duration"),
    ("transition-delay", layered time "transition-delay"),
    ("transition-timing-function", layered Easing.read "transition-timing-function")]

/-- A name without the mark of a maker, and that mark. -/
def split (name : String) : String × String :=
  match Front.all.find? fun f => name.startsWith f with
  | some f => (f, String.ofList (name.toList.drop f.length))
  | none => ("", name)

/-- The properties without marks of makers, each once and with the marks it has. -/
def merged (properties : List String) : List (String × List String) :=
  properties.foldl
    (fun acc p =>
      let (f, base) := split p
      if acc.any (·.1 == base) then
        acc.map fun (b, fs) => if b = base then (b, Front.union fs [f]) else (b, fs)
      else acc ++ [(base, [f])])
    []

/-- The values of a list for so many layers, over and over. -/
def repeated (default : String) (values : List String) (i : Nat) : String :=
  if values.isEmpty then default else values.getD (i % values.length) default

def layerText (property duration delay easing : String) : String :=
  let timed := duration != "0s" || delay != "0s"
  " ".intercalate ([property] ++ (if timed then [duration] else []) ++
    [easing].filter (· != "ease") ++ [delay].filter (· != "0s"))

def write (held : Values) : List Setting :=
  let held : Values := held.map fun (n, vs) =>
    (n, if n = "transition-property" then
      (merged vs).flatMap fun (base, fs) => fs.map (· ++ base) else vs)
  match names.mapM held.get? with
  | some [properties, durations, delays, easings] =>
    let layers := (merged properties).zipIdx.flatMap fun ((base, fs), i) =>
      fs.map fun f => layerText (f ++ base) (repeated "0s" durations i) (repeated "0s" delays i)
        (repeated "ease" easings i)
    [⟨"transition", ",".intercalate layers, held.those names⟩]
  | _ => Setting.each held names

end Transition

namespace Animation

open Reader

def directions : List String := ["normal", "reverse", "alternate", "alternate-reverse"]

def fills : List String := ["none", "forwards", "backwards", "both"]

def name : Reader String := oneOf [custom, pick fun c =>
  match c with
  | .token (.string s) =>
    some (if Reader.common.contains s.toLower || s.toLower = "none" then Written.string s
      else Written.ident s)
  | _ => none]

def count : Reader String := oneOf [numberText, keyword ["infinite"]]

/-! ## Timelines -/

def axis : Reader String := keyword ["block", "inline", "x", "y"]

/-- What moves an animation on: time, scrolling, or a part that comes into view. -/
def timeline : Reader String :=
  oneOf [keyword ["auto", "none"],
    pick fun c =>
      match c with
      | .token (.ident s) => if s.startsWith "--" then some (Written.ident s) else none
      | .call n body =>
        let written (parts : List String) : String :=
          n.toLower ++ "(" ++ " ".intercalate parts ++ ")"
        let given (r : List (String × Reader String)) : Option (List (String × String)) :=
          if (Component.solid body).isEmpty then some [] else all? (anyOrder r) body
        match n.toLower with
        | "scroll" => do
          let found ← given [("scroller", keyword ["nearest", "root", "self"]), ("axis", axis)]
          some (written ((found.lookup "scroller").toList.filter (· != "nearest") ++
            (found.lookup "axis").toList.filter (· != "block")))
        | "view" => do
          let found ← given [("axis", axis),
            ("inset", pair (oneOf [lengthPercentage, keyword ["auto"]]))]
          some (written ((found.lookup "axis").toList.filter (· != "block") ++
            (found.lookup "inset").toList.filter (· != "auto")))
        | _ => none
      | _ => none]

def ranges : List String :=
  ["cover", "contain", "entry", "exit", "entry-crossing", "exit-crossing"]

/-- An end of a range; the usual share of a named range is left out. -/
def range (usual : String) : Reader String :=
  oneOf [keyword ["normal"], lengthPercentage, do
    let n ← keyword ranges
    match ← Reader.optional lengthPercentage with
    | some s => pure (if s = usual then n else n ++ " " ++ s)
    | none => pure n]

def range? (cs : List Component) : Option Values :=
  all? (oneOf [whole (do
      let a ← range "0%"
      let named := (a.splitOn " ").headD ""
      pure (a, if ranges.contains named then named else "normal")),
    whole (do pure (← range "0%", ← range "100%"))]) cs |>.map fun (a, b) =>
      [("animation-range-start", [a]), ("animation-range-end", [b])]
where
  whole (r : Reader (String × String)) : Reader (String × String) := fun cs =>
    (r.run cs).filter (·.2.isEmpty)

def rangeText : List String → String
  | [a, b] =>
    if b = "normal" || (ranges.contains b && (a.splitOn " ").headD "" = b) then a
    else a ++ " " ++ b
  | vs => " ".intercalate vs

/-! ## The family -/

def parts : List (String × Reader String) :=
  [("duration", time), ("timing-function", Easing.read), ("delay", time),
    ("iteration-count", count), ("direction", keyword directions), ("fill-mode", keyword fills),
    ("play-state", keyword ["running", "paused"]), ("name", name), ("timeline", timeline)]

def initialValue (part : String) : String :=
  match part with
  | "duration" | "delay" => "0s"
  | "timing-function" => "ease"
  | "iteration-count" => "1"
  | "direction" => "normal"
  | "play-state" => "running"
  | "timeline" => "auto"
  | _ => "none"

def names : List String :=
  ["name", "duration", "timing-function", "iteration-count", "direction", "play-state", "delay",
    "fill-mode", "timeline"]

def longName (part : String) : String := "animation-" ++ part

def animation? (cs : List Component) : Option Values := do
  let layers ← (Component.splitCommas (Component.solid cs)).mapM fun cs =>
    all? (anyOrder parts) cs
  some (names.map fun n => (longName n, layers.map fun l => (l.lookup n).getD (initialValue n)))

def readers : Readers :=
  [("animation", animation?), ("animation-range", range?),
    ("animation-range-start", one (range "0%") "animation-range-start"),
    ("animation-range-end", one (range "100%") "animation-range-end")] ++
  parts.map fun (n, r) => (longName n, layered r (longName n))

def layerText : List String → String
  | [name, duration, easing, count, direction, state, delay, fill, timeline] =>
    if name = "none" then "none"
    else
      let timed := duration != "0s" || delay != "0s"
      let n := name.toLower
      " ".intercalate ((if timed then [duration] else []) ++
        (if easing != "ease" || Easing.words.contains n then [easing] else []) ++
        [delay].filter (· != "0s") ++
        (if count != "1" || n = "infinite" then [count] else []) ++
        (if direction != "normal" || directions.contains n then [direction] else []) ++
        (if fill != "none" || fills.contains n then [fill] else []) ++
        (if state != "running" || n = "running" || n = "paused" then [state] else []) ++ [name] ++
        [timeline].filter (· != "auto"))
  | _ => ""

/-- The layers of some longhands, if there are as many of each. -/
def layers? (values : List (List String)) : Option (List (List String)) :=
  let n := (values.headD []).length
  if values.all fun v => v.length = n then
    some ((List.range n).map fun i => values.map fun v => v.getD i "")
  else none

def write (held : Values) : List Setting :=
  let each := Setting.each held (names.map longName)
  let value (n : String) : Option (List String) :=
    match held.get? (longName n), n with
    | none, "timeline" =>
      (held.get? (longName "name")).map fun (ns : List String) => ns.map fun _ => "auto"
    | v, _ => v
  let values := names.mapM value
  (match values.bind layers? with
    | some layers =>
      [⟨"animation", ",".intercalate (layers.map layerText), held.those (names.map longName)⟩]
    | none => each) ++
  Setting.shorthand held "animation-range" ["animation-range-start", "animation-range-end"]
    rangeText

end Animation

end ScopedViews.Css
