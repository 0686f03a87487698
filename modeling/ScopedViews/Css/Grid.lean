import ScopedViews.Css.Longhand
/-!
# Grids

Tracks, named areas and lines of a grid, and the shorthands that say them together.
-/

namespace ScopedViews.Css

namespace Grid

open Reader

/-! ## Tracks -/

/-- A flexible share of what is left. -/
def share : Reader String :=
  pick fun c =>
    match c with
    | .token (.dimension n u) =>
      if u.toLower = "fr" && 0 ≤ n.exact then some (Written.dimension n.value "fr") else none
    | _ => none

def breadth (flexible : Bool) : Reader String :=
  oneOf ([lengthPercentage] ++ (if flexible then [share] else []) ++
    [keyword ["auto", "min-content", "max-content"]])

def size : Reader String :=
  oneOf [breadth true,
    pick fun c =>
      match c with
      | .call name body =>
        match name.toLower, Component.splitCommas body with
        | "minmax", [a, b] => do
          some ("minmax(" ++ (← all? (breadth false) a) ++ "," ++ (← all? (breadth true) b) ++ ")")
        | "fit-content", [a] =>
          (all? lengthPercentage a).map fun s => "fit-content(" ++ s ++ ")"
        | _, _ => none
      | _ => none]

/-- Names of a line, in square brackets; none if there are none. -/
def lineNames : Reader String := do
  let names ← Reader.optional (pick fun c =>
    match c with
    | .block .square body => all? (many custom) body
    | _ => none)
  pure (match names with
    | some (n :: ns) => "[" ++ " ".intercalate (n :: ns) ++ "]"
    | _ => "")

/-- Tracks with the names of the lines before, between and after them: one name more than there are
tracks. -/
structure Tracks where
  names : List String
  sizes : List String
  /-- Whether every track is said one by one. -/
  isExplicit : Bool
deriving BEq, Inhabited

namespace Tracks

/-- The tracks one after another, with blanks only where no names are between them. -/
def text (t : Tracks) : String :=
  let rec go (first : Bool) : List String → List String → String
    | n :: ns, s :: ss => n ++ (if !first && n.isEmpty then " " else "") ++ s ++ go false ns ss
    | n :: _, [] => n
    | [], ss => " ".intercalate ss
  go true t.names t.sizes

end Tracks

/-- Tracks that a reader takes up one by one. -/
def tracksOf (r : Reader String) : Reader (List String × List String) := do
  let first ← lineNames
  let more ← many (do
    let s ← r
    pure (s, ← lineNames))
  pure (first :: more.map (·.2), more.map (·.1))

def repeated : Reader String :=
  pick fun c =>
    match c with
    | .call name body =>
      match name.toLower, Component.splitCommas body with
      | "repeat", [count, sizes] => do
        let n ← all? (oneOf [integer, keyword ["auto-fill", "auto-fit"]]) count
        let (names, sizes) ← all? (tracksOf size) sizes
        some ("repeat(" ++ n ++ "," ++ Tracks.text ⟨names, sizes, true⟩ ++ ")")
      | _, _ => none
    | _ => none

def tracks : Reader Tracks := do
  let (names, sizes) ← tracksOf (oneOf [size, repeated])
  if sizes.isEmpty then failure
  else pure ⟨names, sizes, sizes.all fun s => !s.startsWith "repeat("⟩

def template : Reader String := oneOf [keyword ["none"], Tracks.text <$> tracks]

/-- Sizes of tracks that nothing else is said of. -/
def autoSizes : Reader String := spaced size

/-! ## Areas -/

/-- The cells that a row names; a dot names none. -/
def cells? : Nat → List Char → Option (List (Option String))
  | 0, _ => none
  | fuel + 1, cs =>
    match cs.dropWhile Token.isBlank with
    | [] => some []
    | '.' :: rest => (cells? fuel (rest.dropWhile (· = '.'))).map (none :: ·)
    | cs =>
      let (name, rest) := cs.span Token.isNamePart
      if name.isEmpty then none
      else (cells? fuel rest).map (some (String.ofList name) :: ·)

/-- A row of cells, without the blanks beside dots. -/
def rowText (cells : List (Option String)) : String :=
  let rec go (first wasEmpty : Bool) : List (Option String) → String
    | [] => ""
    | some n :: rest =>
      (if first || wasEmpty then "" else " ") ++ Written.ident n ++ go false false rest
    | none :: rest => (if !first && wasEmpty then " ." else ".") ++ go false true rest
  "\"" ++ go true false cells ++ "\""

/-- A row of an area map, and how many columns it has. -/
def row : Reader (String × Nat) :=
  pick fun c =>
    match c with
    | .token (.string s) => do
      let cells ← cells? (s.length + 1) s.toList
      if cells.isEmpty then none else some (rowText cells, cells.length)
    | _ => none

def areas : Reader String :=
  oneOf [keyword ["none"], do
    let rows ← many1 row
    let widths := rows.map (·.2)
    if widths.all (· = widths.headD 0) then pure (String.join (rows.map (·.1))) else failure]

/-! ## Shorthands of templates -/

/-- Rows of named cells, each with its size and the names of the lines around it. -/
structure Map where
  /-- Names before the first row and after each. -/
  names : List String
  rows : List String
  sizes : List String
deriving Inhabited

/-- Two lists of names as one. -/
def joinNames (a b : String) : String :=
  if a.isEmpty then b
  else if b.isEmpty then a
  else String.ofList a.toList.dropLast ++ " " ++ String.ofList (b.toList.drop 1)

def map : Reader Map := do
  let first ← lineNames
  let rows ← many1 (do
    let r ← row
    let s ← Reader.optional size
    let a ← lineNames
    let b ← lineNames
    pure (r, s.getD "auto", joinNames a b))
  let widths := rows.map (·.1.2)
  if widths.all (· = widths.headD 0) then
    pure ⟨first :: rows.map (·.2.2), rows.map (·.1.1), rows.map (·.2.1)⟩
  else failure

namespace Map

def tracks (m : Map) : Tracks := ⟨m.names, m.sizes, true⟩

/-- Rows of cells with their sizes, as a template says them. -/
def text (names sizes rows : List String) : String :=
  match names, rows with
  | n :: ns, r :: rs =>
    let s := sizes.headD "auto"
    n ++ r ++ (if s = "auto" then "" else s) ++ text ns (sizes.drop 1) rs
  | n :: _, [] => n
  | [], rs => String.join rs

end Map

/-- Rows, columns and areas. -/
def templateParts : Reader (String × String × String) :=
  oneOf [
    (fun _ => ("none", "none", "none")) <$> all (keyword ["none"]),
    do
      let m ← map
      let columns ← Reader.optional (do
        mark '/'
        let t ← tracks
        if t.isExplicit then pure t.text else failure)
      pure (m.tracks.text, columns.getD "none", String.join m.rows),
    do
      let rows ← template
      mark '/'
      let columns ← template
      pure (rows, columns, "none")]
where
  all (r : Reader String) : Reader String := fun cs => (r.run cs).filter (·.2.isEmpty)

def templateValues (parts : String × String × String) : Values :=
  [("grid-template-rows", [parts.1]), ("grid-template-columns", [parts.2.1]),
    ("grid-template-areas", [parts.2.2])]

def autoValues (rows columns flow : String) : Values :=
  [("grid-auto-rows", [rows]), ("grid-auto-columns", [columns]), ("grid-auto-flow", [flow])]

def flow : Reader String := do
  let words ← many1 (keyword ["row", "column", "dense"])
  let has (w : String) : Bool := words.contains w
  if 2 < words.length || (has "row" && has "column") || words.eraseDups.length != words.length then
    failure
  else if has "column" then pure (if has "dense" then "column dense" else "column")
  else pure (if has "dense" then "dense" else "row")

/-- The word that makes a grid grow, and whether gaps are filled. -/
def autoFlow : Reader Bool :=
  oneOf [do
      let _ ← keyword ["auto-flow"]
      pure (← Reader.optional (keyword ["dense"])).isSome,
    do
      let _ ← keyword ["dense"]
      let _ ← keyword ["auto-flow"]
      pure true]

def grid? (cs : List Component) : Option Values :=
  all? (oneOf [
    whole (do pure (templateValues (← templateParts) ++ autoValues "auto" "auto" "row")),
    whole (do
      let rows ← template
      mark '/'
      let dense ← autoFlow
      let columns := (← Reader.optional autoSizes).getD "auto"
      pure (templateValues (rows, "none", "none") ++
        autoValues "auto" columns (if dense then "column dense" else "column"))),
    whole (do
      let dense ← autoFlow
      let rows := (← Reader.optional autoSizes).getD "auto"
      mark '/'
      let columns ← template
      pure (templateValues ("none", columns, "none") ++
        autoValues rows "auto" (if dense then "dense" else "row")))]) cs
where
  whole (r : Reader Values) : Reader Values := fun cs => (r.run cs).filter (·.2.isEmpty)

/-! ## Lines -/

/-- A number of a line, which is not zero. -/
def index : Reader Int := do
  let n ← wholeNumber
  if n = 0 then failure else pure n

def lineName : Reader String := do
  let n ← custom
  if n.toLower = "auto" || n.toLower = "span" then failure else pure n

def line : Reader String :=
  oneOf [keyword ["auto"],
    do
      let _ ← keyword ["span"]
      let spanned (n : Int) (name : Option String) : String :=
        " ".intercalate ("span" :: ((if n != 1 || name.isNone then [toString n] else []) ++
          name.toList))
      match ← Reader.optional index with
      | some n => do pure (spanned n (← Reader.optional lineName))
      | none => do
        let name ← lineName
        pure (spanned ((← Reader.optional index).getD 1) (some name)),
    do
      let n ← index
      pure (" ".intercalate (toString n :: (← Reader.optional lineName).toList)),
    do
      let name ← lineName
      match ← Reader.optional index with
      | some n => pure (toString n ++ " " ++ name)
      | none => pure name]

/-- Whether a line is a name of an area and nothing else. -/
def isArea (l : String) : Bool :=
  l != "auto" && !l.startsWith "span " && (l.toList.head?.any fun c => !(c.isDigit || c = '-')) &&
    !l.contains ' '

/-- The line at which something ends that starts at another, if nothing is said. -/
def opposite (l : String) : String := if isArea l then l else "auto"

def lines? (start end_ : String) (cs : List Component) : Option Values :=
  all? (do
    let a ← line
    let b ← Reader.optional (do
      mark '/'
      line)
    pure [(start, [a]), (end_, [b.getD (opposite a)])]) cs

def area? (cs : List Component) : Option Values :=
  all? (do
    let next : Reader String := do
      mark '/'
      line
    let rs ← line
    let cs ← Reader.optional next
    let re ← Reader.optional next
    let ce ← Reader.optional next
    let cs := cs.getD (opposite rs)
    pure [("grid-row-start", [rs]), ("grid-row-end", [re.getD (opposite rs)]),
      ("grid-column-start", [cs]), ("grid-column-end", [ce.getD (opposite cs)])]) cs

def linesText : List String → String
  | [a, b] => if b = opposite a then a else a ++ "/" ++ b
  | vs => "/".intercalate vs

def areaText : List String → String
  | [rs, cs, re, ce] =>
    let noColumnEnd := ce = opposite cs
    let noRowEnd := noColumnEnd && re = opposite rs
    let noColumn := noRowEnd && cs = opposite rs
    "/".intercalate ([rs] ++ (if noColumn then [] else [cs]) ++ (if noRowEnd then [] else [re]) ++
      if noColumnEnd then [] else [ce])
  | vs => "/".intercalate vs

/-! ## The family -/

def readers : Readers :=
  [("grid-template-columns", one template "grid-template-columns"),
    ("grid-template-rows", one template "grid-template-rows"),
    ("grid-template-areas", one areas "grid-template-areas"),
    ("grid-template", fun cs => (all? templateParts cs).map templateValues),
    ("grid", grid?), ("grid-auto-columns", one autoSizes "grid-auto-columns"),
    ("grid-auto-rows", one autoSizes "grid-auto-rows"),
    ("grid-auto-flow", one flow "grid-auto-flow"),
    ("grid-row-start", one line "grid-row-start"), ("grid-row-end", one line "grid-row-end"),
    ("grid-column-start", one line "grid-column-start"),
    ("grid-column-end", one line "grid-column-end"),
    ("grid-row", lines? "grid-row-start" "grid-row-end"),
    ("grid-column", lines? "grid-column-start" "grid-column-end"), ("grid-area", area?)]

def explicit (t : String) : Bool := (ofText? tracks t).any (·.isExplicit)

/-- Whether rows, columns and areas can be said together. -/
def isTemplate (rows columns areas : String) : Bool :=
  areas = "none" || (explicit rows && (columns = "none" || explicit columns))

def templateText (rows columns areas : String) : String :=
  if areas = "none" then
    if rows = "none" && columns = "none" then "none" else rows ++ "/" ++ columns
  else
    match ofText? tracks rows, ofText? (many1 row) areas with
    | some t, some map =>
      Map.text t.names t.sizes (map.map (·.1)) ++ (if columns = "none" then "" else "/" ++ columns)
    | _, _ => rows ++ "/" ++ columns

/-- A grid that grows along one axis. -/
def growing (way sizes : String) : String :=
  "auto-flow" ++ (if way.endsWith "dense" then " dense" else "") ++
    (if sizes = "auto" then "" else " " ++ sizes)

/-- All of a grid, if it can be said at once. -/
def text? (rows columns areas autoRows autoColumns way : String) : Option String :=
  let fixed := autoRows = "auto" && autoColumns = "auto" && way = "row"
  let down := !way.startsWith "column"
  if isTemplate rows columns areas && fixed then some (templateText rows columns areas)
  else if down && rows = "none" && areas = "none" && autoColumns = "auto" then
    some (growing way autoRows ++ "/" ++ columns)
  else if !down && columns = "none" && areas = "none" && autoRows = "auto" then
    some (rows ++ "/" ++ growing way autoColumns)
  else none

def templateNames : List String :=
  ["grid-template-rows", "grid-template-columns", "grid-template-areas"]

def autoNames : List String := ["grid-auto-rows", "grid-auto-columns", "grid-auto-flow"]

def writeTemplate (held : Values) : List Setting :=
  let each : List Setting := Setting.each held (templateNames ++ autoNames)
  match held.all? templateNames with
  | some [r, c, a] =>
    let whole : Option String := (held.all? autoNames).bind fun vs =>
      match vs with
      | [ar, ac, f] => text? r c a ar ac f
      | _ => none
    match whole with
    | some t => [⟨"grid", t, held.those (templateNames ++ autoNames)⟩]
    | none =>
      if isTemplate r c a then
        [⟨"grid-template", templateText r c a, held.those templateNames⟩] ++
          Setting.each held autoNames
      else each
  | _ => each

def lineNamesOf : List String :=
  ["grid-row-start", "grid-column-start", "grid-row-end", "grid-column-end"]

def write (held : Values) : List Setting :=
  let lines : List Setting :=
    match held.all? lineNamesOf with
    | some vs => [⟨"grid-area", areaText vs, held.those lineNamesOf⟩]
    | none =>
      Setting.shorthand held "grid-row" ["grid-row-start", "grid-row-end"] linesText ++
      Setting.shorthand held "grid-column" ["grid-column-start", "grid-column-end"] linesText
  let shorthands := lines.filter fun s => s.values.length != 1
  let single := lines.filter fun s => s.values.length = 1
  match writeTemplate held with
  | t :: ts =>
    if t.name = "grid" || t.name = "grid-template" then [t] ++ shorthands ++ ts ++ single
    else shorthands ++ (t :: ts) ++ single
  | [] => shorthands ++ single

end Grid

end ScopedViews.Css
