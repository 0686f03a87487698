import ScopedViews.Css.Descriptor
import ScopedViews.Css.Query
import ScopedViews.Css.Selector
/-!
# Rules of a style sheet

Reading the rules of a style sheet.  Nothing is made of a sheet in which one rule or declaration is
wrong.
-/

namespace ScopedViews.Css

/-- A step of an animation: the moments it holds at and what it sets. -/
abbrev Frame := List String × Declarations

/-- Selectors, and the makers of browsers for which the rule is written, each by its mark; for none
in particular if there are no marks. -/
structure Heading where
  selectors : List Selector
  fronts : List String
deriving Inhabited

inductive Rule where
  | style (head : Heading) (body : Declarations) (rules : List Rule)
  /-- Declarations of a rule that stand behind a rule inside it. -/
  | behind (body : Declarations)
  | media (query : List Query.Medium) (rules : List Rule)
  /-- Rules under a head that asks for something. -/
  | under (head : String) (rules : List Rule)
  | layer (name : String) (rules : List Rule)
  | layers (names : List String)
  | keyframes (head name : String) (frames : List Frame)
  /-- A head and what it sets, and what it sets in boxes of its own. -/
  | declared (head : String) (body : Declarations) (boxes : List (String × Declarations))
  /-- Another sheet to be read; `layer` is the layer that takes it, which may have no name. -/
  | imported (text : String) (layer : Option String)
  | plain (text : String)
deriving Inhabited

namespace Rule

/-- How far a sheet has got: what may stand at its front comes in this order. -/
inductive Stage where
  | start
  | layers
  | imports
  | namespaces
  | body
deriving DecidableEq, Inhabited

namespace Stage

def rank : Stage → Nat
  | start => 0
  | layers => 1
  | imports => 2
  | namespaces => 3
  | body => 4

end Stage

/-- An at-rule: its name, what stands before its block or semicolon, its block, and what follows. -/
def splitRule (cs : List Component) :
    List Component × Option (List Component) × List Component :=
  match cs with
  | [] => ([], none, [])
  | .token .semicolon :: rest => ([], none, rest)
  | .block .curly body :: rest => ([], some body, rest)
  | c :: rest =>
    let (front, block, after) := splitRule rest
    (c :: front, block, after)

/-- What stands before a block, the block, and what follows; none if a semicolon comes first. -/
def splitBlock? (cs : List Component) :
    Option (List Component × List Component × List Component) :=
  match cs with
  | [] => none
  | .block .curly body :: rest => some ([], body, rest)
  | .token .semicolon :: _ => none
  | c :: rest => (splitBlock? rest).map fun (front, body, after) => (c :: front, body, after)

/-- A declaration's components, and what follows its semicolon. -/
def splitDeclaration (cs : List Component) : List Component × List Component :=
  let (front, back) := cs.span fun c =>
    match c with
    | .token .semicolon => false
    | _ => true
  (front, back.drop 1)

/-- A declaration after its name. -/
def declaration? (name : String) (cs : List Component) : Option (Declaration × Bool) :=
  match cs.dropWhile (·.isGap) with
  | .token .colon :: value => Declaration.read? name value
  | _ => none

/-! ## Declarations alone -/

/-- What follows a name as a declaration of its own kind, never important. -/
def described (read : String → List Component → Option Declaration) (name : String)
    (cs : List Component) : Option (Declaration × Bool) :=
  match cs.dropWhile (·.isGap) with
  | .token .colon :: value => (read name value).map (·, false)
  | _ => none

/-- The declarations of a block that holds nothing else. -/
def declarations? (read : String → List Component → Option (Declaration × Bool)) :
    Nat → List Component → Option Declarations
  | 0, _ => none
  | fuel + 1, cs =>
    match cs with
    | [] => some Declarations.empty
    | .token .semicolon :: rest => declarations? read fuel rest
    | .token (.ident name) :: rest => do
      let (front, after) := splitDeclaration rest
      let (d, important) ← read name front
      let ds ← declarations? read fuel after
      some (if important then { ds with important := d :: ds.important }
        else { ds with normal := d :: ds.normal })
    | c :: rest => if c.isGap then declarations? read fuel rest else none

/-- Names and what they are given, in a block that holds nothing else. -/
def descriptors? : Nat → List Component → Option (List (String × List Component))
  | 0, _ => none
  | fuel + 1, cs =>
    match cs with
    | [] => some []
    | .token .semicolon :: rest => descriptors? fuel rest
    | .token (.ident name) :: rest => do
      let (front, after) := splitDeclaration rest
      match front.dropWhile (·.isGap) with
      | .token .colon :: value =>
        (descriptors? fuel after).map ((name.toLower, value) :: ·)
      | _ => none
    | c :: rest => if c.isGap then descriptors? fuel rest else none

/-! ## Animations -/

/-- A moment of an animation. -/
def moment? (cs : List Component) : Option String :=
  match Component.solid cs with
  | [.token (.ident s)] =>
    if s.toLower = "from" then some "0%" else if s.toLower = "to" then some "to" else none
  | [.token (.percentage n)] =>
    some (if n.value == 100 then "to" else Written.percentage n.part)
  | [.token (.ident s), .token (.percentage n)] =>
    if Animation.ranges.contains s.toLower then
      some (s.toLower ++ " " ++ Written.percentage n.part)
    else none
  | _ => none

def frames? : Nat → List Component → Option (List Frame)
  | 0, _ => none
  | fuel + 1, cs =>
    match cs.dropWhile (·.isGap) with
    | [] => some []
    | cs => do
      let (front, body, rest) ← splitBlock? cs
      let moments ← (Component.splitCommas front).mapM moment?
      let ds ← declarations? declaration? (body.length + 1) body
      let more ← frames? fuel rest
      some ((moments, ds) :: more)

/-- The name of an animation: a name, or a text if it could be taken for something else. -/
def animationName? (cs : List Component) : Option String :=
  match Component.solid cs with
  | [.token (.ident s)] =>
    if Reader.common.contains s.toLower || s.toLower = "none" then none else some (Written.ident s)
  | [.token (.string s)] =>
    some (if Reader.common.contains s.toLower || s.toLower = "none" then Written.string s
      else Written.ident s)
  | _ => none

/-! ## Heads -/

/-- Names of layers, which may be inside others. -/
def layerName? (cs : List Component) : Option String := do
  let parts ← (Component.solid cs).mapM fun c =>
    match c with
    | .token (.ident s) => some (Written.ident s)
    | .token (.delim '.') => some "."
    | _ => none
  if parts.isEmpty then none else some (String.join parts)

def address? : Component → Option String
  | .token (.string s) => some s
  | .token (.url s) => some s
  | .call n body =>
    match n.toLower, Component.solid body with
    | "url", [.token (.string s)] => some s
    | _, _ => none
  | _ => none

/-- The rest of an import: its layer, what the browser must support, and media. -/
def importTail (cs : List Component) : Option (String × Option String) := do
  let (into, text, cs) ←
    match cs with
    | .token (.ident s) :: rest =>
      if s.toLower = "layer" then some (some "", " layer", rest) else some (none, "", cs)
    | .call s body :: rest =>
      if s.toLower = "layer" then
        (layerName? body).map fun n => (some n, " layer(" ++ n ++ ")", rest)
      else some (none, "", cs)
    | cs => some (none, "", cs)
  let (text, cs) ←
    match cs with
    | .call s body :: rest =>
      if s.toLower = "supports" then
        match Query.supports? body with
        | some c => some (text ++ " supports(" ++ c.text ++ ")", rest)
        | none =>
          match Query.declaration body with
          | some (.leaf t) => some (text ++ " supports" ++ t, rest)
          | _ => none
      else some (text, cs)
    | cs => some (text, cs)
  let media ← Query.media? cs
  some (if media.isEmpty then text else text ++ " " ++ Query.mediaText media, into)

def importRule? (cs : List Component) : Option Rule :=
  match Component.solid cs with
  | c :: rest => do
    let url ← address? c
    let (tail, into) ← importTail rest
    some (.imported ("@import " ++ Written.string url ++ tail ++ ";") into)
  | [] => none

def namespaceRule? (cs : List Component) : Option Rule :=
  match Component.solid cs with
  | [.token (.ident p), c] =>
    (address? c).map fun u =>
      .plain ("@namespace " ++ Written.ident p ++ " " ++ Written.string u ++ ";")
  | [c] => (address? c).map fun u => .plain ("@namespace " ++ Written.string u ++ ";")
  | _ => none

/-- Which pages a rule is for: those of a name, or those at some place. -/
def pageSelector? (cs : List Component) : Option String := do
  let rec classes : List Component → Option String
    | [] => some ""
    | .token .colon :: .token (.ident p) :: rest =>
      if ["left", "right", "first", "last", "blank"].contains p.toLower then
        (classes rest).map fun t => ":" ++ p.toLower ++ t
      else none
    | _ => none
  match cs.dropWhile (·.isGap) |>.reverse.dropWhile (·.isGap) |>.reverse with
  | [] => none
  | .token (.ident n) :: rest => (classes rest).map (Written.ident n ++ ·)
  | cs => classes cs

def pageHead? (cs : List Component) : Option String :=
  if (Component.solid cs).isEmpty then some "@page"
  else
    ((Component.splitCommas cs).mapM pageSelector?).map fun parts =>
      let text := ",".intercalate parts
      if text.startsWith ":" then "@page" ++ text else "@page " ++ text

/-- The boxes in the margin of a page. -/
def marginBoxes : List String :=
  ["top-left-corner", "top-left", "top-center", "top-right", "top-right-corner", "left-top",
    "left-middle", "left-bottom", "right-top", "right-middle", "right-bottom",
    "bottom-left-corner", "bottom-left", "bottom-center", "bottom-right", "bottom-right-corner"]

/-- What a page sets, and what it sets in the boxes of its margin. -/
def page? : Nat → List Component → Option (Declarations × List (String × Declarations))
  | 0, _ => none
  | fuel + 1, cs =>
    match cs with
    | [] => some (Declarations.empty, [])
    | .token .semicolon :: rest => page? fuel rest
    | .token (.atWord name) :: rest => do
      let (front, block, after) := splitRule rest
      if !marginBoxes.contains name.toLower || !(Component.solid front).isEmpty then none
      let body ← block
      let ds ← declarations? declaration? (body.length + 1) body
      let (set, boxes) ← page? fuel after
      some (set, ("@" ++ name.toLower, ds.apart) :: boxes)
    | .token (.ident name) :: rest => do
      let (front, after) := splitDeclaration rest
      let (d, important) ← declaration? name front
      let (set, boxes) ← page? fuel after
      some (if important then { set with important := d :: set.important }
        else { set with normal := d :: set.normal }, boxes)
    | c :: rest => if c.isGap then page? fuel rest else none

/-- Where a scope starts and where it ends. -/
def scopeHead? (cs : List Component) : Option String :=
  let bound (body : List Component) : Option String :=
    (Selector.ofComponents? body).map fun ss => "(" ++ Selector.textOf none ss ++ ")"
  match Component.solid cs with
  | [] => some "@scope"
  | [.block .round a] => (bound a).map ("@scope" ++ ·)
  | [.token (.ident w), .block .round b] =>
    if w.toLower = "to" then (bound b).map ("@scope to " ++ ·) else none
  | [.block .round a, .token (.ident w), .block .round b] =>
    if w.toLower = "to" then do some ("@scope" ++ (← bound a) ++ " to " ++ (← bound b)) else none
  | _ => none

/-- An at-rule that nothing is known of. -/
def unknown? (name : String) (front : List Component) (block : Option (List Component)) :
    Option Rule := do
  let front ← Verbatim.text? front
  let head := "@" ++ name ++ (if front.isEmpty then "" else " " ++ front)
  match block with
  | none => some (.plain (head ++ ";"))
  | some body => do
    let body ← Verbatim.text? body
    some (.plain (head ++ "\x7b" ++ body ++ "\x7d"))

/-- Adds declarations behind the rules of a block, or at its front if there are none yet. -/
def putBehind (d : Declaration) (important : Bool) (ds : Declarations) (rules : List Rule) :
    Declarations × List Rule :=
  match rules with
  | [] => (ds.add d important, [])
  | .behind last :: more => (ds, .behind (last.add d important) :: more)
  | rules => (ds, .behind (Declarations.empty.add d important) :: rules)

/-- The rules of a block that belongs to no style rule, or to one: then its own declarations come
first. -/
def inner (block : Declarations × List Rule) : List Rule :=
  if block.1.isEmpty then block.2 else .behind block.1 :: block.2

mutual

/-- The declarations and rules of a block.  Rules read so far are held the last first. -/
def body (fuel : Nat) (inStyle : Bool) (ds : Declarations) (rules : List Rule)
    (cs : List Component) : Option (Declarations × List Rule) :=
  match fuel with
  | 0 => none
  | fuel + 1 =>
    match cs with
    | [] => some (ds, rules.reverse)
    | .token .semicolon :: rest => body fuel inStyle ds rules rest
    | .token (.atWord name) :: rest => do
      let (front, block, after) := splitRule rest
      let r ← atRule fuel inStyle name front block
      body fuel inStyle ds (r.toList ++ rules) after
    | .token (.ident name) :: rest =>
      let (value, after) := splitDeclaration rest
      match if inStyle then declaration? name value else none with
      | some (d, important) =>
        let (ds, rules) := putBehind d important ds rules
        body fuel inStyle ds rules after
      | none => do
        let (front, block, after) ← splitBlock? cs
        let r ← qualified fuel inStyle front block
        body fuel inStyle ds (r :: rules) after
    | c :: rest =>
      if c.isGap then body fuel inStyle ds rules rest
      else do
        let (front, block, after) ← splitBlock? cs
        let r ← qualified fuel inStyle front block
        body fuel inStyle ds (r :: rules) after

/-- A rule that starts with selectors. -/
def qualified (fuel : Nat) (inStyle : Bool) (front block : List Component) : Option Rule :=
  match fuel with
  | 0 => none
  | fuel + 1 => do
    let selectors ← if inStyle then Selector.nested? front else Selector.ofComponents? front
    let (ds, rules) ← body fuel true Declarations.empty [] block
    some (.style ⟨selectors, []⟩ ds rules)

/-- A rule that starts with a name after an at-sign; nothing, if it says nothing. -/
def atRule (fuel : Nat) (inStyle : Bool) (name : String) (front : List Component)
    (block : Option (List Component)) : Option (Option Rule) :=
  match fuel with
  | 0 => none
  | fuel + 1 =>
    let lower := name.toLower
    let rules (make : List Rule → Rule) : Option (Option Rule) := do
      let b ← body fuel inStyle Declarations.empty [] (← block)
      some (some (make (inner b)))
    let alone (head : String)
        (read : String → List Component → Option (Declaration × Bool)) : Option (Option Rule) := do
      if inStyle then none
      let b ← block
      let ds ← declarations? read (b.length + 1) b
      some (some (.declared head ds.apart []))
    let plain := described Descriptor.other
    let nothing : Bool := (Component.solid front).isEmpty
    match lower with
    | "media" => do
      let q ← Query.media? front
      rules (.media q)
    | "supports" => do
      let c ← Query.supports? front
      rules (.under ("@supports " ++ c.text))
    | "container" => do
      let c ← Query.container? front
      rules (.under ("@container " ++ c))
    | "starting-style" => if nothing then rules (.under "@starting-style") else none
    | "scope" => do
      let h ← scopeHead? front
      rules (.under h)
    | "layer" =>
      match block with
      | none => do
        if inStyle then none
        let names ← (Component.splitCommas front).mapM layerName?
        some (some (.layers names))
      | some _ =>
        if nothing then rules (.layer "")
        else do
          let n ← layerName? front
          rules (.layer n)
    | "font-face" => if nothing then alone "@font-face" (described Descriptor.font) else none
    | "page" => do
      let h ← pageHead? front
      if inStyle then none
      let b ← block
      let (ds, boxes) ← page? (b.length + 1) b
      some (some (.declared h ds.apart boxes))
    | "font-palette-values" => do
      alone ("@" ++ lower ++ " " ++ (← Reader.all? Property.dashed front))
        (described Descriptor.palette)
    | "property" => do
      let n ← Reader.all? Property.dashed front
      if inStyle then none
      let ds ← Descriptor.property? (← descriptors? ((← block).length + 1) (← block))
      some (some (.declared ("@property " ++ n) ds []))
    | "counter-style" => do
      let n ← Reader.all? Reader.custom front
      alone ("@" ++ lower ++ " " ++ n) declaration?
    | "viewport" | "-ms-viewport" => if nothing then alone ("@" ++ lower) declaration? else none
    | "view-transition" => if nothing then alone "@view-transition" plain else none
    | "keyframes" | "-webkit-keyframes" | "-moz-keyframes" | "-o-keyframes" | "-ms-keyframes" => do
      if inStyle then none
      let n ← animationName? front
      let b ← block
      let frames ← frames? (b.length + 1) b
      some (some (.keyframes ("@" ++ lower) n frames))
    | "import" | "namespace" | "charset" | "custom-media" =>
      (unknown? name front block).map some
    | "nest" =>
      if inStyle then do
        let b ← block
        let selectors ← Selector.nested? front
        let (ds, rules) ← body fuel true Declarations.empty [] b
        some (some (.style ⟨selectors, []⟩ ds rules))
      else (unknown? name front block).map some
    | _ => (unknown? name front block).map some

end

/-- The rules of a sheet, which holds the last first. -/
def sheet : Nat → Stage → Bool → List Rule → List Component → Option (List Rule)
  | 0, _, _, _, _ => none
  | fuel + 1, stage, first, rules, cs =>
    match cs with
    | [] => some rules.reverse
    | .token .markup :: rest => sheet fuel stage first rules rest
    | .token (.atWord name) :: rest =>
      let (front, block, after) := splitRule rest
      let lower := name.toLower
      let deep := 2 * Component.weights cs + 4
      if lower = "charset" then
        if first then sheet fuel stage false rules after
        else
          match Component.solid front, block with
          | [.token (.string _)], none => sheet fuel stage false rules after
          | _, _ => none
      else if lower = "import" then do
        if Stage.imports.rank < stage.rank || block.isSome then none
        let r ← importRule? front
        sheet fuel .imports false (r :: rules) after
      else if lower = "namespace" then do
        if Stage.namespaces.rank < stage.rank || block.isSome then none
        let r ← namespaceRule? front
        sheet fuel .namespaces false (r :: rules) after
      else if lower = "custom-media" then do
        match (Component.solid front), block with
        | .token (.ident n) :: query, none =>
          if n.startsWith "--" then
            let q ← Query.media? query
            sheet fuel .body false
              (.plain ("@custom-media " ++ Written.ident n ++ " " ++ Query.mediaText q ++ ";") ::
                rules) after
          else none
        | _, _ => none
      else do
        let r ← atRule deep false name front block
        let stage :=
          match r with
          | some (.layers _) =>
            if stage.rank ≤ Stage.layers.rank then Stage.layers else Stage.body
          | some (.plain _) => if block.isSome then .body else stage
          | _ => .body
        sheet fuel stage false (r.toList ++ rules) after
    | c :: rest =>
      if c.isGap then sheet fuel stage first rules rest
      else do
        let (front, block, after) ← qualifiedSplit? cs
        let r ← qualified (2 * Component.weights cs + 4) false front block
        sheet fuel .body false (r :: rules) after
where
  /-- At the top, a semicolon does not end what stands before a block. -/
  qualifiedSplit? : List Component → Option (List Component × List Component × List Component)
    | [] => none
    | .block .curly body :: rest => some ([], body, rest)
    | c :: rest =>
      (qualifiedSplit? rest).map fun (front, body, after) => (c :: front, body, after)

/-- The rules of a style sheet. -/
def read? (source : String) : Option (List Rule) :=
  let cs := Component.read source
  sheet (cs.length + 1) .start true [] cs

end Rule

end ScopedViews.Css
