import ScopedViews.Css.Property
/-!
# Conditions of rules

What a rule may ask of the medium, of the browser and of a container.  Least and greatest values are
written as ranges, and brackets only where they are needed.
-/

namespace ScopedViews.Css

inductive Condition where
  | leaf (text : String)
  /-- A feature that is compared with a value. -/
  | range (feature op value : String)
  | not (c : Condition)
  | join (op : String) (cs : List Condition)
deriving Inhabited

namespace Condition

/-- The comparison that holds where another does not. -/
def negated (op : String) : String :=
  match op with
  | "<" => ">="
  | "<=" => ">"
  | ">" => "<="
  | ">=" => "<"
  | op => op

/-- The same comparison with its sides exchanged. -/
def flipped (op : String) : String :=
  match op with
  | "<" => ">"
  | "<=" => ">="
  | ">" => "<"
  | ">=" => "<="
  | op => op

/-- Whether a condition needs brackets inside another that joins by `op`. -/
def bracketed (op : String) : Condition → Bool
  | .not (.range _ o _) => o = "="
  | .not (.not _) => false
  | .not _ => true
  | .join o _ => o != op
  | _ => false

mutual

def text : Condition → String
  | .leaf s => s
  | .range f op v => "(" ++ f ++ op ++ v ++ ")"
  | .not c => denied c
  | .join op cs => joined op cs

/-- A condition that must not hold. -/
def denied : Condition → String
  | .leaf s => "not " ++ s
  | .range f op v =>
    if op = "=" then "not (" ++ f ++ op ++ v ++ ")" else "(" ++ f ++ negated op ++ v ++ ")"
  | .not c => text c
  | .join op cs => "not (" ++ joined op cs ++ ")"

def joined (op : String) : List Condition → String
  | [] => ""
  | [c] => inner op c
  | c :: d :: cs => inner op c ++ " " ++ op ++ " " ++ joined op (d :: cs)

def inner (op : String) : Condition → String
  | .leaf s => s
  | .range f o v => "(" ++ f ++ o ++ v ++ ")"
  | .not c =>
    if bracketed op (.not c) then "(" ++ denied c ++ ")" else denied c
  | .join o cs => if o = op then joined o cs else "(" ++ joined o cs ++ ")"

end

def isWord (w : String) : Component → Bool
  | .token (.ident s) => s.toLower = w
  | _ => false

mutual

/-- Conditions joined by one of two words, of which `leaf` reads what is in brackets and `call` what
is not. -/
def read (leaf : List Component → Option Condition) (call : Component → Option Condition)
    (either : Bool) : Nat → List Component → Option (Condition × List Component)
  | 0, _ => none
  | fuel + 1, cs =>
    match Component.solid cs with
    | [] => none
    | c :: rest =>
      if isWord "not" c then
        match rest with
        | d :: rest => (single leaf call fuel d).map fun c => (.not c, rest)
        | [] => none
      else do
        let first ← single leaf call fuel c
        match rest with
        | w :: d :: more =>
          if isWord "and" w then more? leaf call "and" fuel [first] (w :: d :: more)
          else if isWord "or" w && either then more? leaf call "or" fuel [first] (w :: d :: more)
          else some (first, rest)
        | rest => some (first, rest)

/-- What follows conditions that have been read, as long as the same word joins them. -/
def more? (leaf : List Component → Option Condition) (call : Component → Option Condition)
    (op : String) : Nat → List Condition → List Component → Option (Condition × List Component)
  | 0, _, _ => none
  | fuel + 1, acc, cs =>
    match cs with
    | w :: d :: rest =>
      if isWord op w then do
        let c ← single leaf call fuel d
        more? leaf call op fuel (c :: acc) rest
      else some (.join op acc.reverse, cs)
    | cs => some (.join op acc.reverse, cs)

def single (leaf : List Component → Option Condition) (call : Component → Option Condition) :
    Nat → Component → Option Condition
  | 0, _ => none
  | fuel + 1, c =>
    match c with
    | .block .round body =>
      match read leaf call true fuel body with
      | some (inner, []) => some inner
      | _ => leaf body
    | c => call c

end

end Condition

namespace Query

/-- Features that can be compared. -/
def ranged : List String :=
  ["width", "height", "aspect-ratio", "resolution", "color", "color-index", "monochrome",
    "device-width", "device-height", "device-aspect-ratio", "-webkit-device-pixel-ratio",
    "-moz-device-pixel-ratio", "horizontal-viewport-segments", "vertical-viewport-segments",
    "inline-size", "block-size"]

/-- Takes a front off a text. -/
def dropFront? (front s : String) : Option String :=
  if s.startsWith front then some (String.ofList (s.toList.drop front.length)) else none

/-- A feature's name, and the comparison that it asks for. -/
def feature (name : String) : String × Option String :=
  let lower := name.toLower
  let (maker, base) :=
    match dropFront? "-webkit-" lower with
    | some b => ("-webkit-", b)
    | none => ("", lower)
  let (base, op) :=
    match dropFront? "min-" base, dropFront? "max-" base with
    | some b, _ => (b, some ">=")
    | none, some b => (b, some "<=")
    | none, none => (base, none)
  if ranged.contains (maker ++ base) then (maker ++ base, op)
  else if name.startsWith "--" then (name, none)
  else (lower, none)

/-- The value of a feature, and what follows it. -/
def value : Reader String :=
  Reader.oneOf [
    do
      let a ← Reader.numberText
      let _ ← Reader.mark '/'
      let b ← Reader.numberText
      pure (if b = "1" then a else a ++ "/" ++ b),
    Reader.numberText,
    Reader.length,
    ImageSet.resolution,
    Reader.pick fun c =>
      match c with
      | .token (.ident s) => some (Written.ident s)
      | .call n _ => if n.toLower = "env" then Verbatim.text? [c] else none
      | _ => none]

def isIdent (v : String) : Bool := v.toList.head?.any fun c => c.isAlpha

def comparison : Reader String :=
  Reader.oneOf [
    do
      let _ ← Reader.mark '<'
      match ← Reader.optional (Reader.mark '=') with
      | some _ => pure "<="
      | none => pure "<",
    do
      let _ ← Reader.mark '>'
      match ← Reader.optional (Reader.mark '=') with
      | some _ => pure ">="
      | none => pure ">",
    do
      let _ ← Reader.mark '='
      pure "="]

def name : Reader String :=
  Reader.pick fun c =>
    match c with
    | .token (.ident s) => some s
    | _ => none

/-- A feature in brackets. -/
def nameFirst : Reader Condition := do
  let (f, op) := feature (← name)
  let known := ranged.contains f
  match ← Reader.optional (Reader.pick fun c =>
    match c with
    | .token .colon => some ()
    | _ => none) with
  | some _ => do
    let v ← value
    if known && isIdent v then failure
    else
      match op with
      | some op => pure (.range f op v)
      | none => pure (.leaf ("(" ++ f ++ ":" ++ v ++ ")"))
  | none =>
    match ← Reader.optional comparison with
    | some o => do
      let v ← value
      if op.isSome || !known && !f.startsWith "--" || isIdent v then failure
      else pure (.range f o v)
    | none => if op.isSome then failure else pure (.leaf ("(" ++ f ++ ")"))

def valueFirst : Reader Condition := do
  let v ← value
  let o ← comparison
  let (f, op) := feature (← name)
  if op.isSome then failure
  else
    match ← Reader.optional comparison with
    | none => pure (.range f (Condition.flipped o) v)
    | some p => do
      let w ← value
      if o.toList.head? = p.toList.head? && o != "=" then
        pure (.leaf ("(" ++ v ++ o ++ f ++ p ++ w ++ ")"))
      else failure

def leaf (body : List Component) : Option Condition :=
  Reader.all? (Reader.oneOf [
    fun cs => (nameFirst.run cs).filter (·.2.isEmpty),
    fun cs => (valueFirst.run cs).filter (·.2.isEmpty)]) body

def fuel (cs : List Component) : Nat := 4 * Component.weights cs + 8

/-- One of the media that a rule is for. -/
structure Medium where
  /-- `only` or `not`. -/
  qualifier : String
  type : String
  condition : Option Condition
deriving Inhabited

namespace Medium

def read? (cs : List Component) : Option Medium :=
  let cs := Component.solid cs
  let condition (either : Bool) (cs : List Component) : Option Condition :=
    match Condition.read leaf (fun _ => none) either (fuel cs) cs with
    | some (c, []) => some c
    | _ => none
  let typed (qualifier : String) (cs : List Component) : Option Medium :=
    match cs with
    | .token (.ident s) :: rest =>
      let t := s.toLower
      if ["not", "only", "and", "or", "layer"].contains t then none
      else
        let t := if ["all", "screen", "print"].contains t then t else s
        match rest with
        | [] => some ⟨qualifier, t, none⟩
        | w :: rest =>
          if Condition.isWord "and" w then
            (condition false rest).map fun c => ⟨qualifier, t, some c⟩
          else none
    | _ => none
  match cs with
  | .token (.ident s) :: rest =>
    let q := s.toLower
    if q = "only" then typed q rest
    else if q = "not" then
      match typed q rest with
      | some m => some m
      | none => (condition true cs).map fun c => ⟨"", "all", some c⟩
    else typed "" cs
  | cs => (condition true cs).map fun c => ⟨"", "all", some c⟩

def text (m : Medium) : String :=
  let front := if m.qualifier.isEmpty then "" else m.qualifier ++ " "
  match m.condition with
  | none => front ++ m.type
  | some c =>
    if m.type = "all" && m.qualifier.isEmpty then c.text
    else
      let body :=
        match c with
        | .join "or" _ => "(" ++ c.text ++ ")"
        | _ => c.text
      front ++ m.type ++ " and " ++ body

def always (m : Medium) : Bool :=
  m.qualifier.isEmpty && m.type = "all" && m.condition.isNone

def never (m : Medium) : Bool :=
  m.qualifier = "not" && m.type = "all" && m.condition.isNone

end Medium

namespace Medium

/-- Whether a medium ends where more is needed. -/
def breaksOff (cs : List Component) : Bool :=
  match (Component.solid cs).reverse with
  | [] => true
  | w :: before =>
    let front := before.reverse
    let plain (m : Medium) : Bool := m.type = "all" && m.qualifier.isEmpty
    if Condition.isWord "and" w then
      (Medium.read? front).any fun m =>
        match m.condition with
        | some (.join "or" _) | some (.not _) => false
        | _ => true
    else if Condition.isWord "or" w then
      (Medium.read? front).any fun m =>
        match m.condition with
        | some (.join "and" _) | some (.not _) | none => false
        | _ => plain m
    else if Condition.isWord "not" w then
      match before with
      | [] => true
      | v :: before =>
        Condition.isWord "and" v && (Medium.read? before.reverse).any (·.condition.isNone)
    else false

end Medium

/-- The media of a rule, between commas.  The last of them may break off, and then counts for
nothing. -/
def media? (cs : List Component) : Option (List Medium) :=
  let parts := Component.splitCommas cs
  let parts := if Medium.breaksOff (parts.getLastD []) then parts.dropLast else parts
  parts.mapM Medium.read?

def mediaText (ms : List Medium) : String := ",".intercalate (ms.map Medium.text)

mutual

/-- Components as they stand, with one blank for any gap. -/
def raw : Component → String
  | .token (.percentage n) => n.written ++ "%"
  | .token (.number n) => n.written
  | .token (.dimension n u) => n.written ++ u
  | .token (.hash s _) => "#" ++ s
  | .token (.delim c) => c.toString
  | .token .comma => ","
  | .token .blank => " "
  | .token .comment => ""
  | .token t => (Verbatim.token? t).getD ""
  | .block b body => b.opening.toString ++ raws body ++ b.closing.toString
  | .call n body => n ++ "(" ++ raws body ++ ")"

def raws : List Component → String
  | [] => ""
  | c :: cs => raw c ++ raws cs

end

/-- A declaration that the browser is asked about. -/
def declaration (body : List Component) : Option Condition :=
  match body.dropWhile (·.isGap) with
  | .token (.ident n) :: rest =>
    match rest.dropWhile (·.isGap) with
    | .token .colon :: value =>
      let text := raws (value.dropWhile (·.isGap))
      let (front, name) :=
        match Property.find? n.toLower with
        | some (front, base, _) => (front, front ++ base)
        | none => ("", n)
      let pair := "(" ++ name ++ ":" ++ text ++ ")"
      some (.leaf (if front.isEmpty then pair else "(" ++ pair ++ ")"))
    | _ => none
  | _ => none

/-- What a browser is asked to support. -/
def supports? (cs : List Component) : Option Condition :=
  let unknown (c : Component) : Option Condition :=
    match c with
    | .call _ _ => some (.leaf (raw c))
    | _ => none
  let leaf (body : List Component) : Option Condition :=
    match declaration body with
    | some c => some c
    | none => some (.leaf ("(" ++ raws body ++ ")"))
  match Condition.read leaf unknown true (fuel cs) cs with
  | some (c, []) => some c
  | _ => none

/-- A container's name, if it is given one, and what is asked of it. -/
def container? (cs : List Component) : Option String :=
  let call (c : Component) : Option Condition :=
    match c with
    | .call n body => if n.toLower = "style" then
        match declaration body with
        | some (.leaf t) => some (.leaf ("style" ++ t))
        | _ => none
      else none
    | _ => none
  let condition (cs : List Component) : Option String :=
    match Condition.read leaf call true (fuel cs) cs with
    | some (c, []) => some c.text
    | _ => none
  match Component.solid cs with
  | .token (.ident n) :: rest =>
    if ["not", "and", "or", "none"].contains n.toLower then condition cs
    else if rest.isEmpty then some (Written.ident n)
    else (condition rest).map fun t => Written.ident n ++ " " ++ t
  | cs => condition cs

end Query

end ScopedViews.Css
