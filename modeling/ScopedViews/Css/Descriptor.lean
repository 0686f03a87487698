import ScopedViews.Css.Declarations
/-!
# Descriptors

What fonts, palettes of fonts and properties that authors make up are described by.  Few of the
names mean what they mean in a style rule.
-/

namespace ScopedViews.Css

namespace Descriptor

open Reader

/-! ## Ranges of characters -/

/-- The characters from one code point to another. -/
structure CodeRange where
  first : Nat
  last : Nat
deriving BEq, Inhabited

namespace CodeRange

def hex (n : Nat) : String := (String.ofList (Nat.toDigits 16 n)).map Char.toUpper

/-- The value of some hexadecimal digits. -/
def value (digits : List Char) : Nat :=
  digits.foldl (fun n c => 16 * n + (Number.hexDigit? c).getD 0) 0

/-- A plus sign and up to six digits, of which the last may be open, or two bounds. -/
def ofChars? (cs : List Char) : Option CodeRange := do
  let cs ← match cs with
    | '+' :: cs => some cs
    | _ => none
  let isHex (c : Char) : Bool := (Number.hexDigit? c).isSome
  let (digits, rest) := cs.span isHex
  let (holes, rest) := rest.span (· = '?')
  let count := digits.length + holes.length
  if count = 0 || 6 < count then none
  else
    match holes, rest with
    | _ :: _, [] =>
      let scale := Nat.pow 16 holes.length
      some ⟨value digits * scale, (value digits + 1) * scale - 1⟩
    | [], [] => some ⟨value digits, value digits⟩
    | [], '-' :: last =>
      if !last.isEmpty && last.length ≤ 6 && last.all isHex then
        some ⟨value digits, value last⟩
      else none
    | _, _ => none

/-- The number of last digits that are zero in the first and fifteen in the last code point, while
those before them are the same. -/
def holes? (r : CodeRange) : Option Nat :=
  ((List.range 6).map (· + 1)).find? fun n =>
    let scale := Nat.pow 16 n
    r.first % scale = 0 && r.last % scale = scale - 1 && r.first / scale = r.last / scale

def text (r : CodeRange) : String :=
  match r.holes? with
  | some n =>
    let front := r.first / Nat.pow 16 n
    "U+" ++ (if front = 0 then "" else hex front) ++ String.ofList (List.replicate n '?')
  | none =>
    if r.first = r.last then "U+" ++ hex r.first else "U+" ++ hex r.first ++ "-" ++ hex r.last

end CodeRange

/-- A range, which is made of several components without gaps. -/
def codeRange? (cs : List Component) : Option String :=
  let cs := (cs.dropWhile (·.isGap)).reverse.dropWhile (·.isGap) |>.reverse
  match cs with
  | .token (.ident u) :: rest =>
    if u.toLower = "u" then do
      let text ← rest.mapM fun c =>
        match c with
        | .token (.number n) => some n.written
        | .token (.dimension n unit) => some (n.written ++ unit)
        | .token (.ident s) => some s
        | .token (.delim c) => some c.toString
        | _ => none
      let r ← CodeRange.ofChars? (String.join text).toList
      if r.last ≤ 0x10FFFF && r.first ≤ r.last then some r.text else none
    else none
  | _ => none

/-! ## Fonts -/

def formats : List String :=
  ["woff", "woff2", "truetype", "opentype", "embedded-opentype", "collection", "svg"]

def technologies : List String :=
  ["features-opentype", "features-aat", "features-graphite", "color-colrv0", "color-colrv1",
    "color-svg", "color-sbix", "color-cbdt", "variations", "palettes", "incremental"]

def format : Reader String :=
  pick fun c =>
    match c with
    | .token (.ident s) | .token (.string s) =>
      some (Written.string (if formats.contains s.toLower then s.toLower else s))
    | _ => none

/-- Where a font is taken from. -/
def source : Reader String :=
  oneOf [(fun name => "local(" ++ name ++ ")") <$> inside "local" Font.family, do
    let u ← url
    let f ← Reader.optional (inside "format" format)
    let t ← Reader.optional (inside "tech" (oneOf [commaText (keyword technologies)]))
    pure (u ++ (f.elim "" fun f => "format(" ++ f ++ ")") ++
      (t.elim "" fun t => "tech(" ++ t ++ ")"))]

/-- A slant between two angles. -/
def slant : Reader String :=
  oneOf [keyword ["normal", "italic"], do
    let o ← keyword ["oblique"]
    let a := (← Reader.optional angleUnit).getD "14deg"
    let b := (← Reader.optional angleUnit).getD a
    pure (if a = "14deg" && b = "14deg" then o else o ++ " " ++ Setting.pairText a b)]

def font (name : String) (value : List Component) : Option Declaration :=
  let lower := name.toLower
  let read : Option String :=
    match lower with
    | "src" => all? (commaText source) value
    | "font-family" => all? Font.family value
    | "font-weight" => all? (pair Font.weight) value
    | "font-stretch" => all? (pair Font.stretch) value
    | "font-style" => all? slant value
    | "unicode-range" => ((Component.splitCommas value).mapM codeRange?).map (",".intercalate ·)
    | _ => none
  match read with
  | some s => some (Declaration.plain lower s)
  | none => (Verbatim.text? value).map (Declaration.plain name)

/-! ## Palettes -/

def palette (name : String) (value : List Component) : Option Declaration :=
  let lower := name.toLower
  let isIndex (n : Int) : Bool := 0 ≤ n && n < 65536
  let index : Reader String := do
    let n ← wholeNumber
    if isIndex n then pure (toString n) else failure
  let read : Option String :=
    match lower with
    | "font-family" => all? (commaText Font.family) value
    | "base-palette" => all? (oneOf [keyword ["light", "dark"], index]) value
    | "override-colors" =>
      all? (commaText (do
        let n ← index
        pure (n ++ " " ++ (← color)))) value
    | _ => none
  match read with
  | some s => some (Declaration.plain lower s)
  | none => (Verbatim.text? value).map (Declaration.plain name)

/-! ## Properties that authors make up -/

/-- How often a kind of value may stand in a row. -/
inductive Multiple where
  | once
  | spaced
  | commas
deriving DecidableEq, Inhabited

/-- One of the forms that a property's values may have: a kind in angle brackets or a word. -/
structure Form where
  kind : String
  isWord : Bool
  multiple : Multiple
deriving Inhabited

namespace Form

def reader (f : Form) : Reader String :=
  if f.isWord then do
    let w ← custom
    if w = f.kind then pure w else failure
  else
    match f.kind with
    | "length" => length
    | "number" => numberText
    | "percentage" => percentage
    | "length-percentage" => lengthPercentage
    | "string" => Reader.text
    | "color" => color
    | "image" => image
    | "url" => url
    | "integer" => integer
    | "angle" => angleUnit
    | "time" => time
    | "resolution" => ImageSet.resolution
    | "transform-function" => Transform.function
    | "transform-list" => String.join <$> many1 Transform.function
    | "custom-ident" => custom
    | _ => failure

def kinds : List String :=
  ["length", "number", "percentage", "length-percentage", "string", "color", "image", "url",
    "integer", "angle", "time", "resolution", "transform-function", "transform-list",
    "custom-ident"]

def ofText? (text : String) : Option Form :=
  let cs := text.toList
  let (cs, multiple) : List Char × Multiple :=
    match cs.reverse with
    | '+' :: rest => (rest.reverse, .spaced)
    | '#' :: rest => (rest.reverse, .commas)
    | _ => (cs, .once)
  match cs with
  | '<' :: rest =>
    let kind := String.ofList rest.dropLast
    if rest.getLast? = some '>' && kinds.contains kind &&
        (kind != "transform-list" || multiple = .once) then
      some ⟨kind, false, multiple⟩
    else none
  | cs => if cs.all Token.isNamePart && !cs.isEmpty then some ⟨String.ofList cs, true, multiple⟩
    else none

def text (f : Form) : String :=
  (if f.isWord then Written.ident f.kind else "<" ++ f.kind ++ ">") ++
    match f.multiple with
    | .once => ""
    | .spaced => "+"
    | .commas => "#"

/-- A value of some form; what follows one that stands alone counts for nothing. -/
def value? (f : Form) (cs : List Component) : Option String :=
  match f.multiple with
  | .once => (f.reader.run cs).map (·.1)
  | .spaced => all? (Reader.spaced f.reader) cs
  | .commas => all? (commaText f.reader) cs

end Form

/-- The forms that a text allows; none of them, if every value is allowed. -/
def forms? (text : String) : Option (List Form) :=
  let trim (cs : List Char) : List Char :=
    (cs.dropWhile Token.isBlank).reverse.dropWhile Token.isBlank |>.reverse
  if trim text.toList = ['*'] then some []
  else (text.splitOn "|").mapM fun t => Form.ofText? (String.ofList (trim t.toList))

/-- What describes a property: its forms, whether it is inherited, and its value at first. -/
def property? (cs : List (String × List Component)) : Option Declarations := do
  if cs.any fun (n, _) => !(["syntax", "inherits", "initial-value"].contains n) then none
  let (_, said) ← cs.reverse.find? (·.1 == "syntax")
  let forms ←
    match Component.solid said with
    | [.token (.string s)] => forms? s
    | _ => none
  let inherits ← all? (keyword ["true", "false"]) (← cs.reverse.find? (·.1 == "inherits")).2
  let value := (cs.reverse.find? (·.1 == "initial-value")).map (·.2)
  let first ←
    match forms, value with
    | [], none => some []
    | [], some v => (Verbatim.text? v).map fun t => [Declaration.plain "initial-value" t]
    | _, none => none
    | fs, some v => (fs.findSome? fun f => f.value? (Component.solid v)).map fun t =>
        [Declaration.plain "initial-value" t]
  let allowed := if forms.isEmpty then "*" else "|".intercalate (forms.map Form.text)
  some ⟨Declaration.plain "syntax" (Written.string allowed) ::
    Declaration.plain "inherits" inherits :: first, []⟩

/-- A declaration whose name means nothing elsewhere. -/
def other (name : String) (value : List Component) : Option Declaration :=
  (Verbatim.text? value).map (Declaration.plain name)

end Descriptor

end ScopedViews.Css
