import ScopedViews.Css.Longhand
/-!
# Selectors

Reading selectors and writing them in their shortest form.  A nested selector that does not mention
its parent stands for what is inside the parent.
-/

namespace ScopedViews.Css

/-- A part of a selector's text.  Some names differ from maker to maker. -/
inductive Wording where
  | plain (text : String)
  /-- A name of the one kind or the other, under a maker's mark. -/
  | marked (kind name front : String)
  /-- The head of a choice, which some makers have under another name. -/
  | choice (front : Option String)
deriving BEq, Inhabited

namespace Wording

/-- A name as a maker spells it. -/
def spelled (name front : String) : String :=
  match name, front with
  | "fullscreen", "-webkit-" | "fullscreen", "-moz-" => "full-screen"
  | "placeholder", "-webkit-" | "placeholder", "-ms-" => "input-placeholder"
  | "file-selector-button", "-webkit-" => "file-upload-button"
  | "file-selector-button", "-ms-" => "browse"
  | _, _ => name

/-- A part as it is written for a maker, or as it stands.  A name that a maker is not meant by is
written without a mark. -/
def text (maker : Option String) : Wording → String
  | plain t => t
  | marked kind name front =>
    let front := if maker.all (· = front) then front else ""
    kind ++ front ++ spelled name front
  | choice front =>
    match maker <|> front with
    | some "-webkit-" => ":-webkit-any("
    | some "-moz-" => ":-moz-any("
    | _ => ":is("

/-- A part apart from makers. -/
def base : Wording → Wording
  | marked kind name _ => marked kind name ""
  | choice _ => choice none
  | w => w

end Wording

structure Selector where
  wording : List Wording
  /-- Whether it mentions the parent's selector. -/
  nests : Bool
  /-- Whether every browser is taken to know it, so that it may share a rule with others. -/
  known : Bool
  /-- Whether it is one condition on one element, without a name of an element. -/
  simple : Bool
  /-- The marks of makers that its names go under; the empty one if it has a name that could have
  gone under another. -/
  fronts : List String
deriving BEq, Inhabited

namespace Selector

def textFor (maker : Option String) (s : Selector) : String :=
  String.join (s.wording.map (Wording.text maker))

/-- The text of a selector as it stands. -/
def text (s : Selector) : String := s.textFor none

/-- The text of a selector apart from makers. -/
def baseText (s : Selector) : String := String.join (s.wording.map fun w => w.base.text none)

/-! ## Counting children -/

/-- `a n + b` in its shortest form. -/
def affine (a b : Int) : String :=
  let signed (b : Int) : String := if b < 0 then toString b else "+" ++ toString b
  if a = 0 then toString b
  else if a = 2 && b = 1 then "odd"
  else
    let front := if a = 1 then "n" else if a = -1 then "-n" else toString a ++ "n"
    if b = 0 then front else front ++ signed b

def int? (cs : List Char) : Option Int :=
  let (negative, digits) := Number.sign cs
  match Number.spanDigits digits with
  | ([], _) => none
  | (ds, []) =>
    let n : Int := Number.digitsValue ds
    some (if negative then -n else n)
  | _ => none

/-- The parts of `a n + b` as text without blanks. -/
def affine? (cs : List Char) : Option (Int × Int) :=
  match cs.span (· != 'n') with
  | (b, []) => (int? b).map (0, ·)
  | (a, _ :: b) => do
    let a ←
      match a with
      | [] | ['+'] => some 1
      | ['-'] => some (-1)
      | a => int? a
    match b with
    | [] => some (a, 0)
    | s :: _ => if s = '+' || s = '-' then (int? b).map (a, ·) else none

def nthToken? : Component → Option String
  | .token (.ident s) => some s.toLower
  | .token (.number n) =>
    if n.whole then some ((if n.signed && 0 ≤ n.exact then "+" else "") ++ toString n.integer)
    else none
  | .token (.dimension n unit) =>
    if n.whole then
      some ((if n.signed && 0 ≤ n.exact then "+" else "") ++ toString n.integer ++ unit.toLower)
    else none
  | .token (.delim '+') => some "+"
  | .token (.delim '-') => some "-"
  | _ => none

/-- Which children a function counts. -/
def nth? (cs : List Component) : Option String := do
  let parts ← (Component.solid cs).mapM nthToken?
  let text := String.join parts
  if text = "odd" then some (affine 2 1)
  else if text = "even" then some (affine 2 0)
  else (affine? text.toList).map fun (a, b) => affine a b

/-! ## Names that are known -/

/-- Names after one colon, in lower case, that every browser is taken to know. -/
def knownClasses : List String :=
  ["link", "visited", "active", "hover", "focus", "checked", "disabled", "enabled", "target",
    "focus-within", "focus-visible", "default", "indeterminate", "in-range", "out-of-range",
    "optional", "required", "valid", "invalid", "defined", "root", "empty", "scope", "host",
    "first-child", "last-child", "only-child", "first-of-type", "last-of-type", "only-of-type",
    "local-link", "target-within", "user-valid", "user-invalid", "blank", "open", "closed", "modal",
    "picture-in-picture", "popover-open", "playing", "paused", "current", "past", "future"]

/-- Names that may follow a single colon although they stand for parts of an element. -/
def oldElements : List String := ["before", "after", "first-line", "first-letter"]

def knownElements : List String :=
  ["before", "after", "first-line", "first-letter", "marker", "cue", "cue-region",
    "view-transition"]

/-- Names after one colon that makers have marked: each as it is written, its name, and the mark. -/
def markedClasses : List (String × String × String) :=
  [("fullscreen", "fullscreen", ""), ("-webkit-full-screen", "fullscreen", "-webkit-"),
    ("-moz-full-screen", "fullscreen", "-moz-"), ("-ms-fullscreen", "fullscreen", "-ms-"),
    ("any-link", "any-link", ""), ("-webkit-any-link", "any-link", "-webkit-"),
    ("-moz-any-link", "any-link", "-moz-"), ("read-only", "read-only", ""),
    ("-moz-read-only", "read-only", "-moz-"), ("read-write", "read-write", ""),
    ("-moz-read-write", "read-write", "-moz-"), ("placeholder-shown", "placeholder-shown", ""),
    ("-moz-placeholder-shown", "placeholder-shown", "-moz-"),
    ("-ms-placeholder-shown", "placeholder-shown", "-ms-"), ("autofill", "autofill", ""),
    ("-webkit-autofill", "autofill", "-webkit-"), ("-o-autofill", "autofill", "-o-")]

/-- Names of parts of an element that makers have marked. -/
def markedElements : List (String × String × String) :=
  [("selection", "selection", ""), ("-moz-selection", "selection", "-moz-"),
    ("placeholder", "placeholder", ""), ("-webkit-input-placeholder", "placeholder", "-webkit-"),
    ("-moz-placeholder", "placeholder", "-moz-"),
    ("-ms-input-placeholder", "placeholder", "-ms-"), ("backdrop", "backdrop", ""),
    ("-webkit-backdrop", "backdrop", "-webkit-"),
    ("file-selector-button", "file-selector-button", ""),
    ("-webkit-file-upload-button", "file-selector-button", "-webkit-"),
    ("-ms-browse", "file-selector-button", "-ms-")]

/-- Parts of a bar that scrolls, which one maker knows. -/
def scrollbars : List String :=
  ["-webkit-scrollbar", "-webkit-scrollbar-button", "-webkit-scrollbar-track",
    "-webkit-scrollbar-track-piece", "-webkit-scrollbar-thumb", "-webkit-scrollbar-corner",
    "-webkit-resizer"]

/-- What stands between compounds. -/
def combinator? : Component → Option String
  | .token (.delim '>') => some ">"
  | .token (.delim '+') => some "+"
  | .token (.delim '~') => some "~"
  | _ => none

/-! ## Attributes -/

/-- The value of an attribute as a name or as a text, whichever is shorter. -/
def attributeValue (s : String) : String :=
  let name := Written.ident s
  let text := Written.string s
  if !name.isEmpty && name.utf8ByteSize < text.utf8ByteSize then name else text

def attribute? (cs : List Component) : Option String := do
  let (front, cs) :=
    match cs with
    | .token (.delim '*') :: .token (.delim '|') :: rest => ("*|", rest)
    | .token (.delim '|') :: rest => ("", rest)
    | .token (.ident n) :: .token (.delim '|') :: rest => (Written.ident n ++ "|", rest)
    | cs => ("", cs)
  match cs with
  | .token (.ident name) :: rest =>
    let name := front ++ Written.ident name
    match rest with
    | [] => some ("[" ++ name ++ "]")
    | op :: value :: flags =>
      let op ←
        match op with
        | .token (.delim '=') => some "="
        | .token (.matching c) => some (c.toString ++ "=")
        | _ => none
      let value ←
        match value with
        | .token (.ident s) => some (attributeValue s)
        | .token (.string s) => some (attributeValue s)
        | _ => none
      let flag ←
        match flags with
        | [] => some ""
        | [.token (.ident f)] =>
          if f.toLower = "i" then some " i" else if f.toLower = "s" then some " s" else none
        | _ => none
      some ("[" ++ name ++ op ++ value ++ flag ++ "]")
    | _ => none
  | _ => none

/-! ## Reading -/

/-- Conditions on one element that have been read. -/
structure Compound where
  wording : List Wording
  /-- How many conditions there are. -/
  count : Nat
  /-- Whether an element is named, or all are meant. -/
  typed : Bool
  /-- Whether all elements are meant and nothing else is said. -/
  universal : Bool
  nests : Bool
  known : Bool
  /-- Whether a part of the element is meant. -/
  element : Bool
  fronts : List String
deriving Inhabited

namespace Compound

def empty : Compound := ⟨[], 0, false, false, false, true, false, []⟩

/-- One condition more. -/
def put (c : Compound) (ws : List Wording) : Compound :=
  { c with wording := (if c.universal then [] else c.wording) ++ ws, count := c.count + 1,
           universal := false }

def add (c : Compound) (text : String) : Compound := c.put [.plain text]

/-- A condition by a name that makers have marked. -/
def mark (c : Compound) (kind name front : String) : Compound :=
  { c.put [.marked kind name front] with
    known := c.known && front.isEmpty, fronts := Front.union c.fronts [front] }

end Compound

def skipGaps (cs : List Component) : List Component := cs.dropWhile (·.isGap)

def isComment : Component → Bool
  | .token .comment => true
  | _ => false

/-- Selectors between commas. -/
def textOf (maker : Option String) (ss : List Selector) : String :=
  ",".intercalate (ss.map (textFor maker))

def wordingOf (ss : List Selector) : List Wording :=
  (ss.map (·.wording)).intersperse [.plain ","] |>.flatten

mutual

/-- A list of selectors, each of which may start with a combinator if it is relative to another
element. -/
def list (fuel : Nat) (relative : Bool) (cs : List Component) : Option (List Selector) :=
  match fuel with
  | 0 => none
  | fuel + 1 => (Component.splitCommas cs).mapM (complex fuel relative)

/-- A selector, and what is in front of it if it is relative. -/
def complex (fuel : Nat) (relative : Bool) (cs : List Component) : Option Selector :=
  match fuel with
  | 0 => none
  | fuel + 1 =>
    match skipGaps cs with
    | [] => none
    | c :: rest =>
      match combinator? c with
      | some op =>
        if relative then
          (compounds fuel ⟨[.plain op], false, true, false, []⟩ rest)
        else none
      | none => compounds fuel ⟨[], false, true, true, []⟩ (c :: rest)

/-- The compounds that follow those read. -/
def compounds (fuel : Nat) (read : Selector) (cs : List Component) : Option Selector :=
  match fuel with
  | 0 => none
  | fuel + 1 => do
    let (c, rest) ← compound fuel Compound.empty (skipGaps cs)
    if c.count = 0 then none
    else
      let read : Selector :=
        ⟨read.wording ++ c.wording, read.nests || c.nests, read.known && c.known,
          read.simple && !c.typed && !c.element, Front.union read.fronts c.fronts⟩
      let joined (op : String) : Selector :=
        { read with wording := read.wording ++ [.plain op], simple := false }
      match skipGaps rest with
      | [] => some read
      | d :: more =>
        if c.element then none
        else
          match combinator? d with
          | some op => compounds fuel (joined op) more
          | none =>
            if rest.length = (d :: more).length then none
            else compounds fuel (joined " ") (d :: more)

/-- Conditions on one element, and what follows them. -/
def compound (fuel : Nat) (c : Compound) (cs : List Component) :
    Option (Compound × List Component) :=
  match fuel with
  | 0 => none
  | fuel + 1 =>
    let typeName (text : String) (universal : Bool) (rest : List Component) :=
      if c.count = 0 || c.nests && c.count = 1 then
        compound fuel { c with wording := c.wording ++ [.plain text], count := c.count + 1,
                               typed := true, universal := universal && c.count = 0 } rest
      else none
    match cs with
    | .token (.delim '*') :: .token (.delim '|') :: .token (.ident s) :: rest =>
      typeName ("*|" ++ Written.ident s) false rest
    | .token (.delim '*') :: .token (.delim '|') :: .token (.delim '*') :: rest =>
      typeName "*|*" false rest
    | .token (.delim '|') :: .token (.ident s) :: rest =>
      typeName ("|" ++ Written.ident s) false rest
    | .token (.ident n) :: .token (.delim '|') :: .token (.ident s) :: rest =>
      typeName (Written.ident n ++ "|" ++ Written.ident s) false rest
    | .token (.ident n) :: .token (.delim '|') :: .token (.delim '*') :: rest =>
      typeName (Written.ident n ++ "|*") false rest
    | .token (.ident _) :: .token (.delim '|') :: _ => none
    | .token (.ident s) :: rest => typeName (Written.ident s) false rest
    | .token (.delim '*') :: rest => typeName "*" true rest
    | .token (.delim '&') :: rest =>
      if c.element then none
      else compound fuel { c.add "&" with nests := true } rest
    | .token (.hash s isName) :: rest =>
      if c.element || !isName then none
      else compound fuel (c.add ("#" ++ Written.ident s)) rest
    | .token (.delim '.') :: .token (.ident s) :: rest =>
      if c.element then none else compound fuel (c.add ("." ++ Written.ident s)) rest
    | .block .square body :: rest =>
      if c.element then none
      else do compound fuel (c.add (← attribute? (Component.solid body))) rest
    | .token .colon :: .token .colon :: .token (.ident s) :: rest =>
      let name := s.toLower
      if knownElements.contains name then
        let colons := if oldElements.contains name then ":" else "::"
        compound fuel { c.add (colons ++ name) with element := true } rest
      else
        match markedElements.lookup name with
        | some (base, front) =>
          compound fuel { c.mark "::" base front with element := true } rest
        | none =>
          let text := if scrollbars.contains name then name else Written.ident s
          compound fuel { c.add ("::" ++ text) with element := true, known := false } rest
    | .token .colon :: .token .colon :: .call s body :: rest => do
      let inner ← elementArgument fuel s.toLower body
      let known := ["slotted", "part", "cue", "cue-region"].contains s.toLower
      compound fuel { c.add ("::" ++ s ++ "(" ++ inner ++ ")") with
        element := true, known := c.known && known } rest
    | .token .colon :: .token (.ident s) :: rest =>
      let name := s.toLower
      if oldElements.contains name then
        compound fuel { c.add (":" ++ name) with element := true } rest
      else if knownClasses.contains name then compound fuel (c.add (":" ++ name)) rest
      else
        match markedClasses.lookup name with
        | some (base, front) => compound fuel (c.mark ":" base front) rest
        | none => compound fuel { c.add (":" ++ Written.ident s) with known := false } rest
    | .token .colon :: .call s body :: rest => do
      compound fuel (← classCall fuel c s body) rest
    | cs => some (c, cs)

/-- What the part of an element is given. -/
def elementArgument (fuel : Nat) (name : String) (body : List Component) : Option String :=
  match fuel with
  | 0 => none
  | fuel + 1 =>
    match name with
    | "slotted" | "cue" | "cue-region" => (complex fuel false body).map (·.text)
    | "part" => do
      let names ← (Component.solid body).mapM fun c =>
        match c with
        | .token (.ident s) => some (Written.ident s)
        | _ => none
      if names.isEmpty then none else some (" ".intercalate names)
    | _ => Verbatim.text? body

/-- A condition with an argument. -/
def classCall (fuel : Nat) (c : Compound) (s : String) (body : List Component) :
    Option Compound :=
  match fuel with
  | 0 => none
  | fuel + 1 =>
    let name := s.toLower
    let wrap (head : Wording) (front : String) (c : Compound) (ss : List Selector) : Compound :=
      { c.put (head :: wordingOf ss ++ [.plain ")"]) with
        nests := c.nests || ss.any (·.nests), known := c.known && front.isEmpty && ss.all (·.known),
        fronts := Front.union c.fronts [front] }
    let head : Wording :=
      match name with
      | "is" => .choice none
      | "-webkit-any" => .choice (some "-webkit-")
      | "-moz-any" => .choice (some "-moz-")
      | _ => .plain (":" ++ name ++ "(")
    let front : String :=
      match head with
      | .choice (some f) => f
      | _ => ""
    match name with
    | "not" => (list fuel false body).map (wrap head front c)
    | "has" => (list fuel true body).map (wrap head front c)
    | "where" | "is" | "-webkit-any" | "-moz-any" =>
      if (Component.solid body).isEmpty then some (wrap head front c [])
      else
        match list fuel false body with
        | none => none
        | some [only] =>
          if name = "is" && only.simple then
            some { c.put only.wording with
              nests := c.nests || only.nests, known := c.known && only.known,
              fronts := Front.union c.fronts [""] }
          else some (wrap head front c [only])
        | some ss => some (wrap head front c ss)
    | "nth-child" | "nth-last-child" | "nth-of-type" | "nth-last-of-type" | "nth-col"
    | "nth-last-col" =>
      let (count, rest) := body.span fun c =>
        match c with
        | .token (.ident w) => w.toLower != "of"
        | _ => true
      match rest with
      | [] => (nth? count).map fun t => c.add (":" ++ name ++ "(" ++ t ++ ")")
      | _ :: rest => do
        if !(["nth-child", "nth-last-child"].contains name) then none
        let ss ← list fuel false rest
        let t ← nth? count
        some (c.add (":" ++ name ++ "(" ++ t ++ " of " ++ textOf none ss ++ ")"))
    | "host" | "host-context" => (complex fuel false body).map fun s =>
        c.add (":" ++ name ++ "(" ++ s.text ++ ")")
    | "lang" | "dir" => (Verbatim.text? body).map fun t =>
        { c.add (":" ++ name ++ "(" ++ t ++ ")") with fronts := Front.union c.fronts [""] }
    | _ => (Verbatim.text? body).map fun t =>
        { c.add (":" ++ Written.ident s ++ "(" ++ t ++ ")") with known := false }

end

def fuel (cs : List Component) : Nat := 4 * Component.weights cs + 8

/-- The selectors of a rule that is not nested. -/
def ofComponents? (cs : List Component) : Option (List Selector) :=
  list (fuel cs) false (cs.filter fun c => !isComment c)

/-- The selectors of a rule inside another. -/
def nested? (cs : List Component) : Option (List Selector) := do
  let ss ← list (fuel cs) true (cs.filter fun c => !isComment c)
  some (ss.map fun s =>
    match s.text.toList with
    | '>' :: _ | '+' :: _ | '~' :: _ =>
      { s with wording := .plain "&" :: s.wording, nests := true }
    | _ => if s.nests then s else { s with wording := .plain "& " :: s.wording, nests := true })

/-- The marks of makers that the names of some selectors go under. -/
def frontsOf (ss : List Selector) : List String :=
  ss.foldl (fun fs s => Front.union fs s.fronts) []

end Selector

end ScopedViews.Css
