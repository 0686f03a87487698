import ScopedViews.Text.Case
import ScopedViews.Text.Pattern
/-!
# Scoped blocks

Style and script elements that a view owns or imports:

    <style data-scoped lang="less"> … </style>      an owned style
    <script data-import="partials/nav"></script>    an imported script

`data-inside` stands for `data-scoped` and `data-same` for `data-import`.  Blocks are found by
their shape in the text, in any case, and not by reading the markup around them.
-/

namespace ScopedViews

/-- A block with what the view says in it. -/
inductive Block where
  | ownedStyle (dialect body : String)
  | importedStyle (target : String)
  | ownedScript (body : String)
  | importedScript (target : String)
deriving Repr, DecidableEq, Inhabited

namespace Block

inductive Kind where
  | ownedStyle | importedStyle | ownedScript | importedScript
deriving Repr, DecidableEq

def Kind.name : Kind → String
  | .ownedStyle => "owned style"
  | .importedStyle => "imported style"
  | .ownedScript => "owned script"
  | .importedScript => "imported script"

/-- The kinds in the order in which a view is searched for them. -/
def kinds : List Kind := [.ownedStyle, .importedStyle, .ownedScript, .importedScript]

/-- The name of the element that holds blocks of a kind. -/
def Kind.element : Kind → List Char
  | .ownedStyle | .importedStyle => ['s', 't', 'y', 'l', 'e']
  | .ownedScript | .importedScript => ['s', 'c', 'r', 'i', 'p', 't']

/-- The dialect of a style that names none. -/
def defaultDialect : String := "css"

/-- What follows one of two words. -/
def afterEither? (first second : String) (cs : List Char) : Option (List Char) :=
  (Text.afterWord? first.toList cs).or (Text.afterWord? second.toList cs)

/-- What follows the attribute that marks a block as owned. -/
def afterOwnedMarker? (passed cs : List Char) : Option (List Char) :=
  if Text.breaksWord passed then afterEither? "data-scoped" "data-inside" cs else none

/-- What follows the attribute that marks a block as imported. -/
def afterImportMarker? (passed cs : List Char) : Option (List Char) :=
  if Text.breaksWord passed then afterEither? "data-import" "data-same" cs else none

/-- A single or a double quote. -/
def isQuote (c : Char) : Bool := c.toNat = 34 || c.toNat = 39

/-- The quoted value after an equals sign, and what follows it. -/
def attributeValue? (cs : List Char) : Option (List Char × List Char) :=
  match Text.skipBlanks cs with
  | '=' :: cs =>
    match Text.skipBlanks cs with
    | [] => none
    | opening :: cs =>
      if isQuote opening then
        match cs.span (!isQuote ·) with
        | (_, []) => none
        | (value, _ :: rest) => some (value, rest)
      else none
  | _ => none

/-- A value that is not empty. -/
def nonEmptyValue? (cs : List Char) : Option (List Char) :=
  match attributeValue? cs with
  | some (value, _) => if value.isEmpty then none else some value
  | none => none

/-- What follows `<` and the name of an element. -/
def afterOpening? (element cs : List Char) : Option (List Char) :=
  match Text.afterWord? ('<' :: element) cs with
  | some rest => if Text.breaksWord rest then some rest else none
  | none => none

/-- What follows the closing tag of an element. -/
def afterClosing? (element cs : List Char) : Option (List Char) :=
  match Text.afterWord? ('<' :: '/' :: element) cs with
  | some rest =>
    match Text.skipBlanks rest with
    | '>' :: rest => some rest
    | _ => none
  | none => none

/-- The attributes of an owned element, its body up to the first closing tag, and what follows. -/
def owned? (element cs : List Char) : Option (List Char × List Char × List Char) :=
  match afterOpening? element cs with
  | none => none
  | some inner =>
    match inner.span (· != '>') with
    | (_, []) => none
    | (attributes, _ :: content) =>
      let marked := Text.seek?
        (fun passed cs => (afterOwnedMarker? passed cs).filter Text.breaksWord) [] attributes
      if marked.isNone then none
      else
        (Text.seek? (fun _ cs => afterClosing? element cs) [] content).map
          fun (body, _, rest) => (attributes, body.reverse, rest)

/-- The target that an import marker gives, if the tag ends after it and the element is empty, and
what follows the element. -/
def importAt? (element passed cs : List Char) : Option (List Char × List Char) := do
  let cs ← afterImportMarker? passed cs
  let (target, cs) ← attributeValue? cs
  match cs.dropWhile (· != '>') with
  | [] => none
  | _ :: cs => (afterClosing? element (Text.skipBlanks cs)).map (target, ·)

/-- The last import in a tag, where the marker stands before any `>`. -/
def lastImport? (element passed : List Char) : List Char → Option (List Char × List Char)
  | [] => none
  | c :: cs =>
    if c = '>' then none
    else (lastImport? element (c :: passed) cs).or (importAt? element passed (c :: cs))

/-- The target of an imported element and what follows it. -/
def imported? (element cs : List Char) : Option (List Char × List Char) :=
  (afterOpening? element cs).bind (lastImport? element [])

/-- The value of `lang`, or else of the marker, that names the dialect of a style. -/
def dialectOf (attributes : List Char) : String :=
  let lang := Text.seek? (fun passed cs =>
    if Text.breaksWord passed then (Text.afterWord? "lang".toList cs).bind nonEmptyValue?
    else none) [] attributes
  let marker := Text.seek? (fun passed cs =>
    (afterOwnedMarker? passed cs).bind nonEmptyValue?) [] attributes
  match lang.or marker with
  | none => defaultDialect
  | some (_, _, value) =>
    let dialect := Text.asciiLower (Text.trim (String.ofList value))
    if dialect.isEmpty then defaultDialect else dialect

/-- The block of a kind that starts at the head of a text, and what follows it. -/
def at? (kind : Kind) (cs : List Char) : Option (Block × List Char) :=
  match kind with
  | .ownedStyle => (owned? kind.element cs).map fun (attributes, body, rest) =>
      (.ownedStyle (dialectOf attributes) (String.ofList body), rest)
  | .ownedScript => (owned? kind.element cs).map fun (_, body, rest) =>
      (.ownedScript (String.ofList body), rest)
  | .importedStyle => (imported? kind.element cs).map fun (target, rest) =>
      (.importedStyle (String.ofList (Text.trimChars target)), rest)
  | .importedScript => (imported? kind.element cs).map fun (target, rest) =>
      (.importedScript (String.ofList (Text.trimChars target)), rest)

/-- A block found in a text, and the text before it, of it and after it. -/
structure Found where
  block : Block
  before : List Char
  written : List Char
  after : List Char
deriving Repr

/-- The first block of a kind. -/
def findIn? (kind : Kind) (cs : List Char) : Option Found :=
  (Text.seek? (fun _ cs => at? kind cs) [] cs).map fun (passed, cs, block, rest) =>
    { block, before := passed.reverse, written := cs.take (cs.length - rest.length), after := rest }

def find? (kind : Kind) (body : String) : Option Found := findIn? kind body.toList

/-- The bytes that the block covers. -/
def Found.range (f : Found) : Nat × Nat :=
  let start := Text.byteCount f.before
  (start, start + Text.byteCount f.written)

/-- The text without the block. -/
def Found.remaining (f : Found) : String := String.ofList (f.before ++ f.after)

/-- The number of blocks in a text of at most `fuel` characters. -/
def countIn (kind : Kind) : Nat → List Char → Nat
  | 0, _ => 0
  | fuel + 1, cs =>
    match findIn? kind cs with
    | some f => countIn kind fuel f.after + 1
    | none => 0

/-- How many blocks of a kind there are, counted from the left without overlap. -/
def count (kind : Kind) (body : String) : Nat := countIn kind body.length body.toList

end Block

end ScopedViews
