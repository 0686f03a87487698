import ScopedViews.Text.Utf8
/-!
# Paths

A path is kept as it was written, in bytes that need not be a text.  Its components are what it
means: repeated separators, inner `.` pieces and a separator at the end say nothing, and a `.` in
front is a component of its own.  The normal form resolves `.` and `..` without asking any file
system.  Where a path goes into a text, what is malformed in its names is replaced.
-/

namespace ScopedViews

/-- A path as written, with `/` between its pieces. -/
structure Path where
  bytes : Bytes
deriving DecidableEq, Repr, Inhabited

namespace Path

/-- What stands between the pieces of a path. -/
def slash : UInt8 := 0x2F

/-- The dot that `.` and `..` are written with. -/
def dot : UInt8 := 0x2E

/-- One step of a path.  The root stands only in front, and so does `current`. -/
inductive Component where
  | root
  | current
  | parent
  | name (bytes : Bytes)
deriving DecidableEq, Repr

/-- The pieces of a path between separators. -/
def pieces : Bytes → List Bytes
  | [] => [[]]
  | b :: rest =>
    if b = slash then [] :: pieces rest
    else
      match pieces rest with
      | piece :: more => (b :: piece) :: more
      | [] => [[b]]

/-- What a piece means behind another one. -/
def innerComponent? (piece : Bytes) : Option Component :=
  if piece = [] || piece = [dot] then none
  else if piece = [dot, dot] then some .parent
  else some (.name piece)

/-- What the piece in front means. -/
def firstComponent? (piece : Bytes) : Option Component :=
  if piece = [dot] then some .current else innerComponent? piece

/-- The components of a written path. -/
def componentsOf (bytes : Bytes) : List Component :=
  match pieces bytes with
  | [] => []
  | [] :: second :: more => .root :: (second :: more).filterMap innerComponent?
  | first :: more => (firstComponent? first).toList ++ more.filterMap innerComponent?

def components (p : Path) : List Component := componentsOf p.bytes

/-- How a component is written; the root is written by the separator behind it. -/
def Component.bytes : Component → Bytes
  | .root => []
  | .current => [dot]
  | .parent => [dot, dot]
  | .name bytes => bytes

/-- How a component is shown. -/
def Component.chars (c : Component) : List Char := Text.lossy c.bytes

/-- The parts with a separator between any two. -/
def joinParts {α : Type} (separator : α) : List (List α) → List α
  | [] => []
  | [part] => part
  | part :: more => part ++ separator :: joinParts separator more

/-- Components with single separators, each as `write` has it. -/
def renderAs {α : Type} (separator : α) (write : Component → List α) : List Component → List α
  | .root :: more => separator :: joinParts separator (more.map write)
  | cs => joinParts separator (cs.map write)

/-- Components written with single separators. -/
def render (cs : List Component) : Bytes := renderAs slash Component.bytes cs

/-- The path that a list of components is written as. -/
def ofComponents (cs : List Component) : Path := ⟨render cs⟩

/-- A path as it is shown. -/
def text (p : Path) : String := Text.decodeLossy p.bytes

/-- The text of a path made from its components. -/
def slashed (p : Path) : String := String.ofList (renderAs '/' Component.chars p.components)

/-- Takes one component onto the stack of those resolved so far.  `..` takes a name off, has no
effect at the root, and is kept where there is nothing to take off. -/
def resolve (stack : List Component) : Component → List Component
  | .current => stack
  | .parent =>
    match stack with
    | .name _ :: below => below
    | .root :: _ => stack
    | _ => .parent :: stack
  | c => c :: stack

/-- Components without `.` and with `..` only in front. -/
def resolveAll (cs : List Component) : List Component :=
  (cs.foldl resolve []).reverse

/-- The normal form of a path. -/
def normalize (p : Path) : Path := ofComponents (resolveAll p.components)

def isAbsolute (p : Path) : Bool := p.bytes.head? == some slash

/-- Whether the path starts with a name, so that it leads into the directory it is taken from. -/
def startsInside (p : Path) : Bool :=
  match p.components with
  | .name _ :: _ => true
  | _ => false

/-- `q` seen from the directory `p`.  An absolute path stays what it is. -/
def join (p q : Path) : Path :=
  if q.isAbsolute || p.bytes = [] then q
  else if p.bytes.getLast? = some slash then ⟨p.bytes ++ q.bytes⟩
  else ⟨p.bytes ++ slash :: q.bytes⟩

/-- The directory that a path lies in; a path without components, or only the root, lies in none. -/
def directory? (p : Path) : Option Path :=
  match p.components.getLast? with
  | none | some .root => none
  | some _ => some (ofComponents p.components.dropLast)

/-- A path with `suffix` written at its end. -/
def addSuffix (p : Path) (suffix : String) : Path := ⟨p.bytes ++ suffix⟩

/-- A text without `suffix`, where it ends with it. -/
def stripSuffix (text suffix : String) : String :=
  if suffix.toList.isSuffixOf text.toList then
    String.ofList (text.toList.take (text.toList.length - suffix.toList.length))
  else text

/-- The dotted name of a view: separators become dots, and those in front vanish. -/
def dotted (stem : String) : String :=
  String.ofList ((stem.toList.dropWhile (· == '/')).map fun c => if c = '/' then '.' else c)

/-- The view that `target` names when a view at `importer` imports it, if it lies inside the
directory of all views.  The suffix may be left out of the target. -/
def importTarget? (target : String) (importer : Path) (suffix : String) : Option Path :=
  let written : Path :=
    ⟨if suffix.toList.isSuffixOf target.toList then target else target ++ suffix⟩
  if written.isAbsolute then none
  else
    let resolved := (((importer.directory?).getD ⟨""⟩).join written).normalize
    if resolved.startsInside then some resolved else none

end Path

end ScopedViews
