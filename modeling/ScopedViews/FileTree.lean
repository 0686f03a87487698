import ScopedViews.Path
/-!
# File trees

Directories and files under one root, as far as reading and writing can tell: which names exist,
what is in the files, and which error is reported where something is not as it should be.
A path is resolved piece by piece, and every piece but the last must lead to a directory.
-/

namespace ScopedViews

/-- Why a file is not read or written. -/
inductive FileError where
  | missing
  | alreadyExists
  | notDirectory
  | isDirectory
  | nameTooLong
  | nulInName
  | notText
deriving DecidableEq, Repr, Inhabited

def FileError.message : FileError → String
  | .missing => "No such file or directory (os error 2)"
  | .alreadyExists => "File exists (os error 17)"
  | .notDirectory => "Not a directory (os error 20)"
  | .isDirectory => "Is a directory (os error 21)"
  | .nameTooLong => "File name too long (os error 36)"
  | .nulInName => "file name contained an unexpected NUL byte"
  | .notText => "stream did not contain valid UTF-8"

/-- The names that lead from the root to a file or directory. -/
abbrev Place := List Bytes

instance : Coe (List String) Place := ⟨List.map Text.utf8⟩

/-- The files with their contents and the directories below the root.  Relative paths lead from
the working directory; `home` is the user's own. -/
structure FileTree where
  files : List (Place × ByteArray) := []
  directories : List Place := []
  working : Place := []
  home : Place := []

namespace FileTree

/-- The longest name in bytes. -/
def maxNameLength : Nat := 255

/-- The longest path in bytes is shorter than this. -/
def pathLimit : Nat := 4096

def contents? (t : FileTree) (place : Place) : Option ByteArray := t.files.lookup place

def isFile (t : FileTree) (place : Place) : Bool := (t.contents? place).isSome

def isDirectory (t : FileTree) (place : Place) : Bool :=
  place.isEmpty || t.directories.contains place

/-- Takes one piece of a path from a place, which must be a directory. -/
def step (t : FileTree) (place : Place) (piece : Bytes) : Except FileError Place :=
  if t.isFile place then .error .notDirectory
  else if !t.isDirectory place then .error .missing
  else if piece = [] || piece = [Path.dot] then .ok place
  else if piece = [Path.dot, Path.dot] then .ok place.dropLast
  else if maxNameLength < piece.length then .error .nameTooLong
  else .ok (place ++ [piece])

/-- The place that a path leads to, whether or not anything is there. -/
def resolve (t : FileTree) (p : Path) : Except FileError Place :=
  if p.bytes.contains 0 then .error .nulInName
  else if p.bytes = [] then .error .missing
  else if pathLimit ≤ p.bytes.length then .error .nameTooLong
  else (Path.pieces p.bytes).foldlM t.step (if p.isAbsolute then [] else t.working)

/-- Whether a path leads to a directory. -/
def leadsToDirectory (t : FileTree) (p : Path) : Bool :=
  match t.resolve p with
  | .ok place => t.isDirectory place
  | .error _ => false

/-- The bytes of a file. -/
def read (t : FileTree) (p : Path) : Except FileError ByteArray := do
  let place ← t.resolve p
  if t.isDirectory place then throw .isDirectory
  match t.contents? place with
  | some bytes => return bytes
  | none => throw .missing

/-- Gives a place contents. -/
def put (t : FileTree) (place : Place) (bytes : ByteArray) : FileTree :=
  { t with files := (place, bytes) :: t.files.filter (·.1 ≠ place) }

/-- Makes a directory whose parent exists. -/
def makeDirectory (t : FileTree) (p : Path) : Except FileError FileTree := do
  let trimmed : Path :=
    ⟨if p.bytes.getLast? = some Path.slash then p.bytes.dropLast else p.bytes⟩
  let place ← t.resolve trimmed
  if t.isDirectory place || t.isFile place then throw .alreadyExists
  return { t with directories := place :: t.directories }

/-- Makes the directory that a path leads to, and those above it, outermost first.  The list holds
the components of the path from the last one on. -/
def makeAll (t : FileTree) : List Path.Component → FileTree × Except FileError Unit
  | [] => (t, .ok ())
  | last :: above =>
    let p := Path.ofComponents (last :: above).reverse
    match t.makeDirectory p with
    | .ok made => (made, .ok ())
    | .error .missing =>
      match makeAll t above with
      | (made, .error e) => (made, .error e)
      | (made, .ok ()) =>
        match made.makeDirectory p with
        | .ok all => (all, .ok ())
        | .error e => (made, if made.leadsToDirectory p then .ok () else .error e)
    | .error e => (t, if t.leadsToDirectory p then .ok () else .error e)

/-- Makes a directory and all those above it. -/
def makeDirectories (t : FileTree) (p : Path) : FileTree × Except FileError Unit :=
  t.makeAll p.components.reverse

/-- Writes a file whose directory exists. -/
def create (t : FileTree) (p : Path) (bytes : ByteArray) : Except FileError FileTree :=
  match t.resolve p with
  | .error .missing =>
    if p.bytes.getLast? = some Path.slash && (t.makeDirectory p).isOk then .error .isDirectory
    else .error .missing
  | .error e => .error e
  | .ok place => if t.isDirectory place then .error .isDirectory else .ok (t.put place bytes)

/-- Writes a file and makes the directories that it needs. -/
def write (t : FileTree) (p : Path) (bytes : ByteArray) : FileTree × Except FileError Unit :=
  match t.makeDirectories ((p.directory?).getD ⟨""⟩) with
  | (made, .error e) => (made, .error e)
  | (made, .ok ()) =>
    match made.create p bytes with
    | .ok written => (written, .ok ())
    | .error e => (made, .error e)

/-- The tree without the file that a path leads to. -/
def remove (t : FileTree) (p : Path) : FileTree :=
  match t.resolve p with
  | .ok place => { t with files := t.files.filter (·.1 ≠ place) }
  | .error _ => t

/-- The files below a place, by their names from there on, in order of their paths. -/
def filesBelow (t : FileTree) (place : Place) : List (String × ByteArray) :=
  let nameOf (names : Place) : String :=
    Text.decodeLossy (Path.joinParts Path.slash (names.drop place.length))
  let below := t.files.filterMap fun (file, bytes) =>
    if place.isPrefixOf file then some (nameOf file, bytes) else none
  below.mergeSort fun a b => a.1 ≤ b.1

end FileTree

end ScopedViews
