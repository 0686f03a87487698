import ScopedViews.Engine
import ScopedViews.Ignore
import ScopedViews.Json.Printer
import ScopedViews.Json.Reader
/-!
# Projects

A project is a directory with views and an options file.  Building it compiles every view in the
order of their paths; a view that fails is reported and ends nothing.
-/

namespace ScopedViews

/-- What a build reports while it goes on. -/
inductive Notice where
  | ignoredBlocks (i : IgnoredBlocks)
  | failed (e : CompileError)
  | unreadable (view : Path) (cause : FileError)
deriving Repr

/-- A character of a message.  One that a terminal takes for a command is written by its code. -/
def visible (c : Char) : String :=
  let n := c.toNat
  let hex := String.ofList (Nat.toDigits 16 n)
  if n = 7 || n = 8 || n = 12 then "\\x0" ++ hex
  else if n = 27 || n = 127 then "\\x" ++ hex
  else if 128 ≤ n && n ≤ 159 then "\\u\x7b" ++ hex ++ "\x7d"
  else c.toString

/-- A text without the commands to a terminal that set colours. -/
def withoutColours : Nat → List Char → List Char
  | 0, cs => cs
  | _ + 1, [] => []
  | fuel + 1, c :: rest =>
    let after := (rest.drop 1).dropWhile fun d => d.isDigit || d = ';'
    if c.toNat = 27 && rest.head? = some '[' && after.head? = some 'm' then
      withoutColours fuel (after.drop 1)
    else c :: withoutColours fuel rest

/-- The line of a notice. -/
def Notice.text (n : Notice) : String :=
  let shown (s : String) : String := String.join (s.toList.map visible)
  let line :=
    match n with
    | .ignoredBlocks i =>
      "WARN only the first block of each kind is compiled path=" ++ i.view.text ++
        " block=\"" ++ i.kind.name ++ "\" ignored=" ++ toString i.count
    | .failed e =>
      "ERROR " ++ shown ((e.fault.message?).getD "script block: SyntaxError") ++ " path=" ++
        e.path.text
    | .unreadable view cause =>
      "ERROR failed to read template: " ++ shown cause.message ++ " path=" ++ view.text
  String.ofList (withoutColours line.length line.toList)

/-- What a build has come to. -/
structure Build (σ : Type) where
  store : σ
  outcomes : List Outcome := []
  notices : List Notice := []
  failures : Nat := 0

namespace Build

variable {σ : Type}

def fresh (b : Build σ) : Nat := b.outcomes.countP Outcome.isFresh
def cached (b : Build σ) : Nat := b.outcomes.countP Outcome.isCached
def skipped (b : Build σ) : Nat := b.outcomes.countP fun o => o.view?.isNone
def compiled (b : Build σ) : Nat := b.fresh + b.cached

/-- Takes over the work on one view. -/
def add (b : Build σ) (c : Compilation σ) : Build σ :=
  let notices := b.notices ++ c.ignored.map Notice.ignoredBlocks
  match c.result with
  | .ok o => { b with store := c.store, outcomes := b.outcomes ++ [o], notices }
  | .error e =>
    { b with store := c.store, notices := notices ++ [.failed e], failures := b.failures + 1 }

/-- The line that sums a build up. -/
def summary (b : Build σ) : String :=
  let fresh := "(" ++ toString b.fresh ++ " fresh, " ++ toString b.cached ++ " cached"
  if 0 < b.failures then
    "✗ " ++ toString b.failures ++ " file(s) failed, " ++ toString b.compiled ++ " compiled " ++
      fresh ++ ")"
  else
    "✓ " ++ toString b.compiled ++ (if b.compiled = 1 then " file" else " files") ++ " compiled " ++
      fresh ++ ", " ++ toString b.skipped ++ " skipped)"

end Build

/-! ## Reports -/

def Asset.toJson (a : Asset) : Json := .object [
  ("kind", .string a.kind.name), ("owner", .string a.owner), ("filename", .string a.filename),
  ("importPath", .string a.importPath), ("filePath", .string a.filePath.text),
  ("owned", .bool a.owned)]

def Loader.toJson (l : Loader) : Json :=
  let texts (ts : List String) : Json := .array (ts.map Json.string)
  .object [
    ("kind", .string l.kind.name), ("identifier", .string l.identifier),
    ("path", .string l.path.text), ("nested", texts l.nested), ("required", texts l.required),
    ("owned", texts l.owned)]

/-- What is reported of a view; of one that was passed over, nothing. -/
def Outcome.toJson? (o : Outcome) : Option Json :=
  o.view?.map fun v => .object [
    ("cached", .bool o.isCached), ("relativePath", .string v.relativePath),
    ("fingerprint", .string v.fingerprint.text), ("code", .string v.code),
    ("assets", .array (v.assets.map Asset.toJson)),
    ("loaders", .array (v.loaders.map Loader.toJson))]

def Build.report {σ : Type} (b : Build σ) : String :=
  (Json.array (b.outcomes.filterMap Outcome.toJson?)).pretty

namespace Engine

variable {σ : Type} [Store σ]

/-- Compiles the view at a path, whose bytes `load` gives.  Bytes that are no text are no
contents. -/
def compileAt (e : Engine) (load : σ → Path → Except FileError ByteArray) (b : Build σ)
    (view : Path) : Build σ :=
  match load b.store view with
  | .error cause =>
    { b with notices := b.notices ++ [.unreadable view cause], failures := b.failures + 1 }
  | .ok bytes => b.add (e.compile ⟨view, String.fromUTF8? bytes⟩ b.store)

/-- Compiles views one after another. -/
def compileAll (e : Engine) (load : σ → Path → Except FileError ByteArray) (views : List Path)
    (s : σ) : Build σ :=
  views.foldl (e.compileAt load) { store := s }

end Engine

/-! ## Options files -/

namespace Project

/-- The name of the options file of a project. -/
def optionsFile : String := "vernis.config.json"

/-- Why the options of a project are not known. -/
inductive OptionsFileError where
  | unreadable (path : Path) (cause : FileError)
  | malformed (path : Path)
deriving DecidableEq, Repr

def OptionsFileError.message : OptionsFileError → String
  | .unreadable path cause => "Failed to read " ++ path.text ++ ": " ++ cause.message
  | .malformed path => "Failed to parse " ++ path.text

/-- Whether the name of a schema, if there is one, is a text. -/
def hasSchemaName (members : List (String × Json)) : Bool :=
  match (members.filter (·.1 = "$schema")).map Prod.snd with
  | [] | [.null] | [.string _] => true
  | _ => false

/-- The options in a file's text. -/
def optionsOf? (text : String) : Option Options :=
  match Json.ofText? text with
  | some (.object members) =>
    if hasSchemaName members then
      Options.ofJson? (.object (members.filter (·.1 ≠ "$schema")))
    else none
  | _ => none

/-- The options of a project.  Without a file all have their defaults. -/
def readOptions (t : FileTree) (path : Path) : Except OptionsFileError Options :=
  match t.read path with
  | .error .isDirectory => .error (.unreadable path .isDirectory)
  | .error _ => .ok { }
  | .ok bytes =>
    match String.fromUTF8? bytes with
    | none => .error (.unreadable path .notText)
    | some text =>
      match optionsOf? text with
      | some o => .ok o
      | none => .error (.malformed path)

/-- The path of names. -/
def pathOf (names : Place) : Path := ⟨Path.joinParts Path.slash names⟩

/-- Whether a place comes before another in the order of their names. -/
def comesBefore (a b : Place) : Bool :=
  a.lex b fun x y => x.lex y fun c d => decide (c < d)

/-- Whether a file has the name of a view, which is a text. -/
def isViewName (suffix : String) (name : Bytes) : Bool :=
  match String.fromUTF8? name.toByteArray with
  | some text => suffix.toList.isSuffixOf text.toList
  | none => false

/-- The views below a directory, in the order of their names. -/
def views (t : FileTree) (root : Path) (suffix : String) : List Path :=
  match t.resolve root with
  | .error _ => []
  | .ok place =>
    let isView (file : Place) : Bool := (place ++ file).getLast?.any (isViewName suffix)
    (((Ignore.filesBelow t place).filter isView).mergeSort fun a b => !comesBefore b a).map pathOf

/-- The bytes of a view of a project. -/
def load (root : Path) (s : DirectoryStore) (view : Path) : Except FileError ByteArray :=
  s.tree.read (if view.bytes = [] then root else root.join view)

end Project

end ScopedViews
