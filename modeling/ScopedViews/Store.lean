import ScopedViews.Asset
import ScopedViews.FileTree
/-!
# Stores

Where compiled views, their fingerprints, loaders and assets are kept, and where included scripts
are found.  A store is anything that can be read and written by path: texts in memory, which are
found by the normal form of their path, or files below a directory.
-/

namespace ScopedViews

inductive StoreError where
  | read (path : Path) (cause : FileError)
  | write (path : Path) (cause : FileError)
deriving DecidableEq, Repr

def StoreError.message : StoreError → String
  | .read path cause => "failed to read " ++ path.text ++ ": " ++ cause.message
  | .write path cause => "failed to write " ++ path.text ++ ": " ++ cause.message

/-- Reading and writing texts by path.  A missing text is no error, and a failed write may have
changed the store. -/
class Store (σ : Type) where
  read : σ → Path → Except StoreError (Option String)
  write : σ → Path → String → σ × Except StoreError Unit

/-- Texts by the normal forms of their paths. -/
structure MemoryStore where
  texts : List (String × String)
deriving Repr

namespace MemoryStore

def empty : MemoryStore := ⟨[]⟩

/-- The name under which a path's text is kept. -/
def key (p : Path) : String := p.normalize.slashed

def get? (s : MemoryStore) (p : Path) : Option String := s.texts.lookup (key p)

def contains (s : MemoryStore) (p : Path) : Bool := (s.get? p).isSome

def remove (s : MemoryStore) (p : Path) : MemoryStore := ⟨s.texts.filter (·.1 ≠ key p)⟩

def insert (s : MemoryStore) (p : Path) (text : String) : MemoryStore :=
  ⟨(key p, text) :: (s.remove p).texts⟩

/-- The store without the text of a path, and the text that has been there. -/
def take (s : MemoryStore) (p : Path) : MemoryStore × Option String :=
  let (taken, kept) := s.texts.partition (·.1 = key p)
  (⟨kept⟩, taken.head?.map Prod.snd)

def size (s : MemoryStore) : Nat := s.texts.length

def isEmpty (s : MemoryStore) : Bool := s.texts.isEmpty

/-- All names in order. -/
def paths (s : MemoryStore) : List String := (s.texts.map Prod.fst).mergeSort fun a b => a ≤ b

instance : Store MemoryStore where
  read s p := .ok (s.get? p)
  write s p text := (s.insert p text, .ok ())

end MemoryStore

/-- The files of a tree, by their paths from `root`. -/
structure DirectoryStore where
  root : Path
  tree : FileTree

namespace DirectoryStore

/-- Where a path leads from the root. -/
def locate (s : DirectoryStore) (p : Path) : Path := s.root.join p

/-- A missing file is no error; one that is no text is. -/
def read (s : DirectoryStore) (p : Path) : Except StoreError (Option String) :=
  match s.tree.read (s.locate p) with
  | .error .missing => .ok none
  | .error e => .error (.read (s.locate p) e)
  | .ok bytes =>
    match String.fromUTF8? bytes with
    | some text => .ok (some text)
    | none => .error (.read (s.locate p) .notText)

def write (s : DirectoryStore) (p : Path) (text : String) :
    DirectoryStore × Except StoreError Unit :=
  match s.tree.write (s.locate p) text.toUTF8 with
  | (tree, .ok ()) => ({ s with tree }, .ok ())
  | (tree, .error e) => ({ s with tree }, .error (.write (s.locate p) e))

instance : Store DirectoryStore := ⟨read, write⟩

end DirectoryStore

/-! ## Fingerprint records

A view is compiled again only if no record beside its output holds its fingerprint. -/

namespace Fingerprint

/-- Where the compiled view at `view` is written. -/
def outputPath (dist view : Path) : Path := dist.join view

def recordOf (dist view : Path) : Path := recordPath (outputPath dist view)

variable {σ : Type} [Store σ]

/-- Whether a view with this fingerprint has to be compiled. -/
def isStale (f : Fingerprint) (s : σ) (dist view : Path) : Except StoreError Bool := do
  match ← Store.read s (recordOf dist view) with
  | some record => return !f.isRecordedIn record
  | none => return true

/-- Records a fingerprint. -/
def commit (f : Fingerprint) (s : σ) (dist view : Path) : σ × Except StoreError Unit :=
  Store.write s (recordOf dist view) f.text

end Fingerprint

/-- What a view was last compiled to, if it is still there. -/
def previousOutput {σ : Type} [Store σ] (s : σ) (dist view : Path) :
    Except StoreError (Option String) :=
  Store.read s (Fingerprint.outputPath dist view)

end ScopedViews
