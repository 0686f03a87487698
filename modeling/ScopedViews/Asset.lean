import ScopedViews.Digest
import ScopedViews.Options
/-!
# Assets

A view owns at most one style and one script asset.  The name of an asset is a digest of the path
of the view that owns it, so that every view can tell the name of another view's asset.
-/

namespace ScopedViews

/-- The digest of a text and of the version that it is built for. -/
structure Fingerprint where
  text : String
deriving DecidableEq, Repr, Inhabited

namespace Fingerprint

def of (text version : String) : Fingerprint := ⟨Digest.ofText (text ++ version)⟩

/-- Where the fingerprint of a compiled view is recorded: beside it. -/
def recordPath (output : Path) : Path := output.addSuffix ".fingerprint"

/-- Whether a record holds this fingerprint, in any case and between any blanks. -/
def isRecordedIn (f : Fingerprint) (record : String) : Bool :=
  Text.asciiLower (Text.trim record) == Text.asciiLower f.text

end Fingerprint

inductive AssetKind where
  | style | script
deriving DecidableEq, Repr, Inhabited

namespace AssetKind

def name : AssetKind → String
  | .style => "style"
  | .script => "script"

def extension : AssetKind → String
  | .style => "css"
  | .script => "js"

/-- What the stem of a view is extended by in the name of its loader. -/
def loaderSuffix : AssetKind → String
  | .style => "__style"
  | .script => "__script"

/-- The public directory of the assets of a kind. -/
def dist (kind : AssetKind) (o : Options) : String :=
  match kind with
  | .style => o.styleDist
  | .script => o.scriptDist

/-- The directive that includes an asset of a kind. -/
def directive (kind : AssetKind) (o : Options) : String :=
  match kind with
  | .style => o.styleInclude
  | .script => o.scriptInclude

end AssetKind

/-- The name of the asset that the view at `owner` has of a kind. -/
def assetFilename (owner : Path) (kind : AssetKind) : String :=
  Digest.ofText owner.slashed ++ "." ++ kind.extension

/-- A compiled asset that a view writes or refers to.  `importPath` is where it is served, with
the fingerprint of the view that refers to it; `filePath` is where it is written. -/
structure Asset where
  kind : AssetKind
  owner : String
  filename : String
  importPath : String
  filePath : Path
  owned : Bool
deriving DecidableEq, Repr

namespace Asset

/-- A text without `/` at its end. -/
def dropTrailingSlashes (s : String) : String :=
  String.ofList (s.toList.reverse.dropWhile (· == '/')).reverse

/-- The asset of the view at `owner`, as a view with the given fingerprint refers to it. -/
def of (kind : AssetKind) (owner : Path) (o : Options) (f : Fingerprint) (owned : Bool) : Asset :=
  let dist := dropTrailingSlashes (kind.dist o)
  let filename := assetFilename owner kind
  { kind, filename, owned
    owner := owner.slashed
    importPath := dist ++ "/" ++ filename ++ "?v=" ++ f.text
    filePath := (o.publicRoot.join ⟨dist⟩).join ⟨filename⟩ }

end Asset

end ScopedViews
