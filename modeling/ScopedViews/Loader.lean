import ScopedViews.Asset
/-!
# Loaders

A loader is a generated view that includes what another view needs of one kind of asset: the
loader of the view it imports, the files it requires, and its own asset, in this order.
-/

namespace ScopedViews

structure Loader where
  kind : AssetKind
  identifier : String
  path : Path
  nested : List String
  required : List String
  owned : List String
deriving DecidableEq, Repr

namespace Loader

/-- The path of a view without its suffix. -/
def stem (view : Path) (suffix : String) : String := Path.stripSuffix view.slashed suffix

/-- The dotted name of the loader of a view. -/
def identifierOf (view : Path) (kind : AssetKind) (suffix : String) : String :=
  Path.dotted (stem view suffix) ++ kind.loaderSuffix

/-- Where the loader of a view is written. -/
def pathOf (view : Path) (kind : AssetKind) (o : Options) : Path :=
  o.templateDist.join ⟨stem view o.templateSuffix ++ kind.loaderSuffix ++ o.templateSuffix⟩

/-- The loader of a view, as yet empty. -/
def empty (view : Path) (kind : AssetKind) (o : Options) : Loader where
  kind := kind
  identifier := identifierOf view kind o.templateSuffix
  path := pathOf view kind o
  nested := []
  required := []
  owned := []

/-- Includes the loader of the same kind of the view at `target`. -/
def addNested (l : Loader) (target : Path) (o : Options) : Loader :=
  { l with
    nested := l.nested ++
      [fillIn o.loaderInclude pathPlaceholder (identifierOf target l.kind o.templateSuffix)] }

/-- The directive that includes an asset. -/
def assetDirective (l : Loader) (importPath : String) (o : Options) : String :=
  fillIn (l.kind.directive o) pathPlaceholder importPath

/-- Includes a file that the view's own asset depends on. -/
def addRequired (l : Loader) (importPath : String) (o : Options) : Loader :=
  { l with required := l.required ++ [l.assetDirective importPath o] }

/-- Includes the view's own asset. -/
def addOwned (l : Loader) (importPath : String) (o : Options) : Loader :=
  { l with owned := l.owned ++ [l.assetDirective importPath o] }

/-- All directives in the order in which they are written. -/
def directives (l : Loader) : List String := l.nested ++ l.required ++ l.owned

def isUsed (l : Loader) : Bool := !l.directives.isEmpty

def render (l : Loader) : String := "\n".intercalate l.directives

/-- The directive by which the view includes this loader. -/
def includeDirective (l : Loader) (o : Options) : String :=
  fillIn o.loaderInclude pathPlaceholder l.identifier

end Loader

end ScopedViews
