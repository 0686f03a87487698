import ScopedViews.Loader
import ScopedViews.Rewrite
import ScopedViews.ScriptAsset
import ScopedViews.Style
/-!
# Compiling views

A view is compiled kind by kind: its first block of each kind is compiled and taken out of the
text, its loaders are included at the end, and the text is cleaned.  Nothing is written until all
of this has succeeded; then assets, loaders and the output are written, and the fingerprint last,
so that a recorded fingerprint stands for a complete output.

Main definition: `Engine.compile`.
-/

namespace ScopedViews

/-- A view to be compiled, by its path below the directory of all views.  One without contents is
passed over. -/
structure SourceFile where
  path : Path
  contents : Option String
deriving DecidableEq, Repr

/-- A view as it was compiled.  What was found compiled already lists no assets and no loaders. -/
structure CompiledView where
  relativePath : String
  fingerprint : Fingerprint
  code : String
  assets : List Asset
  loaders : List Loader
deriving DecidableEq, Repr

inductive Outcome where
  | skipped
  | cached (view : CompiledView)
  | fresh (view : CompiledView)
deriving DecidableEq, Repr

namespace Outcome

def view? : Outcome → Option CompiledView
  | .skipped => none
  | .cached v | .fresh v => some v

def isFresh : Outcome → Bool
  | .fresh _ => true
  | _ => false

def isCached : Outcome → Bool
  | .cached _ => true
  | _ => false

end Outcome

/-- A fault and the view that it ended the compilation of. -/
structure CompileError where
  path : Path
  fault : CompileFault
deriving Repr

/-- Blocks of a kind that are not compiled because another one stands before them. -/
structure IgnoredBlocks where
  view : Path
  kind : Block.Kind
  count : Nat
deriving DecidableEq, Repr

/-- What has become of a view so far. -/
structure Assembly where
  body : String
  styleLoader : Loader
  scriptLoader : Loader
  assets : List Asset := []
  /-- Where assets are to be written, and what. -/
  contents : List (Path × String) := []
  ignored : List IgnoredBlocks := []
deriving Repr

namespace Assembly

def start (view : Path) (text : String) (o : Options) : Assembly where
  body := text
  styleLoader := Loader.empty view .style o
  scriptLoader := Loader.empty view .script o

/-- Changes the loader of a kind. -/
def withLoader (a : Assembly) (kind : AssetKind) (f : Loader → Loader) : Assembly :=
  match kind with
  | .style => { a with styleLoader := f a.styleLoader }
  | .script => { a with scriptLoader := f a.scriptLoader }

/-- Adds an asset that the view owns. -/
def own (a : Assembly) (asset : Asset) (text : String) (o : Options) : Assembly :=
  let a := a.withLoader asset.kind (·.addOwned asset.importPath o)
  { a with assets := a.assets ++ [asset], contents := a.contents ++ [(asset.filePath, text)] }

/-- Adds assets that the view's own script needs. -/
def require (a : Assembly) (paths : List String) (o : Options) : Assembly :=
  a.withLoader .script fun l => paths.foldl (fun l path => l.addRequired path o) l

/-- Adds the asset and the loader of an imported view. -/
def refer (a : Assembly) (target : Path) (asset : Asset) (o : Options) : Assembly :=
  let a := a.withLoader asset.kind (·.addNested target o)
  { a with assets := a.assets ++ [asset] }

def loaders (a : Assembly) : List Loader := [a.styleLoader, a.scriptLoader]

/-- The text with the loaders included behind it. -/
def included (a : Assembly) (o : Options) : String :=
  a.loaders.foldl
    (fun body l => if l.isUsed then body ++ "\n" ++ l.includeDirective o else body) a.body

/-- The compiled text. -/
def code (a : Assembly) (o : Options) : String := rewrite (a.included o)

end Assembly

/-- A step of a compilation; a fault keeps what was assembled before it. -/
abbrev Stage := EStateM CompileFault Assembly

def Stage.ofExcept {α : Type} : Except CompileFault α → Stage α
  | .ok a => pure a
  | .error f => throw f

/-- Compiles views with fixed options. -/
structure Engine where
  options : Options
  styleCompiler : StyleCompiler

/-- An engine's work on one view. -/
structure Compilation (σ : Type) where
  store : σ
  ignored : List IgnoredBlocks
  result : Except CompileError Outcome

namespace Engine

/-- The engine for options, unless something is wrong with them. -/
def ofOptions (o : Options) : Except OptionsError Engine :=
  match o.fault? with
  | some e => .error e
  | none => .ok ⟨o, .ofCommands o.styleDialects⟩

variable {σ : Type} [Store σ]

/-- The view that a block of the view at `view` imports. -/
def target (e : Engine) (written : String) (view : Path) : Except CompileFault Path :=
  match Path.importTarget? written view e.options.templateSuffix with
  | some target => .ok target
  | none => .error (.outside ⟨written⟩)

/-- Compiles one block of the view at `view`. -/
def block (e : Engine) (s : σ) (view : Path) (f : Fingerprint) : Block → Stage Unit
  | .ownedStyle dialect source => do
    let asset := Asset.of .style view e.options f true
    let css ← Stage.ofExcept
      (compileStyle e.styleCompiler source dialect asset.filename e.options.minify)
    modify (·.own asset css e.options)
  | .ownedScript source => do
    let asset := Asset.of .script view e.options f true
    let script ← Stage.ofExcept (ScriptAsset.ofBlock s e.options source)
    modify fun a => (a.require script.required e.options).own asset script.contents e.options
  | .importedStyle written => do
    let target ← Stage.ofExcept (e.target written view)
    modify (·.refer target (Asset.of .style target e.options f false) e.options)
  | .importedScript written => do
    let target ← Stage.ofExcept (e.target written view)
    modify (·.refer target (Asset.of .script target e.options f false) e.options)

/-- Compiles the first block of a kind and takes it out. -/
def stage (e : Engine) (s : σ) (view : Path) (f : Fingerprint) (kind : Block.Kind) :
    Stage Unit := do
  let body := (← get).body
  match Block.find? kind body with
  | none => return
  | some found =>
    let further := Block.count kind body - 1
    if 0 < further then
      modify fun a => { a with ignored := a.ignored ++ [⟨view, kind, further⟩] }
    e.block s view f found.block
    modify fun a => { a with body := found.remaining }

/-- All stages, in the order of `Block.kinds`. -/
def assemble (e : Engine) (s : σ) (view : Path) (f : Fingerprint) : Stage Unit :=
  Block.kinds.forM (e.stage s view f)

/-- Writes texts until one is not written. -/
def writeAll (s : σ) : List (Path × String) → σ × Except StoreError Unit
  | [] => (s, .ok ())
  | (path, text) :: rest =>
    match Store.write s path text with
    | (s, .ok ()) => writeAll s rest
    | (s, .error e) => (s, .error e)

/-- Everything that a compiled view is written to, in this order. -/
def outputs (e : Engine) (view : Path) (f : Fingerprint) (a : Assembly) : List (Path × String) :=
  let dist := e.options.templateDist
  a.contents ++ a.loaders.map (fun l => (l.path, l.render)) ++
    [(Fingerprint.outputPath dist view, a.code e.options), (Fingerprint.recordOf dist view, f.text)]

/-- What was compiled from the same text before. -/
def cached (e : Engine) (s : σ) (view : Path) (f : Fingerprint) : Except CompileFault Outcome := do
  match ← (previousOutput s e.options.templateDist view).mapError CompileFault.store with
  | some code => return .cached ⟨view.slashed, f, code, [], []⟩
  | none => throw (.missingOutput (Fingerprint.outputPath e.options.templateDist view))

/-- Compiles a text and writes what it is compiled to. -/
def build (e : Engine) (s : σ) (view : Path) (text : String) (f : Fingerprint) :
    Compilation σ :=
  match (e.assemble s view f).run (.start view text e.options) with
  | .error fault a => ⟨s, a.ignored, .error ⟨view, fault⟩⟩
  | .ok () a =>
    match writeAll s (e.outputs view f a) with
    | (s, .error cause) => ⟨s, a.ignored, .error ⟨view, .store cause⟩⟩
    | (s, .ok ()) =>
      ⟨s, a.ignored, .ok (.fresh ⟨view.slashed, f, a.code e.options, a.assets, a.loaders⟩)⟩

/-- Compiles a view unless it has no contents or was compiled from the same text before. -/
def compile (e : Engine) (file : SourceFile) (s : σ) : Compilation σ :=
  match file.contents with
  | none => ⟨s, [], .ok .skipped⟩
  | some text =>
    let view := file.path.normalize
    if !view.startsInside then ⟨s, [], .error ⟨file.path, .outside file.path⟩⟩
    else
      let f := Fingerprint.of text e.options.version
      match f.isStale s e.options.templateDist view with
      | .error cause => ⟨s, [], .error ⟨view, .store cause⟩⟩
      | .ok false => ⟨s, [], (e.cached s view f).mapError (CompileError.mk view)⟩
      | .ok true => e.build s view text f

end Engine

end ScopedViews
