import ScopedViews.CompileFault
/-!
# Script assets

The asset that a script block is compiled to: the scripts that it includes, and behind them the
functions that it gives, of which one is called at once and one when the page is ready.
-/

namespace ScopedViews

/-- The contents of a script asset and the assets that have to be loaded in front of it. -/
structure ScriptAsset where
  contents : String
  required : List String
deriving DecidableEq, Repr

namespace ScriptAsset

/-- The call of one function and the registration of the other. -/
def entry (m : Sandbox.Metadata) (wrapper : String) : String :=
  let called :=
    match m.init with
    | some f => "(" ++ f ++ ")();\n\n"
    | none => ""
  let registered :=
    match m.ready with
    | some f => fillIn wrapper functionPlaceholder f
    | none => ""
  called ++ registered

/-- The text of an included script, minified if the build is. -/
def include? {σ : Type} [Store σ] (s : σ) (o : Options) (path : Path) :
    Except CompileFault String := do
  let found ← (Store.read s path).mapError CompileFault.store
  match found with
  | none => .error (.missingInclude path)
  | some text =>
    if o.minify then
      match Script.minify? text with
      | some code => .ok code
      | none => .error (.script .notScript)
    else .ok text

/-- The entry lowered and printed; a blank one is left out. -/
def lowerEntry (o : Options) (entry : String) : Except CompileFault (List String) :=
  if (Text.trim entry).isEmpty then .ok []
  else
    match Script.transpile entry o.scriptTarget o.minify with
    | .ok code => .ok [code]
    | .error e => .error (.script e)

/-- A block that gives no functions has nothing behind the scripts that it includes. -/
theorem lowerEntry_of_no_entry {m : Sandbox.Metadata} (h : m.hasEntry = false) (o : Options)
    (wrapper : String) : lowerEntry o (entry m wrapper) = .ok [] := by
  obtain ⟨hinit, hready⟩ : m.init = none ∧ m.ready = none := by
    simpa [Sandbox.Metadata.hasEntry] using h
  have hentry : entry m wrapper = "" := by simp [entry, hinit, hready]
  rw [hentry, lowerEntry, if_pos (by decide)]

/-- The asset of a script block. -/
def ofBlock {σ : Type} [Store σ] (s : σ) (o : Options) (source : String) :
    Except CompileFault ScriptAsset := do
  let m ← (Sandbox.describe source).mapError CompileFault.scriptBlock
  let included ← m.included.mapM fun (path : String) => include? s o ⟨path⟩
  let entry ← lowerEntry o (entry m o.readyWrapper)
  return { contents := "\n".intercalate (included ++ entry), required := m.required }

end ScriptAsset

end ScopedViews
