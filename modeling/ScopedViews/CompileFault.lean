import ScopedViews.Sandbox.Metadata
import ScopedViews.Script.Transpile
import ScopedViews.Store
/-!
# Why a view is not compiled

A fault ends the compilation of one view, of which nothing is written then, and of no other.
-/

namespace ScopedViews

inductive CompileFault where
  /-- The script block cannot be evaluated. -/
  | scriptBlock (e : Sandbox.BlockError)
  /-- A script that the block includes is not there. -/
  | missingInclude (path : Path)
  /-- The fingerprint is recorded but the output is gone. -/
  | missingOutput (path : Path)
  | style (dialect message : String)
  | script (e : Script.TranspileError)
  | store (e : StoreError)
  /-- A path that leads out of the directory of all views. -/
  | outside (path : Path)
deriving Repr

namespace CompileFault

/-- What is said of a fault; nothing is said of a script that is no module. -/
def message? : CompileFault → Option String
  | .scriptBlock .notScript => none
  | .scriptBlock (.fault f) => some ("script block: " ++ f.message)
  | .missingInclude path => some ("cannot read include " ++ path.text)
  | .missingOutput path => some ("fingerprint is current but " ++ path.text ++ " is missing")
  | .style dialect message => some ("style block (" ++ dialect ++ "): " ++ message)
  | .script e => e.message?.map ("script: " ++ ·)
  | .store e => some e.message
  | .outside path => some (path.text ++ " is outside the template root")

end CompileFault

end ScopedViews
