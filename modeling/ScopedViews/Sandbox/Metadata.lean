import ScopedViews.Sandbox.Execute
import ScopedViews.Script.Parse
/-!
# What a script block says about itself

A script block is evaluated for what it assigns to `exports`: the assets it requires, the files
included in front of it, and the functions to run.  Anything of another shape is ignored.
-/

namespace ScopedViews.Sandbox

/-- The description a script block gives of itself. -/
structure Metadata where
  required : List String
  included : List String
  init : Option String
  ready : Option String
deriving Repr, DecidableEq

/-- Whether there is anything to run. -/
def Metadata.hasEntry (m : Metadata) : Bool := m.init.isSome || m.ready.isSome

/-- A block that is no module, or one whose evaluation ended in a fault. -/
inductive BlockError where
  | notScript
  | fault (f : Fault)
deriving Repr, DecidableEq

/-- The strings in an array; nothing for any other value. -/
def stringList (h : Heap) : Value → List String
  | .array address =>
    (h.elements address).toList.filterMap fun
      | .string s => some s
      | _ => none
  | _ => []

/-- The text of a function; none for any other value. -/
def functionText : Value → Option String
  | .function f => some f.source
  | _ => none

/-- Reads the description off the machine a block has run on. -/
def Metadata.ofMachine (m : Machine) : Metadata :=
  let exported := (m.global.get? exportsName).getD .undefined
  let read (key : String) : Value := exported.get m.heap key
  { required := stringList m.heap (read "required")
    included := stringList m.heap (read "include")
    init := functionText (read "init")
    ready := (functionText (read "ready")).or (functionText (read "main")) }

/-- Evaluates a block for its description. -/
def describe (source : String) : Except BlockError Metadata :=
  match Script.Program.parse? source with
  | none => .error .notScript
  | some p =>
    match runProgram source p with
    | .ok m => .ok (.ofMachine m)
    | .error fault => .error (.fault fault)

end ScopedViews.Sandbox
