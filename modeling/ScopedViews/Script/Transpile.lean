import ScopedViews.Script.Lower.Tree
import ScopedViews.Script.Print.Tree
import ScopedViews.Script.Parse
/-!
# Transpiling scripts

A script is read, lowered for a platform and printed.  Minifying a script only prints it again: its
names stay, so that it still works beside scripts that use them.
-/

namespace ScopedViews.Script

/-- Why a script cannot be transpiled. -/
inductive TranspileError where
  /-- It is no module, or declares a name twice. -/
  | notScript
  /-- Something in it has no form that the platform reads. -/
  | notLowered
  | badPlatform (text : String) (fault : PlatformFault)
deriving Repr, DecidableEq

/-- What is said of an error; nothing is said of what is wrong with the script. -/
def TranspileError.message? : TranspileError → Option String
  | .notScript | .notLowered => none
  | .badPlatform text fault => some ("invalid target \x60" ++ text ++ "\x60: " ++ fault.message)

/-- Lowers a text for a platform and prints it. -/
def transpile (source platform : String) (tight : Bool) : Except TranspileError String :=
  match readModule source with
  | .error _ => .error .notScript
  | .ok parsed =>
    match Platform.ofText platform with
    | .error fault => .error (.badPlatform platform fault)
    | .ok p =>
      match parsed.program.lower p with
      | .error .clash => .error .notScript
      | .error .noOlderForm => .error .notLowered
      | .ok lowered => .ok (lowered.print parsed.comments.toList tight)

/-- A text without blanks that mean nothing, if it is a module. -/
def minify? (source : String) : Option String :=
  match readModule source with
  | .ok parsed => some (parsed.program.print parsed.comments.toList true)
  | .error _ => none

end ScopedViews.Script
