import ScopedViews.Script.Feature
import ScopedViews.Number.Read
import ScopedViews.Text.Find
/-!
# Platforms

What a script is lowered for: an edition, and engines in some versions.  A platform is written as
names between commas, such as `es2020,chrome80`.
-/

namespace ScopedViews.Script

/-- An edition and engines, all of which a script must run on. -/
structure Platform where
  edition : Edition
  engines : List (Engine × Version) := []
deriving Repr, DecidableEq

/-- What can be wrong with the text of a platform. -/
inductive PlatformFault where
  | unknown (name : String)
  /-- The second edition, or the second version of an engine. -/
  | repeated (name : String)
  | version
deriving Repr, DecidableEq

def PlatformFault.message : PlatformFault → String
  | .unknown name => "Invalid target '" ++ name ++ "'."
  | .repeated name => "'" ++ name ++ "' is already specified."
  | .version =>
    "All version numbers must be in the format \"X\", \"X.Y\", or \"X.Y.Z\" where X, Y, and Z " ++
      "are non-negative integers."

namespace Engine

def names : List (String × Engine) := [
  ("chrome", .chrome), ("deno", .deno), ("edge", .edge), ("firefox", .firefox),
  ("hermes", .hermes), ("ie", .ie), ("ios", .ios), ("node", .node), ("opera", .opera),
  ("rhino", .rhino), ("safari", .safari), ("samsung", .samsung)]

/-- The engine whose name a text begins with, and what follows its name. -/
def ofFront? (cs : List Char) : Option (Engine × List Char) :=
  (names.find? fun (name, _) => name.toList.isPrefixOf cs).map fun (name, engine) =>
    (engine, cs.drop name.length)

end Engine

namespace Version

/-- A number of a version, of at most 32 bits. -/
def part? (cs : List Char) : Option Nat :=
  let ds := if cs.head? = some '+' then cs.tail else cs
  match Number.spanDigits ds with
  | (_ :: _, []) =>
    let n := Number.digitsValue ds
    if n < Nat.pow 2 32 then some n else none
  | _ => none

/-- One to three numbers with points between them; what follows a hyphen does not count. -/
def ofText? (cs : List Char) : Option Version := do
  match ← (Text.splitAt ['.'] (cs.takeWhile (· != '-'))).mapM part? with
  | [a] => some ⟨a, 0, 0⟩
  | [a, b] => some ⟨a, b, 0⟩
  | [a, b, c] => some ⟨a, b, c⟩
  | _ => none

end Version

namespace Platform

/-- Whether a platform reads a construct.  An engine of which nothing is known reads it. -/
def reads (p : Platform) (f : Feature) : Bool :=
  f.edition.year ≤ p.edition.year && p.engines.all fun (engine, version) =>
    match f.engines.lookup engine with
    | some first => !version.isBefore first
    | none => true

/-- Adds the names to the edition, if one was given, and the engines. -/
def addNames : List String → Option Edition → List (Engine × Version) →
    Except PlatformFault Platform
  | [], edition, engines => .ok ⟨edition.getD .next, engines⟩
  | name :: more, edition, engines =>
    match Edition.ofName? name with
    | some e =>
      match edition with
      | some given => .error (.repeated given.name)
      | none => addNames more (some e) engines
    | none =>
      match Engine.ofFront? name.toList with
      | none => .error (.unknown name)
      | some (engine, rest) =>
        match Version.ofText? rest with
        | none => .error .version
        | some version =>
          if (engines.lookup engine).isSome then .error (.repeated name)
          else addNames more edition ((engine, version) :: engines)

/-- The platform that a text names. -/
def ofText (text : String) : Except PlatformFault Platform :=
  addNames ((Text.splitAt [','] text.toList).map String.ofList) none []

/-- What is wrong with the text of a platform. -/
def fault? (text : String) : Option PlatformFault :=
  match ofText text with
  | .ok _ => none
  | .error e => some e

end Platform

end ScopedViews.Script
