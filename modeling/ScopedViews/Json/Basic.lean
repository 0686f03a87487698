/-!
# JSON values

The tree of a JSON text.  Numbers keep the text they were written as, and the members of an object
their order and repetitions.
-/

namespace ScopedViews

inductive Json where
  | null
  | bool (b : Bool)
  | number (text : String)
  | string (s : String)
  | array (items : List Json)
  | object (members : List (String × Json))
deriving Repr, Inhabited

namespace Json

def string? : Json → Option String
  | .string s => some s
  | _ => none

def bool? : Json → Option Bool
  | .bool b => some b
  | _ => none

def items? : Json → Option (List Json)
  | .array items => some items
  | _ => none

def members? : Json → Option (List (String × Json))
  | .object members => some members
  | _ => none

/-- The texts of an array that holds nothing else. -/
def strings? (j : Json) : Option (List String) := j.items?.bind (·.mapM string?)

end Json

end ScopedViews
