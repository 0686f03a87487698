import ScopedViews.Css.Image
/-!
# Longhands and declarations

A declaration gives a property a value, under its own name or under those that makers of browsers
have for it.  A value that is understood stands for values of longhands, layer by layer.
-/

namespace ScopedViews.Css

/-- Marks in front of a property's name, in the order in which they are written; the last is for
the name alone. -/
def Front.all : List String := ["-webkit-", "-moz-", "-ms-", "-o-", ""]

/-- The marks of two lists, in order. -/
def Front.union (a b : List String) : List String :=
  Front.all.filter fun f => a.contains f || b.contains f

def Front.common (a b : List String) : List String := a.filter b.contains

def Front.without (a b : List String) : List String := a.filter fun f => !b.contains f

structure Longhand where
  name : String
  values : List String
  fronts : List String
deriving BEq, Inhabited

structure Declaration where
  name : String
  fronts : List String
  value : String
  /-- What a value that is understood stands for. -/
  longhands : List Longhand
deriving BEq, Inhabited

namespace Declaration

/-- A declaration of which no more is known. -/
def plain (name value : String) : Declaration := ⟨name, [""], value, []⟩

def isCustom (d : Declaration) : Bool := d.name.startsWith "--"

def names (d : Declaration) : List String := d.fronts.map (· ++ d.name)

def text (important : Bool) (d : Declaration) : String :=
  ";".intercalate (d.names.map fun n =>
    n ++ ":" ++ d.value ++ if important then "!important" else "")

end Declaration

/-- Values of longhands by name. -/
abbrev Values := List (String × List String)

namespace Values

def get? (vs : Values) (name : String) : Option (List String) := vs.lookup name

/-- The value of a longhand that has no layers. -/
def one? (vs : Values) (name : String) : Option String :=
  match vs.lookup name with
  | some [v] => some v
  | _ => none

/-- Values of all of some longhands. -/
def all? (vs : Values) (names : List String) : Option (List String) := names.mapM vs.one?

def those (vs : Values) (names : List String) : Values :=
  names.filterMap fun n => (vs.lookup n).map (n, ·)

def without (vs : Values) (names : List String) : Values :=
  vs.filter fun (n, _) => !names.contains n

end Values

/-- One thing to be written: a name, a value, and the longhands that it stands for. -/
structure Setting where
  name : String
  value : String
  values : Values
deriving BEq, Inhabited

namespace Setting

/-- A longhand by itself. -/
def ofLonghand (l : String × List String) : Setting := ⟨l.1, ",".intercalate l.2, [l]⟩

/-- The longhands of some names by themselves. -/
def each (vs : Values) (names : List String) : List Setting :=
  (vs.those names).map ofLonghand

/-- A shorthand for all of some longhands if they are there, else those that are. -/
def shorthand (vs : Values) (name : String) (names : List String)
    (write : List String → String) : List Setting :=
  match vs.all? names with
  | some texts => [⟨name, write texts, vs.those names⟩]
  | none => each vs names

/-- Two values, of which the second may be left out if it is the same. -/
def pairText (a b : String) : String := if a = b then a else a ++ " " ++ b

def pairOf : List String → String
  | [a, b] => pairText a b
  | vs => " ".intercalate vs

end Setting

/-! ## Readers of longhands -/

/-- The readers of a family's properties, by name. -/
abbrev Readers := List (String × (List Component → Option Values))

namespace Reader

/-- What a text stands for. -/
def ofText? {α : Type} (r : Reader α) (text : String) : Option α := all? r (Component.read text)

/-- One value of a longhand. -/
def one (r : Reader String) (name : String) (cs : List Component) : Option Values :=
  (all? r cs).map fun s => [(name, [s])]

/-- A value for each layer. -/
def layered (r : Reader String) (name : String) (cs : List Component) : Option Values :=
  (all? (commas r) cs).map fun ss => [(name, ss)]

/-- One or two values for a start and an end. -/
def ends? (first last : String) (r : Reader String) (cs : List Component) : Option Values := do
  match ← all? (many1 r) cs with
  | [a] => some [(first, [a]), (last, [a])]
  | [a, b] => some [(first, [a]), (last, [b])]
  | _ => none

/-- Four values for the sides of a box. -/
def sides? (name : String → String) (r : Reader String) (cs : List Component) :
    Option Values := do
  let (t, r, b, l) ← Sides.ofList? (← all? (many1 r) cs)
  some [(name "top", [t]), (name "right", [r]), (name "bottom", [b]), (name "left", [l])]

/-- One to four values for the sides of a box, as a text. -/
def rect (r : Reader String) : Reader String := do
  let a ← r
  match ← optional r with
  | none => pure a
  | some b =>
    match ← optional r with
    | none => pure (Sides.text a b a b)
    | some c => do pure (Sides.text a b c ((← optional r).getD b))

end Reader

end ScopedViews.Css
