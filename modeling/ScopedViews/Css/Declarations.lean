import ScopedViews.Css.Gather
/-!
# Declaration blocks

Reading declarations, and putting those of a block into their shortest order: a value that another
overrides goes, and longhands that belong together are gathered.
-/

namespace ScopedViews.Css

namespace Declaration

/-- A value of a property that is known, under the name of it that is given. -/
def known? (name : String) (value : List Component) : Option Declaration :=
  match Property.find? name.toLower with
  | some (front, base, p) =>
    match p.values? (Component.solid value) with
    | some vs =>
      let ls : List Longhand := vs.map fun (n, v) => ⟨n, v, [front]⟩
      some ⟨base, [front], ",".intercalate (vs.flatMap (·.2)), ls⟩
    | none => (Verbatim.text? value).map fun t => ⟨base, [front], t, []⟩
  | none => (Verbatim.text? value).map (plain name)

/-- A property and its value, which holds no exclamation mark. -/
def ofValue? (name : String) (value : List Component) : Option Declaration :=
  if name.startsWith "--" then (Verbatim.text? value).map (plain name)
  else if value.any isCurly then none
  else known? name value
where
  isCurly : Component → Bool
    | .block .curly _ => true
    | _ => false

/-- A declaration and whether it is important, from its name and what follows the colon. -/
def read? (name : String) (value : List Component) : Option (Declaration × Bool) :=
  let (front, back) := value.span fun c =>
    match c with
    | .token (.delim '!') => false
    | _ => true
  match back with
  | [] => (ofValue? name front).map (·, false)
  | _ :: back =>
    match Component.solid back with
    | [.token (.ident s)] =>
      if s.toLower = "important" then (ofValue? name front).map (·, true) else none
    | _ => none

end Declaration

/-- The declarations of a block, and those that are important. -/
structure Declarations where
  normal : List Declaration
  important : List Declaration
deriving BEq, Inhabited

namespace Declarations

def empty : Declarations := ⟨[], []⟩

def isEmpty (d : Declarations) : Bool := d.normal.isEmpty && d.important.isEmpty

def append (a b : Declarations) : Declarations :=
  ⟨a.normal ++ b.normal, a.important ++ b.important⟩

def add (d : Declarations) (e : Declaration) (important : Bool) : Declarations :=
  if important then { d with important := d.important ++ [e] }
  else { d with normal := d.normal ++ [e] }

def shortest (ds : List Declaration) : List Declaration :=
  (ds.foldl Gathering.add ⟨[], []⟩).finish

def minified (d : Declarations) : Declarations := ⟨shortest d.normal, shortest d.important⟩

/-- The declarations each by itself in its shortest form. -/
def apart (d : Declarations) : Declarations :=
  ⟨d.normal.flatMap fun e => shortest [e], d.important.flatMap fun e => shortest [e]⟩

/-- The declarations with semicolons between them, important ones last. -/
def text (d : Declarations) : String :=
  ";".intercalate (d.normal.map (Declaration.text false) ++
    d.important.map (Declaration.text true))

/-- What a block sets, in order: names, and whether they are important. -/
def names (d : Declarations) : List (List String × Bool) :=
  d.normal.map (fun e => (e.names, false)) ++ d.important.map fun e => (e.names, true)

end Declarations

end ScopedViews.Css
