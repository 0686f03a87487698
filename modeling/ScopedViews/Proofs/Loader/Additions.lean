import ScopedViews.Proofs.Engine.Records
import ScopedViews.Proofs.Text.Splitting
/-!
# What is added to a loader

A loader gets its directives one by one, in any order.  It keeps the loaders that it includes apart
from the files that are required and from the view's own asset, so that of all orders only those
within each role can be told from it.

* `FillsIn`, `fillsIn_fillIn`: a directive with its first placeholder filled in;
* `Role`, `Addition`, `add`: one addition, and `lane_add`, what it changes;
* `lane_addAll`: what any additions amount to;
* `inOrder`, `directives_addAll_empty`: the order in which their directives are written.

The last theorem puts this together for the loader of a view.
-/

namespace ScopedViews

open Text (contains)

/-! ## Filling in -/

/-- A directive is a template in which the value stands in place of the first placeholder. -/
def FillsIn (template placeholder value directive : String) : Prop :=
  ∃ before after : List Char, template.toList = before ++ placeholder.toList ++ after ∧
    (∀ i < before.length, ¬ placeholder.toList <+: template.toList.drop i) ∧
    directive.toList = before ++ value.toList ++ after

theorem fillsIn_fillIn {template placeholder : String} (h : contains template placeholder = true)
    (value : String) : FillsIn template placeholder value (fillIn template placeholder value) := by
  -- the template is cut at the first placeholder, and the value is not looked at
  obtain ⟨i, hfind⟩ := Option.isSome_iff_exists.1 h
  obtain ⟨⟨after, hafter⟩, hfirst⟩ := Text.find?_eq_some_iff.1 hfind
  have hle := Text.find?_le hfind
  have hbefore : (template.toList.take i).length = i := by
    rw [List.length_take]
    omega
  have hdrop : template.toList.drop (i + placeholder.length) = after := by
    rw [← String.length_toList, ← List.drop_drop, ← hafter, List.drop_left]
  refine ⟨template.toList.take i, after, ?_, by rwa [hbefore], ?_⟩
  · rw [List.append_assoc, hafter, List.take_append_drop]
  · rw [fillIn, Text.replaceFirst, hfind, String.toList_ofList, hdrop]

theorem FillsIn.contains {template placeholder value directive : String}
    (h : FillsIn template placeholder value directive) : contains directive value = true := by
  obtain ⟨before, after, -, -, hdirective⟩ := h
  rw [Text.contains, Text.find?_isSome_iff, hdirective]
  exact ⟨before, after, rfl⟩

namespace Loader

/-! ## Additions -/

/-- What a directive is in a loader for. -/
inductive Role where
  | nested
  | required
  | owned
deriving DecidableEq, Repr

/-- Something that is added to a loader. -/
inductive Addition where
  | nested (target : Path)
  | required (importPath : String)
  | owned (importPath : String)
deriving DecidableEq, Repr

namespace Addition

def role : Addition → Role
  | nested _ => .nested
  | required _ => .required
  | owned _ => .owned

/-- The directive as the options give it. -/
def template (kind : AssetKind) (o : Options) : Addition → String
  | nested _ => o.loaderInclude
  | required _ | owned _ => kind.directive o

/-- What stands in the directive in place of the path. -/
def value (kind : AssetKind) (o : Options) : Addition → String
  | nested target => identifierOf target kind o.templateSuffix
  | required importPath | owned importPath => importPath

/-- The directive that is added. -/
def directive (kind : AssetKind) (o : Options) (x : Addition) : String :=
  fillIn (x.template kind o) pathPlaceholder (x.value kind o)

theorem fillsIn_directive {o : Options} (hvalid : o.isValid = true) (kind : AssetKind)
    (x : Addition) :
    FillsIn (x.template kind o) pathPlaceholder (x.value kind o) (x.directive kind o) := by
  refine fillsIn_fillIn ?_ _
  cases x with
  | nested target => exact Engine.contains_loaderInclude hvalid
  | required importPath => exact Engine.contains_directive hvalid kind
  | owned importPath => exact Engine.contains_directive hvalid kind

end Addition

variable {o : Options} {l l' : Loader} {xs ys : List Addition}

def add (o : Options) (l : Loader) : Addition → Loader
  | .nested target => l.addNested target o
  | .required importPath => l.addRequired importPath o
  | .owned importPath => l.addOwned importPath o

def addAll (o : Options) (l : Loader) (xs : List Addition) : Loader := xs.foldl (add o) l

/-- The directives that a loader has for one role. -/
def lane (l : Loader) : Role → List String
  | .nested => l.nested
  | .required => l.required
  | .owned => l.owned

/-- The additions of one role, in their order. -/
def ofRole (role : Role) (xs : List Addition) : List Addition := xs.filter (·.role = role)

/-- Loaders of one view for one kind of asset. -/
structure SamePlace (l l' : Loader) : Prop where
  kind_eq : l.kind = l'.kind
  identifier_eq : l.identifier = l'.identifier
  path_eq : l.path = l'.path

theorem SamePlace.symm (h : SamePlace l l') : SamePlace l' l :=
  ⟨h.kind_eq.symm, h.identifier_eq.symm, h.path_eq.symm⟩

theorem SamePlace.trans {l'' : Loader} (h : SamePlace l l') (h' : SamePlace l' l'') :
    SamePlace l l'' :=
  ⟨h.kind_eq.trans h'.kind_eq, h.identifier_eq.trans h'.identifier_eq, h.path_eq.trans h'.path_eq⟩

theorem eq_of_lane_eq (hplace : SamePlace l l') (hlane : ∀ role, l.lane role = l'.lane role) :
    l = l' := by
  obtain ⟨kind, identifier, path, nested, required, owned⟩ := l
  obtain ⟨rfl, rfl, rfl⟩ := hplace
  obtain rfl : nested = l'.nested := hlane .nested
  obtain rfl : required = l'.required := hlane .required
  obtain rfl : owned = l'.owned := hlane .owned
  rfl

/-- An addition changes what is there for its own role alone, at the end. -/
theorem lane_add (o : Options) (l : Loader) (x : Addition) (role : Role) :
    (l.add o x).lane role =
      l.lane role ++ (ofRole role [x]).map (Addition.directive l.kind o) := by
  by_cases hrole : x.role = role
  · subst hrole
    cases x <;> rfl
  · -- what is there for the other roles stays
    have hnone : ofRole role [x] = [] := by simp [ofRole, hrole]
    rw [hnone, List.map_nil, List.append_nil]
    cases x with
    | nested target =>
        cases role with
        | nested => exact absurd rfl hrole
        | required => rfl
        | owned => rfl
    | required importPath =>
        cases role with
        | nested => rfl
        | required => exact absurd rfl hrole
        | owned => rfl
    | owned importPath =>
        cases role with
        | nested => rfl
        | required => rfl
        | owned => exact absurd rfl hrole

theorem samePlace_add (o : Options) (l : Loader) (x : Addition) : SamePlace (l.add o x) l := by
  cases x <;> exact ⟨rfl, rfl, rfl⟩

theorem samePlace_addAll (o : Options) (l : Loader) (xs : List Addition) :
    SamePlace (l.addAll o xs) l := by
  induction xs generalizing l with
  | nil => exact ⟨rfl, rfl, rfl⟩
  | cons x xs ih => exact (ih (l.add o x)).trans (samePlace_add o l x)

/-- Additions amount for each role to those of the role, in their order. -/
theorem lane_addAll (o : Options) (l : Loader) (xs : List Addition) (role : Role) :
    (l.addAll o xs).lane role =
      l.lane role ++ (ofRole role xs).map (Addition.directive l.kind o) := by
  induction xs generalizing l with
  | nil => exact (List.append_nil _).symm
  | cons x xs ih =>
      have hsplit : ofRole role (x :: xs) = ofRole role [x] ++ ofRole role xs :=
        List.filter_append [x] xs
      show ((l.add o x).addAll o xs).lane role = _
      rw [ih, lane_add, (samePlace_add o l x).kind_eq, hsplit, List.map_append, List.append_assoc]

/-! ## The order of the directives -/

/-- Additions in the order in which their directives are written. -/
def inOrder (xs : List Addition) : List Addition :=
  ofRole .nested xs ++ ofRole .required xs ++ ofRole .owned xs

theorem mem_inOrder {x : Addition} : x ∈ inOrder xs ↔ x ∈ xs := by
  cases hrole : x.role <;> simp [inOrder, ofRole, hrole]

theorem inOrder_eq_nil_iff : inOrder xs = [] ↔ xs = [] := by
  simp only [List.eq_nil_iff_forall_not_mem, mem_inOrder]

theorem directives_addAll_empty (owner : Path) (kind : AssetKind) (o : Options)
    (xs : List Addition) :
    ((empty owner kind o).addAll o xs).directives =
      (inOrder xs).map (Addition.directive kind o) := by
  have hlane (role : Role) : ((empty owner kind o).addAll o xs).lane role =
      (ofRole role xs).map (Addition.directive kind o) := by
    rw [lane_addAll]
    cases role <;> rfl
  rw [inOrder, List.map_append, List.map_append, ← hlane, ← hlane, ← hlane]
  rfl

/-- Let the options be valid.  Whatever is added to the loader of a view, and in whatever order, its
directives are those for other loaders, then those for required files, then those for own assets,
each role in the order of its additions; each directive is the one that the options give with the
value in place of the first placeholder, and has the value in it.  The loader is used exactly if
something was added, and it is the same for all additions that are the same for each role. -/
theorem additions_in_order (o : Options) (hvalid : o.isValid = true) (owner : Path)
    (kind : AssetKind) (xs : List Addition) :
    List.Forall₂
        (fun x d => FillsIn (x.template kind o) pathPlaceholder (x.value kind o) d ∧
          contains d (x.value kind o) = true)
        (ofRole .nested xs ++ ofRole .required xs ++ ofRole .owned xs)
        ((empty owner kind o).addAll o xs).directives ∧
      (((empty owner kind o).addAll o xs).isUsed = true ↔ xs ≠ []) ∧
      ∀ ys, (∀ role, ofRole role ys = ofRole role xs) →
        (empty owner kind o).addAll o ys = (empty owner kind o).addAll o xs ∧
          ((empty owner kind o).addAll o ys).render =
            ((empty owner kind o).addAll o xs).render := by
  have hdirectives := directives_addAll_empty owner kind o xs
  refine ⟨?_, ?_, fun ys hys => ?_⟩
  · rw [hdirectives, List.forall₂_map_right_iff]
    refine List.forall₂_same.2 fun x _ => ?_
    have hfills := x.fillsIn_directive hvalid kind
    exact ⟨hfills, hfills.contains⟩
  · rw [isUsed, hdirectives, Bool.not_eq_true', List.isEmpty_eq_false_iff, ne_eq,
      List.map_eq_nil_iff, inOrder_eq_nil_iff]
  · have hsame : (empty owner kind o).addAll o ys = (empty owner kind o).addAll o xs := by
      refine eq_of_lane_eq ?_ fun role => ?_
      · exact (samePlace_addAll o _ ys).trans (samePlace_addAll o _ xs).symm
      · rw [lane_addAll, lane_addAll, hys role]
    exact ⟨hsame, congrArg render hsame⟩

/-- Options whose directive for scripts has two placeholders. -/
def twicePlaced : Options :=
  { scriptDist := "js", styleDist := "css", scriptInclude := "<$path|$path>" }

/-- An own asset that is added first and has a placeholder in its place. -/
def ownedFirst : List Addition :=
  [.owned "$path.js", .required "b.js", .nested ⟨"c/d.blade.php"⟩, .required "e.js"]

/-- The same additions in the order in which their directives are written. -/
theorem additions_in_order_ownedFirst :
    twicePlaced.isValid = true ∧
      (∀ role, ofRole role (inOrder ownedFirst) = ofRole role ownedFirst) ∧
      (empty ⟨"a.blade.php"⟩ .script twicePlaced).addAll twicePlaced (inOrder ownedFirst) =
        (empty ⟨"a.blade.php"⟩ .script twicePlaced).addAll twicePlaced ownedFirst ∧
      ((empty ⟨"a.blade.php"⟩ .script twicePlaced).addAll twicePlaced ownedFirst).render =
        "@include('c.d__script')\n<b.js|$path>\n<e.js|$path>\n<$path.js|$path>" := by
  have hvalid : twicePlaced.isValid = true := by decide +kernel
  have hroles : ∀ role, ofRole role (inOrder ownedFirst) = ofRole role ownedFirst := by
    intro role
    cases role <;> rfl
  obtain ⟨-, -, hsame⟩ :=
    additions_in_order twicePlaced hvalid ⟨"a.blade.php"⟩ .script ownedFirst
  exact ⟨hvalid, hroles, (hsame _ hroles).1, by decide +kernel⟩

end Loader

end ScopedViews
