import Mathlib.Logic.Relation
import ScopedViews.Proofs.Path.Relative
/-!
# Reducing paths

A path is reduced by crossing out components where they stand: a `.`, a name together with the `..`
behind it, and a `..` behind the root.  The normal form is what is left when nothing more can be
crossed out, and it is the same in whatever order that is done.

* `Reduces`, `IsReduced`: one reduction, and components that have none;
* `reduces_resolveAll`, `Reduces.resolveAll_eq`: resolving reduces, and reducing first makes no
  difference to it;
* `reduces_iff_eq_resolveAll`: the normal form is the only reduced one;
* `normalize_join`: a path can be put in its normal form before another one is joined to it;
* `normalize_laws`: all that holds of normal forms.
-/

namespace ScopedViews.Path

open Relation (ReflTransGen reflTransGen_iff_eq)

/-- Components are crossed out at one place. -/
inductive Reduces : List Component → List Component → Prop
  | current (xs ys : List Component) : Reduces (xs ++ .current :: ys) (xs ++ ys)
  | name (xs ys : List Component) (bytes : Bytes) :
    Reduces (xs ++ .name bytes :: .parent :: ys) (xs ++ ys)
  | root (xs ys : List Component) : Reduces (xs ++ .root :: .parent :: ys) (xs ++ .root :: ys)

/-- Nothing can be crossed out. -/
def IsReduced (cs : List Component) : Prop := ∀ ds, ¬ Reduces cs ds

variable {cs ds : List Component}

/-! ## Resolving reduces -/

/-- A component that is taken onto the stack is kept, or crossed out with what it meets there.  The
stack has the last component on top. -/
theorem reduces_resolve (stack : List Component) (c : Component) (rest : List Component) :
    ReflTransGen Reduces (stack.reverse ++ c :: rest) ((resolve stack c).reverse ++ rest) := by
  -- a component that is kept only moves from the rest to the stack
  have hkept :
      ReflTransGen Reduces (stack.reverse ++ c :: rest) ((c :: stack).reverse ++ rest) := by
    rw [List.reverse_cons, List.append_assoc, List.singleton_append]
  cases c with
  | root => exact hkept
  | name bytes => exact hkept
  | current => exact .single (.current stack.reverse rest)
  | parent =>
      cases stack with
      | nil => exact hkept
      | cons top below =>
          have htop : (top :: below).reverse ++ .parent :: rest =
              below.reverse ++ top :: .parent :: rest := by
            rw [List.reverse_cons, List.append_assoc, List.singleton_append]
          cases top with
          | current => exact hkept
          | parent => exact hkept
          | name bytes =>
              rw [htop]
              exact .single (.name below.reverse rest bytes)
          | root =>
              have hroot := Reduces.root below.reverse rest
              rw [htop]
              show ReflTransGen Reduces _ ((Component.root :: below).reverse ++ rest)
              rw [List.reverse_cons, List.append_assoc, List.singleton_append]
              exact .single hroot

theorem reduces_foldl_resolve (stack cs : List Component) :
    ReflTransGen Reduces (stack.reverse ++ cs) (cs.foldl resolve stack).reverse := by
  induction cs generalizing stack with
  | nil => rw [List.append_nil, List.foldl_nil]
  | cons c cs ih => exact (reduces_resolve stack c cs).trans (ih (resolve stack c))

theorem reduces_resolveAll (cs : List Component) : ReflTransGen Reduces cs (resolveAll cs) :=
  reduces_foldl_resolve [] cs

/-! ## Reducing first makes no difference -/

theorem Reduces.resolveAll_eq (h : Reduces cs ds) : resolveAll cs = resolveAll ds := by
  cases h with
  | current xs ys => exact resolveAll_append_current xs ys
  | name xs ys bytes => simp [resolveAll, List.foldl_append, resolve]
  | root xs ys => simp [resolveAll, List.foldl_append, resolve]

theorem resolveAll_eq_of_reduces (h : ReflTransGen Reduces cs ds) :
    resolveAll cs = resolveAll ds := by
  induction h with
  | refl => rfl
  | tail _ hstep ih => rw [ih, hstep.resolveAll_eq]

theorem Reduces.length_lt (h : Reduces cs ds) : ds.length < cs.length := by
  cases h with
  | current xs ys => simp
  | name xs ys bytes =>
      rw [List.length_append, List.length_append, List.length_cons, List.length_cons]
      omega
  | root xs ys => simp

theorem length_le_of_reduces (h : ReflTransGen Reduces cs ds) : ds.length ≤ cs.length := by
  induction h with
  | refl => exact Nat.le_refl _
  | tail _ hstep ih => exact Nat.le_trans (Nat.le_of_lt hstep.length_lt) ih

/-! ## Reduced components -/

/-- What is resolved to itself is reduced, for a reduction would make it shorter. -/
theorem isReduced_of_resolveAll_eq (h : resolveAll cs = cs) : IsReduced cs := by
  intro ds hstep
  have hback := length_le_of_reduces (reduces_resolveAll ds)
  rw [← hstep.resolveAll_eq, h] at hback
  exact absurd hstep.length_lt (Nat.not_lt.2 hback)

theorem IsReduced.resolveAll_eq (h : IsReduced cs) : resolveAll cs = cs :=
  (reflTransGen_iff_eq h).1 (reduces_resolveAll cs)

/-- In whatever order components are crossed out, what is left in the end is the normal form. -/
theorem reduces_iff_eq_resolveAll (p : Path) :
    ReflTransGen Reduces p.components cs ∧ IsReduced cs ↔ cs = resolveAll p.components := by
  constructor
  · rintro ⟨hreduces, hreduced⟩
    rw [resolveAll_eq_of_reduces hreduces, hreduced.resolveAll_eq]
  · rintro rfl
    have hfixed := resolveAll_of_resolved (resolved_resolveAll p)
    exact ⟨reduces_resolveAll p.components, isReduced_of_resolveAll_eq hfixed⟩

/-! ## The shape of a normal form -/

theorem root_mem_components_iff {p : Path} : .root ∈ p.components ↔ p.isAbsolute = true := by
  constructor
  · intro hmem
    by_contra hrelative
    exact ne_root_of_not_isAbsolute (Bool.not_eq_true _ ▸ hrelative) hmem rfl
  · intro habsolute
    rw [components_of_isAbsolute habsolute]
    exact List.mem_cons_self

/-- A normal form keeps the root, or has some `..` in front, and is made of names behind it. -/
theorem exists_components_normalize (p : Path) :
    ∃ (n : Nat) (names : List Bytes), p.normalize.components =
      (if p.isAbsolute then [.root] else List.replicate n .parent) ++ names.map .name := by
  rw [components_normalize]
  cases habsolute : p.isAbsolute with
  | true =>
      have hinner : ∀ c ∈ p.inner, c.IsInner := fun c hc => isInner_of_mem_inner hc
      obtain ⟨below, -, hfrom⟩ := resolveAll_root_append hinner
      exact ⟨0, below, by simpa [components_of_isAbsolute habsolute] using hfrom []⟩
  | false =>
      obtain ⟨front, names, hresolved, hfront, -⟩ := resolved_resolveAll p
      rcases hfront with rfl | ⟨n, rfl⟩
      · have hroot : .root ∈ p.components := mem_resolveAll (hresolved ▸ List.mem_cons_self)
        rw [root_mem_components_iff, habsolute] at hroot
        cases hroot
      · exact ⟨n, names, hresolved⟩

/-! ## Joining -/

theorem join_of_isAbsolute (p : Path) {q : Path} (h : q.isAbsolute = true) : p.join q = q := by
  rw [join, h, Bool.true_or, if_pos rfl]

/-- A path can be put in its normal form before another one is joined to it. -/
theorem normalize_join (p q : Path) : (p.normalize.join q).normalize = (p.join q).normalize := by
  cases habsolute : q.isAbsolute with
  | true => rw [join_of_isAbsolute _ habsolute, join_of_isAbsolute _ habsolute]
  | false =>
      rw [normalize_eq_iff, resolveAll_join_of_relative _ habsolute,
        resolveAll_join_of_relative _ habsolute, components_normalize,
        resolveAll_resolveAll_append]

/-- The normal form of a path has no `.`, and `..` only in front, where the path is relative.  It is
what any reduction of the path ends with, its own normal form, and as good as the path when another
one is joined to it.  Read back from its rendering, a path has the components that are shown: its
own exactly if all its names are texts. -/
theorem normalize_laws (p q : Path) :
    .current ∉ p.normalize.components ∧
      (∃ (n : Nat) (names : List Bytes), p.normalize.components =
        (if p.isAbsolute then [.root] else List.replicate n .parent) ++ names.map .name) ∧
      (∀ cs, ReflTransGen Reduces p.components cs ∧ IsReduced cs ↔ cs = p.normalize.components) ∧
      p.normalize.normalize = p.normalize ∧
      (p.join q).normalize = (p.normalize.join q).normalize ∧
      (Path.mk p.slashed).components = p.components.map Component.shown ∧
      ((Path.mk p.slashed).components = p.components ↔
        ∀ bytes, .name bytes ∈ p.components → Text.IsText bytes) := by
  obtain ⟨n, names, hshape⟩ := exists_components_normalize p
  have hcurrent : .current ∉ p.normalize.components := by
    rw [hshape]
    cases p.isAbsolute <;> simp [List.mem_replicate]
  have hreduced (cs : List Component) :
      ReflTransGen Reduces p.components cs ∧ IsReduced cs ↔ cs = p.normalize.components := by
    rw [components_normalize]
    exact reduces_iff_eq_resolveAll p
  refine ⟨hcurrent, ⟨n, names, hshape⟩, hreduced, normalize_normalize p, (normalize_join p q).symm,
    components_slashed p, ?_⟩
  rw [components_slashed]
  exact map_shown_eq_self_iff

/-- A name of two bytes of which the second one is no text: another name is read back. -/
theorem not_components_slashed_malformed :
    (Path.mk (Path.mk [0x61, 0xFF]).slashed).components ≠ (Path.mk [0x61, 0xFF]).components ∧
      (Path.mk (Path.mk [0x61, 0xFF]).slashed).components =
        [.name [0x61, 0xEF, 0xBF, 0xBD]] := by
  decide +kernel

end ScopedViews.Path
