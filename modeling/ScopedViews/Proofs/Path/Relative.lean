import Mathlib.Data.List.Induction
import ScopedViews.Proofs.Path.Join
/-!
# Paths that climb

Behind a directory the root of a path and a `.` in front of it say nothing.  What is left is taken
step by step: names lead down, and `..` leads up again as far as there are names of the directory
to take off.

* `rootless`, `resolveAll_join_of_relative`: a relative path seen from a directory;
* `climb`, `resolveAll_root_append`: how many names of a directory a path takes off;
* `resolveAll_root_eq_iff`: when a directory makes no difference.
-/

namespace ScopedViews.Path

variable {p q : Path}

/-- Components without the root. -/
def rootless (cs : List Component) : List Component := cs.filter (· ≠ .root)

/-- How many `..` are left in front when a path is resolved from no directory. -/
def climb (cs : List Component) : Nat := ((resolveAll cs).takeWhile (· = .parent)).length

/-! ## What is said behind another component -/

theorem isInner_of_mem_inner {c : Component} (hc : c ∈ p.inner) : c.IsInner :=
  isInner_of_mem_filterMap (fun _ hpiece hmem => (mem_of_mem_pieces hpiece hmem).2 rfl) hc

theorem Component.IsInner.ne_root {c : Component} (hc : c.IsInner) : c ≠ .root := by
  rcases hc with rfl | ⟨bytes, rfl, -⟩ <;> simp

theorem components_of_isAbsolute (h : p.isAbsolute = true) :
    p.components = .root :: p.inner := by
  obtain ⟨cs, hcs⟩ : ∃ cs, p.bytes = slash :: cs :=
    List.head?_eq_some_iff.1 (by simpa [isAbsolute] using h)
  obtain ⟨piece, more, hpieces⟩ := List.exists_cons_of_ne_nil (pieces_ne_nil cs)
  rw [components, inner, hcs, componentsOf_eq, pieces, if_pos rfl, hpieces]
  rfl

/-- A relative path has in front at most a `.` that is not read behind another component. -/
theorem components_of_not_isAbsolute (h : p.isAbsolute = false) :
    p.components = p.inner ∨ p.components = .current :: p.inner := by
  rw [components, inner, componentsOf_eq]
  cases hcs : p.bytes with
  | nil => exact Or.inl rfl
  | cons c cs =>
      have hc : c ≠ slash := by
        rintro rfl
        simp [isAbsolute, hcs] at h
      obtain ⟨piece, more, hpieces⟩ := List.exists_cons_of_ne_nil (pieces_ne_nil cs)
      have hread : readPieces (pieces (c :: cs)) =
          (firstComponent? (c :: piece)).toList ++ more.filterMap innerComponent? := by
        rw [pieces, if_neg hc, hpieces]
        rfl
      rw [hread, pieces, if_neg hc, hpieces, List.filterMap_cons, firstComponent?]
      split
      next hdot =>
          right
          rw [hdot]
          rfl
      next =>
          left
          cases innerComponent? (c :: piece) <;> rfl

theorem ne_root_of_not_isAbsolute {p : Path} (hp : p.isAbsolute = false) {c : Component}
    (hc : c ∈ p.components) : c ≠ .root := by
  rcases components_of_not_isAbsolute hp with hcomponents | hcomponents
  · exact (isInner_of_mem_inner (hcomponents ▸ hc)).ne_root
  · rcases List.mem_cons.1 (hcomponents ▸ hc) with rfl | hc
    · nofun
    · exact (isInner_of_mem_inner hc).ne_root

theorem resolveAll_append_current (xs ys : List Component) :
    resolveAll (xs ++ .current :: ys) = resolveAll (xs ++ ys) := by
  simp [resolveAll, List.foldl_append, resolve]

theorem resolveAll_append_components (h : p.isAbsolute = false) (xs : List Component) :
    resolveAll (xs ++ p.components) = resolveAll (xs ++ p.inner) := by
  rcases components_of_not_isAbsolute h with heq | heq
  · rw [heq]
  · rw [heq, resolveAll_append_current]

theorem rootless_inner (p : Path) : rootless p.inner = p.inner :=
  List.filter_eq_self.2 fun _ hc => by simpa using (isInner_of_mem_inner hc).ne_root

theorem resolveAll_append_rootless (xs : List Component) (p : Path) :
    resolveAll (xs ++ rootless p.components) = resolveAll (xs ++ p.inner) := by
  cases h : p.isAbsolute with
  | true =>
      rw [components_of_isAbsolute h]
      exact congrArg (fun cs => resolveAll (xs ++ cs)) (rootless_inner p)
  | false =>
      rcases components_of_not_isAbsolute h with heq | heq
      · rw [heq, rootless_inner]
      · rw [heq]
        show resolveAll (xs ++ .current :: rootless p.inner) = _
        rw [rootless_inner, resolveAll_append_current]

theorem Inside.rootless_eq (hq : Inside q) : rootless q.components = q.components := by
  rw [← hq.inner_eq, rootless_inner]

/-- Without the root, a separator behind a path adds what stands behind it. -/
theorem rootless_slash (p : Path) (hq : Inside q) :
    rootless (Path.mk (p.bytes ++ slash :: q.bytes)).components =
      rootless p.components ++ q.components := by
  by_cases hempty : p.bytes = []
  · have habsolute : (Path.mk ([] ++ slash :: q.bytes)).isAbsolute = true := by
      simp [isAbsolute]
    have hinner : (Path.mk ([] ++ slash :: q.bytes)).inner = q.inner := by
      simp [inner, pieces, innerComponent?]
    have hp : rootless p.components = [] := by
      rw [components, hempty]
      rfl
    rw [hempty, components_of_isAbsolute habsolute, hinner, hp, List.nil_append, ← hq.inner_eq]
    exact rootless_inner q
  · rw [components_slash hempty, rootless, List.filter_append, hq.inner_eq]
    exact congrArg (rootless p.components ++ ·) hq.rootless_eq

/-- A relative path, seen from a directory. -/
theorem resolveAll_join_of_relative (p : Path) (hq : q.isAbsolute = false) :
    resolveAll (p.join q).components = resolveAll (p.components ++ q.components) := by
  by_cases hempty : p.bytes = []
  · have hp : p.components = [] := by
      rw [components, hempty]
      rfl
    rw [join, if_pos (by simp [hempty]), hp, List.nil_append]
  · rw [components_join_of_ne_nil hempty hq, resolveAll_append_components hq]

theorem climb_rootless (p : Path) : climb (rootless p.components) = climb p.inner := by
  have h := resolveAll_append_rootless [] p
  rw [List.nil_append, List.nil_append] at h
  rw [climb, h, climb]

/-! ## Climbing -/

theorem resolveAll_concat_name (cs : List Component) (bytes : Bytes) :
    resolveAll (cs ++ [.name bytes]) = resolveAll cs ++ [.name bytes] :=
  resolveAll_append_names cs [bytes]

/-- Components are resolved from where those in front of them lead. -/
theorem resolveAll_append (xs ys : List Component) :
    resolveAll (xs ++ ys) = (ys.foldl resolve (resolveAll xs).reverse).reverse := by
  rw [resolveAll, List.foldl_append, resolveAll, List.reverse_reverse]

/-- What stands behind a path is resolved from its normal form. -/
theorem resolveAll_resolveAll_append (p : Path) (tail : List Component) :
    resolveAll (resolveAll p.components ++ tail) = resolveAll (p.components ++ tail) := by
  rw [resolveAll_append, resolveAll_of_resolved (resolved_resolveAll p), ← resolveAll_append]

theorem resolved_resolveAll_append (p : Path) {tail : List Component}
    (htail : ∀ c ∈ tail, c.IsInner) : Resolved (resolveAll (p.components ++ tail)) := by
  rw [resolveAll_append]
  refine resolved_foldl_resolve htail ?_
  rw [List.reverse_reverse]
  exact resolved_resolveAll p

/-- Components in normal form are told apart as they are written. -/
theorem ofComponents_inj {xs ys : List Component} (hxs : Resolved xs) (hys : Resolved ys) :
    ofComponents xs = ofComponents ys ↔ xs = ys := by
  constructor
  · intro h
    have hrender : render xs = render ys := Path.mk.inj h
    rw [← componentsOf_render hxs.placed, hrender, componentsOf_render hys.placed]
  · intro h
    rw [h]

theorem resolveAll_concat_parent_of_name {cs xs : List Component} {bytes : Bytes}
    (h : resolveAll cs = xs ++ [.name bytes]) : resolveAll (cs ++ [.parent]) = xs := by
  simp [resolveAll_append, h, resolve]

theorem resolveAll_concat_parent_of_parents {cs : List Component} {k : Nat}
    (h : resolveAll cs = List.replicate k .parent) :
    resolveAll (cs ++ [.parent]) = List.replicate (k + 1) .parent := by
  rw [resolveAll_append, h, List.reverse_replicate]
  cases k with
  | zero => rfl
  | succ k =>
      show (List.replicate (k + 2) Component.parent).reverse = _
      rw [List.reverse_replicate]

theorem climb_eq {cs : List Component} {k : Nat} {names : List Bytes}
    (h : resolveAll cs = List.replicate k .parent ++ names.map .name) : climb cs = k := by
  rw [climb, h, List.takeWhile_append_of_pos (by simp +contextual [List.mem_replicate])]
  cases names <;> simp

/-- What is taken from the root through a directory takes off as many names of the directory as it
climbs. -/
theorem resolveAll_root_append {tail : List Component} (htail : ∀ c ∈ tail, c.IsInner) :
    ∃ below : List Bytes,
      resolveAll tail = List.replicate (climb tail) .parent ++ below.map .name ∧
      ∀ names : List Bytes, resolveAll (.root :: names.map .name ++ tail) =
        .root :: (names.take (names.length - climb tail)).map .name ++ below.map .name := by
  induction tail using List.reverseRecOn with
  | nil =>
      refine ⟨[], rfl, fun names => ?_⟩
      have hclimb : climb [] = 0 := rfl
      rw [hclimb, Nat.sub_zero, List.take_length, List.append_nil, List.map_nil, List.append_nil]
      exact resolveAll_append_names [.root] names
  | append_singleton tail c ih =>
      obtain ⟨below, hbelow, hfrom⟩ := ih fun d hd => htail d (List.mem_append_left _ hd)
      simp only [← List.append_assoc]
      rcases htail c (by simp) with rfl | ⟨bytes, rfl, -⟩
      · rcases below.eq_nil_or_concat' with rfl | ⟨below, last, rfl⟩
        · -- one more name of the directory is taken off, if there is one left
          rw [List.map_nil, List.append_nil] at hbelow
          have hup : resolveAll (tail ++ [.parent]) =
              List.replicate (climb tail + 1) .parent ++ ([] : List Bytes).map .name := by
            rw [resolveAll_concat_parent_of_parents hbelow, List.map_nil, List.append_nil]
          have hclimb : climb (tail ++ [.parent]) = climb tail + 1 := climb_eq hup
          refine ⟨[], by rw [hclimb, hup], fun names => ?_⟩
          have hfrom := hfrom names
          rw [List.map_nil, List.append_nil] at hfrom ⊢
          rw [hclimb]
          cases hleft : names.length - climb tail with
          | zero =>
              rw [hleft] at hfrom
              rw [resolveAll_append, hfrom, Nat.sub_add_eq, hleft]
              rfl
          | succ n =>
              have hn : n < names.length := by omega
              rw [hleft, List.take_add_one, List.getElem?_eq_getElem hn, List.map_append,
                ← List.cons_append] at hfrom
              rw [resolveAll_concat_parent_of_name hfrom, Nat.sub_add_eq, hleft]
              rfl
        · rw [List.map_append, ← List.append_assoc] at hbelow
          have hup := resolveAll_concat_parent_of_name hbelow
          have hclimb : climb (tail ++ [.parent]) = climb tail := climb_eq hup
          refine ⟨below, by rw [hclimb, hup], fun names => ?_⟩
          have hfrom := hfrom names
          rw [List.map_append, ← List.append_assoc] at hfrom
          rw [hclimb, resolveAll_concat_parent_of_name hfrom]
      · have hdown : resolveAll (tail ++ [.name bytes]) =
            List.replicate (climb tail) .parent ++ (below ++ [bytes]).map .name := by
          rw [resolveAll_concat_name, hbelow, List.map_append, List.append_assoc]
          rfl
        have hclimb : climb (tail ++ [.name bytes]) = climb tail := climb_eq hdown
        refine ⟨below ++ [bytes], by rw [hclimb, hdown], fun names => ?_⟩
        rw [hclimb, resolveAll_concat_name, hfrom, List.map_append, List.append_assoc]
        rfl

/-- A directory makes no difference to what is taken from the root exactly if it lies below the root
by no more names than are taken off. -/
theorem resolveAll_root_eq_iff (p : Path) {tail : List Component}
    (htail : ∀ c ∈ tail, c.IsInner) :
    resolveAll (.root :: tail) = resolveAll (p.components ++ tail) ↔
      ∃ names : List Bytes, resolveAll p.components = .root :: names.map .name ∧
        names.length ≤ climb tail := by
  obtain ⟨below, -, hfrom⟩ := resolveAll_root_append htail
  have hroot : resolveAll (.root :: tail) = .root :: below.map .name := by
    simpa using hfrom []
  rw [hroot, ← resolveAll_resolveAll_append]
  obtain ⟨front, names, hp, hfront, -⟩ := resolved_resolveAll p
  rw [hp]
  rcases hfront with rfl | ⟨n, rfl⟩
  · constructor
    · intro h
      refine ⟨names, rfl, ?_⟩
      have h := (hfrom names).symm.trans h.symm
      have hlength := congrArg List.length h
      simp only [List.length_append, List.length_cons, List.length_map, List.length_take] at hlength
      omega
    · rintro ⟨names', hnames, hle⟩
      obtain rfl : names = names' := List.map_injective_iff.2
        (fun _ _ heq => Component.name.inj heq) (List.cons.inj hnames).2
      refine Eq.symm ((hfrom names).trans ?_)
      rw [Nat.sub_eq_zero_of_le hle]
      rfl
  · -- a directory that does not start at the root never leads there
    have hnot : .root ∉ List.replicate n Component.parent ++ names.map .name ++ tail := by
      intro hmem
      rcases List.mem_append.1 hmem with hmem | hmem
      · simp [List.mem_replicate] at hmem
      · exact (htail _ hmem).ne_root rfl
    constructor
    · intro h
      exact absurd (mem_resolveAll (h ▸ List.mem_cons_self)) hnot
    · rintro ⟨names', hnames, -⟩
      exact absurd (List.mem_append_left tail (hnames ▸ List.mem_cons_self)) hnot

end ScopedViews.Path
