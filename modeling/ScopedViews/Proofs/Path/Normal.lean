import ScopedViews.Path
/-!
# Normal forms of paths

The components of a normal form are in front the root or some `..`, and behind it names alone.
Written and read again they are the same, so that two paths have one normal form exactly if they
are resolved to the same components.

* `IsName`, `Resolved`: names, and components in normal form;
* `Placed`, `componentsOf_render`: the components of a path are read as they were written;
* `components_normalize`, `normalize_normalize`: the normal form is in normal form;
* `Inside`, `components_join`: paths that are made of names, as seen from any directory.
-/

namespace ScopedViews.Path

/-! ## Pieces -/

/-- A piece of a path that is read as a name. -/
structure IsName (bytes : Bytes) : Prop where
  ne_nil : bytes ≠ []
  ne_current : bytes ≠ [dot]
  ne_parent : bytes ≠ [dot, dot]
  no_slash : slash ∉ bytes

theorem pieces_ne_nil (bs : Bytes) : pieces bs ≠ [] := by
  cases bs with
  | nil => simp [pieces]
  | cons b bs =>
      rw [pieces]
      split
      next => simp
      next => split <;> simp

/-- A separator ends a piece. -/
theorem pieces_append_slash (front back : Bytes) :
    pieces (front ++ slash :: back) = pieces front ++ pieces back := by
  induction front with
  | nil => simp [pieces]
  | cons b front ih =>
      rw [List.cons_append, pieces, pieces, ih]
      by_cases hb : b = slash
      · rw [if_pos hb, if_pos hb, List.cons_append]
      · rw [if_neg hb, if_neg hb]
        cases hpieces : pieces front with
        | nil => exact absurd hpieces (pieces_ne_nil front)
        | cons piece more => rfl

theorem pieces_of_no_slash {bs : Bytes} (h : slash ∉ bs) : pieces bs = [bs] := by
  induction bs with
  | nil => rfl
  | cons b bs ih =>
      have hb : b ≠ slash := fun hb => h (hb ▸ List.mem_cons_self)
      rw [pieces, if_neg hb, ih fun hmem => h (List.mem_cons_of_mem b hmem)]

theorem pieces_joinParts {parts : List Bytes} (hne : parts ≠ [])
    (hslash : ∀ part ∈ parts, slash ∉ part) : pieces (joinParts slash parts) = parts := by
  induction parts with
  | nil => contradiction
  | cons part parts ih =>
      have hpart : pieces part = [part] := pieces_of_no_slash (hslash part List.mem_cons_self)
      cases parts with
      | nil => exact hpart
      | cons next parts =>
          have hrest := ih (by simp) fun part hmem => hslash part (List.mem_cons_of_mem _ hmem)
          show pieces (part ++ slash :: joinParts slash (next :: parts)) = _
          rw [pieces_append_slash, hpart, hrest, List.singleton_append]

/-- What stands in a piece stands in the text, and is no separator. -/
theorem mem_of_mem_pieces {bs piece : Bytes} {b : UInt8} (hpiece : piece ∈ pieces bs)
    (hb : b ∈ piece) : b ∈ bs ∧ b ≠ slash := by
  induction bs generalizing piece with
  | nil =>
      obtain rfl : piece = [] := by simpa [pieces] using hpiece
      simp at hb
  | cons d bs ih =>
      rw [pieces] at hpiece
      by_cases hd : d = slash
      · rw [if_pos hd] at hpiece
        rcases List.mem_cons.1 hpiece with rfl | hpiece
        · simp at hb
        · exact ⟨List.mem_cons_of_mem d (ih hpiece hb).1, (ih hpiece hb).2⟩
      · rw [if_neg hd] at hpiece
        cases hpieces : pieces bs with
        | nil => exact absurd hpieces (pieces_ne_nil bs)
        | cons first more =>
            rw [hpieces] at hpiece ih
            rcases List.mem_cons.1 hpiece with rfl | hpiece
            · rcases List.mem_cons.1 hb with rfl | hb
              · exact ⟨List.mem_cons_self, hd⟩
              · have hmem := ih List.mem_cons_self hb
                exact ⟨List.mem_cons_of_mem d hmem.1, hmem.2⟩
            · have hmem := ih (List.mem_cons_of_mem first hpiece) hb
              exact ⟨List.mem_cons_of_mem d hmem.1, hmem.2⟩

theorem mem_joinParts {α : Type} {separator x : α} {parts : List (List α)}
    (h : x ∈ joinParts separator parts) : x = separator ∨ ∃ part ∈ parts, x ∈ part := by
  induction parts with
  | nil => simp [joinParts] at h
  | cons part parts ih =>
      cases parts with
      | nil => exact Or.inr ⟨part, List.mem_cons_self, h⟩
      | cons next parts =>
          have h : x ∈ part ++ separator :: joinParts separator (next :: parts) := h
          rcases List.mem_append.1 h with hpart | hrest
          · exact Or.inr ⟨part, List.mem_cons_self, hpart⟩
          · rcases List.mem_cons.1 hrest with hseparator | hrest
            · exact Or.inl hseparator
            · rcases ih hrest with hseparator | ⟨other, hother, hx⟩
              · exact Or.inl hseparator
              · exact Or.inr ⟨other, List.mem_cons_of_mem part hother, hx⟩

/-- The last part stands behind a separator, unless it is the only one. -/
theorem joinParts_concat (front : List Bytes) :
    ∃ before, (before = [] ∨ before.getLast? = some slash) ∧
      ∀ last, joinParts slash (front ++ [last]) = before ++ last := by
  induction front with
  | nil => exact ⟨[], Or.inl rfl, fun _ => rfl⟩
  | cons part front ih =>
      obtain ⟨before, hends, hbefore⟩ := ih
      have hjoin (last : Bytes) :
          joinParts slash (part :: (front ++ [last])) =
            part ++ slash :: joinParts slash (front ++ [last]) := by
        cases front <;> rfl
      refine ⟨part ++ slash :: before, Or.inr ?_, fun last => ?_⟩
      · rcases hends with rfl | hends
        · rw [List.getLast?_append, List.getLast?_singleton, Option.some_or]
        · rw [List.getLast?_append, List.getLast?_cons, hends, Option.getD_some, Option.some_or]
      · rw [List.cons_append, hjoin, hbefore, List.append_assoc, List.cons_append]

/-! ## Components -/

/-- The components that pieces are read as. -/
def readPieces : List Bytes → List Component
  | [] => []
  | [] :: second :: more => .root :: (second :: more).filterMap innerComponent?
  | first :: more => (firstComponent? first).toList ++ more.filterMap innerComponent?

theorem componentsOf_eq (bytes : Bytes) : componentsOf bytes = readPieces (pieces bytes) := rfl

theorem innerComponent?_name {bytes : Bytes} (h : IsName bytes) :
    innerComponent? bytes = some (.name bytes) := by
  rw [innerComponent?, if_neg (by simp [h.ne_nil, h.ne_current]), if_neg h.ne_parent]

theorem firstComponent?_name {bytes : Bytes} (h : IsName bytes) :
    firstComponent? bytes = some (.name bytes) := by
  rw [firstComponent?, if_neg h.ne_current, innerComponent?_name h]

/-- A component that stands behind another one. -/
def Component.IsInner (c : Component) : Prop :=
  c = .parent ∨ ∃ bytes, c = .name bytes ∧ IsName bytes

namespace Component.IsInner

variable {c : Component}

theorem ne_nil (hc : c.IsInner) : c.bytes ≠ [] := by
  rcases hc with rfl | ⟨bytes, rfl, hname⟩
  · exact List.cons_ne_nil _ _
  · exact hname.ne_nil

theorem no_slash (hc : c.IsInner) : slash ∉ c.bytes := by
  rcases hc with rfl | ⟨bytes, rfl, hname⟩
  · decide
  · exact hname.no_slash

theorem innerComponent?_bytes (hc : c.IsInner) : innerComponent? c.bytes = some c := by
  rcases hc with rfl | ⟨bytes, rfl, hname⟩
  · rfl
  · exact innerComponent?_name hname

theorem firstComponent?_bytes (hc : c.IsInner) : firstComponent? c.bytes = some c := by
  rcases hc with rfl | ⟨bytes, rfl, hname⟩
  · rfl
  · exact firstComponent?_name hname

end Component.IsInner

theorem isInner_of_innerComponent? {piece : Bytes} {c : Component} (hslash : slash ∉ piece)
    (h : innerComponent? piece = some c) : c.IsInner := by
  rw [innerComponent?] at h
  split at h
  next => simp at h
  next hne =>
      have hne : piece ≠ [] ∧ piece ≠ [dot] := by simpa using hne
      split at h
      next =>
          cases h
          exact Or.inl rfl
      next hparent =>
          cases h
          exact Or.inr ⟨piece, rfl, hne.1, hne.2, hparent, hslash⟩

theorem isInner_of_mem_filterMap {ps : List Bytes} (hslash : ∀ piece ∈ ps, slash ∉ piece)
    {c : Component} (h : c ∈ ps.filterMap innerComponent?) : c.IsInner := by
  obtain ⟨piece, hpiece, hc⟩ := List.mem_filterMap.1 h
  exact isInner_of_innerComponent? (hslash piece hpiece) hc

/-- Components in an order in which a path can have them: the root or a `.` stands in front, and
behind it there are only `..` and names. -/
def Placed (cs : List Component) : Prop :=
  ∃ head tail, cs = head ++ tail ∧ (head = [] ∨ head = [.root] ∨ head = [.current]) ∧
    ∀ c ∈ tail, c.IsInner

theorem placed_components (p : Path) : Placed p.components := by
  have hslash : ∀ piece ∈ pieces p.bytes, slash ∉ piece := fun piece hpiece hmem =>
    (mem_of_mem_pieces hpiece hmem).2 rfl
  rw [components, componentsOf_eq]
  -- the cases are those of `readPieces`, with a piece in front that may be empty or a dot
  match pieces p.bytes, hslash with
  | [], _ => exact ⟨[], [], rfl, Or.inl rfl, by simp⟩
  | [] :: second :: more, hslash =>
      refine ⟨[.root], (second :: more).filterMap innerComponent?, rfl, Or.inr (Or.inl rfl), ?_⟩
      intro c hc
      exact isInner_of_mem_filterMap
        (fun piece hpiece => hslash piece (List.mem_cons_of_mem _ hpiece)) hc
  | [[]], _ => exact ⟨[], [], rfl, Or.inl rfl, by simp⟩
  | (d :: first) :: more, hslash =>
      have hmore : ∀ c ∈ more.filterMap innerComponent?, c.IsInner := by
        intro c hc
        exact isInner_of_mem_filterMap
          (fun piece hpiece => hslash piece (List.mem_cons_of_mem _ hpiece)) hc
      by_cases hdot : d :: first = [dot]
      · refine ⟨[.current], _, ?_, Or.inr (Or.inr rfl), hmore⟩
        simp [readPieces, firstComponent?, hdot]
      · refine ⟨[], (innerComponent? (d :: first)).toList ++ more.filterMap innerComponent?, ?_,
          Or.inl rfl, fun c hc => ?_⟩
        · simp [readPieces, firstComponent?, hdot]
        · rcases List.mem_append.1 hc with hc | hc
          · exact isInner_of_innerComponent? (hslash _ List.mem_cons_self) (Option.mem_toList.1 hc)
          · exact hmore c hc

/-! ## Normal forms -/

/-- Components in normal form. -/
def Resolved (cs : List Component) : Prop :=
  ∃ (front : List Component) (names : List Bytes), cs = front ++ names.map .name ∧
    (front = [.root] ∨ ∃ n, front = List.replicate n .parent) ∧ ∀ bytes ∈ names, IsName bytes

theorem resolved_resolve {stack : List Component} {c : Component} (hstack : Resolved stack.reverse)
    (hc : c.IsInner) : Resolved (resolve stack c).reverse := by
  obtain ⟨front, names, hstack, hfront, hnames⟩ := hstack
  have hstack : stack = (names.map Component.name).reverse ++ front.reverse := by
    rw [← List.reverse_append, ← hstack, List.reverse_reverse]
  rcases hc with rfl | ⟨bytes, rfl, hbytes⟩
  · cases hlast : names.reverse with
    | nil =>
        -- there is no name to take off: `..` has no effect at the root and is kept elsewhere
        obtain rfl : names = [] := by simpa using hlast
        rcases hfront with rfl | ⟨n, rfl⟩
        · refine ⟨[.root], [], ?_, Or.inl rfl, by simp⟩
          rw [hstack]
          rfl
        · refine ⟨List.replicate (n + 1) .parent, [], ?_, Or.inr ⟨n + 1, rfl⟩, by simp⟩
          have hresolve : resolve (List.replicate n .parent) .parent =
              List.replicate (n + 1) .parent := by
            cases n <;> rfl
          rw [hstack, List.map_nil, List.reverse_nil, List.nil_append, List.reverse_replicate,
            hresolve, List.reverse_replicate, List.append_nil]
    | cons last below =>
        have hnames' : names = below.reverse ++ [last] := by
          have hreverse := congrArg List.reverse hlast
          rwa [List.reverse_reverse, List.reverse_cons] at hreverse
        refine ⟨front, below.reverse, ?_, hfront, fun bytes hmem => hnames bytes ?_⟩
        · rw [hstack, hnames']
          simp [resolve]
        · rw [hnames']
          exact List.mem_append_left _ hmem
  · refine ⟨front, names ++ [bytes], ?_, hfront, fun other hmem => ?_⟩
    · rw [hstack]
      simp [resolve]
    · rcases List.mem_append.1 hmem with hmem | hmem
      · exact hnames other hmem
      · obtain rfl : other = bytes := by simpa using hmem
        exact hbytes

theorem resolved_foldl_resolve {tail : List Component} (htail : ∀ c ∈ tail, c.IsInner)
    {stack : List Component} (hstack : Resolved stack.reverse) :
    Resolved (tail.foldl resolve stack).reverse := by
  induction tail generalizing stack with
  | nil => exact hstack
  | cons c tail ih =>
      exact ih (fun d hd => htail d (List.mem_cons_of_mem c hd))
        (resolved_resolve hstack (htail c List.mem_cons_self))

theorem resolved_resolveAll (p : Path) : Resolved (resolveAll p.components) := by
  obtain ⟨head, tail, hp, hhead, htail⟩ := placed_components p
  rw [hp, resolveAll, List.foldl_append]
  refine resolved_foldl_resolve htail ?_
  rcases hhead with rfl | rfl | rfl
  · exact ⟨[], [], rfl, Or.inr ⟨0, rfl⟩, by simp⟩
  · exact ⟨[.root], [], rfl, Or.inl rfl, by simp⟩
  · exact ⟨[], [], rfl, Or.inr ⟨0, rfl⟩, by simp⟩

/-- Names are resolved to themselves, whatever stands in front of them. -/
theorem resolveAll_append_names (cs : List Component) (names : List Bytes) :
    resolveAll (cs ++ names.map .name) = resolveAll cs ++ names.map .name := by
  have hfold (stack : List Component) :
      (names.map Component.name).foldl resolve stack =
        (names.map Component.name).reverse ++ stack := by
    induction names generalizing stack with
    | nil => rfl
    | cons bytes names ih => simp [ih, resolve]
  rw [resolveAll, List.foldl_append, hfold, List.reverse_append, List.reverse_reverse, resolveAll]

theorem resolveAll_replicate_parent (n : Nat) :
    resolveAll (List.replicate n .parent) = List.replicate n .parent := by
  have hfold : (List.replicate n Component.parent).foldl resolve [] =
      List.replicate n .parent := by
    induction n with
    | zero => rfl
    | succ n ih =>
        have hlast : (List.replicate n Component.parent ++ [Component.parent]).foldl resolve [] =
            List.replicate (n + 1) .parent := by
          rw [List.foldl_append, ih]
          cases n <;> rfl
        rwa [← List.replicate_succ'] at hlast
  rw [resolveAll, hfold, List.reverse_replicate]

theorem resolveAll_of_resolved {cs : List Component} (h : Resolved cs) : resolveAll cs = cs := by
  obtain ⟨front, names, rfl, hfront, -⟩ := h
  rw [resolveAll_append_names]
  rcases hfront with rfl | ⟨n, rfl⟩
  · rfl
  · rw [resolveAll_replicate_parent]

/-! ## Reading what was written -/

theorem filterMap_innerComponent?_bytes {cs : List Component} (h : ∀ c ∈ cs, c.IsInner) :
    (cs.map Component.bytes).filterMap innerComponent? = cs := by
  induction cs with
  | nil => rfl
  | cons c cs ih =>
      rw [List.map_cons, List.filterMap_cons_some (h c List.mem_cons_self).innerComponent?_bytes,
        ih fun d hd => h d (List.mem_cons_of_mem c hd)]

theorem map_bytes_names (names : List Bytes) :
    (names.map Component.name).map Component.bytes = names := by
  rw [List.map_map]
  exact List.map_id names

theorem isInner_of_mem_names {names : List Bytes} (h : ∀ bytes ∈ names, IsName bytes) :
    ∀ c ∈ names.map Component.name, c.IsInner := by
  intro c hc
  obtain ⟨bytes, hbytes, rfl⟩ := List.mem_map.1 hc
  exact Or.inr ⟨bytes, rfl, h bytes hbytes⟩

theorem filterMap_innerComponent?_names {names : List Bytes}
    (h : ∀ bytes ∈ names, IsName bytes) :
    names.filterMap innerComponent? = names.map .name := by
  have hread := filterMap_innerComponent?_bytes (isInner_of_mem_names h)
  rwa [map_bytes_names] at hread

theorem Resolved.placed {cs : List Component} (h : Resolved cs) : Placed cs := by
  obtain ⟨front, names, rfl, hfront, hnames⟩ := h
  have hinner := isInner_of_mem_names hnames
  rcases hfront with rfl | ⟨n, rfl⟩
  · exact ⟨[.root], names.map .name, rfl, Or.inr (Or.inl rfl), hinner⟩
  · refine ⟨[], List.replicate n .parent ++ names.map .name, rfl, Or.inl rfl, fun c hc => ?_⟩
    rcases List.mem_append.1 hc with hc | hc
    · exact Or.inl (List.eq_of_mem_replicate hc)
    · exact hinner c hc

/-- Components in an order in which a path can have them are read as they were written. -/
theorem componentsOf_render {cs : List Component} (h : Placed cs) :
    componentsOf (render cs) = cs := by
  obtain ⟨head, tail, rfl, hhead, htail⟩ := h
  have hslash : ∀ part ∈ tail.map Component.bytes, slash ∉ part := by
    intro part hpart
    obtain ⟨c, hc, rfl⟩ := List.mem_map.1 hpart
    exact (htail c hc).no_slash
  have hread := filterMap_innerComponent?_bytes htail
  rcases hhead with rfl | rfl | rfl
  · cases tail with
    | nil => rfl
    | cons c tail =>
        -- the first piece is read like the others, for it is neither empty nor a single dot
        have hc := htail c List.mem_cons_self
        have hrender : render (c :: tail) =
            joinParts slash (c.bytes :: tail.map Component.bytes) := by
          rcases hc with rfl | ⟨bytes, rfl, -⟩ <;> rfl
        rw [List.map_cons] at hslash hread
        rw [List.filterMap_cons_some hc.innerComponent?_bytes] at hread
        rw [List.nil_append, hrender, componentsOf_eq, pieces_joinParts (by simp) hslash]
        obtain ⟨d, first, hfirst⟩ := List.exists_cons_of_ne_nil hc.ne_nil
        rw [hfirst]
        show (firstComponent? (d :: first)).toList ++ _ = _
        rw [← hfirst, hc.firstComponent?_bytes]
        exact hread
  · show componentsOf ([] ++ slash :: joinParts slash (tail.map Component.bytes)) = _
    rw [componentsOf_eq, pieces_append_slash]
    cases tail with
    | nil => rfl
    | cons c tail =>
        rw [pieces_joinParts (by simp) hslash]
        exact congrArg (Component.root :: ·) hread
  · show componentsOf (joinParts slash ([dot] :: tail.map Component.bytes)) = _
    rw [componentsOf_eq, pieces_joinParts (by simp) (List.forall_mem_cons.2 ⟨by decide, hslash⟩)]
    exact congrArg (Component.current :: ·) hread

theorem components_normalize (p : Path) : p.normalize.components = resolveAll p.components := by
  rw [normalize, ofComponents, components]
  exact componentsOf_render (resolved_resolveAll p).placed

/-- The normal form is its own normal form. -/
theorem normalize_normalize (p : Path) : p.normalize.normalize = p.normalize := by
  rw [normalize, components_normalize, resolveAll_of_resolved (resolved_resolveAll p), normalize]

theorem normalize_eq_iff {p q : Path} :
    p.normalize = q.normalize ↔ resolveAll p.components = resolveAll q.components := by
  constructor
  · intro h
    rw [← components_normalize, h, components_normalize]
  · intro h
    rw [normalize, h, normalize]

/-! ## Names of a path -/

theorem mem_resolve {stack : List Component} {c d : Component} (h : d ∈ resolve stack c) :
    d ∈ stack ∨ d = c := by
  cases c with
  | current => exact Or.inl h
  | root => simpa [resolve, or_comm] using h
  | name bytes => simpa [resolve, or_comm] using h
  | parent =>
      cases stack with
      | nil => exact Or.inr (by simpa [resolve] using h)
      | cons top below =>
          cases top with
          | name bytes => exact Or.inl (List.mem_cons_of_mem _ h)
          | root => exact Or.inl h
          | current => simpa [resolve, or_comm] using h
          | parent => simpa [resolve, or_comm] using h

theorem mem_resolveAll {cs : List Component} {d : Component} (h : d ∈ resolveAll cs) : d ∈ cs := by
  have hfold (stack : List Component) (hd : d ∈ cs.foldl resolve stack) : d ∈ stack ∨ d ∈ cs := by
    clear h
    induction cs generalizing stack with
    | nil => exact Or.inl hd
    | cons c cs ih =>
        rcases ih _ hd with hmem | hmem
        · rcases mem_resolve hmem with hmem | rfl
          · exact Or.inl hmem
          · exact Or.inr List.mem_cons_self
        · exact Or.inr (List.mem_cons_of_mem c hmem)
  rcases hfold [] (List.mem_reverse.1 h) with hmem | hmem
  · simp at hmem
  · exact hmem

theorem eq_of_innerComponent?_name {piece bytes : Bytes}
    (h : innerComponent? piece = some (.name bytes)) : piece = bytes := by
  rw [innerComponent?] at h
  split at h
  next => simp at h
  next => split at h <;> simp_all

theorem eq_of_firstComponent?_name {piece bytes : Bytes}
    (h : firstComponent? piece = some (.name bytes)) : piece = bytes := by
  rw [firstComponent?] at h
  split at h
  next => simp at h
  next => exact eq_of_innerComponent?_name h

theorem mem_of_name_mem_readPieces {ps : List Bytes} {bytes : Bytes}
    (h : .name bytes ∈ readPieces ps) : bytes ∈ ps := by
  have hinner (ps : List Bytes) (h : .name bytes ∈ ps.filterMap innerComponent?) :
      bytes ∈ ps := by
    obtain ⟨piece, hpiece, heq⟩ := List.mem_filterMap.1 h
    rwa [← eq_of_innerComponent?_name heq]
  unfold readPieces at h
  split at h
  next => simp at h
  next second more =>
      rcases List.mem_cons.1 h with h | h
      · simp at h
      · exact List.mem_cons_of_mem _ (hinner _ h)
  next first more _ =>
      rcases List.mem_append.1 h with h | h
      · rw [← eq_of_firstComponent?_name (Option.mem_toList.1 h)]
        exact List.mem_cons_self
      · exact List.mem_cons_of_mem first (hinner _ h)

/-! ## Paths made of names -/

/-- A path that consists of names, as the normal form of a path to a view does. -/
def Inside (p : Path) : Prop :=
  ∃ names, names ≠ [] ∧ (∀ bytes ∈ names, IsName bytes) ∧
    p.bytes = joinParts slash names ∧ p.components = names.map .name

theorem render_names (names : List Bytes) : render (names.map .name) = joinParts slash names := by
  cases names with
  | nil => rfl
  | cons bytes names =>
      show joinParts slash ((List.map Component.name (bytes :: names)).map Component.bytes) = _
      rw [map_bytes_names]

theorem components_of_names {names : List Bytes} (hnames : ∀ bytes ∈ names, IsName bytes) :
    (Path.mk (joinParts slash names)).components = names.map .name := by
  have hresolved : Resolved (names.map .name) :=
    ⟨[], names, rfl, Or.inr ⟨0, rfl⟩, hnames⟩
  rw [components, ← render_names]
  exact componentsOf_render hresolved.placed

theorem inside_of_names {names : List Bytes} (hne : names ≠ [])
    (hnames : ∀ bytes ∈ names, IsName bytes) : Inside ⟨joinParts slash names⟩ :=
  ⟨names, hne, hnames, rfl, components_of_names hnames⟩

/-- A single name. -/
theorem inside_of_name {bytes : Bytes} (h : IsName bytes) :
    Inside ⟨bytes⟩ ∧ (Path.mk bytes).components = [.name bytes] := by
  have hnames : ∀ name ∈ [bytes], IsName name := List.forall_mem_singleton.2 h
  exact ⟨inside_of_names (by simp) hnames, components_of_names hnames⟩

/-- A normal form that starts with a name consists of names. -/
theorem inside_normalize {p : Path} (h : p.normalize.startsInside = true) :
    Inside p.normalize := by
  obtain ⟨front, names, hresolved, hfront, hnames⟩ := resolved_resolveAll p
  rw [startsInside, components_normalize, hresolved] at h
  have hfront : front = [] := by
    rcases hfront with rfl | ⟨n, rfl⟩
    · simp at h
    · cases n with
      | zero => rfl
      | succ n => simp [List.replicate_succ] at h
  subst hfront
  have hne : names ≠ [] := by
    rintro rfl
    simp at h
  have hp : p.normalize = ⟨joinParts slash names⟩ := by
    rw [normalize, ofComponents, hresolved, List.nil_append, render_names]
  rw [hp]
  exact inside_of_names hne hnames

theorem inside_of_normal {p : Path} (hnormal : p.normalize = p) (hinside : p.startsInside = true) :
    Inside p := by
  rw [← hnormal] at hinside ⊢
  exact inside_normalize hinside

end ScopedViews.Path
