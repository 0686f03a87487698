import ScopedViews.Proofs.Path.Relative
/-!
# What an import names

An import is read from the directory of the view that it stands in.  Its components are walked one
by one behind those of the directory: a name leads down, `..` leads up again, and there is nowhere
to go up to from the directory of all views.  A walk that tries is refused, also where it would
come back; any other walk ends at the view that the import names.

* `walk`: where components lead, if they never lead out;
* `foldl_resolve_of_walk`, `getLast?_resolve_of_walk`: resolving is walking, and a walk that is
  refused leaves a `..` at the bottom;
* `exists_components_of_suffix`: a path with a suffix ends with a name that has it;
* `importTarget?_walk`: what an import names.
-/

namespace ScopedViews.Path

/-! ## Walks -/

/-- The names on the way down to a place, the last one first, after one more component.  There is
none where `..` has nothing to take off. -/
def step (stack : List Bytes) : Component → Option (List Bytes)
  | .name bytes => some (bytes :: stack)
  | .parent =>
    match stack with
    | [] => none
    | _ :: below => some below
  | .current | .root => some stack

/-- The names on the way to where components lead. -/
def walk (cs : List Component) : Option (List Bytes) :=
  (cs.foldlM step []).map List.reverse

/-- A walk that is not refused goes where its components are resolved to. -/
theorem foldl_resolve_of_walk {cs : List Component} (hroot : ∀ c ∈ cs, c ≠ .root)
    {stack names : List Bytes} (h : cs.foldlM step stack = some names) :
    cs.foldl resolve (stack.map .name) = names.map .name := by
  induction cs generalizing stack with
  | nil =>
      obtain rfl : stack = names := Option.some.inj h
      rfl
  | cons c cs ih =>
      rw [List.foldlM_cons, Option.bind_eq_bind] at h
      obtain ⟨next, hnext, hrest⟩ := Option.bind_eq_some_iff.1 h
      have hresolve : resolve (stack.map .name) c = next.map .name := by
        cases c with
        | root => exact absurd rfl (hroot .root List.mem_cons_self)
        | current => rw [← Option.some.inj hnext, resolve]
        | name bytes =>
            rw [← Option.some.inj hnext]
            rfl
        | parent =>
            cases stack with
            | nil => cases hnext
            | cons top below =>
                rw [← Option.some.inj hnext]
                rfl
      rw [List.foldl_cons, hresolve]
      exact ih (fun d hd => hroot d (List.mem_cons_of_mem c hd)) hrest

/-- What stands at the bottom as a `..` stays there. -/
theorem getLast?_foldl_resolve {cs : List Component} (hroot : ∀ c ∈ cs, c ≠ .root)
    {stack : List Component} (h : stack.getLast? = some .parent) :
    (cs.foldl resolve stack).getLast? = some .parent := by
  induction cs generalizing stack with
  | nil => exact h
  | cons c cs ih =>
      refine ih (fun d hd => hroot d (List.mem_cons_of_mem c hd)) ?_
      cases stack with
      | nil => cases h
      | cons top below =>
          have hcons (c : Component) : (c :: top :: below).getLast? = some .parent := by
            rw [List.getLast?_cons_cons, h]
          cases c with
          | root => exact absurd rfl (hroot .root List.mem_cons_self)
          | current => exact h
          | name bytes => exact hcons _
          | parent =>
              cases top with
              | root => exact h
              | current => exact hcons _
              | parent => exact hcons _
              | name bytes =>
                  -- a name that is taken off is not what stands at the bottom
                  cases below with
                  | nil => cases h
                  | cons next below => rwa [List.getLast?_cons_cons] at h

/-- A walk that is refused leaves a `..` at the bottom, wherever it goes on to. -/
theorem getLast?_resolve_of_walk {cs : List Component} (hroot : ∀ c ∈ cs, c ≠ .root)
    {stack : List Bytes} (h : cs.foldlM step stack = none) :
    (cs.foldl resolve (stack.map .name)).getLast? = some .parent := by
  induction cs generalizing stack with
  | nil => cases h
  | cons c cs ih =>
      have hrest : ∀ d ∈ cs, d ≠ .root := fun d hd => hroot d (List.mem_cons_of_mem c hd)
      rw [List.foldlM_cons] at h
      cases c with
      | root => exact absurd rfl (hroot .root List.mem_cons_self)
      | current => exact ih hrest h
      | name bytes => exact ih hrest h
      | parent =>
          cases stack with
          | nil => exact getLast?_foldl_resolve hrest rfl
          | cons top below => exact ih hrest h

theorem resolveAll_of_walk {cs : List Component} (hroot : ∀ c ∈ cs, c ≠ .root)
    {names : List Bytes} (h : walk cs = some names) : resolveAll cs = names.map .name := by
  obtain ⟨stack, hstack, rfl⟩ := Option.map_eq_some_iff.1 h
  rw [resolveAll, ← List.map_nil, foldl_resolve_of_walk hroot hstack, List.map_reverse]

theorem head?_resolveAll_of_walk {cs : List Component} (hroot : ∀ c ∈ cs, c ≠ .root)
    (h : walk cs = none) : (resolveAll cs).head? = some .parent := by
  rw [resolveAll, List.head?_reverse]
  exact getLast?_resolve_of_walk hroot (Option.map_eq_none_iff.1 h)

/-- Where the last component is a name, a walk ends with it. -/
theorem walk_concat_name (cs : List Component) (bytes : Bytes) :
    walk (cs ++ [.name bytes]) = (walk cs).map (· ++ [bytes]) := by
  rw [walk, List.foldlM_append, walk]
  cases cs.foldlM step [] with
  | none => rfl
  | some stack =>
      show some (bytes :: stack).reverse = some (stack.reverse ++ [bytes])
      rw [List.reverse_cons]

/-! ## Paths with a suffix -/

/-- What stands behind the last separator belongs to the last piece. -/
theorem pieces_append_of_no_slash (front : Bytes) {back : Bytes} (h : slash ∉ back) :
    ∃ before last, slash ∉ last ∧ pieces (front ++ back) = before ++ [last ++ back] := by
  induction front with
  | nil => exact ⟨[], [], by simp, pieces_of_no_slash h⟩
  | cons c front ih =>
      obtain ⟨before, last, hlast, hpieces⟩ := ih
      rw [List.cons_append, pieces, hpieces]
      by_cases hc : c = slash
      · rw [if_pos hc]
        exact ⟨[] :: before, last, hlast, rfl⟩
      · rw [if_neg hc]
        cases before with
        | nil => exact ⟨[], c :: last, by simp [Ne.symm hc, hlast], rfl⟩
        | cons piece before => exact ⟨(c :: piece) :: before, last, hlast, rfl⟩

/-- A suffix that can end nothing but a name. -/
structure EndsName (suffix : Bytes) : Prop where
  ne_nil : suffix ≠ []
  ne_current : suffix ≠ [dot]
  ne_parent : suffix ≠ [dot, dot]
  no_slash : slash ∉ suffix

theorem EndsName.isName_append {suffix bytes : Bytes} (h : EndsName suffix)
    (hbytes : slash ∉ bytes) : IsName (bytes ++ suffix) where
  ne_nil := List.append_ne_nil_of_right_ne_nil bytes h.ne_nil
  ne_current heq := by
    rcases List.append_eq_singleton_iff.1 heq with ⟨-, hsuffix⟩ | ⟨-, hsuffix⟩
    · exact h.ne_current hsuffix
    · exact h.ne_nil hsuffix
  ne_parent heq := by
    match bytes, heq with
    | [], heq => exact h.ne_parent heq
    | [_], heq => exact h.ne_current (List.cons.inj heq).2
    | _ :: _ :: bytes, heq =>
        have hnil : bytes ++ suffix = [] := (List.cons.inj (List.cons.inj heq).2).2
        exact h.ne_nil (List.append_eq_nil_iff.1 hnil).2
  no_slash hmem := by
    rcases List.mem_append.1 hmem with hmem | hmem
    · exact hbytes hmem
    · exact h.no_slash hmem

theorem endsName_utf8 {suffix : String} (hne : suffix ≠ "") (hslash : '/' ∉ suffix.toList)
    (hcurrent : suffix ≠ ".") (hparent : suffix ≠ "..") : EndsName (Text.utf8 suffix) where
  ne_nil h := hne (Text.utf8_injective h)
  ne_current h := hcurrent (Text.utf8_injective h)
  ne_parent h := hparent (Text.utf8_injective h)
  no_slash := no_slash_utf8.2 hslash

/-- A path that ends with a suffix has a last name that does. -/
theorem exists_components_of_suffix {p : Path} {suffix : Bytes} (hsuffix : EndsName suffix)
    (h : suffix <:+ p.bytes) :
    ∃ front last, p.components = front ++ [.name last] ∧ suffix <:+ last := by
  obtain ⟨written, hwritten⟩ := h
  obtain ⟨before, bytes, hbytes, hpieces⟩ := pieces_append_of_no_slash written hsuffix.no_slash
  have hname : IsName (bytes ++ suffix) := hsuffix.isName_append hbytes
  rw [components, componentsOf_eq, ← hwritten, hpieces]
  cases before with
  | nil =>
      refine ⟨[], bytes ++ suffix, ?_, List.suffix_append bytes suffix⟩
      obtain ⟨c, more, hcons⟩ := List.exists_cons_of_ne_nil hname.ne_nil
      rw [List.nil_append, List.nil_append, readPieces, firstComponent?_name hname]
      · rfl
      · rw [hcons]
        simp
  | cons piece before =>
      refine ⟨if piece :: before = [[]] then [.root] else readPieces (piece :: before),
        bytes ++ suffix, ?_, List.suffix_append bytes suffix⟩
      rw [readPieces_append (by simp) (by simp), List.filterMap_cons_some
        (innerComponent?_name hname), List.filterMap_nil]

/-! ## Imports -/

/-- What an import stands for: the suffix may be left out. -/
def completed (target suffix : String) : Path :=
  ⟨if suffix.toList.isSuffixOf target.toList then target else target ++ suffix⟩

theorem suffix_completed (target suffix : String) :
    Text.utf8 suffix <:+ (completed target suffix).bytes := by
  unfold completed
  split
  next h =>
      obtain ⟨front, hfront⟩ := List.isSuffixOf_iff_suffix.1 h
      refine ⟨Text.encode front, ?_⟩
      rw [Text.utf8, ← Text.encode_append, hfront, Text.utf8]
  next => exact List.suffix_append _ _

/-- The components of the directory of a path made of names. -/
theorem Inside.components_directory {p : Path} (hp : Inside p) :
    ((p.directory?).getD ⟨""⟩).components = p.components.dropLast := by
  obtain ⟨names, hne, hnames, -, hcomponents⟩ := hp
  obtain ⟨front, last, rfl⟩ := names.eq_nil_or_concat'.resolve_left hne
  have hfront : ∀ bytes ∈ front, IsName bytes := fun bytes hmem =>
    hnames bytes (List.mem_append_left _ hmem)
  have hlast : p.components = front.map .name ++ [.name last] := by
    rw [hcomponents, List.map_append]
    rfl
  rw [directory?, hlast, List.getLast?_concat, List.dropLast_concat, Option.getD_some,
    ofComponents, render_names]
  exact components_of_names hfront

/-- A path made of names ends as its last name does. -/
theorem Inside.suffix_bytes {p : Path} (hp : Inside p) {front : List Component}
    {last suffix : Bytes} (hlast : p.components = front ++ [.name last])
    (hsuffix : suffix <:+ last) : suffix <:+ p.bytes := by
  obtain ⟨names, hne, -, hbytes, hcomponents⟩ := hp
  obtain ⟨before, bytes, rfl⟩ := names.eq_nil_or_concat'.resolve_left hne
  rw [hcomponents, List.map_append] at hlast
  obtain rfl : bytes = last :=
    Component.name.inj (List.cons.inj (List.append_inj_right' hlast rfl)).1
  obtain ⟨written, -, hwritten⟩ := joinParts_concat before
  rw [hbytes, hwritten]
  exact hsuffix.trans (List.suffix_append written bytes)

theorem Inside.ne_root {p : Path} (hp : Inside p) {c : Component} (hc : c ∈ p.components) :
    c ≠ .root := by
  obtain ⟨names, -, -, -, hcomponents⟩ := hp
  obtain ⟨bytes, -, rfl⟩ := List.mem_map.1 (hcomponents ▸ hc)
  nofun

theorem Inside.isName_of_components {p : Path} (hp : Inside p) {names : List Bytes}
    (h : p.components = names.map .name) : ∀ bytes ∈ names, IsName bytes := by
  obtain ⟨names', -, hnames, -, hcomponents⟩ := hp
  obtain rfl : names = names' := List.map_injective_iff.2
    (fun _ _ heq => Component.name.inj heq) (h.symm.trans hcomponents)
  exact hnames

section Import

variable {importer : Path} {target suffix : String}

/-- The components that are walked for an import: those of the importer's directory, and those of
the completed target. -/
def route (importer : Path) (target suffix : String) : List Component :=
  importer.components.dropLast ++ (completed target suffix).components

/-- What the completed target is when it is read from the importer's directory. -/
def resolved (importer : Path) (target suffix : String) : Path :=
  (((importer.directory?).getD ⟨""⟩).join (completed target suffix)).normalize

theorem importTarget?_eq : importTarget? target importer suffix =
    if (completed target suffix).isAbsolute then none
    else if (resolved importer target suffix).startsInside then
      some (resolved importer target suffix)
    else none :=
  rfl

theorem ne_root_of_mem_route (himporter : Inside importer)
    (htarget : (completed target suffix).isAbsolute = false) :
    ∀ c ∈ route importer target suffix, c ≠ .root := by
  intro c hc
  rcases List.mem_append.1 hc with hc | hc
  · exact himporter.ne_root (List.dropLast_subset _ hc)
  · exact ne_root_of_not_isAbsolute htarget hc

theorem components_resolved (himporter : Inside importer)
    (htarget : (completed target suffix).isAbsolute = false) :
    (resolved importer target suffix).components = resolveAll (route importer target suffix) := by
  rw [resolved, components_normalize, resolveAll_join_of_relative _ htarget,
    himporter.components_directory, route]

/-- The route of an import ends with a name, and so does the walk. -/
theorem exists_last_of_walk (hsuffix : EndsName (Text.utf8 suffix)) {names : List Bytes}
    (hwalk : walk (route importer target suffix) = some names) :
    ∃ above last, names = above ++ [last] ∧ Text.utf8 suffix <:+ last := by
  obtain ⟨front, last, hlast, hends⟩ :=
    exists_components_of_suffix hsuffix (suffix_completed target suffix)
  rw [route, hlast, ← List.append_assoc, walk_concat_name] at hwalk
  obtain ⟨above, -, hnames⟩ := Option.map_eq_some_iff.1 hwalk
  exact ⟨above, last, hnames.symm, hends⟩

/-- What is resolved leads into the directory of all views exactly if the walk is not refused. -/
theorem startsInside_resolved_iff (himporter : Inside importer)
    (hsuffix : EndsName (Text.utf8 suffix))
    (htarget : (completed target suffix).isAbsolute = false) :
    (resolved importer target suffix).startsInside = true ↔
      (walk (route importer target suffix)).isSome = true := by
  have hroot := ne_root_of_mem_route himporter htarget
  rw [startsInside, components_resolved himporter htarget]
  cases hwalk : walk (route importer target suffix) with
  | none =>
      obtain ⟨more, hmore⟩ := List.head?_eq_some_iff.1 (head?_resolveAll_of_walk hroot hwalk)
      rw [hmore]
      exact iff_of_false Bool.false_ne_true Bool.false_ne_true
  | some names =>
      obtain ⟨above, last, rfl, -⟩ := exists_last_of_walk hsuffix hwalk
      rw [resolveAll_of_walk hroot hwalk]
      refine iff_of_true ?_ rfl
      cases above <;> rfl

/-- An import is refused exactly if it is written from the root, or if the walk over the components
of the importer's directory and of the completed target comes to a `..` where nothing is left to
take off.  Otherwise it names the view whose path consists of the names that the walk ends with:
there are some, the path ends with the suffix, and the path is in its normal form. -/
theorem importTarget?_walk (target : String) (hnormal : importer.normalize = importer)
    (hinside : importer.startsInside = true) (hne : suffix ≠ "") (hslash : '/' ∉ suffix.toList)
    (hcurrent : suffix ≠ ".") (hparent : suffix ≠ "..") :
    (importTarget? target importer suffix = none ↔
      (completed target suffix).isAbsolute = true ∨
        walk (route importer target suffix) = none) ∧
    ∀ q, importTarget? target importer suffix = some q →
      ∃ names, walk (route importer target suffix) = some names ∧
        q.components = names.map .name ∧ (∀ bytes ∈ names, IsName bytes) ∧
        q.isAbsolute = false ∧ q.bytes ≠ [] ∧ Text.utf8 suffix <:+ q.bytes ∧
        q.normalize = q := by
  have himporter : Inside importer := inside_of_normal hnormal hinside
  have hsuffix : EndsName (Text.utf8 suffix) := endsName_utf8 hne hslash hcurrent hparent
  rw [importTarget?_eq]
  cases htarget : (completed target suffix).isAbsolute with
  | true => exact ⟨iff_of_true rfl (.inl rfl), nofun⟩
  | false =>
      have hstarts := startsInside_resolved_iff himporter hsuffix htarget
      rw [if_neg Bool.false_ne_true]
      cases hwalk : walk (route importer target suffix) with
      | none =>
          rw [hwalk] at hstarts
          rw [if_neg fun h => nomatch hstarts.1 h]
          exact ⟨iff_of_true rfl (.inr rfl), nofun⟩
      | some names =>
          rw [hwalk] at hstarts
          rw [if_pos (hstarts.2 rfl)]
          refine ⟨iff_of_false nofun (by simp), fun q hq => ⟨names, rfl, ?_⟩⟩
          obtain rfl := Option.some.inj hq
          have hq : Inside (resolved importer target suffix) := inside_normalize (hstarts.2 rfl)
          have hcomponents : (resolved importer target suffix).components = names.map .name := by
            rw [components_resolved himporter htarget,
              resolveAll_of_walk (ne_root_of_mem_route himporter htarget) hwalk]
          obtain ⟨above, last, rfl, hends⟩ := exists_last_of_walk hsuffix hwalk
          have hlast : (resolved importer target suffix).components =
              above.map .name ++ [.name last] := by
            rw [hcomponents, List.map_append]
            rfl
          have hbytes := hq.suffix_bytes hlast hends
          refine ⟨hcomponents, hq.isName_of_components hcomponents, hq.isAbsolute, ?_, hbytes,
            normalize_normalize _⟩
          intro hempty
          rw [hempty] at hbytes
          exact hsuffix.ne_nil (List.suffix_nil.1 hbytes)

end Import

/-- A page two directories down. -/
def adminHome : Path := ⟨"pages/admin/home.blade.php"⟩

/-- An import that comes up to the directory of all views and goes down again, and one that goes
further up on its way. -/
theorem importTarget?_walk_adminHome :
    adminHome.normalize = adminHome ∧ adminHome.startsInside = true ∧
      ".blade.php" ≠ "" ∧ '/' ∉ ".blade.php".toList ∧ ".blade.php" ≠ "." ∧ ".blade.php" ≠ ".." ∧
    (∃ q, importTarget? "../.././shared//nav" adminHome ".blade.php" = some q ∧
      q.components = [.name "shared", .name "nav.blade.php"] ∧ q.normalize = q) ∧
    importTarget? "../../../pages/nav" adminHome ".blade.php" = none := by
  have hnormal : adminHome.normalize = adminHome := by decide +kernel
  have hinside : adminHome.startsInside = true := by decide +kernel
  have hpages (target : String) := importTarget?_walk target hnormal hinside
    (show ".blade.php" ≠ "" by decide) (by decide) (by decide) (by decide)
  refine ⟨hnormal, hinside, by decide, by decide, by decide, by decide, ?_, ?_⟩
  · have hwalk : walk (route adminHome "../.././shared//nav" ".blade.php") =
        some ["shared", "nav.blade.php"] := by
      decide +kernel
    have hrelative : (completed "../.././shared//nav" ".blade.php").isAbsolute = false := by
      decide +kernel
    obtain ⟨hnone, hsome⟩ := hpages "../.././shared//nav"
    rw [hwalk, hrelative] at hnone
    obtain ⟨q, hq⟩ := Option.ne_none_iff_exists'.1 fun h => by simpa using hnone.1 h
    obtain ⟨names, hnames, hcomponents, -, -, -, -, hfixed⟩ := hsome q hq
    obtain rfl := Option.some.inj (hwalk.symm.trans hnames)
    exact ⟨q, hq, hcomponents, hfixed⟩
  · exact (hpages "../../../pages/nav").1.2 (.inr (by decide +kernel))

end ScopedViews.Path
