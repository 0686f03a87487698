import ScopedViews.Proofs.Engine.Names
/-!
# Dotted names of loaders

A view includes a loader by a dotted name, which is looked up with its dots as separators.  A dot
in the path of a view is written like a separator, so that such a name leads elsewhere, and another
view can have it as well.

* `undotted`, `lookUp`: where a dotted name is looked up;
* `undotted_identifierOf`: what the name of a loader says;
* `lookUp_identifierOf_iff`: which names lead to their loaders, and which are told apart.
-/

namespace ScopedViews.Loader

open ScopedViews.Path (Inside inside_of_normal)

variable {v w : Path} {o : Options} {suffix : String}

/-- A text with separators in place of dots. -/
def undotted (text : String) : String :=
  String.ofList (text.toList.map fun c => if c = '.' then '/' else c)

/-- Where a dotted name is looked up among the compiled views. -/
def lookUp (name : String) (o : Options) : Path :=
  o.templateDist.join ⟨undotted name ++ o.templateSuffix⟩

/-! ## Dots and separators -/

theorem undotted_append (s t : String) : undotted (s ++ t) = undotted s ++ undotted t := by
  rw [undotted, String.toList_append, List.map_append, String.ofList_append, undotted, undotted]

/-- A dot and a separator are written with one byte each. -/
theorem length_utf8_undotted (s : String) :
    (Text.utf8 (undotted s)).length = (Text.utf8 s).length := by
  rw [undotted, Text.utf8_ofList, Text.utf8]
  induction s.toList with
  | nil => rfl
  | cons c cs ih =>
      rw [List.map_cons, Text.encode_cons, Text.encode_cons, List.length_append,
        List.length_append, ih]
      by_cases hc : c = '.'
      · rw [if_pos hc, hc]
        rfl
      · rw [if_neg hc]

theorem undotted_eq_self_iff {s : String} : undotted s = s ↔ '.' ∉ s.toList := by
  constructor
  · intro h hdot
    rw [← h, undotted, String.toList_ofList] at hdot
    obtain ⟨c, -, hc⟩ := List.mem_map.1 hdot
    split at hc
    next => exact absurd hc (by decide)
    next hne => exact hne hc
  · intro hdot
    have hmap : s.toList.map (fun c => if c = '.' then '/' else c) = s.toList.map id := by
      refine List.map_congr_left fun c hc => if_neg ?_
      rintro rfl
      exact hdot hc
    rw [undotted, hmap, List.map_id, String.ofList_toList]

/-- The dotted name of a text that starts with no separator has its characters. -/
theorem dotted_eq {s : String} (hs : s.toList.head? ≠ some '/') :
    Path.dotted s = String.ofList (s.toList.map fun c => if c = '/' then '.' else c) := by
  have hdrop : s.toList.dropWhile (· == '/') = s.toList := by
    cases hcs : s.toList with
    | nil => rfl
    | cons c cs =>
        rw [List.dropWhile_cons_of_neg]
        rintro hc
        exact hs (by simpa [hcs] using hc)
  rw [Path.dotted, hdrop]

/-- Dots and separators are one in a dotted name, as they are where it is looked up. -/
theorem undotted_dotted {s : String} (hs : s.toList.head? ≠ some '/') :
    undotted (Path.dotted s) = undotted s := by
  rw [dotted_eq hs, undotted, String.toList_ofList, List.map_map, undotted]
  congr 2
  funext c
  by_cases hc : c = '/'
  · simp [hc]
  · simp [hc]

theorem dotted_eq_iff {s t : String} (hs : s.toList.head? ≠ some '/')
    (ht : t.toList.head? ≠ some '/') : Path.dotted s = Path.dotted t ↔ undotted s = undotted t := by
  constructor
  · intro h
    rw [← undotted_dotted hs, h, undotted_dotted ht]
  · intro h
    have hdots (s : String) : s.toList.map (fun c => if c = '/' then '.' else c) =
        (undotted s).toList.map fun c => if c = '/' then '.' else c := by
      rw [undotted, String.toList_ofList, List.map_map]
      refine List.map_congr_left fun c _ => ?_
      by_cases hc : c = '.'
      · simp [hc]
      · simp [hc]
    rw [dotted_eq hs, dotted_eq ht, hdots s, h, ← hdots t]

/-! ## Names of loaders -/

theorem head?_stem (hv : Inside v) (hsuffix : suffix.toList <:+ v.text.toList) :
    (stem v suffix).toList.head? ≠ some '/' := by
  intro hhead
  have hrelative := hv.mk_text.1.isAbsolute
  rw [← Bool.not_eq_true, Path.isAbsolute_mk_iff, ← Engine.stem_append hv hsuffix,
    List.head?_append, hhead] at hrelative
  exact hrelative rfl

theorem undotted_loaderSuffix (kind : AssetKind) :
    undotted kind.loaderSuffix = kind.loaderSuffix := by
  cases kind <;> decide

theorem undotted_identifierOf (hv : Inside v) (hsuffix : suffix.toList <:+ v.text.toList)
    (kind : AssetKind) :
    undotted (identifierOf v kind suffix) = undotted (stem v suffix) ++ kind.loaderSuffix := by
  rw [identifierOf, undotted_append, undotted_dotted (head?_stem hv hsuffix),
    undotted_loaderSuffix]

theorem identifierOf_eq_iff (hv : Inside v) (hw : Inside w)
    (hsuffix : suffix.toList <:+ v.text.toList) (hsuffix' : suffix.toList <:+ w.text.toList)
    (kind kind' : AssetKind) :
    identifierOf v kind suffix = identifierOf w kind' suffix ↔
      kind = kind' ∧ undotted (stem v suffix) = undotted (stem w suffix) := by
  rw [← dotted_eq_iff (head?_stem hv hsuffix) (head?_stem hw hsuffix')]
  constructor
  · intro h
    -- the last letters of the two suffixes differ
    have hlast := congrArg (fun s : String => s.toList.getLast?) h
    simp only [identifierOf, String.toList_append] at hlast
    have hkind : kind = kind' := by
      cases kind <;> cases kind' <;> simp [AssetKind.loaderSuffix] at hlast ⊢
    subst hkind
    refine ⟨rfl, String.toList_inj.1 ?_⟩
    have hchars := congrArg String.toList h
    simpa only [identifierOf, String.toList_append, List.append_cancel_right_eq] using hchars
  · rintro ⟨rfl, h⟩
    rw [identifierOf, h, identifierOf]

/-! ## Looking loaders up -/

/-- Behind a directory that is written down, a relative path is written at its end. -/
theorem exists_join_eq {d : Path} (hd : d.bytes ≠ []) : ∃ front : Bytes, front ≠ [] ∧
    ∀ q : Path, q.isAbsolute = false → d.join q = ⟨front ++ q.bytes⟩ := by
  by_cases hlast : d.bytes.getLast? = some Path.slash
  · refine ⟨d.bytes, hd, fun q hq => ?_⟩
    rw [Path.join, if_neg (by simp [hq, hd]), if_pos hlast]
  · refine ⟨d.bytes ++ [Path.slash], by simp, fun q hq => ?_⟩
    rw [Path.join, if_neg (by simp [hq, hd]), if_neg hlast, List.append_assoc,
      List.singleton_append]

/-- Paths of one length, one of them relative, are told apart in any directory. -/
theorem eq_of_join_eq {d p q : Path} (hlength : p.bytes.length = q.bytes.length)
    (hq : q.isAbsolute = false) (h : d.join p = d.join q) : p.bytes = q.bytes := by
  by_cases hd : d.bytes = []
  · rw [Path.join, if_pos (by simp [hd]), Path.join, if_pos (by simp [hd])] at h
    exact congrArg Path.bytes h
  · obtain ⟨front, hfront, hjoin⟩ := exists_join_eq hd
    rw [hjoin q hq] at h
    cases hp : p.isAbsolute with
    | true =>
        -- an absolute path would be longer than the other one
        rw [Path.join, if_pos (by simp [hp])] at h
        have hlonger := congrArg (·.bytes.length) h
        simp only [List.length_append, hlength] at hlonger
        have hzero : front.length = 0 := by omega
        exact absurd (List.length_eq_zero_iff.1 hzero) hfront
    | false =>
        rw [hjoin p hp] at h
        exact List.append_cancel_left (Path.mk.inj h)

/-- The file of a loader is not written from the root. -/
theorem not_isAbsolute_loaderName (hv : Inside v) (hsuffix : suffix.toList <:+ v.text.toList)
    (kind : AssetKind) : (Path.mk (Engine.loaderName v kind suffix)).isAbsolute = false := by
  have hhead := head?_stem hv hsuffix
  rw [← Bool.not_eq_true, Path.isAbsolute_mk_iff, Engine.loaderName, String.toList_append,
    String.toList_append]
  cases hstem : (stem v suffix).toList with
  | nil => cases kind <;> simp [AssetKind.loaderSuffix]
  | cons c cs => simpa [hstem] using hhead

theorem lookUp_identifierOf (hv : Inside v) (hsuffix : o.templateSuffix.toList <:+ v.text.toList)
    (kind : AssetKind) :
    lookUp (identifierOf v kind o.templateSuffix) o = pathOf v kind o ↔
      '.' ∉ (stem v o.templateSuffix).toList := by
  have hlookUp : lookUp (identifierOf v kind o.templateSuffix) o = o.templateDist.join
      ⟨undotted (stem v o.templateSuffix) ++ kind.loaderSuffix ++ o.templateSuffix⟩ := by
    rw [lookUp, undotted_identifierOf hv hsuffix, Text.utf8_append]
  rw [hlookUp, Engine.pathOf_eq, ← undotted_eq_self_iff]
  constructor
  · intro h
    have hrelative := not_isAbsolute_loaderName hv hsuffix kind
    rw [Engine.loaderName, Text.utf8_append, Text.utf8_append] at h hrelative
    have hbytes := eq_of_join_eq (by simp only [List.length_append, length_utf8_undotted])
      hrelative h
    rw [List.append_cancel_right_eq, List.append_cancel_right_eq] at hbytes
    exact Text.utf8_injective hbytes
  · intro h
    rw [h, Engine.loaderName, Text.utf8_append, Text.utf8_append]

theorem text_eq_of_stem_eq (hv : Inside v) (hw : Inside w)
    (hsuffix : suffix.toList <:+ v.text.toList) (hsuffix' : suffix.toList <:+ w.text.toList)
    (h : stem v suffix = stem w suffix) : v.text = w.text := by
  rw [← String.toList_inj, ← Engine.stem_append hv hsuffix, h, Engine.stem_append hw hsuffix']

/-- The name of a loader, looked up with its dots as separators, leads to the file of the loader
exactly if there is no dot in the path of the view in front of the suffix.  Two loaders have one
name exactly if they are of one kind and their views are shown with the same stem but for dots in
place of separators; so loaders of views without such dots are told apart by their names if the
views are shown differently, as different texts are. -/
theorem lookUp_identifierOf_iff (o : Options) (v : Path) (kind : AssetKind)
    (hnormal : v.normalize = v) (hinside : v.startsInside = true)
    (hsuffix : o.templateSuffix.toList <:+ v.text.toList) :
    (lookUp (identifierOf v kind o.templateSuffix) o = pathOf v kind o ↔
        '.' ∉ (stem v o.templateSuffix).toList) ∧
      ∀ (w : Path) (kind' : AssetKind), w.normalize = w → w.startsInside = true →
        o.templateSuffix.toList <:+ w.text.toList →
        (identifierOf v kind o.templateSuffix = identifierOf w kind' o.templateSuffix ↔
          kind = kind' ∧
            undotted (stem v o.templateSuffix) = undotted (stem w o.templateSuffix)) ∧
        ('.' ∉ (stem v o.templateSuffix).toList → '.' ∉ (stem w o.templateSuffix).toList →
          identifierOf v kind o.templateSuffix = identifierOf w kind' o.templateSuffix →
          v.text = w.text ∧ kind = kind' ∧ (v.IsText → w.IsText → v = w)) := by
  have hv := inside_of_normal hnormal hinside
  refine ⟨lookUp_identifierOf hv hsuffix kind, fun w kind' hnormal' hinside' hsuffix' => ?_⟩
  have hw := inside_of_normal hnormal' hinside'
  have hname := identifierOf_eq_iff hv hw hsuffix hsuffix' kind kind'
  refine ⟨hname, fun hdot hdot' h => ?_⟩
  obtain ⟨hkind, hstems⟩ := hname.1 h
  rw [undotted_eq_self_iff.2 hdot, undotted_eq_self_iff.2 hdot'] at hstems
  have htext := text_eq_of_stem_eq hv hw hsuffix hsuffix' hstems
  exact ⟨htext, hkind, fun hv hw => (hv.text_eq_iff hw).1 htext⟩

/-- The loaders of two pages have different names, which lead to them. -/
theorem lookUp_identifierOf_iff_pages :
    lookUp (identifierOf ⟨"pages/home.blade.php"⟩ .style ".blade.php") {} =
        pathOf ⟨"pages/home.blade.php"⟩ .style {} ∧
      identifierOf ⟨"pages/home.blade.php"⟩ .style ".blade.php" ≠
        identifierOf ⟨"pages/user.blade.php"⟩ .style ".blade.php" := by
  obtain ⟨hlookUp, hnames⟩ := lookUp_identifierOf_iff {} ⟨"pages/home.blade.php"⟩ .style (by decide)
    (by decide) (by decide)
  refine ⟨hlookUp.2 (by decide), fun h => ?_⟩
  have hboth := (hnames ⟨"pages/user.blade.php"⟩ .style (by decide) (by decide) (by decide)).2
    (by decide) (by decide) h
  exact absurd hboth.1 (by decide +kernel)

/-- Views in two directories whose names are no text and are shown alike. -/
example : identifierOf ⟨[0x64, 0xFF, 0x2F, 0x61]⟩ .style "" =
    identifierOf ⟨[0x64, 0xFE, 0x2F, 0x61]⟩ .style "" := by
  decide +kernel

/-- With a dot in its path, a view shares the names of its loaders with another view, and they lead
to the loaders of the other one. -/
theorem shared_identifierOf :
    (Path.mk "a.b.blade.php").normalize = ⟨"a.b.blade.php"⟩ ∧
      (Path.mk "a.b.blade.php").startsInside = true ∧
      (Path.mk "a/b.blade.php").normalize = ⟨"a/b.blade.php"⟩ ∧
      (Path.mk "a/b.blade.php").startsInside = true ∧
      identifierOf ⟨"a.b.blade.php"⟩ .style ".blade.php" =
        identifierOf ⟨"a/b.blade.php"⟩ .style ".blade.php" ∧
      lookUp (identifierOf ⟨"a.b.blade.php"⟩ .style ".blade.php") {} =
        pathOf ⟨"a/b.blade.php"⟩ .style {} ∧
      lookUp (identifierOf ⟨"a.b.blade.php"⟩ .style ".blade.php") {} ≠
        pathOf ⟨"a.b.blade.php"⟩ .style {} := by
  refine ⟨by decide, by decide, by decide, by decide, by decide +kernel, by decide, by decide⟩

end ScopedViews.Loader
