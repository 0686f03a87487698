import ScopedViews.Proofs.Engine.Coherence
/-!
# Which names keep views separate

If the suffix of views has no separator in it, the loaders of a view are kept like views whose names
are longer by `__style` or `__script`.  So views are kept separate exactly if no two are shown
alike, none of them has the name of a loader or of a record of another one, and no asset is kept in
place of an output.

* `inside_loaderName`, `key_loader_eq_iff`: the places of loaders;
* `separate_iff_names`: the condition on names.
-/

namespace ScopedViews.Engine

open ScopedViews.Path (Inside IsName)
open MemoryStore (key)

variable {v w : Path} {o : Options} {suffix : String}

/-- The name that the loader of a view has among the views. -/
def loaderName (v : Path) (kind : AssetKind) (suffix : String) : String :=
  Loader.stem v suffix ++ kind.loaderSuffix ++ suffix

theorem pathOf_eq (v : Path) (kind : AssetKind) (o : Options) :
    Loader.pathOf v kind o = o.templateDist.join ⟨loaderName v kind o.templateSuffix⟩ := by
  rw [Loader.pathOf, loaderName, Text.utf8_append, Text.utf8_append]

/-- The underscore that the names of loaders have. -/
def underscore : UInt8 := 0x5F

theorem isName_of_mem {bytes : Bytes} (hmem : underscore ∈ bytes) (hslash : Path.slash ∉ bytes) :
    IsName bytes := by
  refine ⟨?_, ?_, ?_, hslash⟩
  · rintro rfl
    cases hmem
  · rintro rfl
    exact absurd hmem (by decide)
  · rintro rfl
    exact absurd hmem (by decide)

theorem stem_append (hv : Inside v) (hsuffix : suffix.toList <:+ v.text.toList) :
    (Loader.stem v suffix).toList ++ suffix.toList = v.text.toList := by
  obtain ⟨front, hfront⟩ := hsuffix
  rw [Loader.stem, hv.slashed_eq, Path.stripSuffix,
    if_pos (List.isSuffixOf_iff_suffix.2 ⟨front, hfront⟩), String.toList_ofList, ← hfront,
    List.length_append, Nat.add_sub_cancel, List.take_left]

theorem stem_of_not_suffix (hv : Inside v) (hsuffix : ¬ suffix.toList <:+ v.text.toList) :
    Loader.stem v suffix = v.text := by
  rw [Loader.stem, hv.slashed_eq, Path.stripSuffix,
    if_neg fun h => hsuffix (List.isSuffixOf_iff_suffix.1 h)]

/-- A suffix without a separator is the end of the last name. -/
theorem exists_stem (hv : Inside v) (hsuffix : '/' ∉ suffix.toList) :
    ∃ front last, (∀ bytes ∈ front, IsName bytes) ∧ Path.slash ∉ last ∧
      Text.utf8 (Loader.stem v suffix) = Path.joinParts Path.slash (front ++ [last]) := by
  obtain ⟨names, hne, hnames, hbytes, -⟩ := hv.mk_text.1
  have hbytes : Text.utf8 v.text = Path.joinParts Path.slash names := hbytes
  obtain ⟨front, last, rfl⟩ : ∃ front last, names = front ++ [last] :=
    ⟨names.dropLast, names.getLast hne, (List.dropLast_append_getLast hne).symm⟩
  have hfront : ∀ bytes ∈ front, IsName bytes := fun bytes hmem =>
    hnames bytes (List.mem_append_left _ hmem)
  have hlast : Path.slash ∉ last := (hnames last (by simp)).no_slash
  obtain ⟨before, hends, hbefore⟩ := Path.joinParts_concat front
  by_cases hends' : suffix.toList <:+ v.text.toList
  · have hstem : Text.utf8 v.text = Text.utf8 (Loader.stem v suffix) ++ Text.utf8 suffix := by
      rw [Text.utf8, ← stem_append hv hends', Text.encode_append]
      rfl
    rw [hbytes, hbefore] at hstem
    rcases List.append_eq_append_iff.1 hstem with ⟨more, hstem, hsplit⟩ | ⟨more, hstem, hsplit⟩
    · refine ⟨front, more, hfront, fun hmem => hlast ?_, ?_⟩
      · rw [hsplit]
        exact List.mem_append_left _ hmem
      · rw [hbefore, hstem]
    · -- the suffix would reach over the separator in front of the last name
      have hmore : more = [] := by
        rcases hends with rfl | hends
        · exact (List.append_eq_nil_iff.1 hstem.symm).2
        · by_contra hmore
          rw [hstem, List.getLast?_append_of_ne_nil _ hmore] at hends
          refine Path.no_slash_utf8.2 hsuffix ?_
          rw [hsplit]
          exact List.mem_append_left last (List.mem_of_getLast? hends)
      refine ⟨front, [], hfront, by simp, ?_⟩
      rw [hbefore, hstem, hmore, List.append_nil, List.append_nil]
  · exact ⟨front, last, hfront, hlast, by rw [stem_of_not_suffix hv hends', hbytes]⟩

theorem loaderSuffix_spec (kind : AssetKind) :
    underscore ∈ Text.utf8 kind.loaderSuffix ∧ Path.slash ∉ Text.utf8 kind.loaderSuffix ∧
      kind.loaderSuffix.toList.length ≤ 8 ∧ 7 ≤ kind.loaderSuffix.toList.length := by
  cases kind <;> decide

/-- A loader is kept like a view whose last name has an underscore in it. -/
theorem inside_loaderName (hv : Inside v) (hsuffix : '/' ∉ suffix.toList) (kind : AssetKind) :
    Inside ⟨loaderName v kind suffix⟩ ∧ ∃ bytes, underscore ∈ bytes ∧
      (Path.mk (loaderName v kind suffix)).components.getLast? = some (.name bytes) := by
  obtain ⟨front, last, hfront, hlast, hstem⟩ := exists_stem hv hsuffix
  obtain ⟨hmem, hslash, -, -⟩ := loaderSuffix_spec kind
  obtain ⟨before, -, hbefore⟩ := Path.joinParts_concat front
  have hunderscore : underscore ∈ last ++ Text.utf8 kind.loaderSuffix ++ Text.utf8 suffix :=
    List.mem_append_left _ (List.mem_append_right _ hmem)
  have hname : IsName (last ++ Text.utf8 kind.loaderSuffix ++ Text.utf8 suffix) :=
    isName_of_mem hunderscore (by simp [hlast, hslash, Path.no_slash_utf8.2 hsuffix])
  have hnames : ∀ bytes ∈ front ++ [last ++ Text.utf8 kind.loaderSuffix ++ Text.utf8 suffix],
      IsName bytes := by
    intro bytes hbytes
    rcases List.mem_append.1 hbytes with hbytes | hbytes
    · exact hfront bytes hbytes
    · rw [List.mem_singleton.1 hbytes]
      exact hname
  have hpath : Text.utf8 (loaderName v kind suffix) = Path.joinParts Path.slash
      (front ++ [last ++ Text.utf8 kind.loaderSuffix ++ Text.utf8 suffix]) := by
    rw [loaderName, Text.utf8_append, Text.utf8_append, hstem, hbefore, hbefore]
    simp only [List.append_assoc]
  rw [hpath]
  refine ⟨Path.inside_of_names (by simp) hnames, _, hunderscore, ?_⟩
  rw [Path.components_of_names hnames, List.map_append, List.map_singleton, List.getLast?_concat]

/-- Among the outputs, a loader is kept in place of the view that is named like it. -/
theorem key_loader_eq_iff (hv : Inside v) (hw : Inside w) (hsuffix : '/' ∉ o.templateSuffix.toList)
    (kind : AssetKind) :
    key (Loader.pathOf v kind o) = key (Fingerprint.outputPath o.templateDist w) ↔
      loaderName v kind o.templateSuffix = w.text := by
  have hinj := Path.key_join_inj o.templateDist (inside_loaderName hv hsuffix kind).1 hw
  rwa [← pathOf_eq, Path.text_mk] at hinj

/-- Where the suffix has no separator, a view that covers the output of another one does not cover
its record. -/
theorem not_coversRecord (hv : Inside v) (hw : Inside w) (hsuffix : '/' ∉ o.templateSuffix.toList)
    (hcovers : Covers o v w) : ¬ CoversRecord o v w := by
  rintro ⟨kind, hkind⟩
  rw [recordOf_eq o.templateDist hw, pathOf_eq] at hkind
  have hname : loaderName v kind o.templateSuffix = w.text ++ ".fingerprint" := by
    have htext := (Path.key_join_inj o.templateDist (inside_loaderName hv hsuffix kind).1
      (inside_fingerprint hw).1).1 hkind
    rwa [Path.text_mk, Path.text_addSuffix] at htext
  obtain ⟨kind', hkind' | hkind'⟩ := hcovers
  · -- both are names of loaders, which differ by one letter in length at most
    have hname' := (key_loader_eq_iff hv hw hsuffix kind').1 hkind'
    rw [← hname'] at hname
    have hlength := congrArg (·.toList.length) hname
    obtain ⟨-, -, hshort, -⟩ := loaderSuffix_spec kind
    obtain ⟨-, -, -, hlong⟩ := loaderSuffix_spec kind'
    have hfingerprint : ".fingerprint".toList.length = 12 := by decide
    simp only [loaderName, String.toList_append, List.length_append, hfingerprint] at hlength
    omega
  · -- the name of a loader has an underscore, and neither an asset nor `.fingerprint` has one
    obtain ⟨-, bytes, hmem, hlast⟩ := inside_loaderName hv hsuffix kind
    obtain ⟨-, bytes', hbytes', hrecord⟩ := inside_fingerprint hw.mk_text.1
    have hasset := getLast?_of_key_asset_eq hw hkind'
    rw [← List.getLast?_map, ← hw.mk_text.2, hbytes', Option.some.injEq,
      Path.Component.name.injEq] at hasset
    have hpath : Path.mk (loaderName v kind o.templateSuffix) =
        (Path.mk w.text).addSuffix ".fingerprint" := by
      rw [hname, Text.utf8_append]
      rfl
    rw [hpath, hrecord, hasset, Option.some.injEq, Path.Component.name.injEq] at hlast
    rw [← hlast, List.mem_append] at hmem
    rcases hmem with hmem | hmem
    · have hunderscore := (Text.mem_encode_iff (c := '_') rfl (by decide)).1 hmem
      exact underscore_not_mem_assetFilename v kind' hunderscore
    · exact absurd hmem (by decide)

/-- If the suffix of views has no separator in it, views are kept separate exactly if no two are
shown alike, none is named like a record or a loader of another one, and no asset is kept in place
of an output. -/
theorem separate_iff_names (hsuffix : '/' ∉ o.templateSuffix.toList) (paths : Set Path) :
    Separate o paths ↔ ∀ v ∈ viewsAt paths, ∀ w ∈ viewsAt paths, v ≠ w →
      v.text ≠ w.text ∧ v.text ≠ w.text ++ ".fingerprint" ∧
        ∀ kind, loaderName v kind o.templateSuffix ≠ w.text ∧
          key (assetPath kind v o) ≠ key (Fingerprint.outputPath o.templateDist w) := by
  constructor
  · intro hseparate v hv w hw hne
    have hinside := inside_of_mem_viewsAt hv
    have hinside' := inside_of_mem_viewsAt hw
    have hspared : ¬ Covers o v w := fun hcovers =>
      not_coversRecord hinside hinside' hsuffix hcovers
        (hseparate.coversRecord v hv w hw hne hcovers)
    refine ⟨hseparate.text_ne v hv w hw hne, fun hrecord => ?_,
      fun kind => ⟨fun hloader => ?_, fun hasset => ?_⟩⟩
    · exact hseparate.output_ne_record v hv w hw hne
        ((key_output_eq_record_iff _ hinside hinside').2 hrecord)
    · exact hspared ⟨kind, Or.inl ((key_loader_eq_iff hinside hinside' hsuffix kind).2 hloader)⟩
    · exact hspared ⟨kind, Or.inr hasset⟩
  · intro hnames
    refine ⟨fun v hv w hw hne => (hnames v hv w hw hne).1, fun v hv w hw hne hkey => ?_,
      fun v hv w hw hne hcovers => ?_⟩
    · exact (hnames v hv w hw hne).2.1 ((key_output_eq_record_iff _ (inside_of_mem_viewsAt hv)
        (inside_of_mem_viewsAt hw)).1 hkey)
    · obtain ⟨kind, hkind | hkind⟩ := hcovers
      · have hloader := (key_loader_eq_iff (inside_of_mem_viewsAt hv) (inside_of_mem_viewsAt hw)
          hsuffix kind).1 hkind
        exact absurd hloader ((hnames v hv w hw hne).2.2 kind).1
      · exact absurd hkind ((hnames v hv w hw hne).2.2 kind).2

end ScopedViews.Engine
