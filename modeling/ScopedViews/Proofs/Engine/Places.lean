import ScopedViews.Proofs.Engine.Records
import ScopedViews.Proofs.Path.Join
/-!
# Where the files of a view are kept

A view is compiled to its own assets, two loaders, its output and a record of its fingerprint.
Outputs of views that are shown differently are kept apart, and so are records, and no asset is kept
in place of a record.  Whether a loader or an asset of one view is kept in place of the output of
another one depends on the options and on the names of the views; so does whether an output is kept
in place of a record.

* `key_output_inj`, `key_record_inj`, `key_output_ne_record`, `key_asset_ne_record`;
* `drafts`, `mem_drafts`: what is written in front of the record.
-/

namespace ScopedViews.Engine

open ScopedViews.Path (Inside IsName)
open MemoryStore (key)

variable {d v w : Path}

/-! ## Paths with a suffix -/

theorem isName_append {bytes suffix : Bytes} (hbytes : bytes ≠ []) (hslash : Path.slash ∉ bytes)
    (hsuffix : Path.slash ∉ suffix) (hlength : 2 ≤ suffix.length) : IsName (bytes ++ suffix) := by
  have hlong : 3 ≤ (bytes ++ suffix).length := by
    have := List.length_pos_iff.2 hbytes
    rw [List.length_append]
    omega
  refine ⟨?_, ?_, ?_, by simp [hslash, hsuffix]⟩
  · intro h
    simp [h] at hlong
  · intro h
    simp [h] at hlong
  · intro h
    simp [h] at hlong

/-- A longer last name. -/
theorem inside_addSuffix (hv : Inside v) {suffix : String} (hslash : Path.slash ∉ Text.utf8 suffix)
    (hlength : 2 ≤ (Text.utf8 suffix).length) :
    Inside (v.addSuffix suffix) ∧ ∃ bytes, v.components.getLast? = some (.name bytes) ∧
      (v.addSuffix suffix).components.getLast? = some (.name (bytes ++ suffix)) := by
  obtain ⟨names, hne, hnames, hbytes, hcomponents⟩ := hv
  obtain ⟨front, last, rfl⟩ : ∃ front last, names = front ++ [last] :=
    ⟨names.dropLast, names.getLast hne, (List.dropLast_append_getLast hne).symm⟩
  have hlast := hnames last (by simp)
  have hnames' : ∀ bytes ∈ front ++ [last ++ Text.utf8 suffix], IsName bytes := by
    intro bytes hmem
    rcases List.mem_append.1 hmem with hmem | hmem
    · exact hnames bytes (List.mem_append_left _ hmem)
    · rw [List.mem_singleton.1 hmem]
      exact isName_append hlast.ne_nil hlast.no_slash hslash hlength
  obtain ⟨before, -, hbefore⟩ := Path.joinParts_concat front
  have hpath : v.addSuffix suffix =
      ⟨Path.joinParts Path.slash (front ++ [last ++ Text.utf8 suffix])⟩ := by
    rw [hbefore, ← List.append_assoc, ← hbefore, ← hbytes]
    rfl
  rw [hpath]
  refine ⟨Path.inside_of_names (by simp) hnames', last, ?_, ?_⟩
  · rw [hcomponents, List.map_append, List.map_singleton, List.getLast?_concat]
  · rw [Path.components_of_names hnames', List.map_append, List.map_singleton,
      List.getLast?_concat]

theorem inside_fingerprint (hv : Inside v) :
    Inside (v.addSuffix ".fingerprint") ∧ ∃ bytes, v.components.getLast? = some (.name bytes) ∧
      (v.addSuffix ".fingerprint").components.getLast? =
        some (.name (bytes ++ ".fingerprint")) :=
  inside_addSuffix hv (by decide) (by decide)

/-- The record stands below the same directory as the output. -/
theorem recordOf_eq (d : Path) (hv : Inside v) :
    Fingerprint.recordOf d v = d.join (v.addSuffix ".fingerprint") := by
  have habsolute := hv.isAbsolute
  have habsolute' := (inside_fingerprint hv).1.isAbsolute
  rw [Fingerprint.recordOf, Fingerprint.recordPath, Fingerprint.outputPath, Path.join, Path.join,
    habsolute, habsolute', Bool.false_or]
  by_cases hempty : d.bytes = []
  · simp [hempty]
  · by_cases hlast : d.bytes.getLast? = some Path.slash
    · simp [hempty, hlast, Path.addSuffix, List.append_assoc]
    · simp [hempty, hlast, Path.addSuffix, List.append_assoc]

/-! ## Keys of a view -/

/-- Outputs of views that are shown differently are kept apart. -/
theorem key_output_inj (d : Path) (hv : Inside v) (hw : Inside w) :
    key (Fingerprint.outputPath d v) = key (Fingerprint.outputPath d w) ↔ v.text = w.text :=
  Path.key_join_inj d hv hw

/-- Records of views that are shown differently are kept apart. -/
theorem key_record_inj (d : Path) (hv : Inside v) (hw : Inside w) :
    key (Fingerprint.recordOf d v) = key (Fingerprint.recordOf d w) ↔ v.text = w.text := by
  rw [recordOf_eq d hv, recordOf_eq d hw,
    Path.key_join_inj d (inside_fingerprint hv).1 (inside_fingerprint hw).1, Path.text_addSuffix,
    Path.text_addSuffix, String.append_left_inj]

/-- An output is kept in place of a record exactly if its view is named like the record. -/
theorem key_output_eq_record_iff (d : Path) (hv : Inside v) (hw : Inside w) :
    key (Fingerprint.outputPath d v) = key (Fingerprint.recordOf d w) ↔
      v.text = w.text ++ ".fingerprint" := by
  rw [recordOf_eq d hw, ← Path.text_addSuffix]
  exact Path.key_join_inj d hv (inside_fingerprint hw).1

/-- A record is kept beside the output. -/
theorem key_output_ne_record (d : Path) (hv : Inside v) :
    key (Fingerprint.outputPath d v) ≠ key (Fingerprint.recordOf d v) := by
  rw [ne_eq, key_output_eq_record_iff d hv hv]
  intro h
  have hlength := congrArg (·.toList.length) h
  simp at hlength

theorem toList_assetFilename (owner : Path) (kind : AssetKind) :
    (assetFilename owner kind).toList =
      (Digest.ofText owner.slashed).toList ++ ("." ++ kind.extension).toList := by
  rw [assetFilename, String.append_assoc, String.toList_append]

/-- An asset is named by digits, a dot and letters. -/
theorem inside_assetFilename (owner : Path) (kind : AssetKind) :
    Inside ⟨assetFilename owner kind⟩ ∧
      (Path.mk (assetFilename owner kind)).components = [.name (assetFilename owner kind)] := by
  have hdigits : '/' ∉ (Digest.ofText owner.slashed).toList := fun hmem =>
    absurd (Digest.mem_digits hmem) (by decide)
  have hne : Text.utf8 (Digest.ofText owner.slashed) ≠ [] := by
    intro hnil
    have hlength := Digest.length_ofText owner.slashed
    rw [← Text.lossy_utf8, hnil] at hlength
    cases hlength
  have hextension : Path.slash ∉ Text.utf8 ("." ++ kind.extension) ∧
      2 ≤ (Text.utf8 ("." ++ kind.extension)).length := by
    cases kind <;> decide
  rw [assetFilename, String.append_assoc, Text.utf8_append]
  exact Path.inside_of_name
    (isName_append hne (Path.no_slash_utf8.2 hdigits) hextension.1 hextension.2)

theorem underscore_not_mem_assetFilename (owner : Path) (kind : AssetKind) :
    '_' ∉ (assetFilename owner kind).toList := by
  rw [toList_assetFilename]
  intro hmem
  rcases List.mem_append.1 hmem with hmem | hmem
  · exact absurd (Digest.mem_digits hmem) (by decide)
  · exact absurd hmem (by cases kind <;> decide)

theorem getLast?_assetFilename (owner : Path) (kind : AssetKind) :
    (assetFilename owner kind).toList.getLast? = some 's' := by
  have hextension : ("." ++ kind.extension).toList ≠ [] ∧
      ("." ++ kind.extension).toList.getLast? = some 's' := by
    cases kind <;> decide
  rw [toList_assetFilename, List.getLast?_append_of_ne_nil _ hextension.1, hextension.2]

/-- A path under the key of an asset has a last name that is shown like the asset's. -/
theorem getLast?_of_key_asset_eq {kind : AssetKind} {owner : Path} {o : Options} (hv : Inside v)
    (hkey : key (assetPath kind owner o) = key (d.join v)) :
    v.components.getLast?.map Path.Component.shown =
      some (.name (assetFilename owner kind)) := by
  obtain ⟨hfile, hcomponents⟩ := inside_assetFilename owner kind
  rw [assetPath] at hkey
  rw [← Path.getLast?_of_key_join_eq hfile hv hkey, hcomponents, List.getLast?_singleton,
    Option.map_some]
  exact congrArg some (Path.Component.shown_eq_self_iff.2 fun bytes heq =>
    ⟨_, Path.Component.name.inj heq⟩)

/-- No asset is kept in place of a record. -/
theorem key_asset_ne_record (kind : AssetKind) (owner : Path) (o : Options) (d : Path)
    (hv : Inside v) : key (assetPath kind owner o) ≠ key (Fingerprint.recordOf d v) := by
  intro hkey
  obtain ⟨hrecord, bytes, -, hlast⟩ := inside_fingerprint hv
  rw [recordOf_eq d hv] at hkey
  have hname := getLast?_of_key_asset_eq hrecord hkey
  rw [hlast, Option.map_some, Option.some.injEq, Path.Component.shown,
    Path.Component.name.injEq] at hname
  have hshown := Text.encode_injective hname
  rw [Text.lossy_append_utf8] at hshown
  have hends := getLast?_assetFilename owner kind
  rw [← hshown, List.getLast?_append_of_ne_nil _ (by decide)] at hends
  exact absurd hends (by decide)

/-! ## What a view is compiled to -/

variable {e : Engine} {view : Path} {a : Assembly}

/-- Everything that is written in front of the record. -/
def drafts (e : Engine) (view : Path) (a : Assembly) : List (Path × String) :=
  a.contents ++ a.loaders.map (fun l => (l.path, l.render)) ++
    [(Fingerprint.outputPath e.options.templateDist view, a.code e.options)]

theorem outputs_eq (e : Engine) (view : Path) (f : Fingerprint) (a : Assembly) :
    e.outputs view f a =
      e.drafts view a ++ [(Fingerprint.recordOf e.options.templateDist view, f.text)] := by
  simp [outputs, drafts]

/-- A draft is an asset, a loader or the output. -/
theorem mem_drafts (ha : Assembled view e.options a) {out : Path × String}
    (hout : out ∈ e.drafts view a) :
    (∃ kind, out.1 = assetPath kind view e.options) ∨
      (∃ kind l, IsLoaderOf view kind e.options l ∧
        out.1 = Loader.pathOf view kind e.options ∧ out.2 = l.render) ∨
      out.1 = Fingerprint.outputPath e.options.templateDist view := by
  rcases List.mem_append.1 hout with hout | hout
  · rcases List.mem_append.1 hout with hout | hout
    · exact Or.inl (ha.contents out hout)
    · obtain ⟨l, hl, rfl⟩ := List.mem_map.1 hout
      rcases List.mem_cons.1 hl with rfl | hl
      · exact Or.inr (Or.inl ⟨.style, _, ha.style, ha.style.path_eq, rfl⟩)
      · rw [List.mem_singleton.1 hl]
        exact Or.inr (Or.inl ⟨.script, _, ha.script, ha.script.path_eq, rfl⟩)
  · rw [List.mem_singleton.1 hout]
    exact Or.inr (Or.inr rfl)

/-- A loader of each kind is written, even if it is empty. -/
theorem exists_loader_mem_drafts (ha : Assembled view e.options a) (kind : AssetKind) :
    ∃ out ∈ e.drafts view a, out.1 = Loader.pathOf view kind e.options := by
  cases kind with
  | style =>
      exact ⟨(a.styleLoader.path, a.styleLoader.render), by simp [drafts, Assembly.loaders],
        ha.style.path_eq⟩
  | script =>
      exact ⟨(a.scriptLoader.path, a.scriptLoader.render), by simp [drafts, Assembly.loaders],
        ha.script.path_eq⟩

/-- A draft in the place of the record is no record of a fingerprint. -/
theorem not_isRecordedIn_of_mem_drafts (hvalid : e.options.isValid = true)
    (hview : Inside view) (ha : Assembled view e.options a) {out : Path × String}
    (hout : out ∈ e.drafts view a)
    (hkey : key out.1 = key (Fingerprint.recordOf e.options.templateDist view))
    (text version : String) : (Fingerprint.of text version).isRecordedIn out.2 = false := by
  rcases mem_drafts ha hout with ⟨kind, hpath⟩ | ⟨kind, l, hl, -, htext⟩ | hpath
  · rw [hpath] at hkey
    exact absurd hkey (key_asset_ne_record kind view e.options _ hview)
  · rw [htext]
    exact hl.not_isRecordedIn hvalid text version
  · rw [hpath] at hkey
    exact absurd hkey (key_output_ne_record e.options.templateDist hview)

end ScopedViews.Engine
