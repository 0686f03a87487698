import ScopedViews.Proofs.Engine.Effects
import ScopedViews.Proofs.Path.Relative
/-!
# Where assets are served and where they are written

An asset is served under a public path and written under the public root.  Both are made from the
public directory of its kind: the public path is the directory with the name of the asset behind
it, and the file is the directory seen from the public root.  A directory that is written from the
root is not seen from the public root, so that the file lies elsewhere than its address says.

* `rootless_address`: what an address says behind a directory;
* `written_at_address_iff`: when the file lies where its address says, below the public root.
-/

namespace ScopedViews.Engine

open ScopedViews.Path (rootless climb)

variable {kind : AssetKind} {owner : Path} {o : Options} {f : Fingerprint} {owned : Bool}

/-- The public directory of the assets of a kind, as a path. -/
def distPath (kind : AssetKind) (o : Options) : Path :=
  ⟨Asset.dropTrailingSlashes (kind.dist o)⟩

/-- Where the asset of a kind is served that the view at `owner` owns. -/
def assetAddress (kind : AssetKind) (owner : Path) (o : Options) : Path :=
  ⟨(distPath kind o).bytes ++ Path.slash :: Text.utf8 (assetFilename owner kind)⟩

/-- An address is a text. -/
theorem text_assetAddress (kind : AssetKind) (owner : Path) (o : Options) :
    (assetAddress kind owner o).text =
      Asset.dropTrailingSlashes (kind.dist o) ++ "/" ++ assetFilename owner kind := by
  have hslash : Text.utf8 "/" = [Path.slash] := by decide
  rw [Path.text, assetAddress, distPath, ← List.singleton_append, ← hslash, ← Text.utf8_append,
    ← Text.utf8_append, Text.decodeLossy_utf8, String.append_assoc]

theorem importPath_eq : (Asset.of kind owner o f owned).importPath =
    (assetAddress kind owner o).text ++ "?v=" ++ f.text := by
  rw [text_assetAddress]
  rfl

theorem components_assetPath (kind : AssetKind) (owner : Path) (o : Options) :
    (assetPath kind owner o).components = (o.publicRoot.join (distPath kind o)).components ++
      [.name (assetFilename owner kind)] := by
  obtain ⟨hfile, hcomponents⟩ := inside_assetFilename owner kind
  rw [assetPath, Path.components_join _ hfile, hcomponents, distPath]

/-- Without the root, an address says the public directory and the name of the asset. -/
theorem rootless_address (kind : AssetKind) (owner : Path) (o : Options) :
    rootless (assetAddress kind owner o).components =
      rootless (distPath kind o).components ++ [.name (assetFilename owner kind)] := by
  obtain ⟨hfile, hcomponents⟩ := inside_assetFilename owner kind
  have haddress := Path.rootless_slash (distPath kind o) hfile
  dsimp only at haddress
  rw [assetAddress, haddress, hcomponents]

/-- A relative public directory leads from the public root to where the address says; one that is
written from the root does so exactly if it climbs out of all directories of the public root. -/
theorem resolveAll_join_dist_iff :
    Path.resolveAll (o.publicRoot.join (distPath kind o)).components =
        Path.resolveAll (o.publicRoot.components ++ (distPath kind o).inner) ↔
      (distPath kind o).isAbsolute = false ∨ ∃ names : List Bytes,
        Path.resolveAll o.publicRoot.components = .root :: names.map .name ∧
        names.length ≤ climb (rootless (distPath kind o).components) := by
  cases habsolute : (distPath kind o).isAbsolute with
  | false =>
      rw [Path.resolveAll_join_of_relative _ habsolute, Path.resolveAll_append_components habsolute]
      simp
  | true =>
      have hjoin : o.publicRoot.join (distPath kind o) = distPath kind o := by
        rw [Path.join, habsolute, Bool.true_or, if_pos rfl]
      rw [hjoin, Path.climb_rootless, Path.components_of_isAbsolute habsolute,
        Path.resolveAll_root_eq_iff _ fun _ => Path.isInner_of_mem_inner, or_iff_right (by simp)]

/-- The name of the asset makes no difference. -/
theorem normalize_assetPath_iff :
    (assetPath kind owner o).normalize = Path.ofComponents (Path.resolveAll
        (o.publicRoot.components ++ rootless (assetAddress kind owner o).components)) ↔
      Path.resolveAll (o.publicRoot.join (distPath kind o)).components =
        Path.resolveAll (o.publicRoot.components ++ (distPath kind o).inner) := by
  have haddress : Path.resolveAll
      (o.publicRoot.components ++ rootless (assetAddress kind owner o).components) =
      Path.resolveAll (o.publicRoot.components ++ (distPath kind o).inner) ++
        [.name (assetFilename owner kind)] := by
    rw [rootless_address, ← List.append_assoc, Path.resolveAll_concat_name,
      Path.resolveAll_append_rootless]
  have hpath : Path.resolveAll (assetPath kind owner o).components =
      Path.resolveAll (o.publicRoot.join (distPath kind o)).components ++
        [.name (assetFilename owner kind)] := by
    rw [components_assetPath, Path.resolveAll_concat_name]
  have hresolved : Path.Resolved (Path.resolveAll
      (o.publicRoot.components ++ rootless (assetAddress kind owner o).components)) := by
    rw [Path.resolveAll_append_rootless]
    exact Path.resolved_resolveAll_append _ fun _ => Path.isInner_of_mem_inner
  rw [Path.normalize, Path.ofComponents_inj (Path.resolved_resolveAll _) hresolved, haddress, hpath,
    List.append_cancel_right_eq]

/-- An asset that a view owns is in the store once the view is compiled. -/
theorem owned_of_fresh {e : Engine} {s : MemoryStore} {file : SourceFile} {t : CompiledView}
    (hfresh : (e.compile file s).result = .ok (.fresh t)) {a : Asset} (ha : a ∈ t.assets)
    (howned : a.owned = true) :
    (∃ kind, a = Asset.of kind file.path.normalize e.options t.fingerprint true) ∧
      ((e.compile file s).store.get? a.filePath).isSome = true := by
  obtain ⟨text, b, -, hassembled, hwritten, rfl⟩ := fresh_of_compile hfresh
  obtain ⟨x, hx⟩ := hassembled.exists_extraction
  have hmem : a ∈ (x.ownAssets (Fingerprint.of text e.options.version)).map Prod.fst := by
    rw [← x.filter_assets, ← hx.assets]
    exact List.mem_filter.2 ⟨ha, howned⟩
  obtain ⟨own, hown, rfl⟩ := List.mem_map.1 hmem
  rw [MemoryStore.writeAll_memory] at hwritten
  rw [← (Prod.mk.inj hwritten).1]
  refine ⟨?_, ?_⟩
  · simp only [Extraction.ownAssets, List.mem_flatMap, List.mem_map] at hown
    obtain ⟨kind, -, own, -, rfl⟩ := hown
    exact ⟨kind, rfl⟩
  · have hout : (own.1.filePath, own.2) ∈
        e.outputs file.path.normalize (Fingerprint.of text e.options.version) b := by
      rw [outputs, hx.contents]
      simp only [List.mem_append, List.mem_map]
      exact Or.inl (Or.inl ⟨own, hown, rfl⟩)
    rw [MemoryStore.get?_insertAll, Option.isSome_or, Bool.or_eq_true]
    left
    rw [Option.isSome_iff_ne_none, ne_eq, kept?_eq_none_iff]
    exact fun hnone => hnone _ (List.mem_reverse.2 hout) rfl

/-! ## Files and addresses -/

/-- An address is the public directory of the kind with the name of the asset behind it, and the
file lies under that name in the directory as it is seen from the public root, where it is written
by the view that owns it.  So the file lies where the address says below the public root exactly if
the directory is relative, or climbs out of all directories of a public root that is itself written
from the root. -/
theorem written_at_address_iff (e : Engine) (kind : AssetKind) (owner : Path) (f : Fingerprint)
    (owned : Bool) :
    (Asset.of kind owner e.options f owned).importPath =
        (assetAddress kind owner e.options).text ++ "?v=" ++ f.text ∧
      (Asset.of kind owner e.options f owned).filePath.components =
        (e.options.publicRoot.join (distPath kind e.options)).components ++
          [.name (assetFilename owner kind)] ∧
      ((Asset.of kind owner e.options f owned).filePath.normalize =
          Path.ofComponents (Path.resolveAll (e.options.publicRoot.components ++
            rootless (assetAddress kind owner e.options).components)) ↔
        (distPath kind e.options).isAbsolute = false ∨ ∃ names : List Bytes,
          Path.resolveAll e.options.publicRoot.components = .root :: names.map .name ∧
          names.length ≤ climb (rootless (distPath kind e.options).components)) ∧
      ∀ (s : MemoryStore) (file : SourceFile) (t : CompiledView),
        (e.compile file s).result = .ok (.fresh t) → ∀ a ∈ t.assets, a.owned = true →
          (∃ kind, a = Asset.of kind file.path.normalize e.options t.fingerprint true) ∧
            ((e.compile file s).store.get? a.filePath).isSome = true := by
  rw [filePath_eq]
  exact ⟨importPath_eq, components_assetPath kind owner e.options,
    normalize_assetPath_iff.trans resolveAll_join_dist_iff, fun _ _ _ => owned_of_fresh⟩

/-- Options with a public directory for styles that is written from the root. -/
def rootedStyles : Options := { scriptDist := "js/views", styleDist := "/css/views" }

/-- A valid public directory that is written from the root is not seen from the public root. -/
theorem not_written_at_address :
    rootedStyles.isValid = true ∧
      (Asset.of .style ⟨"a.blade.php"⟩ rootedStyles (.of "" "") true).importPath =
        "/css/views/09d6331951138999a4b62da0cbad849b.css" ++ "?v=" ++
          (Fingerprint.of "" "").text ∧
      (Asset.of .style ⟨"a.blade.php"⟩ rootedStyles (.of "" "") true).filePath.normalize =
        ⟨"/css/views/09d6331951138999a4b62da0cbad849b.css"⟩ ∧
      Path.ofComponents (Path.resolveAll (rootedStyles.publicRoot.components ++
          rootless (Path.mk "/css/views/09d6331951138999a4b62da0cbad849b.css").components)) =
        ⟨"public/css/views/09d6331951138999a4b62da0cbad849b.css"⟩ ∧
      (Asset.of .style ⟨"a.blade.php"⟩ rootedStyles (.of "" "") true).filePath.normalize ≠
        ⟨"public/css/views/09d6331951138999a4b62da0cbad849b.css"⟩ := by
  have hfile : (Asset.of .style ⟨"a.blade.php"⟩ rootedStyles (.of "" "") true).filePath.normalize =
      ⟨"/css/views/09d6331951138999a4b62da0cbad849b.css"⟩ := by
    decide +kernel
  refine ⟨by decide +kernel, by decide +kernel, hfile, by decide, ?_⟩
  rw [hfile]
  decide

end ScopedViews.Engine
