import ScopedViews.Proofs.Block.Imported
import ScopedViews.Proofs.Engine.Effects
import ScopedViews.Proofs.Engine.Versions
/-!
# Imported views

A view that imports another one includes the other one's loader and refers to its asset, and it has
to know what they are called without reading the other view.  Both are named for a path in its
normal form, which an import is resolved to and which a view is compiled under.

* `Asset.SameFile`: assets that are one file;
* `assetFilename_eq_iff`: when assets are named alike;
* `CompiledView.Imports`: what a compiled view includes and refers to of one that it imports;
* `imports_agree`: imports are named as they are compiled.
-/

namespace ScopedViews

/-- Assets that are one file of one view, whoever refers to them. -/
structure Asset.SameFile (a b : Asset) : Prop where
  kind : a.kind = b.kind
  owner : a.owner = b.owner
  filename : a.filename = b.filename
  filePath : a.filePath = b.filePath

/-- Assets are named alike exactly if they are of one kind and the digests of their paths are
equal. -/
theorem assetFilename_eq_iff {v w : Path} {kind kind' : AssetKind} :
    assetFilename v kind = assetFilename w kind' ↔
      kind = kind' ∧ Digest.ofBytes v.slashed.toUTF8 = Digest.ofBytes w.slashed.toUTF8 := by
  rw [← String.toList_inj, Engine.toList_assetFilename, Engine.toList_assetFilename]
  constructor
  · intro heq
    have hlength : (Digest.ofText v.slashed).toList.length =
        (Digest.ofText w.slashed).toList.length := by
      rw [Digest.length_ofText, Digest.length_ofText]
    obtain ⟨hdigest, hextension⟩ := List.append_inj heq hlength
    have hdigest := Digest.hex_inj.1 (String.toList_inj.1 hdigest)
    refine ⟨?_, hdigest⟩
    cases kind <;> cases kind' <;> first | rfl | exact absurd hextension (by decide)
  · rintro ⟨rfl, hdigest⟩
    rw [Digest.ofText, Digest.ofText, hdigest]

/-- What an import names is in its normal form. -/
theorem Path.normalize_importTarget? {written suffix : String} {importer target : Path}
    (h : importTarget? written importer suffix = some target) : target.normalize = target := by
  unfold importTarget? at h
  simp only [Option.ite_none_left_eq_some, Option.ite_none_right_eq_some] at h
  obtain ⟨-, -, hresolved⟩ := h
  rw [← Option.some.inj hresolved, Path.normalize_normalize]

/-- A view includes the loader of another view in front, and its one foreign asset of the kind is
that of the other view. -/
structure CompiledView.Imports (view other : CompiledView) (kind : AssetKind) (o : Options) :
    Prop where
  loader : ∃ l ∈ view.loaders, ∃ l' ∈ other.loaders, l.kind = kind ∧ l'.kind = kind ∧
    l.directives.head? = some (l'.includeDirective o)
  asset : ∃ imported, view.assets.filter (fun a => a.kind = kind && !a.owned) = [imported] ∧
    ∀ own ∈ other.assets, own.kind = kind → own.owned = true → imported.SameFile own

namespace Engine

variable {σ : Type} [Store σ] {e e' : Engine} {s s' : σ} {kind : AssetKind} {a : Assembly}
  {f : Fingerprint} {v target : Path} {text written : String}

/-- The import of a target includes the loader of the view there. -/
theorem nested_addNested {l : Loader} (hl : l.kind = kind) (target : Path) (o : Options) :
    (l.addNested target o).nested =
      l.nested ++ [(Loader.empty target kind o).includeDirective o] := by
  rw [← hl]
  rfl

/-- The asset of the view at `owner` is one file, whoever refers to it. -/
theorem sameFile_of (kind : AssetKind) (owner : Path) (o : Options) (f f' : Fingerprint)
    (owned owned' : Bool) : (Asset.of kind owner o f owned).SameFile
      (Asset.of kind owner o f' owned') :=
  ⟨rfl, rfl, rfl, by rw [filePath_eq, filePath_eq]⟩

theorem RefersTo.target_eq {t : Path} (h : RefersTo e v (kind.importOf written) t) :
    e.target written v = .ok t := by
  cases kind with
  | style =>
      cases h with
      | style htarget => exact htarget
  | script =>
      cases h with
      | script htarget => exact htarget

theorem Assembled.loaderOf (ha : Assembled v e.options a) (kind : AssetKind) :
    IsLoaderOf v kind e.options (a.loaderOf kind) := by
  cases kind with
  | style => exact ha.style
  | script => exact ha.script

theorem loaderOf_mem_loaders (a : Assembly) (kind : AssetKind) : a.loaderOf kind ∈ a.loaders := by
  cases kind with
  | style => exact List.mem_cons_self
  | script => exact List.mem_cons_of_mem _ List.mem_cons_self

namespace Extraction

variable (x : Extraction e s v text)

/-- The foreign assets of a kind are those of the imported view. -/
theorem filter_imported (f : Fingerprint) (kind : AssetKind) :
    (x.assets f).filter (fun a => a.kind = kind && !a.owned) =
      (x.target kind).toList.map fun target => Asset.of kind target e.options f false := by
  cases kind <;> simp [assets, List.filter_map, Function.comp_def, Asset.of]

/-- The own asset of a kind is that of the view. -/
theorem eq_of_owned {own : Asset} (hmem : own ∈ x.assets f) (howned : own.owned = true) :
    own = Asset.of own.kind v e.options f true := by
  have hown : own ∈ (x.assets f).filter (·.owned) := List.mem_filter.2 ⟨hmem, howned⟩
  rw [x.filter_assets] at hown
  obtain ⟨out, hout, rfl⟩ := List.mem_map.1 hown
  obtain ⟨kind, -, hout⟩ := List.mem_flatMap.1 hout
  obtain ⟨contents, -, rfl⟩ := List.mem_map.1 hout
  rfl

/-- The view that is imported is the one that the block names. -/
theorem target_eq (hblock : Block.extracted kind.importedBlock text = some (kind.importOf written))
    (htarget : Path.importTarget? written v e.options.templateSuffix = some target) :
    x.target kind = some target := by
  have hspec := x.target_spec kind
  rw [hblock] at hspec
  generalize x.target kind = found at hspec ⊢
  cases hspec with
  | some hrefers =>
      have hfound := hrefers.target_eq
      unfold Engine.target at hfound
      rw [htarget] at hfound
      rw [Except.ok.inj hfound]

end Extraction

/-- A compiled view imports another one as it is compiled by an engine of any version. -/
theorem imports_of_fresh {p q : Path} {text text' : String} {view other : CompiledView}
    (hoptions : e'.options = { e.options with version := e'.options.version })
    (htarget : Path.importTarget? written p.normalize e.options.templateSuffix = some q.normalize)
    (hblock : Block.extracted kind.importedBlock text = some (kind.importOf written))
    (hview : (e.compile ⟨p, some text⟩ s).result = .ok (.fresh view))
    (hother : (e'.compile ⟨q, some text'⟩ s').result = .ok (.fresh other)) :
    view.Imports other kind e'.options := by
  obtain ⟨version, hversion⟩ : ∃ version, e'.options = { e.options with version } := ⟨_, hoptions⟩
  obtain ⟨_, a, htext, hassembled, -, rfl⟩ := fresh_of_compile hview
  obtain ⟨_, b, htext', hassembled', -, rfl⟩ := fresh_of_compile hother
  obtain rfl := Option.some.inj htext
  obtain rfl := Option.some.inj htext'
  obtain ⟨x, hx⟩ := hassembled.exists_extraction
  obtain ⟨y, hy⟩ := hassembled'.exists_extraction
  have himported : x.target kind = some q.normalize := x.target_eq hblock htarget
  have hl := (hassembled.assembled (assembled_start _ text e.options)).loaderOf kind
  have hl' := (hassembled'.assembled (assembled_start _ text' e'.options)).loaderOf kind
  refine ⟨⟨a.loaderOf kind, loaderOf_mem_loaders a kind, b.loaderOf kind,
    loaderOf_mem_loaders b kind, hl.kind_eq, hl'.kind_eq, ?_⟩, ?_⟩
  · -- the loader of the imported view comes in front of everything else
    rw [hx.directives, Extraction.directives, himported, Loader.includeDirective, hl'.identifier_eq,
      hversion]
    rfl
  · refine ⟨Asset.of kind q.normalize e.options (Fingerprint.of text e.options.version) false, ?_,
      ?_⟩
    · rw [hx.assets, x.filter_imported, himported]
      rfl
    · intro own hmem hkind howned
      rw [hy.assets] at hmem
      rw [y.eq_of_owned hmem howned, hkind, hversion]
      exact sameFile_of kind q.normalize e.options _ _ false true

/-- Let an import written in one view be resolved to a target, and let a path have the target as its
normal form.  Then the target is in its normal form, the import includes the loader of the kind that
the view at the path is given, and it refers to the file of the asset that this view owns, whatever
the texts, the versions and the fingerprints of the two views are; this is what the two views are
compiled to.  Asset names are equal only for one kind and for paths with equal digests. -/
theorem imports_agree {importer q target : Path}
    (hoptions : e'.options = { e.options with version := e'.options.version })
    (htarget : Path.importTarget? written importer e.options.templateSuffix = some target)
    (hq : q.normalize = target) :
    target.normalize = target ∧
      (∀ kind (l : Loader), l.kind = kind → (l.addNested target e.options).nested =
        l.nested ++ [(Loader.empty q.normalize kind e'.options).includeDirective e'.options]) ∧
      (∀ kind f f', (Asset.of kind target e.options f false).SameFile
        (Asset.of kind q.normalize e'.options f' true)) ∧
      (∀ kind p text text' (s s' : σ) view other, p.normalize = importer →
        Block.extracted kind.importedBlock text = some (kind.importOf written) →
        (e.compile ⟨p, some text⟩ s).result = .ok (.fresh view) →
        (e'.compile ⟨q, some text'⟩ s').result = .ok (.fresh other) →
          view.Imports other kind e'.options) ∧
      ∀ v w kind kind', assetFilename v kind = assetFilename w kind' ↔
        kind = kind' ∧ Digest.ofBytes v.slashed.toUTF8 = Digest.ofBytes w.slashed.toUTF8 := by
  subst hq
  obtain ⟨version, hversion⟩ : ∃ version, e'.options = { e.options with version } := ⟨_, hoptions⟩
  refine ⟨Path.normalize_importTarget? htarget, fun kind l hl => ?_, fun kind f f' => ?_, ?_,
    fun _ _ _ _ => assetFilename_eq_iff⟩
  · rw [nested_addNested hl, hversion]
    rfl
  · rw [hversion]
    exact sameFile_of kind q.normalize e.options f f' false true
  · rintro kind p text text' s s' view other rfl hblock hview hother
    exact imports_of_fresh hoptions htarget hblock hview hother

/-- A view that imports the style of one in the directory above. -/
def importingText : String := "<style data-import=\"../b\"></style>"

/-- The other view is compiled under another spelling of its path and for another version, to the
style that the first one refers to. -/
theorem imports_agree_parent :
    ∃ view other,
      ((asWrittenFor "1").compile ⟨⟨"./pages/a.blade.php"⟩, some importingText⟩
        MemoryStore.empty).result = .ok (.fresh view) ∧
      ((asWrittenFor "2").compile ⟨⟨".//b.blade.php"⟩, some "<style data-scoped>p\x7b\x7d</style>"⟩
        MemoryStore.empty).result = .ok (.fresh other) ∧
      (∃ own ∈ other.assets, own.kind = .style ∧ own.owned = true) ∧
      view.Imports other .style (asWrittenFor "2").options := by
  have hview : (freshView? ((asWrittenFor "1").compile ⟨⟨"./pages/a.blade.php"⟩, some importingText⟩
      MemoryStore.empty)).isSome = true := by
    decide +kernel
  have hother : (freshView? ((asWrittenFor "2").compile ⟨⟨".//b.blade.php"⟩,
      some "<style data-scoped>p\x7b\x7d</style>"⟩ MemoryStore.empty)).map
        (fun other => other.assets.map fun own => (own.kind, own.owned)) =
          some [(.style, true)] := by
    decide +kernel
  have htarget : Path.importTarget? "../b" ⟨"pages/a.blade.php"⟩ ".blade.php" =
      some ⟨"b.blade.php"⟩ := by
    decide +kernel
  have hq : (Path.mk ".//b.blade.php").normalize = ⟨"b.blade.php"⟩ := by decide +kernel
  have hblock : Block.extracted .importedStyle importingText = some (.importedStyle "../b") := by
    decide +kernel
  obtain ⟨view, hview⟩ := Option.isSome_iff_exists.1 hview
  obtain ⟨other, hother, hassets⟩ := Option.map_eq_some_iff.1 hother
  have hfresh := result_of_freshView? hview
  have hfresh' := result_of_freshView? hother
  have hcompiled := (imports_agree (σ := MemoryStore) (show (asWrittenFor "2").options =
    { (asWrittenFor "1").options with version := "2" } from rfl) htarget hq).2.2.2.1
  refine ⟨view, other, hfresh, hfresh', ?_,
    hcompiled .style _ _ _ _ _ view other (by decide +kernel) hblock hfresh hfresh'⟩
  have hmem : (AssetKind.style, true) ∈ other.assets.map fun own => (own.kind, own.owned) := by
    rw [hassets]
    exact List.mem_cons_self
  obtain ⟨own, hown, heq⟩ := List.mem_map.1 hmem
  exact ⟨own, hown, (Prod.mk.inj heq).1, (Prod.mk.inj heq).2⟩

end Engine

end ScopedViews
