import ScopedViews.Proofs.Engine.Stages
/-!
# What all assemblies of a view have in common

The loaders of an assembly are named and placed for the view, whatever was compiled, and what it
holds for its assets is to be written where the view's own assets are.  A loader includes files that
a script requires only in front of the script itself, so that one that is not empty always has a
directive with an identifier or with the place of an own asset in it.

* `Assembled`: all of this;
* `StagedAll.assembled`: every compilation keeps it.
-/

namespace ScopedViews.Engine

variable {σ : Type} [Store σ] {e : Engine} {s : σ} {view : Path} {f : Fingerprint} {o : Options}

/-- Where the asset of a kind is written that the view at `owner` owns. -/
def assetPath (kind : AssetKind) (owner : Path) (o : Options) : Path :=
  (o.publicRoot.join ⟨Asset.dropTrailingSlashes (kind.dist o)⟩).join ⟨assetFilename owner kind⟩

theorem filePath_eq (kind : AssetKind) (owner : Path) (o : Options) (f : Fingerprint)
    (owned : Bool) : (Asset.of kind owner o f owned).filePath = assetPath kind owner o := by
  simp only [Asset.of, assetPath]

/-- A loader as it is named and placed for a view, with what it can include. -/
structure IsLoaderOf (view : Path) (kind : AssetKind) (o : Options) (l : Loader) : Prop where
  kind_eq : l.kind = kind
  identifier_eq : l.identifier = Loader.identifierOf view kind o.templateSuffix
  path_eq : l.path = Loader.pathOf view kind o
  nested_eq : ∀ d ∈ l.nested, ∃ target, d =
    fillIn o.loaderInclude pathPlaceholder (Loader.identifierOf target kind o.templateSuffix)
  owned_eq : ∀ d ∈ l.owned, ∃ front back, d =
    fillIn (kind.directive o) pathPlaceholder (front ++ "?v=" ++ back)
  owned_ne_nil : l.required ≠ [] → l.owned ≠ []

/-- An assembly as all stages of a compilation make it. -/
structure Assembled (view : Path) (o : Options) (a : Assembly) : Prop where
  style : IsLoaderOf view .style o a.styleLoader
  script : IsLoaderOf view .script o a.scriptLoader
  contents : ∀ out ∈ a.contents, ∃ kind, out.1 = assetPath kind view o

theorem isLoaderOf_empty (view : Path) (kind : AssetKind) (o : Options) :
    IsLoaderOf view kind o (Loader.empty view kind o) :=
  ⟨rfl, rfl, rfl, by simp [Loader.empty], by simp [Loader.empty], by simp [Loader.empty]⟩

theorem assembled_start (view : Path) (text : String) (o : Options) :
    Assembled view o (.start view text o) :=
  ⟨isLoaderOf_empty view .style o, isLoaderOf_empty view .script o, by simp [Assembly.start]⟩

/-! ## Changes of a loader -/

theorem IsLoaderOf.addNested {kind : AssetKind} {l : Loader} (hl : IsLoaderOf view kind o l)
    (target : Path) : IsLoaderOf view kind o (l.addNested target o) where
  kind_eq := hl.kind_eq
  identifier_eq := hl.identifier_eq
  path_eq := hl.path_eq
  nested_eq := by
    intro d hd
    rcases List.mem_append.1 hd with hd | hd
    · exact hl.nested_eq d hd
    · exact ⟨target, by rw [List.mem_singleton.1 hd, hl.kind_eq]⟩
  owned_eq := hl.owned_eq
  owned_ne_nil := hl.owned_ne_nil

/-- Files may be required in front of an asset that is owned. -/
theorem IsLoaderOf.addOwned {kind : AssetKind} {l : Loader} (hl : IsLoaderOf view kind o l)
    (required : List String) (front back : String) :
    IsLoaderOf view kind o
      ({ l with required := required }.addOwned (front ++ "?v=" ++ back) o) where
  kind_eq := hl.kind_eq
  identifier_eq := hl.identifier_eq
  path_eq := hl.path_eq
  nested_eq := hl.nested_eq
  owned_eq := by
    intro d hd
    rcases List.mem_append.1 hd with hd | hd
    · exact hl.owned_eq d hd
    · refine ⟨front, back, ?_⟩
      rw [List.mem_singleton.1 hd, Loader.assetDirective, hl.kind_eq]
  owned_ne_nil := fun _ => by simp [Loader.addOwned]

theorem foldl_addRequired (l : Loader) (paths : List String) (o : Options) :
    paths.foldl (fun l path => l.addRequired path o) l =
      { l with required := l.required ++ paths.map fun path => l.assetDirective path o } := by
  induction paths generalizing l with
  | nil => rw [List.foldl_nil, List.map_nil, List.append_nil]
  | cons path paths ih =>
      rw [List.foldl_cons, ih, List.map_cons, List.append_cons]
      rfl

/-! ## What fills an assembly -/

theorem Assembled.own {a : Assembly} (ha : Assembled view o a) (kind : AssetKind)
    (f : Fingerprint) (text : String) :
    Assembled view o (a.own (Asset.of kind view o f true) text o) := by
  have hcontents : ∀ out ∈ a.contents ++ [((Asset.of kind view o f true).filePath, text)],
      ∃ kind, out.1 = assetPath kind view o := by
    intro out hout
    rcases List.mem_append.1 hout with hout | hout
    · exact ha.contents out hout
    · exact ⟨kind, by rw [List.mem_singleton.1 hout, filePath_eq]⟩
  cases kind with
  | style => exact ⟨ha.style.addOwned _ _ _, ha.script, hcontents⟩
  | script => exact ⟨ha.style, ha.script.addOwned _ _ _, hcontents⟩

theorem Assembled.refer {a : Assembly} (ha : Assembled view o a) (kind : AssetKind)
    (target owner : Path) :
    Assembled view o (a.refer target (Asset.of kind owner o f false) o) := by
  cases kind with
  | style => exact ⟨ha.style.addNested target, ha.script, ha.contents⟩
  | script => exact ⟨ha.style, ha.script.addNested target, ha.contents⟩

theorem Assembled.filled {block : Block} {a b : Assembly} (ha : Assembled view e.options a)
    (h : Filled e s view f block a b) : Assembled view e.options b := by
  cases h with
  | ownedStyle => exact ha.own .style f _
  | importedStyle => exact ha.refer .style _ _
  | importedScript => exact ha.refer .script _ _
  | @ownedScript source script _ hscript =>
      -- what the script requires comes in front of the script, so both are added at once
      have hloader := ha.script.addOwned
        (a.scriptLoader.required ++
          script.required.map fun path => a.scriptLoader.assetDirective path e.options)
        (Asset.dropTrailingSlashes e.options.scriptDist ++ "/" ++ assetFilename view .script) f.text
      rw [← foldl_addRequired] at hloader
      have howned := ha.own .script f script.contents
      exact ⟨howned.style, hloader, howned.contents⟩

/-- A compilation keeps what assemblies of the view have in common. -/
theorem StagedAll.assembled {kinds : List Block.Kind} {a b : Assembly}
    (h : StagedAll e s view f kinds a b) (ha : Assembled view e.options a) :
    Assembled view e.options b :=
  h.induction_filled (fun _ _ _ ha => ⟨ha.style, ha.script, ha.contents⟩)
    (fun _ _ _ hfilled ha => ha.filled hfilled) ha

end ScopedViews.Engine
