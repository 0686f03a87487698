import ScopedViews.Proofs.Block.Tags
import ScopedViews.Proofs.Engine.Directives
import ScopedViews.Proofs.Engine.Places
import ScopedViews.Proofs.Store.Writes
/-!
# What a fresh compilation writes

A view has at most one block of each kind that counts: the first one in what is left of its text
when those of the kinds in front are taken out.  An owned block becomes an asset that is written,
and an imported one a reference to another view.  All that a fresh compilation leaves in the store
and gives back follows from these four.

* `Block.extracted`: the block of a kind that counts;
* `Extraction`: what becomes of the blocks of a view;
* `OwnStage`, `ImportStage`: what each of them does to an assembly, and what it leaves alone;
* `fresh_writes`: what is written, and where, and what loaders consist of.
-/

namespace ScopedViews

/-! ## The blocks of a view -/

namespace Block

def kind : Block → Kind
  | .ownedStyle .. => .ownedStyle
  | .importedStyle .. => .importedStyle
  | .ownedScript .. => .ownedScript
  | .importedScript .. => .importedScript

/-- The first block of a kind, behind the search for those of the kinds in front of it. -/
def extracted (kind : Kind) (text : String) : Option Block :=
  (find? kind (remainder (kinds.takeWhile (· ≠ kind)) text)).map Found.block

theorem kind_of_at? {k : Kind} {cs rest : List Char} {b : Block} (h : at? k cs = some (b, rest)) :
    b.kind = k := by
  cases k with
  | ownedStyle | importedStyle | ownedScript | importedScript =>
      obtain ⟨_, -, heq⟩ := Option.map_eq_some_iff.1 h
      rw [← (Prod.mk.inj heq).1]
      rfl

/-- A block that is looked for is of the kind that is looked for. -/
theorem kind_of_find? {k : Kind} {text : String} {found : Found} (h : find? k text = some found) :
    found.block.kind = k := by
  obtain ⟨_, hseek, rfl⟩ := Option.map_eq_some_iff.1 h
  obtain ⟨-, -, -, hat, -⟩ := Text.seek?_eq_some_iff.1 hseek
  exact kind_of_at? hat

end Block

/-- The loader of a kind. -/
def Assembly.loaderOf (a : Assembly) : AssetKind → Loader
  | .style => a.styleLoader
  | .script => a.scriptLoader

namespace Engine

variable {σ : Type} [Store σ] {e : Engine} {s : σ} {view : Path} {f : Fingerprint}
  {kind : AssetKind} {a b : Assembly}

/-- What an owned block is compiled to.  Nothing is required in front of a style. -/
inductive CompiledTo (e : Engine) (s : σ) (view : Path) : Block → ScriptAsset → Prop
  | style {dialect source css : String}
      (hcss : compileStyle e.styleCompiler source dialect (assetFilename view .style)
        e.options.minify = .ok css) :
      CompiledTo e s view (.ownedStyle dialect source) ⟨css, []⟩
  | script {source : String} {script : ScriptAsset}
      (hscript : ScriptAsset.ofBlock s e.options source = .ok script) :
      CompiledTo e s view (.ownedScript source) script

/-- The view that an imported block names. -/
inductive RefersTo (e : Engine) (view : Path) : Block → Path → Prop
  | style {written : String} {target : Path} (htarget : e.target written view = .ok target) :
      RefersTo e view (.importedStyle written) target
  | script {written : String} {target : Path} (htarget : e.target written view = .ok target) :
      RefersTo e view (.importedScript written) target

/-- What becomes of the blocks of a text that count. -/
structure Extraction (e : Engine) (s : σ) (view : Path) (text : String) where
  own : AssetKind → Option ScriptAsset
  target : AssetKind → Option Path
  own_spec : ∀ kind,
    Option.Rel (CompiledTo e s view) (Block.extracted kind.ownedBlock text) (own kind)
  target_spec : ∀ kind,
    Option.Rel (RefersTo e view) (Block.extracted kind.importedBlock text) (target kind)

/-! ## What a stage does -/

/-- The stage that compiled `own`, if there was something to compile. -/
structure OwnStage (e : Engine) (view : Path) (f : Fingerprint) (kind : AssetKind)
    (own : Option ScriptAsset) (a b : Assembly) : Prop where
  loader : b.loaderOf kind =
    { a.loaderOf kind with
      required := (a.loaderOf kind).required ++ own.toList.flatMap fun own =>
        own.required.map fun path => (a.loaderOf kind).assetDirective path e.options
      owned := (a.loaderOf kind).owned ++ own.toList.map fun _ =>
        (a.loaderOf kind).assetDirective (Asset.of kind view e.options f true).importPath
          e.options }
  frame : ∀ other ≠ kind, b.loaderOf other = a.loaderOf other
  assets : b.assets = a.assets ++ own.toList.map fun _ => Asset.of kind view e.options f true
  contents : b.contents =
    a.contents ++ own.toList.map fun own => (assetPath kind view e.options, own.contents)

/-- The stage that found out which view is imported, if one is. -/
structure ImportStage (e : Engine) (f : Fingerprint) (kind : AssetKind) (target : Option Path)
    (a b : Assembly) : Prop where
  loader : b.loaderOf kind =
    { a.loaderOf kind with
      nested := (a.loaderOf kind).nested ++ target.toList.map fun target =>
        fillIn e.options.loaderInclude pathPlaceholder
          (Loader.identifierOf target (a.loaderOf kind).kind e.options.templateSuffix) }
  frame : ∀ other ≠ kind, b.loaderOf other = a.loaderOf other
  assets : b.assets = a.assets ++ target.toList.map fun t => Asset.of kind t e.options f false
  contents : b.contents = a.contents

theorem ownStage_none : OwnStage e view f kind none a a := by
  refine ⟨?_, fun _ _ => rfl, ?_, ?_⟩ <;> simp

theorem importStage_none : ImportStage e f kind none a a := by
  refine ⟨?_, fun _ _ => rfl, ?_, rfl⟩ <;> simp

theorem Filled.own {block : Block} (h : Filled e s view f block a b)
    (hkind : block.kind = kind.ownedBlock) :
    ∃ own, CompiledTo e s view block own ∧ OwnStage e view f kind (some own) a b := by
  -- the block is of the kind that the stage looks for, which leaves one case
  cases h with
  | ownedStyle hcss =>
      cases kind with
      | style =>
          refine ⟨_, .style hcss, ?_, fun other hother => ?_, rfl, ?_⟩
          · show Loader.addOwned _ _ _ = _
            simp [Assembly.loaderOf, Loader.addOwned]
          · cases other with
            | style => exact absurd rfl hother
            | script => rfl
          · rw [← filePath_eq .style view e.options f true]
            rfl
      | script => cases hkind
  | @ownedScript source script _ hscript =>
      cases kind with
      | style => cases hkind
      | script =>
          refine ⟨script, .script hscript, ?_, fun other hother => ?_, rfl, ?_⟩
          · show Loader.addOwned (List.foldl _ _ _) _ _ = _
            rw [foldl_addRequired]
            simp [Assembly.loaderOf, Loader.addOwned, Loader.assetDirective]
          · cases other with
            | style => rfl
            | script => exact absurd rfl hother
          · rw [← filePath_eq .script view e.options f true]
            rfl
  | importedStyle | importedScript => cases kind <;> cases hkind

theorem Filled.target {block : Block} (h : Filled e s view f block a b)
    (hkind : block.kind = kind.importedBlock) :
    ∃ target, RefersTo e view block target ∧ ImportStage e f kind (some target) a b := by
  cases h with
  | @importedStyle _ target _ htarget =>
      cases kind with
      | style =>
          refine ⟨target, .style htarget, rfl, fun other hother => ?_, rfl, rfl⟩
          cases other with
          | style => exact absurd rfl hother
          | script => rfl
      | script => cases hkind
  | @importedScript _ target _ htarget =>
      cases kind with
      | style => cases hkind
      | script =>
          refine ⟨target, .script htarget, rfl, fun other hother => ?_, rfl, rfl⟩
          cases other with
          | style => rfl
          | script => exact absurd rfl hother
  | ownedStyle | ownedScript => cases kind <;> cases hkind

theorem Staged.own (kind : AssetKind) (h : Staged e s view f kind.ownedBlock a b) :
    ∃ own, Option.Rel (CompiledTo e s view)
        ((Block.find? kind.ownedBlock a.body).map Block.Found.block) own ∧
      OwnStage e view f kind own a b := by
  cases h with
  | absent hfind =>
      rw [hfind]
      exact ⟨none, .none, ownStage_none⟩
  | found hfind hfilled =>
      obtain ⟨own, hcompiled, hown⟩ := hfilled.own (Block.kind_of_find? hfind)
      rw [hfind]
      exact ⟨some own, .some hcompiled, hown.loader, hown.frame, hown.assets, hown.contents⟩

theorem Staged.target (kind : AssetKind) (h : Staged e s view f kind.importedBlock a b) :
    ∃ target, Option.Rel (RefersTo e view)
        ((Block.find? kind.importedBlock a.body).map Block.Found.block) target ∧
      ImportStage e f kind target a b := by
  cases h with
  | absent hfind =>
      rw [hfind]
      exact ⟨none, .none, importStage_none⟩
  | found hfind hfilled =>
      obtain ⟨target, hrefers, himport⟩ := hfilled.target (Block.kind_of_find? hfind)
      rw [hfind]
      exact ⟨some target, .some hrefers, himport.loader, himport.frame, himport.assets,
        himport.contents⟩

/-! ## What all stages do -/

namespace Extraction

variable {text : String} (x : Extraction e s view text) (f : Fingerprint)

/-- The assets that the view owns, with what is written to them. -/
def ownAssets : List (Asset × String) :=
  [AssetKind.style, .script].flatMap fun kind =>
    (x.own kind).toList.map fun own => (Asset.of kind view e.options f true, own.contents)

/-- All assets, those of the view in front of those of the view that it imports. -/
def assets : List Asset :=
  [AssetKind.style, .script].flatMap fun kind =>
    (x.own kind).toList.map (fun _ => Asset.of kind view e.options f true) ++
      (x.target kind).toList.map fun target => Asset.of kind target e.options f false

/-- The directives of a loader: that of the imported view's loader, those of the files that the
view's own script requires, and that of the own asset. -/
def directives (kind : AssetKind) : List String :=
  ((x.target kind).toList.map fun target =>
      (Loader.empty target kind e.options).includeDirective e.options) ++
    (x.own kind).toList.flatMap fun own =>
      (own.required ++ [(Asset.of kind view e.options f true).importPath]).map
        (fillIn (kind.directive e.options) pathPlaceholder)

/-- There are no directives exactly if no block of the kind counts. -/
theorem directives_eq_nil_iff (kind : AssetKind) :
    x.directives f kind = [] ↔ Block.extracted kind.ownedBlock text = none ∧
      Block.extracted kind.importedBlock text = none := by
  have hown := x.own_spec kind
  have htarget := x.target_spec kind
  rw [directives]
  generalize Block.extracted kind.ownedBlock text = owned, x.own kind = own at hown ⊢
  generalize Block.extracted kind.importedBlock text = imported, x.target kind = target
    at htarget ⊢
  cases hown with
  | none =>
      cases htarget with
      | none => simp
      | some => simp
  | some =>
      cases htarget with
      | none => simp
      | some => simp

/-- The assets of imported views are not owned. -/
theorem filter_assets : (x.assets f).filter (·.owned) = (x.ownAssets f).map Prod.fst := by
  simp [assets, ownAssets, List.filter_map, Function.comp_def, Asset.of]

end Extraction

/-- What all stages make of a view with these blocks. -/
structure Extraction.Assembled {text : String} (x : Extraction e s view text) (f : Fingerprint)
    (a : Assembly) : Prop where
  assets : a.assets = x.assets f
  contents : a.contents = (x.ownAssets f).map fun own => (own.1.filePath, own.2)
  directives : ∀ kind, (a.loaderOf kind).directives = x.directives f kind

/-- The directives of a loader behind the two stages of its kind. -/
theorem directives_of_stages {a b c : Assembly} {own : Option ScriptAsset} {target : Option Path}
    (hempty : a.loaderOf kind = Loader.empty view kind e.options)
    (hown : OwnStage e view f kind own a b) (himport : ImportStage e f kind target b c) :
    (c.loaderOf kind).directives =
      (target.toList.map fun target =>
          (Loader.empty target kind e.options).includeDirective e.options) ++
        own.toList.flatMap fun own =>
          (own.required ++ [(Asset.of kind view e.options f true).importPath]).map
            (fillIn (kind.directive e.options) pathPlaceholder) := by
  rw [himport.loader, hown.loader, hempty]
  cases own with
  | none => simp [Loader.directives, Loader.empty, Loader.includeDirective]
  | some own =>
      simp [Loader.directives, Loader.empty, Loader.includeDirective, Loader.assetDirective]

theorem StagedAll.exists_of_cons {k : Block.Kind} {kinds : List Block.Kind} {a c : Assembly}
    (h : StagedAll e s view f (k :: kinds) a c) :
    ∃ b, Staged e s view f k a b ∧ StagedAll e s view f kinds b c := by
  cases h with
  | cons hstaged hrest => exact ⟨_, hstaged, hrest⟩

theorem StagedAll.exists_extraction {text : String}
    (h : StagedAll e s view f Block.kinds (.start view text e.options) a) :
    ∃ x : Extraction e s view text, x.Assembled f a := by
  obtain ⟨b, h₁, h⟩ := h.exists_of_cons
  obtain ⟨c, h₂, h⟩ := h.exists_of_cons
  obtain ⟨d, h₃, h⟩ := h.exists_of_cons
  obtain ⟨a', h₄, h⟩ := h.exists_of_cons
  obtain rfl : a' = a := by
    cases h
    rfl
  -- what each stage searches is what those in front of it have left
  have hb : b.body = Block.remainder [.ownedStyle] text := (StagedAll.cons h₁ .nil).body_eq
  have hc : c.body = Block.remainder [.ownedStyle, .importedStyle] text :=
    (StagedAll.cons h₁ (.cons h₂ .nil)).body_eq
  have hd : d.body = Block.remainder [.ownedStyle, .importedStyle, .ownedScript] text :=
    (StagedAll.cons h₁ (.cons h₂ (.cons h₃ .nil))).body_eq
  obtain ⟨ownStyle, hstyle, hb'⟩ := Staged.own .style h₁
  obtain ⟨styleTarget, hstyleTarget, hc'⟩ := Staged.target .style h₂
  obtain ⟨ownScript, hscript, hd'⟩ := Staged.own .script h₃
  obtain ⟨scriptTarget, hscriptTarget, ha'⟩ := Staged.target .script h₄
  rw [hb] at hstyleTarget
  rw [hc] at hscript
  rw [hd] at hscriptTarget
  refine ⟨⟨fun | .style => ownStyle | .script => ownScript,
    fun | .style => styleTarget | .script => scriptTarget, ?_, ?_⟩, ?_, ?_, ?_⟩
  · rintro (_ | _)
    · exact hstyle
    · exact hscript
  · rintro (_ | _)
    · exact hstyleTarget
    · exact hscriptTarget
  · rw [ha'.assets, hd'.assets, hc'.assets, hb'.assets]
    simp [Extraction.assets, Assembly.start]
  · rw [ha'.contents, hd'.contents, hc'.contents, hb'.contents]
    simp [Extraction.ownAssets, Assembly.start, Function.comp_def, filePath_eq]
  · rintro (_ | _)
    · rw [ha'.frame .style (by decide), hd'.frame .style (by decide)]
      exact directives_of_stages rfl hb' hc'
    · refine directives_of_stages ?_ hd' ha'
      rw [hc'.frame .script (by decide), hb'.frame .script (by decide)]
      rfl

/-! ## What is written -/

/-- With valid options only a loader without directives is empty. -/
theorem IsLoaderOf.render_eq_empty_iff {l : Loader} (hl : IsLoaderOf view kind e.options l)
    (hvalid : e.options.isValid = true) : l.render = "" ↔ l.directives = [] := by
  constructor
  · intro hempty
    by_contra hused
    rcases hl.exists_mem_render hvalid hused with hc | hc
    · simp [hempty] at hc
    · simp [hempty] at hc
  · intro hnone
    rw [Loader.render, hnone, String.intercalate_nil]

/-- Everything that a fresh compilation writes, in this order. -/
def Extraction.writes {text : String} (x : Extraction e s view text) (t : CompiledView) :
    List (Path × String) :=
  (x.ownAssets t.fingerprint).map (fun own => (own.1.filePath, own.2)) ++
    t.loaders.map (fun l => (l.path, l.render)) ++
    [(Fingerprint.outputPath e.options.templateDist view, t.code),
      (Fingerprint.recordOf e.options.templateDist view, t.fingerprint.text)]

/-- With valid options, a fresh compilation in memory writes the assets that the view owns, the
style asset first, the two loaders, the output and the fingerprint beside it, and nothing else.  A
loader is empty exactly if no block of its kind counts. -/
theorem fresh_writes (e : Engine) (s : MemoryStore) (file : SourceFile) (t : CompiledView)
    (hvalid : e.options.isValid = true) (hfresh : (e.compile file s).result = .ok (.fresh t)) :
    ∃ text, file.contents = some text ∧ t.relativePath = file.path.normalize.slashed ∧
      ∃ x : Extraction e s file.path.normalize text,
        t.assets.filter (·.owned) = (x.ownAssets t.fingerprint).map Prod.fst ∧
        (e.compile file s).store = s.insertAll (x.writes t) ∧
        (∀ p, (∀ out ∈ x.writes t, MemoryStore.key out.1 ≠ MemoryStore.key p) →
          (e.compile file s).store.get? p = s.get? p) ∧
        ∃ style script, t.loaders = [style, script] ∧
          ∀ kind l, (kind, l) ∈ [(AssetKind.style, style), (.script, script)] →
            l.path = Loader.pathOf file.path.normalize kind e.options ∧
            l.directives = x.directives t.fingerprint kind ∧
            (l.render = "" ↔ Block.extracted kind.ownedBlock text = none ∧
              Block.extracted kind.importedBlock text = none) := by
  obtain ⟨text, a, hcontents, hassembled, hwritten, rfl⟩ := fresh_of_compile hfresh
  obtain ⟨x, hx⟩ := hassembled.exists_extraction
  have hloaders := hassembled.assembled (assembled_start file.path.normalize text e.options)
  have hstore : (e.compile file s).store = s.insertAll
      (e.outputs file.path.normalize (Fingerprint.of text e.options.version) a) := by
    rw [MemoryStore.writeAll_memory] at hwritten
    exact (Prod.mk.inj hwritten).1.symm
  rw [outputs, hx.contents] at hstore
  refine ⟨text, hcontents, rfl, x, ?_, hstore, fun p hp => ?_, a.styleLoader, a.scriptLoader, rfl,
    fun kind l hl => ?_⟩
  · rw [hx.assets, x.filter_assets]
  · rw [hstore, MemoryStore.get?_insertAll, kept?_eq_none_iff.2, Option.none_or]
    exact fun out hout => hp out (List.mem_reverse.1 hout)
  · have hkind : IsLoaderOf file.path.normalize kind e.options l ∧
        l.directives = x.directives (Fingerprint.of text e.options.version) kind := by
      rcases List.mem_cons.1 hl with heq | hl
      · cases heq
        exact ⟨hloaders.style, hx.directives .style⟩
      · cases List.mem_singleton.1 hl
        exact ⟨hloaders.script, hx.directives .script⟩
    refine ⟨hkind.1.path_eq, hkind.2, ?_⟩
    rw [hkind.1.render_eq_empty_iff hvalid, hkind.2, x.directives_eq_nil_iff]

/-- A view with a script that requires another one, and with the script of an imported view. -/
def scripted : String :=
  "<script data-import=\"b\"></script><script data-scoped>exports.required=['x.js'];</script>"

/-- The script loader includes three scripts, and the style loader is empty. -/
theorem fresh_writes_scripted :
    ∃ t, (asWritten.compile ⟨⟨"a.blade.php"⟩, some scripted⟩ MemoryStore.empty).result =
        .ok (.fresh t) ∧
      ∃ x : Extraction asWritten MemoryStore.empty (Path.mk "a.blade.php").normalize scripted,
        (asWritten.compile ⟨⟨"a.blade.php"⟩, some scripted⟩ MemoryStore.empty).store =
          MemoryStore.empty.insertAll (x.writes t) ∧
        (x.directives t.fingerprint .style).length = 0 ∧
        (x.directives t.fingerprint .script).length = 3 := by
  have hrun : (freshView? (asWritten.compile ⟨⟨"a.blade.php"⟩, some scripted⟩
      MemoryStore.empty)).map (fun t => t.loaders.map (·.directives.length)) = some [0, 3] := by
    decide +kernel
  obtain ⟨t, ht, hlengths⟩ := Option.map_eq_some_iff.1 hrun
  obtain ⟨text, htext, -, x, -, hstore, -, style, script, hloaders, hspec⟩ :=
    fresh_writes asWritten MemoryStore.empty ⟨⟨"a.blade.php"⟩, some scripted⟩ t isValid_asWritten
      (result_of_freshView? ht)
  obtain rfl : scripted = text := Option.some.inj htext
  rw [hloaders] at hlengths
  refine ⟨t, result_of_freshView? ht, x, hstore, ?_, ?_⟩
  · rw [← (hspec .style style (by simp)).2.1]
    exact (List.cons.inj hlengths).1
  · rw [← (hspec .script script (by simp)).2.1]
    exact (List.cons.inj (List.cons.inj hlengths).2).1

end Engine

end ScopedViews
