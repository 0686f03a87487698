import ScopedViews.Proofs.Block.Tags
import ScopedViews.Proofs.Engine.Outcomes
import ScopedViews.Proofs.Engine.Places
import ScopedViews.Proofs.Rewrite.Includes
import ScopedViews.Proofs.Store.Writes
/-!
# Views that hold almost nothing

A plain text is compiled to itself, with two empty loaders and without assets.  A text that is an
empty block of its own is compiled to an asset with the style or script that the empty text is
compiled to.

* `compile_memory`: a compilation in memory that goes through all stages;
* `assemble_of_isPlain`, `code_start`: plain texts;
* `assemble_emptyBlock`: empty blocks.
-/

namespace ScopedViews

/-! ## Texts without blocks -/

/-- A text with nothing in it that a compilation looks for. -/
def IsPlain (text : String) : Prop :=
  ∀ c ∈ text.toList, c ≠ '<' ∧ c ≠ '>' ∧ c ≠ '/' ∧ c ≠ '}'

theorem IsPlain.not_mem {text : String} (h : IsPlain text) :
    '<' ∉ text.toList ∧ '>' ∉ text.toList ∧ '/' ∉ text.toList ∧ '}' ∉ text.toList :=
  ⟨fun hc => (h _ hc).1 rfl, fun hc => (h _ hc).2.1 rfl, fun hc => (h _ hc).2.2.1 rfl,
    fun hc => (h _ hc).2.2.2 rfl⟩

theorem afterOpening?_of_not_mem {element cs : List Char} (h : '<' ∉ cs) :
    Block.afterOpening? element cs = none := by
  have hword : Text.afterWord? ('<' :: element) cs = none := by
    cases cs with
    | nil => rfl
    | cons c cs =>
        rw [Text.afterWord?, if_neg]
        intro hfolds
        exact h (Text.eq_of_foldsTo rfl hfolds ▸ List.mem_cons_self)
  rw [Block.afterOpening?, hword]

theorem at?_of_not_mem {kind : Block.Kind} {cs : List Char} (h : '<' ∉ cs) :
    Block.at? kind cs = none := by
  cases kind with
  | ownedStyle => simp [Block.at?, Block.owned?, afterOpening?_of_not_mem h]
  | importedStyle => simp [Block.at?, Block.imported?, afterOpening?_of_not_mem h]
  | ownedScript => simp [Block.at?, Block.owned?, afterOpening?_of_not_mem h]
  | importedScript => simp [Block.at?, Block.imported?, afterOpening?_of_not_mem h]

/-- A text without `<` has no blocks. -/
theorem find?_of_not_mem {text : String} (h : '<' ∉ text.toList) (kind : Block.Kind) :
    Block.find? kind text = none := by
  rw [← Option.not_isSome_iff_eq_none, Block.find?_isSome_iff fun _ _ => Iff.rfl]
  rintro ⟨before, cs, hsplit, hat⟩
  rw [at?_of_not_mem fun hmem => h (hsplit ▸ List.mem_append_right before hmem)] at hat
  cases hat

/-- A plain text is not changed by a rewrite. -/
theorem rewrite_of_isPlain {text : String} (h : IsPlain text) : rewrite text = text := by
  obtain ⟨-, hangle, hslash, hbrace⟩ := h.not_mem
  have hmarks : Text.erase Rewrite.afterContinuation? text.toList = text.toList :=
    Text.erase_of_none fun back hback =>
      Rewrite.afterContinuation?_of_not_mem fun hmem => hslash (hback.subset hmem)
  have hpragmas : Text.erase Rewrite.afterPragma? text.toList = text.toList :=
    Text.erase_of_none fun back hback =>
      Rewrite.afterPragma?_of_not_mem fun hmem => hbrace (hback.subset hmem)
  have hcomments : Text.erase Rewrite.afterComment? text.toList = text.toList :=
    Text.erase_of_none fun back hback =>
      Rewrite.afterComment?_of_not_mem fun hmem => hangle (hback.subset hmem)
  rw [rewrite, Rewrite.clean, hmarks, hpragmas, hcomments, String.ofList_toList]

namespace Engine

variable {σ : Type} [Store σ] {e : Engine} {s : σ} {view : Path} {f : Fingerprint}

/-- Without blocks the code is the rewritten text. -/
theorem code_start (view : Path) (text : String) (o : Options) :
    (Assembly.start view text o).code o = rewrite text := by
  rfl

theorem assemble_of_isPlain {text : String} (h : IsPlain text) (e : Engine) (s : σ) (view : Path)
    (f : Fingerprint) :
    (e.assemble s view f).run (.start view text e.options) = .ok () (.start view text e.options) :=
  stages_run_of_none fun kind _ => find?_of_not_mem h.not_mem.1 kind

/-- A compilation in memory, from a text that is not recorded and goes through all stages. -/
theorem compile_memory {e : Engine} {path : Path} {text : String} {s : MemoryStore} {a : Assembly}
    (hinside : path.normalize.startsInside = true)
    (hstale : (Fingerprint.of text e.options.version).isStale s e.options.templateDist
      path.normalize = .ok true)
    (hrun : (e.assemble s path.normalize (Fingerprint.of text e.options.version)).run
      (.start path.normalize text e.options) = .ok () a) :
    e.compile ⟨path, some text⟩ s =
      ⟨s.insertAll (e.outputs path.normalize (Fingerprint.of text e.options.version) a),
        a.ignored, .ok (.fresh ⟨path.normalize.slashed, Fingerprint.of text e.options.version,
          a.code e.options, a.assets, a.loaders⟩)⟩ := by
  rw [Engine.compile]
  simp only [hinside, Bool.not_true, Bool.false_eq_true, if_false, hstale]
  rw [Engine.build, hrun]
  simp only [MemoryStore.writeAll_memory]

/-! ## Empty blocks -/

/-- Compiles every style to nothing. -/
def toNothing : StyleCompiler := fun _ _ _ => .ok ""

/-- A text that is an empty block of its own. -/
def emptyBlock : AssetKind → String
  | .style => "<style data-scoped></style>"
  | .script => "<script data-scoped></script>"

theorem block_run_emptyStyle (o : Options) (s : σ) (view : Path) (f : Fingerprint) (a : Assembly) :
    (Engine.block ⟨o, toNothing⟩ s view f (.ownedStyle Block.defaultDialect "")).run a =
      .ok () (a.own (Asset.of .style view o f true) "" o) := by
  have hcss : compileStyle toNothing "" Block.defaultDialect (assetFilename view .style) o.minify =
      .ok "" := by
    have hempty : Css.minify? "" = some "" := by cbv
    simp only [compileStyle, toNothing, hempty]
    split <;> rfl
  have hrun :
      (Engine.block ⟨o, toNothing⟩ s view f (.ownedStyle Block.defaultDialect "")).run a = _ :=
    fill_run (compileStyle toNothing "" Block.defaultDialect (assetFilename view .style) o.minify)
      (fun css a => a.own (Asset.of .style view o f true) css o) a
  rw [hrun, hcss]

theorem block_run_emptyScript (e : Engine) (s : σ) (view : Path) (f : Fingerprint)
    (a : Assembly) :
    (e.block s view f (.ownedScript "")).run a = .ok ()
      ((a.require [] e.options).own (Asset.of .script view e.options f true) "" e.options) := by
  have hscript : ScriptAsset.ofBlock s e.options "" = .ok ⟨"", []⟩ := by
    have hdescribe : (Sandbox.describe "").toOption = some ⟨[], [], none, none⟩ := by
      decide +kernel
    rw [ScriptAsset.ofBlock]
    cases hempty : Sandbox.describe "" with
    | error cause => simp [hempty, Except.toOption] at hdescribe
    | ok m =>
        obtain rfl : m = ⟨[], [], none, none⟩ := by
          simpa [hempty, Except.toOption] using hdescribe
        have hentry := ScriptAsset.lowerEntry_of_no_entry (m := ⟨[], [], none, none⟩) rfl
          e.options e.options.readyWrapper
        simp [Except.mapError, bind, Except.bind, pure, Except.pure, hentry]
  have hrun : (e.block s view f (.ownedScript "")).run a = _ :=
    fill_run (ScriptAsset.ofBlock s e.options "")
      (fun script a => (a.require script.required e.options).own
        (Asset.of .script view e.options f true) script.contents e.options) a
  rw [hrun, hscript]

/-- An empty block is compiled to an empty asset. -/
theorem assemble_emptyBlock (kind : AssetKind) (o : Options) (s : σ) (view : Path)
    (f : Fingerprint) :
    ∃ a, (Engine.assemble ⟨o, toNothing⟩ s view f).run (.start view (emptyBlock kind) o) =
        .ok () a ∧ a.contents = [(assetPath kind view o, "")] := by
  have hnone (kind : Block.Kind) : Block.find? kind "" = none := find?_of_not_mem (by simp) kind
  cases kind with
  | style =>
      have hfind : Block.find? .ownedStyle (emptyBlock .style) =
        some ⟨.ownedStyle Block.defaultDialect "", [], (emptyBlock .style).toList, []⟩ := rfl
      obtain ⟨ignored, hstage⟩ := stage_run_of_found (e := ⟨o, toNothing⟩) (s := s) (f := f)
        (a := .start view (emptyBlock .style) o) hfind _ (block_run_emptyStyle o s view f)
      refine ⟨_, (stages_run_cons hstage).trans (stages_run_of_none fun kind _ => hnone kind), ?_⟩
      show [] ++ [((Asset.of .style view o f true).filePath, "")] = _
      rw [filePath_eq, List.nil_append]
  | script =>
      have hfind : Block.find? .ownedScript (emptyBlock .script) =
        some ⟨.ownedScript "", [], (emptyBlock .script).toList, []⟩ := rfl
      have hstyle : ∀ kind ∈ [Block.Kind.ownedStyle, .importedStyle],
          Block.find? kind (emptyBlock .script) = none := by
        decide
      obtain ⟨ignored, hstage⟩ := stage_run_of_found (e := ⟨o, toNothing⟩) (s := s) (f := f)
        (a := .start view (emptyBlock .script) o) hfind _
        (block_run_emptyScript ⟨o, toNothing⟩ s view f)
      have hfirst : (Engine.stage ⟨o, toNothing⟩ s view f .ownedStyle).run
          (.start view (emptyBlock .script) o) = .ok () (.start view (emptyBlock .script) o) := by
        rw [stage_run_eq]
        simp only [Assembly.start, hstyle .ownedStyle (by simp)]
      have hsecond : (Engine.stage ⟨o, toNothing⟩ s view f .importedStyle).run
          (.start view (emptyBlock .script) o) = .ok () (.start view (emptyBlock .script) o) := by
        rw [stage_run_eq]
        simp only [Assembly.start, hstyle .importedStyle (by simp)]
      refine ⟨_, (stages_run_cons hfirst).trans ((stages_run_cons hsecond).trans
        ((stages_run_cons hstage).trans (stages_run_of_none fun kind _ => hnone kind))), ?_⟩
      show [] ++ [((Asset.of .script view o f true).filePath, "")] = _
      rw [filePath_eq, List.nil_append]

end Engine

end ScopedViews
