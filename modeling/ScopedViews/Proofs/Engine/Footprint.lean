import ScopedViews.Proofs.Engine.Stages
import ScopedViews.Proofs.Store.Writes
/-!
# What a compilation reads and writes

A compilation looks for the record of its view first.  If the fingerprint is recorded it reads the
output, and otherwise the scripts that the script block of the view includes, up to the first one
that it cannot take.  It writes all files of the view or nothing, and what it writes and comes to
depends on nothing else in the store.

* `reads`, `written`: what is read, and what is written where every write succeeds;
* `stages_congr`, `compile_congr`: stores that agree on what is read;
* `compile_store`, `store_of_error`: what a compilation does to a store, and that a failed one does
  nothing to it.
-/

namespace ScopedViews

variable {σ : Type} [Store σ] {s s' : σ} {o : Options}

/-- Stores that hold the same at some paths. -/
def Store.AgreeOn (paths : List Path) (s s' : σ) : Prop :=
  ∀ p ∈ paths, Store.read s p = Store.read s' p

theorem Store.AgreeOn.mono {paths some : List Path} (h : AgreeOn paths s s')
    (hsubset : some ⊆ paths) : AgreeOn some s s' := fun p hp => h p (hsubset hp)

/-! ## Script blocks -/

namespace ScriptAsset

/-- What is looked up for included scripts, which are taken one after another until one cannot be
taken. -/
def lookedUp (s : σ) (o : Options) : List String → List Path
  | [] => []
  | name :: names =>
    ⟨name⟩ ::
      match include? s o ⟨name⟩ with
      | .ok _ => lookedUp s o names
      | .error _ => []

/-- What is looked up for a script block. -/
def reads (s : σ) (o : Options) (source : String) : List Path :=
  match Sandbox.describe source with
  | .ok m => lookedUp s o m.included
  | .error _ => []

theorem include?_congr {path : Path} (h : Store.read s path = Store.read s' path) :
    include? s o path = include? s' o path := by
  unfold include?
  rw [h]

theorem mapM_include?_congr {names : List String} (h : Store.AgreeOn (lookedUp s o names) s s') :
    (names.mapM fun (name : String) => include? s o ⟨name⟩) =
      names.mapM fun (name : String) => include? s' o ⟨name⟩ := by
  induction names with
  | nil => rfl
  | cons name names ih =>
      have hname : include? s o ⟨name⟩ = include? s' o ⟨name⟩ :=
        include?_congr (h ⟨name⟩ List.mem_cons_self)
      rw [List.mapM_cons, List.mapM_cons, ← hname]
      cases hfirst : include? s o ⟨name⟩ with
      | error fault => rfl
      | ok text =>
          -- the rest is looked up only here
          have hlookedUp : lookedUp s o (name :: names) = ⟨name⟩ :: lookedUp s o names := by
            rw [lookedUp, hfirst]
          rw [hlookedUp] at h
          rw [ih (h.mono (List.subset_cons_self _ _))]

/-- A script block is compiled from what is looked up for it. -/
theorem ofBlock_congr {source : String} (h : Store.AgreeOn (reads s o source) s s') :
    ofBlock s o source = ofBlock s' o source := by
  unfold ofBlock
  unfold reads at h
  cases hdescribe : Sandbox.describe source with
  | error fault => rfl
  | ok m =>
      rw [hdescribe] at h
      simp only [Except.mapError, bind, Except.bind, mapM_include?_congr h]

end ScriptAsset

namespace Engine

variable {e : Engine} {view : Path} {f : Fingerprint} {file : SourceFile}

/-! ## Stages -/

/-- What is looked up for a block.  Only script blocks include anything. -/
def blockReads (e : Engine) (s : σ) : Block → List Path
  | .ownedScript source => ScriptAsset.reads s e.options source
  | _ => []

/-- What is looked up by the stages of several kinds, up to one that ends in a fault. -/
def stageReads (e : Engine) (s : σ) (view : Path) (f : Fingerprint) :
    List Block.Kind → Assembly → List Path
  | [], _ => []
  | kind :: kinds, a =>
    (match Block.find? kind a.body with
      | some found => e.blockReads s found.block
      | none => []) ++
    match (e.stage s view f kind).run a with
    | .ok () b => e.stageReads s view f kinds b
    | .error _ _ => []

theorem block_congr {b : Block} (h : Store.AgreeOn (e.blockReads s b) s s') :
    e.block s view f b = e.block s' view f b := by
  cases b with
  | ownedScript source =>
      have hscript := ScriptAsset.ofBlock_congr (show Store.AgreeOn _ s s' from h)
      simp only [Engine.block, hscript]
  | ownedStyle | importedStyle | importedScript => rfl

theorem stage_congr {kind : Block.Kind} {a : Assembly}
    (h : ∀ found, Block.find? kind a.body = some found →
      Store.AgreeOn (e.blockReads s found.block) s s') :
    (e.stage s view f kind).run a = (e.stage s' view f kind).run a := by
  rw [stage_run_eq, stage_run_eq]
  cases hfind : Block.find? kind a.body with
  | none => rfl
  | some found =>
      have hblock : e.block s view f found.block = e.block s' view f found.block :=
        block_congr (h found hfind)
      simp only [hblock]

/-- Stages come to the same where the stores agree on what they look up. -/
theorem stages_congr {kinds : List Block.Kind} {a : Assembly}
    (h : Store.AgreeOn (e.stageReads s view f kinds a) s s') :
    (kinds.forM (e.stage s view f)).run a = (kinds.forM (e.stage s' view f)).run a := by
  induction kinds generalizing a with
  | nil => rfl
  | cons kind kinds ih =>
      unfold stageReads at h
      have hstage : (e.stage s view f kind).run a = (e.stage s' view f kind).run a := by
        refine stage_congr fun found hfind => ?_
        rw [hfind] at h
        exact h.mono (List.subset_append_left _ _)
      cases hrun : (e.stage s view f kind).run a with
      | ok value b =>
          rw [hrun] at h
          rw [stages_run_cons hrun, stages_run_cons (hstage.symm.trans hrun)]
          exact ih (h.mono (List.subset_append_right _ _))
      | error fault b =>
          have hrun' := hstage.symm.trans hrun
          exact (run_bind_error hrun).trans (run_bind_error hrun').symm

/-! ## Compilations -/

/-- What a compilation reads. -/
def reads (e : Engine) (file : SourceFile) (s : σ) : List Path :=
  match file.contents with
  | none => []
  | some text =>
    let view := file.path.normalize
    let f := Fingerprint.of text e.options.version
    if !view.startsInside then []
    else
      Fingerprint.recordOf e.options.templateDist view ::
        match f.isStale s e.options.templateDist view with
        | .error _ => []
        | .ok false => [Fingerprint.outputPath e.options.templateDist view]
        | .ok true => e.stageReads s view f Block.kinds (.start view text e.options)

/-- What a compilation writes, unless a write fails. -/
def written (e : Engine) (file : SourceFile) (s : σ) : List (Path × String) :=
  match file.contents with
  | none => []
  | some text =>
    let view := file.path.normalize
    let f := Fingerprint.of text e.options.version
    if !view.startsInside then []
    else
      match f.isStale s e.options.templateDist view with
      | .error _ | .ok false => []
      | .ok true =>
        match (e.assemble s view f).run (.start view text e.options) with
        | .ok () a => e.outputs view f a
        | .error _ _ => []

/-- A compilation leaves the store that `written` is written to, and if it is written it fails only
where a write does. -/
theorem compile_store (e : Engine) (file : SourceFile) (s : σ) :
    (e.compile file s).store = (writeAll s (e.written file s)).1 ∧
      ∀ error, (e.compile file s).result = .error error →
        (writeAll s (e.written file s)).2 = .ok () → e.written file s = [] := by
  obtain ⟨path, contents⟩ := file
  cases contents with
  | none => exact ⟨rfl, fun _ _ _ => rfl⟩
  | some text =>
      unfold compile written
      simp only
      generalize Fingerprint.of text e.options.version = f
      by_cases hinside : path.normalize.startsInside = true
      · simp only [hinside, Bool.not_true, Bool.false_eq_true, if_false]
        cases f.isStale s e.options.templateDist path.normalize with
        | error cause => exact ⟨rfl, fun _ _ _ => rfl⟩
        | ok stale =>
            cases stale with
            | false => exact ⟨rfl, fun _ _ _ => rfl⟩
            | true =>
                -- the build writes only behind all stages
                simp only [build]
                cases (e.assemble s path.normalize f).run
                    (.start path.normalize text e.options) with
                | error fault a => exact ⟨rfl, fun _ _ _ => rfl⟩
                | ok value a =>
                    simp only
                    split
                    next s' cause hwritten =>
                        rw [hwritten]
                        exact ⟨rfl, fun _ _ hok => by cases hok⟩
                    next s' hwritten =>
                        rw [hwritten]
                        exact ⟨rfl, fun _ herror _ => by cases herror⟩
      · simp [hinside, writeAll]

/-- A compilation that fails leaves the store as it was, unless a write fails. -/
theorem store_of_error {error : CompileError} (herror : (e.compile file s).result = .error error)
    (hwritten : (writeAll s (e.written file s)).2 = .ok ()) : (e.compile file s).store = s := by
  obtain ⟨hstore, hnothing⟩ := compile_store e file s
  rw [hstore, hnothing error herror hwritten]
  rfl

theorem isStale_congr {dist : Path} (h : Store.read s (Fingerprint.recordOf dist view) =
    Store.read s' (Fingerprint.recordOf dist view)) :
    f.isStale s dist view = f.isStale s' dist view := by
  unfold Fingerprint.isStale
  rw [h]

/-- In memory, a compilation depends on the store in what it reads alone. -/
theorem compile_congr {s s' : MemoryStore} (h : Store.AgreeOn (e.reads file s) s s') :
    e.compile file s' =
      { e.compile file s with store := s'.insertAll (e.written file s) } := by
  obtain ⟨path, contents⟩ := file
  cases contents with
  | none => rfl
  | some text =>
      unfold compile written
      unfold reads at h
      simp only at h ⊢
      generalize Fingerprint.of text e.options.version = f at h ⊢
      by_cases hinside : path.normalize.startsInside = true
      · simp only [hinside, Bool.not_true, Bool.false_eq_true, if_false] at h ⊢
        have hrecord := h _ List.mem_cons_self
        have hrest := h.mono (List.subset_cons_self _ _)
        rw [← isStale_congr (f := f) hrecord]
        cases hstale : f.isStale s e.options.templateDist path.normalize with
        | error cause => rfl
        | ok stale =>
            rw [hstale] at hrest
            cases stale with
            | false =>
                have houtput := hrest _ List.mem_cons_self
                simp only [cached, previousOutput, houtput]
                rfl
            | true =>
                have hrun := stages_congr hrest
                simp only [build, assemble, ← hrun]
                cases (Block.kinds.forM (e.stage s path.normalize f)).run
                    (.start path.normalize text e.options) with
                | error fault a => rfl
                | ok value a =>
                    simp only [MemoryStore.writeAll_memory]
      · simp only [hinside, Bool.not_false, if_true]
        rfl

end Engine

end ScopedViews
