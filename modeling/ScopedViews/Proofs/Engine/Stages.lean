import Mathlib.Tactic.Common
import ScopedViews.Engine
/-!
# What the stages of a compilation do

A stage either finds no block of its kind and changes nothing, or it compiles the first one and
takes it out.  Compiling a block ends in a fault or fills the assembly in one of four ways, one for
each kind of block.  `Filled` and `Staged` say this once; invariants of an assembly follow from them
by induction over the stages.

* `block_run`, `stage_run`, `assemble_run`: what a block, a stage and all stages can do;
* `IsBuildFault`: the faults that a stage can end in;
* `StagedAll.induction`: what every stage keeps, all of them keep.
-/

namespace ScopedViews.Engine

variable {σ : Type} [Store σ] {e : Engine} {s : σ} {view : Path} {f : Fingerprint}

/-- How a block fills an assembly. -/
inductive Filled (e : Engine) (s : σ) (view : Path) (f : Fingerprint) :
    Block → Assembly → Assembly → Prop
  | ownedStyle {dialect source css : String} {a : Assembly}
      (hcss : compileStyle e.styleCompiler source dialect (assetFilename view .style)
        e.options.minify = .ok css) :
      Filled e s view f (.ownedStyle dialect source) a
        (a.own (Asset.of .style view e.options f true) css e.options)
  | ownedScript {source : String} {script : ScriptAsset} {a : Assembly}
      (hscript : ScriptAsset.ofBlock s e.options source = .ok script) :
      Filled e s view f (.ownedScript source) a
        ((a.require script.required e.options).own (Asset.of .script view e.options f true)
          script.contents e.options)
  | importedStyle {written : String} {target : Path} {a : Assembly}
      (htarget : e.target written view = .ok target) :
      Filled e s view f (.importedStyle written) a
        (a.refer target (Asset.of .style target e.options f false) e.options)
  | importedScript {written : String} {target : Path} {a : Assembly}
      (htarget : e.target written view = .ok target) :
      Filled e s view f (.importedScript written) a
        (a.refer target (Asset.of .script target e.options f false) e.options)

/-! ## Running two steps -/

theorem run_bind_ok {α β : Type} {x : Stage α} {next : α → Stage β} {a b : Assembly} {value : α}
    (h : x.run a = .ok value b) : (x >>= next).run a = (next value).run b := by
  show EStateM.bind x next a = _
  unfold EStateM.bind
  rw [show x a = .ok value b from h]
  rfl

theorem run_bind_error {α β : Type} {x : Stage α} {next : α → Stage β} {a b : Assembly}
    {fault : CompileFault} (h : x.run a = .error fault b) :
    (x >>= next).run a = .error fault b := by
  show EStateM.bind x next a = _
  unfold EStateM.bind
  rw [show x a = .error fault b from h]

/-- The last steps of a block: a result is needed, and with it the assembly is filled. -/
theorem fill_run {α : Type} (x : Except CompileFault α) (fill : α → Assembly → Assembly)
    (a : Assembly) :
    (do let value ← Stage.ofExcept x; modify (fill value) : Stage Unit).run a =
      match x with
      | .ok value => .ok () (fill value a)
      | .error fault => .error fault a := by
  cases x <;> rfl

/-! ## Faults -/

/-- The cache alone reports that an output is missing. -/
def IsBuildFault (fault : CompileFault) : Prop := ∀ path, fault ≠ .missingOutput path

theorem isBuildFault_compileStyle {compiler : StyleCompiler} {source dialect filename : String}
    {minify : Bool} {fault : CompileFault}
    (h : compileStyle compiler source dialect filename minify = .error fault) :
    IsBuildFault fault := by
  intro path hfault
  subst hfault
  unfold compileStyle at h
  split at h
  next => simp at h
  next =>
      split at h
      next => split at h <;> simp at h
      next => simp at h

theorem isBuildFault_target {written : String} {fault : CompileFault}
    (h : e.target written view = .error fault) : IsBuildFault fault := by
  intro path hfault
  subst hfault
  unfold Engine.target at h
  split at h <;> simp at h

theorem isBuildFault_include? {o : Options} {path : Path} {fault : CompileFault}
    (h : ScriptAsset.include? s o path = .error fault) : IsBuildFault fault := by
  intro missing hfault
  subst hfault
  unfold ScriptAsset.include? at h
  cases hread : Store.read s path with
  | error cause => simp [hread, Except.mapError, bind, Except.bind] at h
  | ok found =>
      simp only [hread, Except.mapError, bind, Except.bind] at h
      split at h
      next => simp at h
      next =>
          split at h
          next => split at h <;> simp at h
          next => simp at h

theorem isBuildFault_lowerEntry {o : Options} {entry : String} {fault : CompileFault}
    (h : ScriptAsset.lowerEntry o entry = .error fault) : IsBuildFault fault := by
  intro path hfault
  subst hfault
  unfold ScriptAsset.lowerEntry at h
  split at h
  next => simp at h
  next => split at h <;> simp at h

theorem exists_error_of_mapM {α β ε : Type} {act : α → Except ε β} {xs : List α} {fault : ε}
    (h : xs.mapM act = .error fault) : ∃ x ∈ xs, act x = .error fault := by
  induction xs with
  | nil => simp [pure, Except.pure] at h
  | cons x xs ih =>
      rw [List.mapM_cons] at h
      cases hx : act x with
      | error fault' =>
          rw [hx] at h
          cases h
          exact ⟨x, by simp, hx⟩
      | ok y =>
          cases hxs : xs.mapM act with
          | error fault' =>
              rw [hx, hxs] at h
              cases h
              obtain ⟨x', hmem, hx'⟩ := ih hxs
              exact ⟨x', by simp [hmem], hx'⟩
          | ok ys =>
              rw [hx, hxs] at h
              cases h

theorem isBuildFault_ofBlock {o : Options} {source : String} {fault : CompileFault}
    (h : ScriptAsset.ofBlock s o source = .error fault) : IsBuildFault fault := by
  unfold ScriptAsset.ofBlock at h
  cases hdescribe : Sandbox.describe source with
  | error cause =>
      rw [hdescribe] at h
      cases h
      intro path
      simp
  | ok m =>
      rw [hdescribe] at h
      cases hincluded : m.included.mapM fun (path : String) => ScriptAsset.include? s o ⟨path⟩ with
      | error fault' =>
          simp only [Except.mapError, bind, Except.bind, hincluded] at h
          cases h
          obtain ⟨path, -, hpath⟩ := exists_error_of_mapM hincluded
          exact isBuildFault_include? hpath
      | ok included =>
          simp only [Except.mapError, bind, Except.bind, hincluded] at h
          split at h
          next fault' hentry =>
              cases h
              exact isBuildFault_lowerEntry hentry
          next => cases h

/-! ## Blocks and stages -/

/-- Compiling a block fills the assembly or ends in a fault of its own. -/
theorem block_run (b : Block) (a : Assembly) :
    (∃ a', (e.block s view f b).run a = .ok () a' ∧ Filled e s view f b a a') ∨
      ∃ fault, (e.block s view f b).run a = .error fault a ∧ IsBuildFault fault := by
  cases b with
  | ownedStyle dialect source =>
      have hrun : (e.block s view f (.ownedStyle dialect source)).run a = _ :=
        fill_run (compileStyle e.styleCompiler source dialect (assetFilename view .style)
          e.options.minify)
          (fun css a => a.own (Asset.of .style view e.options f true) css e.options) a
      cases hcss : compileStyle e.styleCompiler source dialect (assetFilename view .style)
          e.options.minify with
      | ok css =>
          rw [hcss] at hrun
          exact Or.inl ⟨_, hrun, .ownedStyle hcss⟩
      | error fault =>
          rw [hcss] at hrun
          exact Or.inr ⟨fault, hrun, isBuildFault_compileStyle hcss⟩
  | importedStyle written =>
      have hrun : (e.block s view f (.importedStyle written)).run a = _ :=
        fill_run (e.target written view)
          (fun target a => a.refer target (Asset.of .style target e.options f false) e.options) a
      cases htarget : e.target written view with
      | ok target =>
          rw [htarget] at hrun
          exact Or.inl ⟨_, hrun, .importedStyle htarget⟩
      | error fault =>
          rw [htarget] at hrun
          exact Or.inr ⟨fault, hrun, isBuildFault_target htarget⟩
  | ownedScript source =>
      have hrun : (e.block s view f (.ownedScript source)).run a = _ :=
        fill_run (ScriptAsset.ofBlock s e.options source)
          (fun script a => (a.require script.required e.options).own
            (Asset.of .script view e.options f true) script.contents e.options) a
      cases hscript : ScriptAsset.ofBlock s e.options source with
      | ok script =>
          rw [hscript] at hrun
          exact Or.inl ⟨_, hrun, .ownedScript hscript⟩
      | error fault =>
          rw [hscript] at hrun
          exact Or.inr ⟨fault, hrun, isBuildFault_ofBlock hscript⟩
  | importedScript written =>
      have hrun : (e.block s view f (.importedScript written)).run a = _ :=
        fill_run (e.target written view)
          (fun target a => a.refer target (Asset.of .script target e.options f false) e.options) a
      cases htarget : e.target written view with
      | ok target =>
          rw [htarget] at hrun
          exact Or.inl ⟨_, hrun, .importedScript htarget⟩
      | error fault =>
          rw [htarget] at hrun
          exact Or.inr ⟨fault, hrun, isBuildFault_target htarget⟩

/-- What a stage does to an assembly. -/
inductive Staged (e : Engine) (s : σ) (view : Path) (f : Fingerprint) (kind : Block.Kind) :
    Assembly → Assembly → Prop
  | absent {a : Assembly} (hfind : Block.find? kind a.body = none) : Staged e s view f kind a a
  | found {a b : Assembly} {found : Block.Found} {ignored : List IgnoredBlocks}
      (hfind : Block.find? kind a.body = some found)
      (hfilled : Filled e s view f found.block { a with ignored := ignored } b) :
      Staged e s view f kind a { b with body := found.remaining }

/-- A stage starts by looking for a block. -/
theorem stage_run_eq (kind : Block.Kind) (a : Assembly) :
    (e.stage s view f kind).run a =
      match Block.find? kind a.body with
      | none => .ok () a
      | some found =>
        (do e.block s view f found.block
            modify fun b => { b with body := found.remaining } : Stage Unit).run
          { a with
            ignored :=
              if 0 < Block.count kind a.body - 1 then
                a.ignored ++ [⟨view, kind, Block.count kind a.body - 1⟩]
              else a.ignored } := by
  change (match Block.find? kind a.body with | none => pure () | some found => _ :
    Stage Unit).run a = _
  cases Block.find? kind a.body with
  | none => rfl
  | some found =>
      by_cases hmore : 0 < Block.count kind a.body - 1
      · simp only [hmore, if_true]
        rfl
      · simp only [hmore, if_false]

/-- A stage does one of the things that `Staged` lists, or ends in a fault of its own. -/
theorem stage_run (kind : Block.Kind) (a : Assembly) :
    (∃ a', (e.stage s view f kind).run a = .ok () a' ∧ Staged e s view f kind a a') ∨
      ∃ fault a', (e.stage s view f kind).run a = .error fault a' ∧ IsBuildFault fault := by
  rw [stage_run_eq]
  cases hfind : Block.find? kind a.body with
  | none => exact Or.inl ⟨a, rfl, .absent hfind⟩
  | some found =>
      simp only
      generalize hstart : ({ a with ignored := _ } : Assembly) = start
      rcases block_run (e := e) (s := s) (f := f) found.block start with
        ⟨b, hrun, hfilled⟩ | ⟨fault, hrun, hfault⟩
      · subst hstart
        exact Or.inl ⟨{ b with body := found.remaining }, run_bind_ok hrun, .found hfind hfilled⟩
      · exact Or.inr ⟨fault, start, run_bind_error hrun, hfault⟩

/-- A block of which it is known how it fills an assembly. -/
theorem stage_run_of_found {kind : Block.Kind} {a : Assembly} {found : Block.Found}
    (hfind : Block.find? kind a.body = some found) (fill : Assembly → Assembly)
    (hblock : ∀ a, (e.block s view f found.block).run a = .ok () (fill a)) :
    ∃ ignored, (e.stage s view f kind).run a =
      .ok () { fill { a with ignored := ignored } with body := found.remaining } := by
  rw [stage_run_eq, hfind]
  simp only
  generalize (if 0 < Block.count kind a.body - 1 then _ else a.ignored) = ignored
  exact ⟨ignored, run_bind_ok (hblock _)⟩

/-- The stages of several kinds, one after another. -/
inductive StagedAll (e : Engine) (s : σ) (view : Path) (f : Fingerprint) :
    List Block.Kind → Assembly → Assembly → Prop
  | nil {a : Assembly} : StagedAll e s view f [] a a
  | cons {kind : Block.Kind} {kinds : List Block.Kind} {a b c : Assembly}
      (hstaged : Staged e s view f kind a b) (hrest : StagedAll e s view f kinds b c) :
      StagedAll e s view f (kind :: kinds) a c

theorem stages_run_cons {kind : Block.Kind} {kinds : List Block.Kind} {a b : Assembly}
    (h : (e.stage s view f kind).run a = .ok () b) :
    ((kind :: kinds).forM (e.stage s view f)).run a = (kinds.forM (e.stage s view f)).run b :=
  run_bind_ok h

theorem stages_run (kinds : List Block.Kind) (a : Assembly) :
    (∃ a', (kinds.forM (e.stage s view f)).run a = .ok () a' ∧ StagedAll e s view f kinds a a') ∨
      ∃ fault a', (kinds.forM (e.stage s view f)).run a = .error fault a' ∧
        IsBuildFault fault := by
  induction kinds generalizing a with
  | nil => exact Or.inl ⟨a, rfl, .nil⟩
  | cons kind kinds ih =>
      rcases stage_run (e := e) (s := s) (f := f) kind a with
        ⟨b, hrun, hstaged⟩ | ⟨fault, b, hrun, hfault⟩
      · rw [stages_run_cons hrun]
        rcases ih b with ⟨c, hrest, hstagedAll⟩ | ⟨fault, c, hrest, hfault⟩
        · exact Or.inl ⟨c, hrest, .cons hstaged hstagedAll⟩
        · exact Or.inr ⟨fault, c, hrest, hfault⟩
      · exact Or.inr ⟨fault, b, run_bind_error hrun, hfault⟩

/-- Stages without blocks change nothing. -/
theorem stages_run_of_none {kinds : List Block.Kind} {a : Assembly}
    (h : ∀ kind ∈ kinds, Block.find? kind a.body = none) :
    (kinds.forM (e.stage s view f)).run a = .ok () a := by
  induction kinds with
  | nil => rfl
  | cons kind kinds ih =>
      have hstage : (e.stage s view f kind).run a = .ok () a := by
        rw [stage_run_eq, h kind List.mem_cons_self]
      rw [stages_run_cons hstage]
      exact ih fun other hmem => h other (List.mem_cons_of_mem kind hmem)

/-- A compilation goes through all stages, or ends in a fault of one of them. -/
theorem assemble_run (a : Assembly) :
    (∃ a', (e.assemble s view f).run a = .ok () a' ∧ StagedAll e s view f Block.kinds a a') ∨
      ∃ fault a', (e.assemble s view f).run a = .error fault a' ∧ IsBuildFault fault :=
  stages_run Block.kinds a

/-- Stages that were gone through did what `Staged` lists. -/
theorem stagedAll_of_assemble {a b : Assembly} (h : (e.assemble s view f).run a = .ok () b) :
    StagedAll e s view f Block.kinds a b := by
  rcases assemble_run (e := e) (s := s) (f := f) a with ⟨b', hrun, hstaged⟩ | ⟨_, _, hrun, _⟩
  · rw [h] at hrun
    cases hrun
    exact hstaged
  · rw [h] at hrun
    cases hrun

/-- What every stage keeps, all of them keep. -/
theorem StagedAll.induction {motive : Assembly → Prop}
    (hstep : ∀ kind a b, Staged e s view f kind a b → motive a → motive b)
    {kinds : List Block.Kind} {a b : Assembly} (h : StagedAll e s view f kinds a b)
    (ha : motive a) : motive b := by
  induction h with
  | nil => exact ha
  | cons hstaged _ ih => exact ih (hstep _ _ _ hstaged ha)

/-- What does not depend on the text and the ignored blocks, and is kept where a block fills an
assembly, is kept by all stages. -/
theorem StagedAll.induction_filled {motive : Assembly → Prop}
    (hframe : ∀ a body ignored, motive a → motive { a with body, ignored })
    (hfilled : ∀ block a b, Filled e s view f block a b → motive a → motive b)
    {kinds : List Block.Kind} {a b : Assembly} (h : StagedAll e s view f kinds a b)
    (ha : motive a) : motive b := by
  refine h.induction (fun kind a b hstaged ha => ?_) ha
  cases hstaged with
  | absent => exact ha
  | found _ hfill =>
      exact hframe _ _ _ (hfilled _ _ _ hfill (hframe a a.body _ ha))

end ScopedViews.Engine
