import ScopedViews.Proofs.Engine.Stages
/-!
# What a compilation can come to

`Ends` lists the ways in which the compilation of a view can end, each with what it found in the
store and what it did to it.  Everything that is said about single compilations is read off it.

* `compile_ends`: a compilation ends in one of these ways.
-/

namespace ScopedViews.Engine

variable {σ : Type} [Store σ]

/-- How a compilation ends. -/
inductive Ends (e : Engine) (file : SourceFile) (s : σ) : Compilation σ → Prop
  | skipped (hcontents : file.contents = none) : Ends e file s ⟨s, [], .ok .skipped⟩
  | outside {text : String} (hcontents : file.contents = some text)
      (hinside : file.path.normalize.startsInside = false) :
      Ends e file s ⟨s, [], .error ⟨file.path, .outside file.path⟩⟩
  | unread {text : String} {cause : StoreError} (hcontents : file.contents = some text)
      (hinside : file.path.normalize.startsInside = true)
      (hstale : (Fingerprint.of text e.options.version).isStale s e.options.templateDist
        file.path.normalize = .error cause) :
      Ends e file s ⟨s, [], .error ⟨file.path.normalize, .store cause⟩⟩
  | cached {text code : String} (hcontents : file.contents = some text)
      (hinside : file.path.normalize.startsInside = true)
      (hstale : (Fingerprint.of text e.options.version).isStale s e.options.templateDist
        file.path.normalize = .ok false)
      (hprevious : previousOutput s e.options.templateDist file.path.normalize = .ok (some code)) :
      Ends e file s ⟨s, [], .ok (.cached ⟨file.path.normalize.slashed,
        Fingerprint.of text e.options.version, code, [], []⟩)⟩
  | missing {text : String} (hcontents : file.contents = some text)
      (hinside : file.path.normalize.startsInside = true)
      (hstale : (Fingerprint.of text e.options.version).isStale s e.options.templateDist
        file.path.normalize = .ok false)
      (hprevious : previousOutput s e.options.templateDist file.path.normalize = .ok none) :
      Ends e file s ⟨s, [], .error ⟨file.path.normalize, .missingOutput
        (Fingerprint.outputPath e.options.templateDist file.path.normalize)⟩⟩
  | unreadOutput {text : String} {cause : StoreError} (hcontents : file.contents = some text)
      (hinside : file.path.normalize.startsInside = true)
      (hstale : (Fingerprint.of text e.options.version).isStale s e.options.templateDist
        file.path.normalize = .ok false)
      (hprevious : previousOutput s e.options.templateDist file.path.normalize = .error cause) :
      Ends e file s ⟨s, [], .error ⟨file.path.normalize, .store cause⟩⟩
  | faulty {text : String} {fault : CompileFault} {ignored : List IgnoredBlocks}
      (hcontents : file.contents = some text)
      (hinside : file.path.normalize.startsInside = true)
      (hstale : (Fingerprint.of text e.options.version).isStale s e.options.templateDist
        file.path.normalize = .ok true)
      (hfault : IsBuildFault fault) :
      Ends e file s ⟨s, ignored, .error ⟨file.path.normalize, fault⟩⟩
  | broken {text : String} {a : Assembly} {s' : σ} {cause : StoreError}
      (hcontents : file.contents = some text)
      (hinside : file.path.normalize.startsInside = true)
      (hstale : (Fingerprint.of text e.options.version).isStale s e.options.templateDist
        file.path.normalize = .ok true)
      (hassembled : StagedAll e s file.path.normalize (Fingerprint.of text e.options.version)
        Block.kinds (.start file.path.normalize text e.options) a)
      (hwritten : writeAll s (e.outputs file.path.normalize
        (Fingerprint.of text e.options.version) a) = (s', .error cause)) :
      Ends e file s ⟨s', a.ignored, .error ⟨file.path.normalize, .store cause⟩⟩
  | fresh {text : String} {a : Assembly} {s' : σ}
      (hcontents : file.contents = some text)
      (hinside : file.path.normalize.startsInside = true)
      (hstale : (Fingerprint.of text e.options.version).isStale s e.options.templateDist
        file.path.normalize = .ok true)
      (hassembled : StagedAll e s file.path.normalize (Fingerprint.of text e.options.version)
        Block.kinds (.start file.path.normalize text e.options) a)
      (hwritten : writeAll s (e.outputs file.path.normalize
        (Fingerprint.of text e.options.version) a) = (s', .ok ())) :
      Ends e file s ⟨s', a.ignored, .ok (.fresh ⟨file.path.normalize.slashed,
        Fingerprint.of text e.options.version, a.code e.options, a.assets, a.loaders⟩)⟩

theorem compile_ends (e : Engine) (file : SourceFile) (s : σ) :
    Ends e file s (e.compile file s) := by
  unfold Engine.compile
  split
  next hcontents => exact .skipped hcontents
  next text hcontents =>
      simp only
      split
      next hinside => exact .outside hcontents (by simpa using hinside)
      next hinside =>
          have hinside : file.path.normalize.startsInside = true := by simpa using hinside
          -- what is recorded decides between the cache and a build
          split
          next cause hstale => exact .unread hcontents hinside hstale
          next hstale =>
              unfold Engine.cached
              cases hprevious : previousOutput s e.options.templateDist file.path.normalize with
              | error cause => exact .unreadOutput hcontents hinside hstale hprevious
              | ok found =>
                  cases found with
                  | none => exact .missing hcontents hinside hstale hprevious
                  | some code => exact .cached hcontents hinside hstale hprevious
          next hstale =>
              unfold Engine.build
              rcases assemble_run (e := e) (s := s) (f := Fingerprint.of text e.options.version)
                (.start file.path.normalize text e.options) with
                ⟨a, hrun, hassembled⟩ | ⟨fault, a, hrun, hfault⟩
              · rw [hrun]
                simp only
                split
                next s' cause hwritten => exact .broken hcontents hinside hstale hassembled hwritten
                next s' hwritten => exact .fresh hcontents hinside hstale hassembled hwritten
              · rw [hrun]
                exact .faulty hcontents hinside hstale hfault

/-- A view that is fresh went through all stages, and everything that it is compiled to was
written. -/
theorem fresh_of_compile {e : Engine} {file : SourceFile} {s : σ} {view : CompiledView}
    (h : (e.compile file s).result = .ok (.fresh view)) :
    ∃ text a, file.contents = some text ∧
      StagedAll e s file.path.normalize (Fingerprint.of text e.options.version)
        Block.kinds (.start file.path.normalize text e.options) a ∧
      writeAll s (e.outputs file.path.normalize (Fingerprint.of text e.options.version) a) =
        ((e.compile file s).store, .ok ()) ∧
      view = ⟨file.path.normalize.slashed, Fingerprint.of text e.options.version,
        a.code e.options, a.assets, a.loaders⟩ := by
  have hends := compile_ends e file s
  generalize e.compile file s = c at hends h ⊢
  cases hends with
  | fresh hcontents _ _ hassembled hwritten =>
      simp only [Except.ok.injEq, Outcome.fresh.injEq] at h
      exact ⟨_, _, hcontents, hassembled, hwritten, h.symm⟩
  | _ => simp at h

/-! ## Concrete runs -/

/-- An engine with default options that takes every style as it is written. -/
def asWritten : Engine := ⟨{ scriptDist := "js", styleDist := "css" }, fun source _ _ => .ok source⟩

theorem isValid_asWritten : asWritten.options.isValid = true := by decide +kernel

/-- The view that was compiled, where it is fresh. -/
def freshView? (c : Compilation σ) : Option CompiledView :=
  match c.result with
  | .ok (.fresh view) => some view
  | _ => none

omit [Store σ] in
theorem result_of_freshView? {c : Compilation σ} {view : CompiledView}
    (h : freshView? c = some view) : c.result = .ok (.fresh view) := by
  unfold freshView? at h
  split at h
  next hresult => rw [hresult, Option.some.inj h]
  next => cases h

end ScopedViews.Engine
