import Mathlib.Logic.Function.Iterate
import ScopedViews.Proofs.Engine.Versions
/-!
# The same view again

A fresh compilation leaves the record of its fingerprint and the output, whatever the store held and
whatever else the view is compiled to.  The same view is therefore found in the cache from then on,
and as a compilation that is answered from the cache writes nothing, it is found there any number of
times.

* `compile_of_recorded`: a view whose fingerprint is recorded;
* `compile_again`: a view that is compiled again and again.
-/

namespace ScopedViews.Engine

variable {e : Engine} {file : SourceFile} {path : Path} {text code : String} {s : MemoryStore}
  {view : CompiledView}

/-- The store behind a compilation. -/
def after {σ : Type} [Store σ] (e : Engine) (file : SourceFile) (s : σ) : σ :=
  (e.compile file s).store

/-- A view whose fingerprint is recorded is answered from the cache, and nothing is written. -/
theorem compile_of_recorded (hinside : path.normalize.startsInside = true)
    (hrecord : s.get? (Fingerprint.recordOf e.options.templateDist path.normalize) =
      some (Fingerprint.of text e.options.version).text)
    (houtput : s.get? (Fingerprint.outputPath e.options.templateDist path.normalize) = some code) :
    e.compile ⟨path, some text⟩ s =
      ⟨s, [], .ok (.cached ⟨path.normalize.slashed, Fingerprint.of text e.options.version, code,
        [], []⟩)⟩ := by
  have hstale : (Fingerprint.of text e.options.version).isStale s e.options.templateDist
      path.normalize = .ok false :=
    Fingerprint.isStale_eq_false_iff.2
      ⟨_, congrArg Except.ok hrecord, Fingerprint.isRecordedIn_of_iff.2 rfl⟩
  have hprevious : previousOutput s e.options.templateDist path.normalize = .ok (some code) :=
    congrArg Except.ok houtput
  unfold Engine.compile
  simp only [hinside, Bool.not_true, Bool.false_eq_true, if_false, hstale, Engine.cached, hprevious]
  rfl

/-- Behind a fresh compilation the view is answered from the cache however often it is compiled
again, and the store stays as the fresh compilation left it. -/
theorem compile_again (hfresh : (e.compile file s).result = .ok (.fresh view)) (n : ℕ) :
    e.compile file ((e.after file)^[n] (e.after file s)) =
      ⟨e.after file s, [], .ok (.cached { view with assets := [], loaders := [] })⟩ := by
  obtain ⟨text, a, hcontents, -, -, rfl⟩ := fresh_of_compile hfresh
  obtain ⟨path, contents⟩ := file
  obtain rfl : contents = some text := hcontents
  obtain ⟨hinside, hrecord, houtput⟩ := get?_of_fresh hfresh
  have hagain := compile_of_recorded hinside hrecord houtput
  -- one repetition leaves the store alone, so that every further one starts from the same
  have hfixed : e.after ⟨path, some text⟩ (e.after ⟨path, some text⟩ s) =
      e.after ⟨path, some text⟩ s := by
    unfold after
    rw [hagain]
  rw [Function.iterate_fixed hfixed n]
  exact hagain

/-- A view with a style, under a path that is not in its normal form. -/
def styledView : SourceFile :=
  ⟨⟨"./pages//a.blade.php"⟩, some "<style data-scoped>p{}</style>"⟩

/-- A store in which another fingerprint is recorded for the view. -/
def outdatedStore : MemoryStore :=
  .insert .empty (Fingerprint.recordOf ⟨"storage/vernis/views"⟩ ⟨"pages/a.blade.php"⟩) "1234"

/-- The view is compiled to an asset, and three repetitions later it is known without the asset. -/
theorem compile_again_styledView :
    ∃ view, (asWritten.compile styledView outdatedStore).result = .ok (.fresh view) ∧
      view.assets.length = 1 ∧
      asWritten.compile styledView
          ((asWritten.after styledView)^[2] (asWritten.after styledView outdatedStore)) =
        ⟨asWritten.after styledView outdatedStore, [],
          .ok (.cached { view with assets := [], loaders := [] })⟩ := by
  have hcompiled : (freshView? (asWritten.compile styledView outdatedStore)).map
      (fun view => view.assets.length) = some 1 := by
    decide +kernel
  obtain ⟨view, hview, hassets⟩ := Option.map_eq_some_iff.1 hcompiled
  have hfresh := result_of_freshView? hview
  exact ⟨view, hfresh, hassets, compile_again hfresh 2⟩

end ScopedViews.Engine
