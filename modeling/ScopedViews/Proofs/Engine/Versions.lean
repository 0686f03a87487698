import ScopedViews.Proofs.Engine.Coherence
/-!
# Texts and versions under one fingerprint

A fingerprint is the digest of a text with the version behind it, and the digest does not say where
the text ends.  An engine of another version therefore takes a view from the cache exactly if its
text and version, written as one, are those of the fresh compilation.

* `exists_cached_iff`: which compilations are answered from the cache;
* `cached_after_fresh_iff`: those behind a fresh compilation, by an engine of any version.
-/

namespace ScopedViews

/-- Fingerprints are equal if the digests of the bytes are. -/
theorem Fingerprint.of_eq_iff {text version text' version' : String} :
    Fingerprint.of text version = Fingerprint.of text' version' ↔
      Digest.ofBytes (text ++ version).toUTF8 = Digest.ofBytes (text' ++ version').toUTF8 := by
  rw [Fingerprint.of, Fingerprint.of, Fingerprint.mk.injEq, Digest.ofText, Digest.ofText,
    Digest.hex_inj]

namespace Engine

/-- A view is found in the cache if its fingerprint is recorded and its output is still there. -/
theorem exists_cached_iff {e : Engine} {path : Path} {text code : String} {s : MemoryStore} :
    (∃ view, (e.compile ⟨path, some text⟩ s).result = .ok (.cached view) ∧ view.code = code) ↔
      path.normalize.startsInside = true ∧
        (∃ record, s.get? (Fingerprint.recordOf e.options.templateDist path.normalize) =
          some record ∧ (Fingerprint.of text e.options.version).isRecordedIn record = true) ∧
        s.get? (Fingerprint.outputPath e.options.templateDist path.normalize) = some code := by
  have hends := compile_ends e ⟨path, some text⟩ s
  generalize e.compile ⟨path, some text⟩ s = c at hends ⊢
  cases hends with
  | @cached text' code' hcontents hinside hstale hprevious =>
      obtain rfl : text = text' := Option.some.inj hcontents
      have hcode' : s.get? (Fingerprint.outputPath e.options.templateDist path.normalize) =
          some code' := Except.ok.inj hprevious
      constructor
      · rintro ⟨view, hview, rfl⟩
        obtain rfl := Outcome.cached.inj (Except.ok.inj hview)
        exact ⟨hinside, exists_record_of_isStale hstale, hcode'⟩
      · rintro ⟨-, -, hcode⟩
        exact ⟨_, rfl, Option.some.inj (hcode'.symm.trans hcode)⟩
  | @outside text' hcontents hinside =>
      refine iff_of_false (by simp) fun h => ?_
      rw [hinside] at h
      exact absurd h.1 Bool.false_ne_true
  | @missing text' hcontents hinside hstale hprevious =>
      refine iff_of_false (by simp) fun ⟨_, _, hcode⟩ => ?_
      have hnone := Except.ok.inj hprevious
      rw [hcode] at hnone
      cases hnone
  | @unread text' cause hcontents hinside hstale
  | @faulty text' fault ignored hcontents hinside hstale hfault
  | @broken text' a s' cause hcontents hinside hstale hassembled hwritten
  | @fresh text' a s' hcontents hinside hstale hassembled hwritten =>
      obtain rfl : text = text' := Option.some.inj hcontents
      refine iff_of_false (by simp) fun ⟨_, ⟨record, hrecord, hrecorded⟩, _⟩ => ?_
      have hfresh : (Fingerprint.of text e.options.version).isStale s e.options.templateDist
          path.normalize = .ok false :=
        Fingerprint.isStale_eq_false_iff.2 ⟨record, congrArg Except.ok hrecord, hrecorded⟩
      rw [hstale] at hfresh
      cases hfresh
  | skipped hcontents => cases hcontents
  | unreadOutput _ _ _ hprevious => cases hprevious

/-- What a fresh compilation leaves beside each other: the record of its text and the output. -/
theorem get?_of_fresh {e : Engine} {path : Path} {text : String} {s : MemoryStore}
    {view : CompiledView} (h : (e.compile ⟨path, some text⟩ s).result = .ok (.fresh view)) :
    path.normalize.startsInside = true ∧
      (e.compile ⟨path, some text⟩ s).store.get?
          (Fingerprint.recordOf e.options.templateDist path.normalize) =
        some (Fingerprint.of text e.options.version).text ∧
      (e.compile ⟨path, some text⟩ s).store.get?
          (Fingerprint.outputPath e.options.templateDist path.normalize) = some view.code := by
  have hends := compile_ends e ⟨path, some text⟩ s
  generalize e.compile ⟨path, some text⟩ s = c at hends h ⊢
  cases hends with
  | @fresh text' a s' hcontents hinside hstale hassembled hwritten =>
      obtain rfl : text = text' := Option.some.inj hcontents
      obtain rfl := Outcome.fresh.inj (Except.ok.inj h)
      rw [MemoryStore.writeAll_memory] at hwritten
      cases hwritten
      refine ⟨hinside, ?_, ?_⟩
      · rw [MemoryStore.get?_insertAll, kept?_own_record, Option.some_or]
      · rw [MemoryStore.get?_insertAll, kept?_own_output (Path.inside_normalize hinside),
          Option.some_or]
  | _ => simp at h

/-- Let a compilation be fresh, and let its record and its output stay.  Then an engine that differs
in the version takes the view from the cache exactly if its text and version, written as one, are
those that the view was compiled from, provided that the digests of different ones differ. -/
theorem cached_after_fresh_iff {e e' : Engine} {s s' : MemoryStore} {path : Path}
    {text text' : String} {view : CompiledView}
    (hfresh : (e.compile ⟨path, some text⟩ s).result = .ok (.fresh view))
    (hoptions : e'.options = { e.options with version := e'.options.version })
    (hkept : ∀ file ∈ [Fingerprint.recordOf e.options.templateDist path.normalize,
        Fingerprint.outputPath e.options.templateDist path.normalize],
      s'.get? file = (e.compile ⟨path, some text⟩ s).store.get? file)
    (hdigest : text ++ e.options.version ≠ text' ++ e'.options.version →
      Digest.ofBytes (text ++ e.options.version).toUTF8 ≠
        Digest.ofBytes (text' ++ e'.options.version).toUTF8) :
    (∃ found, (e'.compile ⟨path, some text'⟩ s').result = .ok (.cached found)) ↔
      text ++ e.options.version = text' ++ e'.options.version := by
  obtain ⟨hinside, hrecord, houtput⟩ := get?_of_fresh hfresh
  have hdist : e'.options.templateDist = e.options.templateDist := by rw [hoptions]
  rw [← hkept _ (by simp)] at hrecord houtput
  have hrecorded : (Fingerprint.of text' e'.options.version).isRecordedIn
      (Fingerprint.of text e.options.version).text = true ↔
        text ++ e.options.version = text' ++ e'.options.version := by
    rw [Fingerprint.isRecordedIn_of_iff, Fingerprint.of_eq_iff]
    constructor
    · intro heq
      by_contra hne
      exact hdigest hne heq.symm
    · intro heq
      rw [heq]
  -- the record that the engine finds is that of the fresh compilation
  rw [← hrecorded]
  constructor
  · rintro ⟨found, hfound⟩
    obtain ⟨-, ⟨record, hsome, h⟩, -⟩ := exists_cached_iff.1 ⟨found, hfound, rfl⟩
    rw [hdist, hrecord] at hsome
    rwa [Option.some.inj hsome]
  · intro h
    obtain ⟨found, hfound, -⟩ := exists_cached_iff.2
      ⟨hinside, ⟨_, by rw [hdist, hrecord], h⟩, by rw [hdist, houtput]⟩
    exact ⟨found, hfound⟩

/-- `asWritten` for a version. -/
def asWrittenFor (version : String) : Engine :=
  { asWritten with options := { asWritten.options with version } }

/-- The digests of `x` for two versions differ, so that the cache of one is none of the other. -/
theorem cached_after_fresh_iff_other_version :
    ∃ view, ((asWrittenFor "1").compile ⟨⟨"a.blade.php"⟩, some "x"⟩ MemoryStore.empty).result =
        .ok (.fresh view) ∧
      ("x" ++ "1" ≠ "x" ++ "2" →
        Digest.ofBytes ("x" ++ "1").toUTF8 ≠ Digest.ofBytes ("x" ++ "2").toUTF8) ∧
      ((∃ found, ((asWrittenFor "2").compile ⟨⟨"a.blade.php"⟩, some "x"⟩
          ((asWrittenFor "1").compile ⟨⟨"a.blade.php"⟩, some "x"⟩ MemoryStore.empty).store).result =
            .ok (.cached found)) ↔ "x" ++ "1" = "x" ++ "2") := by
  have hview : (freshView? ((asWrittenFor "1").compile ⟨⟨"a.blade.php"⟩, some "x"⟩
      MemoryStore.empty)).isSome = true := by
    decide +kernel
  have hdigest : Digest.ofBytes ("x" ++ "1").toUTF8 ≠ Digest.ofBytes ("x" ++ "2").toUTF8 := by
    decide +kernel
  obtain ⟨view, hview⟩ := Option.isSome_iff_exists.1 hview
  have hfresh := result_of_freshView? hview
  exact ⟨view, hfresh, fun _ => hdigest,
    cached_after_fresh_iff hfresh rfl (fun _ _ => rfl) fun _ => hdigest⟩

/-- The text `x1` is taken for the text `x` with the version `1`. -/
theorem cached_in_place_of_other_text :
    ∃ view found,
      ((asWrittenFor "1").compile ⟨⟨"a.blade.php"⟩, some "x"⟩ MemoryStore.empty).result =
        .ok (.fresh view) ∧
      ("x1", "") ≠ ("x", "1") ∧
      ((asWrittenFor "").compile ⟨⟨"a.blade.php"⟩, some "x1"⟩
        ((asWrittenFor "1").compile ⟨⟨"a.blade.php"⟩, some "x"⟩ MemoryStore.empty).store).result =
          .ok (.cached found) ∧
      found.code = "x" := by
  have hcode : (freshView? ((asWrittenFor "1").compile ⟨⟨"a.blade.php"⟩, some "x"⟩
      MemoryStore.empty)).map CompiledView.code = some "x" := by
    decide +kernel
  obtain ⟨view, hview, hx⟩ := Option.map_eq_some_iff.1 hcode
  have hfresh := result_of_freshView? hview
  obtain ⟨hinside, hrecord, houtput⟩ := get?_of_fresh hfresh
  have hcached : ∃ found, ((asWrittenFor "").compile ⟨⟨"a.blade.php"⟩, some "x1"⟩
      ((asWrittenFor "1").compile ⟨⟨"a.blade.php"⟩, some "x"⟩ MemoryStore.empty).store).result =
        .ok (.cached found) ∧ found.code = view.code :=
    exists_cached_iff.2
      ⟨hinside, ⟨_, hrecord, Fingerprint.isRecordedIn_of_iff.2 rfl⟩, houtput⟩
  obtain ⟨found, hfound, hfoundCode⟩ := hcached
  exact ⟨view, found, hfresh, by decide, hfound, hfoundCode.trans hx⟩

end Engine

end ScopedViews
