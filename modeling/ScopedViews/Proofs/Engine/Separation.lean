import ScopedViews.Proofs.Engine.Names
import ScopedViews.Proofs.Engine.Plain
/-!
# When every run is coherent

Views that are not kept separate have a run that is not coherent.  If two views are shown alike, the
record of one is the record of the other.  If the output of a view is taken for the record of
another one, it may well be the fingerprint of a text that the other view was never compiled from.
If a view covers the output of another one and not its record, the other view is found compiled, to
a loader or an asset.

* `not_coherent_of_text_eq`, `not_coherent_of_output_eq_record`, `not_coherent_of_covers`: the runs.
-/

namespace ScopedViews.Engine

open MemoryStore (key)

variable {e : Engine} {o : Options} {p q v w : Path}

/-! ## Runs in memory -/

theorem kept?_congr {written : List (Path × String)} (h : key v = key w) :
    kept? written v = kept? written w := by
  rw [kept?, kept?, h]

/-- A view without a record of the fingerprint is compiled. -/
theorem isStale_of_not_recorded {s : MemoryStore} {f : Fingerprint} {dist : Path}
    (h : ∀ record, s.get? (Fingerprint.recordOf dist v) = some record →
      f.isRecordedIn record = false) : f.isStale s dist v = .ok true := by
  cases hstale : f.isStale s dist v with
  | error cause =>
      unfold Fingerprint.isStale at hstale
      cases hget : s.get? (Fingerprint.recordOf dist v) with
      | none =>
          rw [show Store.read s (Fingerprint.recordOf dist v) = _ from congrArg Except.ok hget]
            at hstale
          cases hstale
      | some record =>
          rw [show Store.read s (Fingerprint.recordOf dist v) = _ from congrArg Except.ok hget]
            at hstale
          cases hstale
  | ok stale =>
      cases stale with
      | true => rfl
      | false =>
          obtain ⟨record, hget, hrecord⟩ := exists_record_of_isStale hstale
          rw [h record hget] at hrecord
          exact absurd hrecord Bool.false_ne_true

/-- A plain text is compiled to itself. -/
theorem compile_of_isPlain {s : MemoryStore} {text : String} (hplain : IsPlain text)
    (hinside : p.normalize.startsInside = true)
    (hstale : (Fingerprint.of text e.options.version).isStale s e.options.templateDist
      p.normalize = .ok true) :
    ∃ fresh, freshView? (e.compile ⟨p, some text⟩ s) = some fresh ∧ fresh.code = text ∧
      (e.compile ⟨p, some text⟩ s).store = s.insertAll (e.outputs p.normalize
        (Fingerprint.of text e.options.version) (.start p.normalize text e.options)) := by
  rw [compile_memory hinside hstale (assemble_of_isPlain hplain e s _ _)]
  refine ⟨_, rfl, ?_, rfl⟩
  exact (code_start _ _ _).trans (rewrite_of_isPlain hplain)

/-- A coherent run goes on after a fresh view. -/
theorem Coherent.of_fresh {s : MemoryStore} {latest : Path → Option String} {file : SourceFile}
    {files : List SourceFile} {fresh : CompiledView} (h : Coherent e s latest (file :: files))
    (hfresh : freshView? (e.compile file s) = some fresh) :
    Coherent e (e.compile file s).store
      (fun p => if p = file.path.normalize then some fresh.code else latest p) files := by
  have hrest := h.2.2
  unfold latestAfter at hrest
  rwa [hfresh] at hrest

/-- In a coherent run, what is recorded is there, and it is what the view was last compiled to. -/
theorem Coherent.found {s : MemoryStore} {latest : Path → Option String} {text : String}
    {files : List SourceFile} (h : Coherent e s latest (⟨p, some text⟩ :: files))
    (hinside : p.normalize.startsInside = true)
    (hrecord : s.get? (Fingerprint.recordOf e.options.templateDist p.normalize) =
      some (Fingerprint.of text e.options.version).text) :
    ∃ code, s.get? (Fingerprint.outputPath e.options.templateDist p.normalize) = some code ∧
      latest p.normalize = some code := by
  obtain ⟨hcached, hmissing, -⟩ := h
  have hstale : (Fingerprint.of text e.options.version).isStale s e.options.templateDist
      p.normalize = .ok false :=
    Fingerprint.isStale_eq_false_iff.2
      ⟨_, congrArg Except.ok hrecord, Fingerprint.isRecordedIn_of_iff.2 rfl⟩
  have hresult : (e.compile ⟨p, some text⟩ s).result =
      (e.cached s p.normalize (Fingerprint.of text e.options.version)).mapError
        (CompileError.mk p.normalize) := by
    simp only [Engine.compile, hinside, Bool.not_true, Bool.false_eq_true, if_false, hstale]
  unfold Engine.cached previousOutput at hresult
  cases hget : s.get? (Fingerprint.outputPath e.options.templateDist p.normalize) with
  | none =>
      rw [show Store.read s (Fingerprint.outputPath e.options.templateDist p.normalize) = _ from
        congrArg Except.ok hget] at hresult
      exact absurd rfl (hmissing _ _ hresult)
  | some code =>
      rw [show Store.read s (Fingerprint.outputPath e.options.templateDist p.normalize) = _ from
        congrArg Except.ok hget] at hresult
      exact ⟨code, rfl, hcached _ hresult⟩

/-! ## Runs that are not coherent -/

theorem isPlain_fingerprint (text version : String) :
    IsPlain (Fingerprint.of text version).text := by
  have hdigits : Digest.digits.all (fun c => c ≠ '<' ∧ c ≠ '>' ∧ c ≠ '/' ∧ c ≠ '\x7d') = true := by
    decide
  intro c hc
  simpa using List.all_eq_true.1 hdigits c (Fingerprint.mem_digits hc)

/-- A view that was never compiled is not found compiled, so that no other view may leave its
record. -/
theorem not_coherent_of_record {text other : String} (hplain : IsPlain text)
    (hp : p.normalize.startsInside = true) (hq : q.normalize.startsInside = true)
    (hne : p.normalize ≠ q.normalize)
    (hrecord : kept? (e.outputs p.normalize (Fingerprint.of text e.options.version)
        (.start p.normalize text e.options)).reverse
        (Fingerprint.recordOf e.options.templateDist q.normalize) =
      some (Fingerprint.of other e.options.version).text) :
    ¬ Coherent e .empty (fun _ => none) [⟨p, some text⟩, ⟨q, some other⟩] := by
  intro h
  obtain ⟨fresh, hfresh, -, hstore⟩ := compile_of_isPlain (e := e) (s := .empty) hplain hp
    (isStale_of_not_recorded fun record hget => by cases hget)
  have hrest := h.of_fresh hfresh
  rw [hstore] at hrest
  obtain ⟨code, -, hlatest⟩ := hrest.found hq (by
    rw [MemoryStore.get?_insertAll, hrecord, Option.some_or])
  rw [if_neg hne.symm] at hlatest
  cases hlatest

/-- The output of a view, taken for a record, can be any fingerprint. -/
theorem not_coherent_of_output_eq_record (hp : p.normalize.startsInside = true)
    (hq : q.normalize.startsInside = true) (hne : p.normalize ≠ q.normalize)
    (hkey : key (Fingerprint.outputPath e.options.templateDist p.normalize) =
      key (Fingerprint.recordOf e.options.templateDist q.normalize)) :
    ¬ Coherent e .empty (fun _ => none)
      [⟨p, some (Fingerprint.of "" e.options.version).text⟩, ⟨q, some ""⟩] := by
  have hplain := isPlain_fingerprint "" e.options.version
  refine not_coherent_of_record hplain hp hq hne ?_
  rw [← kept?_congr hkey, kept?_own_output (Path.inside_normalize hp), code_start,
    rewrite_of_isPlain hplain]

theorem isPlain_empty : IsPlain "" := fun c hc => by simp at hc

/-- Views that are shown alike have one record. -/
theorem not_coherent_of_text_eq (e : Engine) (hp : p.normalize.startsInside = true)
    (hq : q.normalize.startsInside = true) (hne : p.normalize ≠ q.normalize)
    (htext : p.normalize.text = q.normalize.text) :
    ¬ Coherent e .empty (fun _ => none) [⟨p, some ""⟩, ⟨q, some ""⟩] := by
  have hkey := (key_record_inj e.options.templateDist (Path.inside_normalize hp)
    (Path.inside_normalize hq)).2 htext
  refine not_coherent_of_record isPlain_empty hp hq hne ?_
  rw [← kept?_congr hkey, kept?_own_record]

/-- Where only empty texts are written in place of an output, and one is, it is empty then. -/
theorem kept?_output_of_blank {a : Assembly}
    (hrecord : key (Fingerprint.outputPath e.options.templateDist w) ≠
      key (Fingerprint.recordOf e.options.templateDist v))
    (hblank : ∀ out ∈ e.drafts v a,
      key out.1 = key (Fingerprint.outputPath e.options.templateDist w) → out.2 = "")
    (hsome : ∃ out ∈ e.drafts v a,
      key out.1 = key (Fingerprint.outputPath e.options.templateDist w)) (f : Fingerprint) :
    kept? (e.outputs v f a).reverse (Fingerprint.outputPath e.options.templateDist w) =
      some "" := by
  cases hkept : kept? (e.outputs v f a).reverse
      (Fingerprint.outputPath e.options.templateDist w) with
  | none =>
      obtain ⟨out, hout, hkey⟩ := hsome
      have hmem : out ∈ (e.outputs v f a).reverse := by
        rw [List.mem_reverse, outputs_eq]
        exact List.mem_append_left _ hout
      exact absurd hkey (kept?_eq_none_iff.1 hkept out hmem)
  | some text =>
      obtain ⟨out, hout, hkey, rfl⟩ := exists_of_kept? hkept
      rw [List.mem_reverse, outputs_eq] at hout
      rcases List.mem_append.1 hout with hout | hout
      · rw [hblank out hout hkey]
      · rw [List.mem_singleton.1 hout] at hkey
        exact absurd hkey.symm hrecord

/-- A view that covers the output of another one can leave an empty text there. -/
theorem exists_blank_of_covers (hv : Path.Inside v) (hw : Path.Inside w) (hne : v.text ≠ w.text)
    (hrecord : key (Fingerprint.outputPath o.templateDist w) ≠
      key (Fingerprint.recordOf o.templateDist v)) (hcovers : Covers o v w) :
    ∃ text, ∀ (s : MemoryStore) (f : Fingerprint), ∃ a,
      (Engine.assemble ⟨o, toNothing⟩ s v f).run (.start v text o) = .ok () a ∧
      kept? (Engine.outputs ⟨o, toNothing⟩ v f a).reverse
        (Fingerprint.outputPath o.templateDist w) = some "" := by
  have houtput : key (Fingerprint.outputPath o.templateDist v) ≠
      key (Fingerprint.outputPath o.templateDist w) := fun hkey =>
    hne ((key_output_inj o.templateDist hv hw).1 hkey)
  by_cases hloader : ∃ kind, key (Loader.pathOf v kind o) =
      key (Fingerprint.outputPath o.templateDist w)
  · -- the loaders of an empty view are empty
    obtain ⟨kind, hkind⟩ := hloader
    refine ⟨"", fun s f => ⟨_, assemble_of_isPlain isPlain_empty ⟨o, toNothing⟩ s v f, ?_⟩⟩
    refine kept?_output_of_blank (e := ⟨o, toNothing⟩) hrecord ?_ ?_ f
    · intro out hout hkey
      rcases List.mem_append.1 hout with hout | hout
      · rcases List.mem_append.1 hout with hout | hout
        · simp [Assembly.start] at hout
        · obtain ⟨l, hl, rfl⟩ := List.mem_map.1 hout
          rcases List.mem_cons.1 hl with rfl | hl
          · rfl
          · rw [List.mem_singleton.1 hl]
            rfl
      · rw [List.mem_singleton.1 hout] at hkey
        exact absurd hkey houtput
    · obtain ⟨out, hout, hpath⟩ := exists_loader_mem_drafts (e := ⟨o, toNothing⟩)
        (assembled_start v "" o) kind
      refine ⟨out, hout, ?_⟩
      rw [hpath]
      exact hkind
  · -- then an asset is kept there, and the asset of an empty block is empty
    obtain ⟨kind, hkind | hkind⟩ := hcovers
    · exact absurd ⟨kind, hkind⟩ hloader
    · refine ⟨emptyBlock kind, fun s f => ?_⟩
      obtain ⟨a, hrun, hcontents⟩ := assemble_emptyBlock kind o s v f
      have ha : Assembled v o a :=
        (stagedAll_of_assemble hrun).assembled (assembled_start v (emptyBlock kind) o)
      refine ⟨a, hrun, kept?_output_of_blank (e := ⟨o, toNothing⟩) hrecord ?_ ?_ f⟩
      · intro out hout hkey
        rcases List.mem_append.1 hout with hout | hout
        · rcases List.mem_append.1 hout with hout | hout
          · rw [hcontents] at hout
            rw [List.mem_singleton.1 hout]
          · obtain ⟨l, hl, rfl⟩ := List.mem_map.1 hout
            rcases List.mem_cons.1 hl with rfl | hl
            · dsimp only at hkey
              rw [ha.style.path_eq] at hkey
              exact absurd ⟨.style, hkey⟩ hloader
            · dsimp only at hkey
              rw [List.mem_singleton.1 hl, ha.script.path_eq] at hkey
              exact absurd ⟨.script, hkey⟩ hloader
        · rw [List.mem_singleton.1 hout] at hkey
          exact absurd hkey houtput
      · have hmem : (assetPath kind v o, "") ∈ Engine.drafts ⟨o, toNothing⟩ v a := by
          rw [drafts, hcontents]
          simp
        refine ⟨(assetPath kind v o, ""), hmem, ?_⟩
        dsimp only
        exact hkind

/-- A view that covers the output of another one and not its record leaves the other view recorded,
with another text for its output. -/
theorem not_coherent_of_covers (hvalid : o.isValid = true) (hp : p.normalize.startsInside = true)
    (hq : q.normalize.startsInside = true) (hne : p.normalize.text ≠ q.normalize.text)
    (hrecord : key (Fingerprint.outputPath o.templateDist p.normalize) ≠
      key (Fingerprint.recordOf o.templateDist q.normalize))
    (hrecord' : key (Fingerprint.outputPath o.templateDist q.normalize) ≠
      key (Fingerprint.recordOf o.templateDist p.normalize))
    (hcovers : Covers o p.normalize q.normalize)
    (hspared : ¬ CoversRecord o p.normalize q.normalize) :
    ∃ text, ¬ Coherent ⟨o, toNothing⟩ .empty (fun _ => none)
      [⟨q, some "x"⟩, ⟨p, some text⟩, ⟨q, some "x"⟩] := by
  have hv := Path.inside_normalize hp
  have hw := Path.inside_normalize hq
  obtain ⟨text, htext⟩ := exists_blank_of_covers hv hw hne hrecord' hcovers
  refine ⟨text, fun h => ?_⟩
  -- the first compilation of `q`
  have hplain : IsPlain "x" := by
    intro c hc
    have hc : c = 'x' := by simpa using hc
    subst hc
    decide
  obtain ⟨fresh, hfresh, hcode, hstore⟩ := compile_of_isPlain (e := ⟨o, toNothing⟩) (s := .empty)
    hplain hq (isStale_of_not_recorded fun record hget => by cases hget)
  have hsecond := h.of_fresh hfresh
  rw [hstore, hcode] at hsecond
  -- the compilation of `p`, which is not recorded yet
  generalize hs : MemoryStore.insertAll .empty _ = s at hsecond
  have hstale : (Fingerprint.of text o.version).isStale s o.templateDist p.normalize =
      .ok true := by
    refine isStale_of_not_recorded fun record hget => ?_
    rw [← hs, MemoryStore.get?_insertAll] at hget
    cases hkept : kept? (Engine.outputs ⟨o, toNothing⟩ q.normalize (Fingerprint.of "x" o.version)
        (.start q.normalize "x" o)).reverse
        (Fingerprint.recordOf o.templateDist p.normalize) with
    | none =>
        rw [hkept] at hget
        cases hget
    | some written =>
        rw [hkept, Option.some_or, Option.some.injEq] at hget
        rw [← hget]
        exact not_isRecordedIn_of_kept? (e := ⟨o, toNothing⟩) hvalid hw hv hne.symm hrecord'
          (assembled_start q.normalize "x" o) hkept text o.version
  obtain ⟨a, hrun, hblank⟩ := htext s (Fingerprint.of text o.version)
  have ha : Assembled p.normalize o a :=
    (stagedAll_of_assemble hrun).assembled (assembled_start p.normalize text o)
  have hcompile := compile_memory (e := ⟨o, toNothing⟩) hp hstale hrun
  have hthird := hsecond.of_fresh (congrArg freshView? hcompile)
  rw [hcompile] at hthird
  -- the second compilation of `q`, which is still recorded
  obtain ⟨code, hget, hlatest⟩ := hthird.found hq (by
    rw [MemoryStore.get?_insertAll, kept?_record_eq_none (e := ⟨o, toNothing⟩) hv hw hne hrecord ha
      hspared, Option.none_or, ← hs, MemoryStore.get?_insertAll, kept?_own_record, Option.some_or])
  rw [MemoryStore.get?_insertAll, hblank, Option.some_or, Option.some.injEq] at hget
  rw [if_neg fun heq => hne (congrArg Path.text heq).symm, if_pos rfl, ← hget] at hlatest
  exact absurd hlatest (by decide)

/-! ## The condition -/

/-- With valid options, all runs over some paths are coherent, whatever compiles the styles and
whatever the views hold, exactly if the views at these paths are kept separate. -/
theorem coherent_iff_separate (o : Options) (hvalid : o.isValid = true) (paths : Set Path) :
    (∀ (compiler : StyleCompiler) (files : List SourceFile), (∀ file ∈ files, file.path ∈ paths) →
      Coherent ⟨o, compiler⟩ .empty (fun _ => none) files) ↔ Separate o paths := by
  constructor
  · intro hall
    have htext : ∀ v ∈ viewsAt paths, ∀ w ∈ viewsAt paths, v ≠ w → v.text ≠ w.text := by
      rintro v ⟨hv, p, hp, rfl⟩ w ⟨hw, q, hq, rfl⟩ hne htext
      refine not_coherent_of_text_eq ⟨o, toNothing⟩ hv hw hne htext (hall toNothing _ ?_)
      simp [hp, hq]
    have houtput : ∀ v ∈ viewsAt paths, ∀ w ∈ viewsAt paths, v ≠ w →
        key (Fingerprint.outputPath o.templateDist v) ≠
          key (Fingerprint.recordOf o.templateDist w) := by
      rintro v ⟨hv, p, hp, rfl⟩ w ⟨hw, q, hq, rfl⟩ hne hkey
      refine not_coherent_of_output_eq_record (e := ⟨o, toNothing⟩) hv hw hne hkey
        (hall toNothing _ ?_)
      simp [hp, hq]
    refine ⟨htext, houtput, ?_⟩
    rintro v ⟨hv, p, hp, rfl⟩ w ⟨hw, q, hq, rfl⟩ hne hcovers
    by_contra hspared
    obtain ⟨text, hnot⟩ := not_coherent_of_covers hvalid hv hw
      (htext _ ⟨hv, p, hp, rfl⟩ _ ⟨hw, q, hq, rfl⟩ hne)
      (houtput _ ⟨hv, p, hp, rfl⟩ _ ⟨hw, q, hq, rfl⟩ hne)
      (houtput _ ⟨hw, q, hq, rfl⟩ _ ⟨hv, p, hp, rfl⟩ hne.symm) hcovers hspared
    refine hnot (hall toNothing _ ?_)
    simp [hp, hq]
  · intro hseparate compiler files hfiles
    exact (faithful_empty o paths).coherent (e := ⟨o, compiler⟩) hvalid hseparate hfiles

/-- Two views with plain names are kept separate by default, and so their runs are coherent. -/
theorem coherent_of_plain_names :
    asWritten.options.isValid = true ∧
      ∀ (compiler : StyleCompiler) (files : List SourceFile),
        (∀ file ∈ files, file.path ∈ ({⟨"a.blade.php"⟩, ⟨"b.blade.php"⟩} : Set Path)) →
        Coherent ⟨asWritten.options, compiler⟩ .empty (fun _ => none) files := by
  refine ⟨isValid_asWritten, (coherent_iff_separate asWritten.options isValid_asWritten _).2 ?_⟩
  have hviews : ∀ v ∈ viewsAt {⟨"a.blade.php"⟩, ⟨"b.blade.php"⟩},
      v ∈ [Path.mk "a.blade.php", Path.mk "b.blade.php"] := by
    rintro v ⟨-, p, rfl | rfl, rfl⟩
    · decide
    · decide
  have hapart : ∀ v ∈ [Path.mk "a.blade.php", Path.mk "b.blade.php"],
      ∀ w ∈ [Path.mk "a.blade.php", Path.mk "b.blade.php"],
        (v ≠ w → v.text ≠ w.text) ∧ v.text ≠ w.text ++ ".fingerprint" ∧
          ∀ kind ∈ [AssetKind.style, .script], loaderName v kind ".blade.php" ≠ w.text := by
    decide +kernel
  have hlast : ∀ w ∈ [Path.mk "a.blade.php", Path.mk "b.blade.php"],
      w.components.getLast?.map Path.Component.shown = some (.name w.text) ∧
        w.text.toList.getLast? = some 'p' := by
    decide +kernel
  refine (separate_iff_names (by decide) _).2 fun v hv w hw hne => ?_
  obtain ⟨htext, hrecord, hloader⟩ := hapart v (hviews v hv) w (hviews w hw)
  refine ⟨htext hne, hrecord,
    fun kind => ⟨hloader kind (by cases kind <;> simp), fun hasset => ?_⟩⟩
  obtain ⟨hname, hends⟩ := hlast w (hviews w hw)
  have hfile := getLast?_of_key_asset_eq (inside_of_mem_viewsAt hw) hasset
  rw [hname, Option.some.injEq, Path.Component.name.injEq] at hfile
  rw [Text.utf8_injective hfile, getLast?_assetFilename] at hends
  exact absurd hends (by decide)

/-- A view that is named like the loader of another one is found compiled, to that loader. -/
theorem not_coherent_of_loader_name :
    asWritten.options.isValid = true ∧
      ¬ Coherent asWritten .empty (fun _ => none)
        [⟨⟨"a__style.blade.php"⟩, some "x"⟩, ⟨⟨"a.blade.php"⟩, some "y"⟩,
          ⟨⟨"a__style.blade.php"⟩, some "x"⟩] := by
  refine ⟨isValid_asWritten, fun h => ?_⟩
  have hfirst : (freshView? (asWritten.compile ⟨⟨"a__style.blade.php"⟩, some "x"⟩
      MemoryStore.empty)).map CompiledView.code = some "x" := by
    decide +kernel
  obtain ⟨first, hfirst, hcode⟩ := Option.map_eq_some_iff.1 hfirst
  have hsecond : (freshView? (asWritten.compile ⟨⟨"a.blade.php"⟩, some "y"⟩
      (asWritten.compile ⟨⟨"a__style.blade.php"⟩, some "x"⟩ MemoryStore.empty).store)).isSome =
        true := by
    decide +kernel
  obtain ⟨second, hsecond⟩ := Option.isSome_iff_exists.1 hsecond
  have hkept : [Fingerprint.recordOf asWritten.options.templateDist
      (Path.mk "a__style.blade.php").normalize,
      Fingerprint.outputPath asWritten.options.templateDist
        (Path.mk "a__style.blade.php").normalize].map
      (asWritten.compile ⟨⟨"a.blade.php"⟩, some "y"⟩
        (asWritten.compile ⟨⟨"a__style.blade.php"⟩, some "x"⟩
          MemoryStore.empty).store).store.get? =
      [some (Fingerprint.of "x" "").text, some ""] := by
    decide +kernel
  obtain ⟨hrecord, hkept⟩ := List.cons.inj hkept
  obtain ⟨houtput, -⟩ := List.cons.inj hkept
  obtain ⟨code, hget, hlatest⟩ :=
    ((h.of_fresh hfirst).of_fresh hsecond).found (by decide +kernel) hrecord
  have hne : (Path.mk "a__style.blade.php").normalize ≠ (Path.mk "a.blade.php").normalize := by
    decide +kernel
  rw [if_neg hne, if_pos rfl, hcode, ← hget, houtput] at hlatest
  exact absurd hlatest (by decide)

end ScopedViews.Engine
