import Mathlib.Data.Set.Basic
import ScopedViews.Proofs.Engine.Outcomes
import ScopedViews.Proofs.Engine.Places
import ScopedViews.Proofs.Store.Writes
/-!
# When the cache gives what was compiled last

Views are compiled one after another and kept in one store in memory.  The cache is coherent if it
always gives the code that the same view was last compiled to, and never misses it.  It is if the
views are kept separate: no two views are shown alike, no view is named like the record of another
one, and no loader or asset is kept in place of the output of another view, unless a loader of the
same view is kept in place of its record as well.

* `Coherent`: all compilations of a run find in the cache what they should;
* `Separate`: what the names of views and the options have to keep apart;
* `Faithful.compile`, `Faithful.coherent`: the invariant, of one compilation and of a run.
-/

namespace ScopedViews.Engine

open ScopedViews.Path (Inside)
open MemoryStore (key)

variable {e : Engine} {o : Options} {paths : Set Path} {v w : Path} {a : Assembly}

/-- What views were last compiled to, after a compilation of `view`. -/
def latestAfter {σ : Type} (latest : Path → Option String) (view : Path) (c : Compilation σ) :
    Path → Option String := fun p =>
  match freshView? c with
  | some fresh => if p = view then some fresh.code else latest p
  | none => latest p

/-- Whether compilations one after another find in the cache what their views were last compiled
to, and never find that it is missing. -/
def Coherent (e : Engine) : MemoryStore → (Path → Option String) → List SourceFile → Prop
  | _, _, [] => True
  | s, latest, file :: files =>
    (∀ view, (e.compile file s).result = .ok (.cached view) →
      latest file.path.normalize = some view.code) ∧
    (∀ error path, (e.compile file s).result = .error error → error.fault ≠ .missingOutput path) ∧
    Coherent e (e.compile file s).store
      (latestAfter latest file.path.normalize (e.compile file s)) files

/-- The views at some paths, by their normal forms. -/
def viewsAt (paths : Set Path) : Set Path :=
  {v | v.startsInside = true ∧ ∃ p ∈ paths, p.normalize = v}

/-- Whether a loader or an asset of one view is kept in place of the output of another one. -/
def Covers (o : Options) (v w : Path) : Prop :=
  ∃ kind, key (Loader.pathOf v kind o) = key (Fingerprint.outputPath o.templateDist w) ∨
    key (assetPath kind v o) = key (Fingerprint.outputPath o.templateDist w)

/-- Whether a loader of one view is kept in place of the record of another one. -/
def CoversRecord (o : Options) (v w : Path) : Prop :=
  ∃ kind, key (Loader.pathOf v kind o) = key (Fingerprint.recordOf o.templateDist w)

/-- Views of which no two are shown alike, none is taken for the record of another one, and none
covers the output of another one without covering its record. -/
structure Separate (o : Options) (paths : Set Path) : Prop where
  text_ne : ∀ v ∈ viewsAt paths, ∀ w ∈ viewsAt paths, v ≠ w → v.text ≠ w.text
  output_ne_record : ∀ v ∈ viewsAt paths, ∀ w ∈ viewsAt paths, v ≠ w →
    key (Fingerprint.outputPath o.templateDist v) ≠ key (Fingerprint.recordOf o.templateDist w)
  coversRecord : ∀ v ∈ viewsAt paths, ∀ w ∈ viewsAt paths, v ≠ w → Covers o v w →
    CoversRecord o v w

theorem inside_of_mem_viewsAt (h : v ∈ viewsAt paths) : Inside v := by
  obtain ⟨hinside, p, -, rfl⟩ := h
  exact Path.inside_normalize hinside

/-! ## What one view writes in the places of another one -/

/-- What a view writes in place of another view's record is no record of a fingerprint. -/
theorem not_isRecordedIn_of_kept? (hvalid : e.options.isValid = true) (hv : Inside v)
    (hw : Inside w) (hne : v.text ≠ w.text)
    (hrecord : key (Fingerprint.outputPath e.options.templateDist v) ≠
      key (Fingerprint.recordOf e.options.templateDist w))
    (ha : Assembled v e.options a) {f : Fingerprint} {record : String}
    (hkept : kept? (e.outputs v f a).reverse (Fingerprint.recordOf e.options.templateDist w) =
      some record) (text version : String) :
    (Fingerprint.of text version).isRecordedIn record = false := by
  obtain ⟨out, hout, hkey, rfl⟩ := exists_of_kept? hkept
  rw [List.mem_reverse, outputs_eq] at hout
  rcases List.mem_append.1 hout with hout | hout
  · rcases mem_drafts ha hout with ⟨kind, hpath⟩ | ⟨kind, l, hl, -, htext⟩ | hpath
    · rw [hpath] at hkey
      exact absurd hkey (key_asset_ne_record kind v e.options _ hw)
    · rw [htext]
      exact hl.not_isRecordedIn hvalid text version
    · rw [hpath] at hkey
      exact absurd hkey hrecord
  · rw [List.mem_singleton.1 hout] at hkey
    exact absurd ((key_record_inj _ hv hw).1 hkey) hne

/-- A view that does not cover the record of another one leaves it alone. -/
theorem kept?_record_eq_none (hv : Inside v) (hw : Inside w) (hne : v.text ≠ w.text)
    (hrecord : key (Fingerprint.outputPath e.options.templateDist v) ≠
      key (Fingerprint.recordOf e.options.templateDist w))
    (ha : Assembled v e.options a) (hcovers : ¬ CoversRecord e.options v w) (f : Fingerprint) :
    kept? (e.outputs v f a).reverse (Fingerprint.recordOf e.options.templateDist w) = none := by
  rw [kept?_eq_none_iff]
  intro out hout hkey
  rw [List.mem_reverse, outputs_eq] at hout
  rcases List.mem_append.1 hout with hout | hout
  · rcases mem_drafts ha hout with ⟨kind, hpath⟩ | ⟨kind, l, hl, hpath, -⟩ | hpath
    · rw [hpath] at hkey
      exact key_asset_ne_record kind v e.options _ hw hkey
    · rw [hpath] at hkey
      exact hcovers ⟨kind, hkey⟩
    · rw [hpath] at hkey
      exact hrecord hkey
  · rw [List.mem_singleton.1 hout] at hkey
    exact hne ((key_record_inj _ hv hw).1 hkey)

/-- A view that does not cover the output of another one leaves it alone. -/
theorem kept?_output_eq_none (hv : Inside v) (hw : Inside w) (hne : v.text ≠ w.text)
    (hrecord : key (Fingerprint.outputPath e.options.templateDist w) ≠
      key (Fingerprint.recordOf e.options.templateDist v))
    (ha : Assembled v e.options a) (hcovers : ¬ Covers e.options v w) (f : Fingerprint) :
    kept? (e.outputs v f a).reverse (Fingerprint.outputPath e.options.templateDist w) = none := by
  rw [kept?_eq_none_iff]
  intro out hout hkey
  rw [List.mem_reverse, outputs_eq] at hout
  rcases List.mem_append.1 hout with hout | hout
  · rcases mem_drafts ha hout with ⟨kind, hpath⟩ | ⟨kind, l, hl, hpath, -⟩ | hpath
    · rw [hpath] at hkey
      exact hcovers ⟨kind, Or.inr hkey⟩
    · rw [hpath] at hkey
      exact hcovers ⟨kind, Or.inl hkey⟩
    · rw [hpath] at hkey
      exact hne ((key_output_inj _ hv hw).1 hkey)
  · rw [List.mem_singleton.1 hout] at hkey
    exact hrecord hkey.symm

theorem kept?_own_record (e : Engine) (v : Path) (f : Fingerprint) (a : Assembly) :
    kept? (e.outputs v f a).reverse (Fingerprint.recordOf e.options.templateDist v) =
      some f.text := by
  rw [outputs_eq, List.reverse_append, List.reverse_singleton, List.singleton_append, kept?_cons,
    if_pos rfl]

theorem kept?_own_output (hv : Inside v) (f : Fingerprint) (a : Assembly) :
    kept? (e.outputs v f a).reverse (Fingerprint.outputPath e.options.templateDist v) =
      some (a.code e.options) := by
  have hne := (key_output_ne_record e.options.templateDist hv).symm
  rw [outputs_eq, List.reverse_append, List.reverse_singleton, List.singleton_append, kept?_cons,
    if_neg hne, drafts, List.reverse_append, List.reverse_singleton, List.singleton_append,
    kept?_cons, if_pos rfl]

/-! ## The invariant -/

/-- Every record of a fingerprint stands beside what its view was last compiled to. -/
def Faithful (o : Options) (paths : Set Path) (s : MemoryStore) (latest : Path → Option String) :
    Prop :=
  ∀ v ∈ viewsAt paths, ∀ text record,
    s.get? (Fingerprint.recordOf o.templateDist v) = some record →
    (Fingerprint.of text o.version).isRecordedIn record = true →
    ∃ code, s.get? (Fingerprint.outputPath o.templateDist v) = some code ∧ latest v = some code

theorem faithful_empty (o : Options) (paths : Set Path) :
    Faithful o paths .empty fun _ => none := by
  intro v _ text record hget
  cases hget

/-- Writing all files of a view keeps the invariant. -/
theorem Faithful.insertAll {s : MemoryStore} {latest : Path → Option String}
    (h : Faithful e.options paths s latest) (hvalid : e.options.isValid = true)
    (hseparate : Separate e.options paths) (hv : v ∈ viewsAt paths)
    (ha : Assembled v e.options a) (f : Fingerprint) :
    Faithful e.options paths (s.insertAll (e.outputs v f a))
      fun p => if p = v then some (a.code e.options) else latest p := by
  intro w hw text record hrecord hrecorded
  have hinside := inside_of_mem_viewsAt hv
  rw [MemoryStore.get?_insertAll] at hrecord ⊢
  by_cases hne : w = v
  · subst hne
    rw [kept?_own_output hinside, Option.some_or]
    exact ⟨a.code e.options, rfl, if_pos rfl⟩
  · have hinside' := inside_of_mem_viewsAt hw
    have hne' : v ≠ w := fun h => hne h.symm
    have htext := hseparate.text_ne v hv w hw hne'
    have hother := hseparate.output_ne_record v hv w hw hne'
    cases hkept : kept? (e.outputs v f a).reverse
        (Fingerprint.recordOf e.options.templateDist w) with
    | some written =>
        -- the record is a loader now, so the view will be compiled again
        rw [hkept, Option.some_or, Option.some.injEq] at hrecord
        rw [← hrecord, not_isRecordedIn_of_kept? hvalid hinside hinside' htext hother ha hkept]
          at hrecorded
        exact absurd hrecorded Bool.false_ne_true
    | none =>
        have hcovers : ¬ Covers e.options v w := by
          intro hcovers
          obtain ⟨kind, hkind⟩ := hseparate.coversRecord v hv w hw hne' hcovers
          obtain ⟨out, hout, hpath⟩ := exists_loader_mem_drafts ha kind
          have hmem : out ∈ (e.outputs v f a).reverse := by
            rw [List.mem_reverse, outputs_eq]
            exact List.mem_append_left _ hout
          have hfree := kept?_eq_none_iff.1 hkept out hmem
          rw [hpath] at hfree
          exact hfree hkind
        rw [hkept, Option.none_or] at hrecord
        rw [kept?_output_eq_none hinside hinside' htext
          (hseparate.output_ne_record w hw v hv hne) ha hcovers, Option.none_or]
        obtain ⟨code, hcode, hlatest⟩ := h w hw text record hrecord hrecorded
        exact ⟨code, hcode, (if_neg hne).trans hlatest⟩

/-- A compilation keeps the invariant. -/
theorem Faithful.compile {s : MemoryStore} {latest : Path → Option String}
    (h : Faithful e.options paths s latest) (hvalid : e.options.isValid = true)
    (hseparate : Separate e.options paths) {file : SourceFile} (hfile : file.path ∈ paths) :
    Faithful e.options paths (e.compile file s).store
      (latestAfter latest file.path.normalize (e.compile file s)) := by
  have hends := compile_ends e file s
  generalize e.compile file s = c at hends ⊢
  cases hends with
  | @fresh text a s' hcontents hinside hstale hassembled hwritten =>
      rw [MemoryStore.writeAll_memory] at hwritten
      cases hwritten
      exact h.insertAll hvalid hseparate ⟨hinside, file.path, hfile, rfl⟩
        (hassembled.assembled (assembled_start _ _ _)) _
  | @broken text a s' cause hcontents hinside hstale hassembled hwritten =>
      rw [MemoryStore.writeAll_memory] at hwritten
      cases hwritten
  | _ => exact h

/-- What is recorded in memory. -/
theorem exists_record_of_isStale {s : MemoryStore} {f : Fingerprint} {dist : Path}
    (h : f.isStale s dist v = .ok false) :
    ∃ record, s.get? (Fingerprint.recordOf dist v) = some record ∧
      f.isRecordedIn record = true := by
  obtain ⟨record, hread, hrecord⟩ := Fingerprint.isStale_eq_false_iff.1 h
  exact ⟨record, Except.ok.inj hread, hrecord⟩

/-- With the invariant, a compilation finds in the cache what it should. -/
theorem Faithful.result {s : MemoryStore} {latest : Path → Option String}
    (h : Faithful e.options paths s latest) {file : SourceFile} (hfile : file.path ∈ paths) :
    (∀ view, (e.compile file s).result = .ok (.cached view) →
      latest file.path.normalize = some view.code) ∧
    ∀ error path, (e.compile file s).result = .error error →
      error.fault ≠ .missingOutput path := by
  have hends := compile_ends e file s
  generalize e.compile file s = c at hends ⊢
  have hfound (text : String) (hinside : file.path.normalize.startsInside = true)
      (hstale : (Fingerprint.of text e.options.version).isStale s e.options.templateDist
        file.path.normalize = .ok false) :
      ∃ code, previousOutput s e.options.templateDist file.path.normalize = .ok (some code) ∧
        latest file.path.normalize = some code := by
    obtain ⟨record, hget, hrecord⟩ := exists_record_of_isStale hstale
    obtain ⟨code, hcode, hlatest⟩ :=
      h file.path.normalize ⟨hinside, file.path, hfile, rfl⟩ text record hget hrecord
    exact ⟨code, congrArg Except.ok hcode, hlatest⟩
  cases hends with
  | @cached text code hcontents hinside hstale hprevious =>
      obtain ⟨code', hprevious', hlatest⟩ := hfound text hinside hstale
      rw [hprevious, Except.ok.injEq, Option.some.injEq] at hprevious'
      subst hprevious'
      refine ⟨fun view hview => ?_, fun error path herror => by cases herror⟩
      rw [Except.ok.injEq, Outcome.cached.injEq] at hview
      rw [← hview, hlatest]
  | @missing text hcontents hinside hstale hprevious =>
      obtain ⟨code', hprevious', -⟩ := hfound text hinside hstale
      rw [hprevious] at hprevious'
      cases hprevious'
  | faulty _ _ _ hfault =>
      refine ⟨fun view hview => by simp at hview, fun error path herror => ?_⟩
      rw [Except.error.injEq] at herror
      rw [← herror]
      exact hfault path
  | skipped => exact ⟨fun _ h => by simp at h, fun _ _ h => by simp at h⟩
  | fresh => exact ⟨fun _ h => by simp at h, fun _ _ h => by simp at h⟩
  | outside | unread | unreadOutput | broken =>
      refine ⟨fun view hview => by simp at hview, fun error path herror => ?_⟩
      rw [Except.error.injEq] at herror
      rw [← herror]
      simp

/-- With the invariant, a run is coherent. -/
theorem Faithful.coherent (hvalid : e.options.isValid = true)
    (hseparate : Separate e.options paths) {files : List SourceFile}
    (hfiles : ∀ file ∈ files, file.path ∈ paths) {s : MemoryStore}
    {latest : Path → Option String} (h : Faithful e.options paths s latest) :
    Coherent e s latest files := by
  induction files generalizing s latest with
  | nil => trivial
  | cons file files ih =>
      have hfile := hfiles file List.mem_cons_self
      obtain ⟨hcached, hmissing⟩ := h.result hfile
      refine ⟨hcached, hmissing, ?_⟩
      exact ih (fun other hmem => hfiles other (List.mem_cons_of_mem file hmem))
        (h.compile hvalid hseparate hfile)

end ScopedViews.Engine
