import Mathlib.Data.List.Induction
import ScopedViews.Proofs.Engine.Outcomes
import ScopedViews.Proofs.Engine.Places
import ScopedViews.Proofs.Store.Writes
/-!
# Compilations that are broken off

One view is compiled again and again, and some writes fail.  The record is written last, so that a
record of a fingerprint is from a compilation that wrote everything.  It stays while a later one
replaces the files that it stands for, and when that one is broken off, the record stands for files
of which some are older than others.

* `recompile`: compilations of one view, one after another;
* `compile_journal`: what one compilation does to what was written;
* `LastFresh`: the last fresh compilation, and what was written since by others;
* `exists_lastFresh`: a record is from the last fresh compilation.
-/

namespace ScopedViews

/-- Where the files of a compiled view are: its own assets, its loaders and its output. -/
def CompiledView.files (view : CompiledView) (o : Options) (path : Path) : List Path :=
  (view.assets.filter Asset.owned).map Asset.filePath ++ view.loaders.map Loader.path ++
    [Fingerprint.outputPath o.templateDist path.normalize]

namespace Engine

variable {e : Engine}

/-! ## One compilation -/

/-- A compilation writes nothing, or it writes everything and is fresh, or it is broken off before
it writes the record. -/
theorem compile_journal (e : Engine) (path : Path) (text : String) (s : JournalStore) :
    ((e.compile ⟨path, some text⟩ s).store.written = s.written ∧
      ∀ view, (e.compile ⟨path, some text⟩ s).result ≠ .ok (.fresh view)) ∨
    (path.normalize.startsInside = true ∧ ∃ a view,
      Assembled path.normalize e.options a ∧
      (e.compile ⟨path, some text⟩ s).result = .ok (.fresh view) ∧
      view.fingerprint = Fingerprint.of text e.options.version ∧
      (e.compile ⟨path, some text⟩ s).store.written =
        (Fingerprint.recordOf e.options.templateDist path.normalize,
          (Fingerprint.of text e.options.version).text) ::
            (e.drafts path.normalize a).reverse ++ s.written) ∨
    (path.normalize.startsInside = true ∧ ∃ a done,
      Assembled path.normalize e.options a ∧
      (∀ view, (e.compile ⟨path, some text⟩ s).result ≠ .ok (.fresh view)) ∧
      done <+: e.drafts path.normalize a ∧
      (e.compile ⟨path, some text⟩ s).store.written = done.reverse ++ s.written) := by
  have hends := compile_ends e ⟨path, some text⟩ s
  generalize e.compile ⟨path, some text⟩ s = c at hends ⊢
  cases hends with
  | @fresh text' a s' hcontents hinside hstale hassembled hwritten =>
      obtain rfl : text = text' := Option.some.inj hcontents
      have ha := hassembled.assembled (assembled_start path.normalize text e.options)
      rcases JournalStore.writeAll_journal hwritten with ⟨-, hall⟩ | ⟨cause, _, _, hresult, _⟩
      · refine Or.inr (Or.inl ⟨hinside, a, _, ha, rfl, rfl, ?_⟩)
        rw [hall, outputs_eq, List.reverse_append, List.reverse_singleton]
        rfl
      · cases hresult
  | @broken text' a s' cause hcontents hinside hstale hassembled hwritten =>
      obtain rfl : text = text' := Option.some.inj hcontents
      have ha := hassembled.assembled (assembled_start path.normalize text e.options)
      rcases JournalStore.writeAll_journal hwritten with
        ⟨hresult, -⟩ | ⟨_, done, rest, -, houts, hrest, hdone⟩
      · cases hresult
      · refine Or.inr (Or.inr ⟨hinside, a, done, ha, by simp, ?_, hdone⟩)
        -- something is left to be written, and the record is the last of it
        rw [outputs_eq] at houts
        have hlast := congrArg List.dropLast houts
        rw [List.dropLast_concat, List.dropLast_append_of_ne_nil hrest] at hlast
        exact ⟨rest.dropLast, hlast.symm⟩
  | _ => exact Or.inl ⟨rfl, by simp⟩

/-! ## Compilations one after another -/

/-- The store after a view was compiled from several texts in turn. -/
def recompile (e : Engine) (path : Path) (texts : List String) (s : JournalStore) :
    JournalStore :=
  texts.foldl (fun s text => (e.compile ⟨path, some text⟩ s).store) s

theorem recompile_concat (e : Engine) (path : Path) (texts : List String) (text : String)
    (s : JournalStore) : recompile e path (texts ++ [text]) s =
      (e.compile ⟨path, some text⟩ (recompile e path texts s)).store := by
  rw [recompile, List.foldl_append]
  rfl

/-- No compilation is fresh. -/
def NoneFresh (e : Engine) (path : Path) (texts : List String) (s : JournalStore) : Prop :=
  ∀ earlier text later view, texts = earlier ++ text :: later →
    (e.compile ⟨path, some text⟩ (recompile e path earlier s)).result ≠ .ok (.fresh view)

theorem NoneFresh.concat {path : Path} {texts : List String} {text : String} {s : JournalStore}
    (h : NoneFresh e path texts s)
    (htext : ∀ view, (e.compile ⟨path, some text⟩ (recompile e path texts s)).result ≠
      .ok (.fresh view)) : NoneFresh e path (texts ++ [text]) s := by
  intro earlier other later view hsplit
  cases hlater : later.reverse with
  | nil =>
      obtain rfl : later = [] := by simpa using hlater
      obtain ⟨rfl, hlast⟩ := List.append_inj' hsplit rfl
      obtain rfl : text = other := by simpa using hlast
      exact htext view
  | cons last front =>
      obtain rfl : later = front.reverse ++ [last] := by
        rw [← List.reverse_cons, ← hlater, List.reverse_reverse]
      rw [← List.cons_append, ← List.append_assoc] at hsplit
      exact h earlier other front.reverse view (List.append_inj' hsplit rfl).1

/-- The last fresh one among compilations of a view, and what was written since. -/
structure LastFresh (e : Engine) (path : Path) (texts : List String) (s : JournalStore) where
  earlier : List String
  text : String
  later : List String
  view : CompiledView
  since : List (Path × String)
  texts_eq : texts = earlier ++ text :: later
  fresh : (e.compile ⟨path, some text⟩ (recompile e path earlier s)).result = .ok (.fresh view)
  noneFresh : NoneFresh e path later (recompile e path (earlier ++ [text]) s)
  written_eq : (recompile e path texts s).written =
    since ++ (recompile e path (earlier ++ [text]) s).written

namespace LastFresh

variable {path : Path} {texts : List String} {s : JournalStore}

/-- The store right after the fresh compilation. -/
def store (last : LastFresh e path texts s) : JournalStore :=
  recompile e path (last.earlier ++ [last.text]) s

/-- A fresh compilation is the last one of those up to it. -/
def ofFresh {text : String} {view : CompiledView}
    (h : (e.compile ⟨path, some text⟩ (recompile e path texts s)).result = .ok (.fresh view)) :
    LastFresh e path (texts ++ [text]) s where
  earlier := texts
  text := text
  later := []
  view := view
  since := []
  texts_eq := rfl
  fresh := h
  noneFresh := fun earlier other later _ hsplit => by simp at hsplit
  written_eq := rfl

theorem recompile_later (last : LastFresh e path texts s) :
    recompile e path last.later last.store = recompile e path texts s := by
  rw [store, recompile, recompile, recompile, ← List.foldl_append, List.append_assoc,
    List.singleton_append, ← last.texts_eq]

/-- A compilation that is not fresh adds to what was written since. -/
def concat (last : LastFresh e path texts s) {text : String} {more : List (Path × String)}
    (hfresh : ∀ view, (e.compile ⟨path, some text⟩ (recompile e path texts s)).result ≠
      .ok (.fresh view))
    (hwritten : (e.compile ⟨path, some text⟩ (recompile e path texts s)).store.written =
      more ++ (recompile e path texts s).written) : LastFresh e path (texts ++ [text]) s where
  earlier := last.earlier
  text := last.text
  later := last.later ++ [text]
  view := last.view
  since := more ++ last.since
  texts_eq := by simpa using congrArg (· ++ [text]) last.texts_eq
  fresh := last.fresh
  noneFresh := by
    refine last.noneFresh.concat ?_
    have hlater := last.recompile_later
    rw [store] at hlater
    rw [hlater]
    exact hfresh
  written_eq := by rw [recompile_concat, hwritten, last.written_eq, List.append_assoc]

end LastFresh

/-- A record of a fingerprint is from the last fresh compilation. -/
theorem exists_lastFresh (hvalid : e.options.isValid = true) (path : Path) (texts : List String)
    (failing : List Bool) (x record : String)
    (hkept : kept? (recompile e path texts ⟨[], failing⟩).written
      (Fingerprint.recordOf e.options.templateDist path.normalize) = some record)
    (hrecord : (Fingerprint.of x e.options.version).isRecordedIn record = true) :
    ∃ last : LastFresh e path texts ⟨[], failing⟩,
      last.view.fingerprint = Fingerprint.of x e.options.version := by
  induction texts using List.reverseRecOn with
  | nil => simp [recompile, kept?_nil] at hkept
  | append_singleton texts next ih =>
      rw [recompile_concat] at hkept
      rcases compile_journal e path next (recompile e path texts ⟨[], failing⟩) with
        ⟨hwritten, hfresh⟩ | ⟨hinside, a, view, -, hfresh, hfingerprint, hwritten⟩ |
        ⟨hinside, a, done, ha, hfresh, hdone, hwritten⟩
      · -- nothing was written, and the record is as it was
        rw [hwritten] at hkept
        obtain ⟨last, hlast⟩ := ih hkept
        exact ⟨last.concat hfresh (by rw [hwritten, List.nil_append]), hlast⟩
      · -- the record is from this compilation
        rw [hwritten, List.cons_append, kept?_cons, if_pos rfl] at hkept
        refine ⟨LastFresh.ofFresh hfresh, ?_⟩
        show view.fingerprint = _
        rw [← Option.some.inj hkept, Fingerprint.isRecordedIn_of_iff] at hrecord
        rw [hfingerprint, hrecord]
      · -- what was written over the record would be a loader, which records nothing
        have hview := Path.inside_normalize hinside
        have hnone : kept? done.reverse
            (Fingerprint.recordOf e.options.templateDist path.normalize) = none := by
          rw [Option.eq_none_iff_forall_not_mem]
          intro draft hdraft
          have hsome : kept? (done.reverse ++ (recompile e path texts ⟨[], failing⟩).written)
              (Fingerprint.recordOf e.options.templateDist path.normalize) = some draft := by
            rw [kept?_append, hdraft, Option.some_or]
          rw [hwritten, hsome] at hkept
          obtain ⟨out, hmem, hkey, rfl⟩ := exists_of_kept? hdraft
          have hnot := not_isRecordedIn_of_mem_drafts hvalid hview ha
            (hdone.subset (List.mem_reverse.1 hmem)) hkey x e.options.version
          rw [← Option.some.inj hkept, hnot] at hrecord
          exact absurd hrecord Bool.false_ne_true
        rw [hwritten, kept?_append, hnone, Option.none_or] at hkept
        obtain ⟨last, hlast⟩ := ih hkept
        exact ⟨last.concat hfresh hwritten, hlast⟩

/-- Let the record of a view match a text after any compilations of the view, some of whose writes
failed.  Then it is from the last fresh compilation, which was of a text with the same fingerprint,
and all that was written since was written by compilations that were broken off.  The files of the
view are as the fresh compilation left them exactly if what was last written to each of them since,
if anything was, is what the fresh compilation left there. -/
theorem files_as_recorded_iff (e : Engine) (hvalid : e.options.isValid = true) (path : Path)
    (texts : List String) (failing : List Bool) (x : String)
    (hrecorded : (Fingerprint.of x e.options.version).isStale
      (recompile e path texts ⟨[], failing⟩) e.options.templateDist path.normalize = .ok false) :
    ∃ last : LastFresh e path texts ⟨[], failing⟩,
      last.view.fingerprint = Fingerprint.of x e.options.version ∧
      ((∀ file ∈ last.view.files e.options path,
          Store.read (recompile e path texts ⟨[], failing⟩) file = Store.read last.store file) ↔
        ∀ file ∈ last.view.files e.options path, ∀ text, kept? last.since file = some text →
          Store.read last.store file = .ok (some text)) := by
  obtain ⟨record, hread, hrecord⟩ := Fingerprint.isStale_eq_false_iff.1 hrecorded
  have hkept := Except.ok.inj hread
  obtain ⟨last, hlast⟩ := exists_lastFresh hvalid path texts failing x record hkept hrecord
  refine ⟨last, hlast, ?_⟩
  have hfile (file : Path) :
      Store.read (recompile e path texts ⟨[], failing⟩) file = Store.read last.store file ↔
        ∀ text, kept? last.since file = some text →
          Store.read last.store file = .ok (some text) := by
    rw [JournalStore.read_journal, JournalStore.read_journal, last.written_eq, kept?_append]
    show _ = Except.ok (kept? (recompile e path (last.earlier ++ [last.text]) _).written file) ↔ _
    cases hsince : kept? last.since file with
    | none => simp [LastFresh.store]
    | some text => simp [LastFresh.store, eq_comm]
  exact forall₂_congr fun file _ => hfile file

/-- A second compilation whose first write fails leaves everything as it was. -/
theorem files_as_recorded_after_failure :
    (Fingerprint.of "x" "").isStale (recompile asWritten ⟨"a.blade.php"⟩ ["x", "y"]
      ⟨[], [false, false, false, false, true]⟩) asWritten.options.templateDist ⟨"a.blade.php"⟩ =
        .ok false ∧
    ∃ last : LastFresh asWritten ⟨"a.blade.php"⟩ ["x", "y"]
        ⟨[], [false, false, false, false, true]⟩,
      last.view.fingerprint = Fingerprint.of "x" "" ∧
      ((∀ file ∈ last.view.files asWritten.options ⟨"a.blade.php"⟩,
          Store.read (recompile asWritten ⟨"a.blade.php"⟩ ["x", "y"]
            ⟨[], [false, false, false, false, true]⟩) file = Store.read last.store file) ↔
        ∀ file ∈ last.view.files asWritten.options ⟨"a.blade.php"⟩, ∀ text,
          kept? last.since file = some text → Store.read last.store file = .ok (some text)) := by
  have hkept : kept? (recompile asWritten ⟨"a.blade.php"⟩ ["x", "y"]
      ⟨[], [false, false, false, false, true]⟩).written
        (Fingerprint.recordOf asWritten.options.templateDist ⟨"a.blade.php"⟩) =
      some (Fingerprint.of "x" "").text := by
    decide +kernel
  have hrecorded : (Fingerprint.of "x" "").isStale (recompile asWritten ⟨"a.blade.php"⟩ ["x", "y"]
      ⟨[], [false, false, false, false, true]⟩) asWritten.options.templateDist ⟨"a.blade.php"⟩ =
        .ok false :=
    Fingerprint.isStale_eq_false_iff.2
      ⟨_, by rw [JournalStore.read_journal, hkept], Fingerprint.isRecordedIn_of_iff.2 rfl⟩
  have hnormal : (Path.mk "a.blade.php").normalize = ⟨"a.blade.php"⟩ := by decide
  refine ⟨hrecorded, ?_⟩
  exact files_as_recorded_iff asWritten isValid_asWritten ⟨"a.blade.php"⟩ ["x", "y"]
    [false, false, false, false, true] "x" (by rw [hnormal]; exact hrecorded)

/-- A second compilation whose last write fails leaves its output under the first one's record. -/
theorem files_not_as_recorded :
    ∃ view, (asWritten.compile ⟨⟨"a.blade.php"⟩, some "x"⟩ (JournalStore.mk []
        [false, false, false, false, false, false, false, true])).result = .ok (.fresh view) ∧
      view.code = "x" ∧
      (Fingerprint.of "x" "").isStale (recompile asWritten ⟨"a.blade.php"⟩ ["x", "y"]
        ⟨[], [false, false, false, false, false, false, false, true]⟩)
        asWritten.options.templateDist ⟨"a.blade.php"⟩ = .ok false ∧
      Store.read (recompile asWritten ⟨"a.blade.php"⟩ ["x", "y"]
        ⟨[], [false, false, false, false, false, false, false, true]⟩)
        (Fingerprint.outputPath asWritten.options.templateDist ⟨"a.blade.php"⟩) =
          .ok (some "y") := by
  have hcode : (freshView? (asWritten.compile ⟨⟨"a.blade.php"⟩, some "x"⟩ (JournalStore.mk []
      [false, false, false, false, false, false, false, true]))).map CompiledView.code =
        some "x" := by
    decide +kernel
  have hkept : [Fingerprint.recordOf asWritten.options.templateDist ⟨"a.blade.php"⟩,
      Fingerprint.outputPath asWritten.options.templateDist ⟨"a.blade.php"⟩].map
        (kept? (recompile asWritten ⟨"a.blade.php"⟩ ["x", "y"]
          ⟨[], [false, false, false, false, false, false, false, true]⟩).written) =
      [some (Fingerprint.of "x" "").text, some "y"] := by
    decide +kernel
  obtain ⟨view, hview, hcode⟩ := Option.map_eq_some_iff.1 hcode
  obtain ⟨hrecord, hkept⟩ := List.cons.inj hkept
  obtain ⟨houtput, -⟩ := List.cons.inj hkept
  refine ⟨view, result_of_freshView? hview, hcode, ?_, ?_⟩
  · exact Fingerprint.isStale_eq_false_iff.2
      ⟨_, by rw [JournalStore.read_journal, hrecord], Fingerprint.isRecordedIn_of_iff.2 rfl⟩
  · rw [JournalStore.read_journal, houtput]

end Engine

end ScopedViews
