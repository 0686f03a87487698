import ScopedViews.Project
import ScopedViews.Proofs.Engine.Footprint
import ScopedViews.Proofs.Engine.Outcomes
/-!
# Views that fail

A view that cannot be read or compiled leaves the store as it was, as long as no write fails.  A
build therefore comes to what it comes to without the views that fail, and such a view can be
compiled later as if it had never been tried.

* `fails`, `succeeding`: the views that fail at their turn, and the other ones;
* `compileAt_eq`: what one view adds to a build;
* `accounted_foldl`, `failures_foldl`: every view is counted once, and in its place;
* `compileAll_isolates`: a build without the views that fail.
-/

namespace ScopedViews

variable {σ : Type}

namespace Build

/-- Builds that have come to the same outcomes and the same store. -/
structure Alike (b b' : Build σ) : Prop where
  outcomes : b.outcomes = b'.outcomes
  store : b.store = b'.store

variable {b b' b'' : Build σ}

theorem Alike.refl (b : Build σ) : b.Alike b := ⟨rfl, rfl⟩

theorem Alike.symm (h : b.Alike b') : b'.Alike b := ⟨h.outcomes.symm, h.store.symm⟩

theorem Alike.trans (h : b.Alike b') (h' : b'.Alike b'') : b.Alike b'' :=
  ⟨h.outcomes.trans h'.outcomes, h.store.trans h'.store⟩

/-- The number of views that a build has counted. -/
def accounted (b : Build σ) : Nat := b.fresh + b.cached + b.skipped + b.failures

/-- Every outcome is counted in one of three ways. -/
theorem accounted_eq (b : Build σ) : b.accounted = b.outcomes.length + b.failures := by
  have hone (o : Outcome) : (if o.isFresh then 1 else 0) + (if o.isCached then 1 else 0) +
      (if o.view?.isNone then 1 else 0) = 1 := by
    cases o <;> rfl
  have hcount : b.fresh + b.cached + b.skipped = b.outcomes.length := by
    unfold fresh cached skipped
    induction b.outcomes with
    | nil => rfl
    | cons o outcomes ih =>
        have ho := hone o
        simp only [List.countP_cons, List.length_cons]
        omega
  unfold accounted
  omega

end Build

namespace Engine

open Build (Alike)

variable [Store σ] {e : Engine} {load : σ → Path → Except FileError ByteArray} {b b' : Build σ}
  {s : σ} {view : Path} {views : List Path}

/-- The view at a path as a build takes it, from its bytes. -/
def sourceOf (view : Path) (bytes : ByteArray) : SourceFile := ⟨view, String.fromUTF8? bytes⟩

/-- The store behind a view. -/
def storeAfter (e : Engine) (load : σ → Path → Except FileError ByteArray) (s : σ) (view : Path) :
    σ :=
  match load s view with
  | .error _ => s
  | .ok bytes => (e.compile (sourceOf view bytes) s).store

/-- What a view comes to, if it can be read and compiled. -/
def outcome? (e : Engine) (load : σ → Path → Except FileError ByteArray) (s : σ) (view : Path) :
    Option Outcome :=
  match load s view with
  | .error _ => none
  | .ok bytes => (e.compile (sourceOf view bytes) s).result.toOption

/-- Whether a view cannot be read or compiled. -/
def fails (e : Engine) (load : σ → Path → Except FileError ByteArray) (s : σ) (view : Path) :
    Bool :=
  (e.outcome? load s view).isNone

/-- Whether everything is written that a view is compiled to. -/
def writesAll (e : Engine) (load : σ → Path → Except FileError ByteArray) (s : σ) (view : Path) :
    Bool :=
  match load s view with
  | .error _ => true
  | .ok bytes => (writeAll s (e.written (sourceOf view bytes) s)).2.isOk

/-- The views of a build that do not fail at their turn. -/
def succeeding (e : Engine) (load : σ → Path → Except FileError ByteArray) :
    List Path → σ → List Path
  | [], _ => []
  | view :: views, s =>
    let rest := e.succeeding load views (e.storeAfter load s view)
    if e.fails load s view then rest else view :: rest

/-- Whether all writes of a build succeed. -/
def writesSucceed (e : Engine) (load : σ → Path → Except FileError ByteArray) :
    List Path → σ → Bool
  | [], _ => true
  | view :: views, s =>
    e.writesAll load s view && e.writesSucceed load views (e.storeAfter load s view)

/-! ## One view -/

/-- What a view adds to a build depends on nothing but the store. -/
theorem compileAt_eq (e : Engine) (load : σ → Path → Except FileError ByteArray) (b : Build σ)
    (view : Path) : ∃ notices, e.compileAt load b view =
      { store := e.storeAfter load b.store view
        outcomes := b.outcomes ++ (e.outcome? load b.store view).toList
        notices
        failures := b.failures + (e.fails load b.store view).toNat } := by
  unfold compileAt fails storeAfter outcome?
  cases load b.store view with
  | error cause => exact ⟨b.notices ++ [.unreadable view cause], by simp⟩
  | ok bytes =>
      simp only [Build.add, sourceOf]
      generalize e.compile ⟨view, String.fromUTF8? bytes⟩ b.store = c
      obtain ⟨s', ignored, error | outcome⟩ := c
      · refine ⟨b.notices ++ ignored.map Notice.ignoredBlocks ++ [.failed error], ?_⟩
        simp [Except.toOption]
      · exact ⟨b.notices ++ ignored.map Notice.ignoredBlocks, rfl⟩

theorem store_compileAt (b : Build σ) (view : Path) :
    (e.compileAt load b view).store = e.storeAfter load b.store view := by
  obtain ⟨notices, hview⟩ := compileAt_eq e load b view
  rw [hview]

/-- A view is counted once. -/
theorem accounted_compileAt (b : Build σ) (view : Path) :
    (e.compileAt load b view).accounted = b.accounted + 1 := by
  obtain ⟨notices, hview⟩ := compileAt_eq e load b view
  rw [hview, Build.accounted_eq, Build.accounted_eq, fails]
  cases e.outcome? load b.store view with
  | none =>
      simp only [Option.toList_none, List.append_nil, Option.isNone_none, Bool.toNat_true]
      omega
  | some outcome =>
      simp only [Option.toList_some, List.length_append, List.length_singleton, Option.isNone_some,
        Bool.toNat_false]
      omega

/-- Builds that are alike stay so. -/
theorem Alike.compileAt (h : Alike b b') (view : Path) :
    Alike (e.compileAt load b view) (e.compileAt load b' view) := by
  obtain ⟨notices, hview⟩ := compileAt_eq e load b view
  obtain ⟨notices', hview'⟩ := compileAt_eq e load b' view
  rw [hview, hview', ← h.store, ← h.outcomes]
  exact ⟨rfl, rfl⟩

/-- A view that fails leaves the store as it was. -/
theorem storeAfter_of_fails (hwrites : e.writesAll load s view = true)
    (hfails : e.fails load s view = true) : e.storeAfter load s view = s := by
  unfold writesAll at hwrites
  unfold fails outcome? at hfails
  unfold storeAfter
  cases hload : load s view with
  | error cause => rfl
  | ok bytes =>
      rw [hload] at hwrites hfails
      simp only at hwrites hfails ⊢
      cases hresult : (e.compile (sourceOf view bytes) s).result with
      | ok outcome =>
          rw [hresult] at hfails
          cases hfails
      | error error =>
          cases hwritten : (writeAll s (e.written (sourceOf view bytes) s)).2 with
          | ok value => exact store_of_error hresult hwritten
          | error cause =>
              rw [hwritten] at hwrites
              cases hwrites

/-- A view that fails changes neither the outcomes nor the store. -/
theorem alike_compileAt_of_fails (hwrites : e.writesAll load b.store view = true)
    (hfails : e.fails load b.store view = true) : Alike (e.compileAt load b view) b := by
  obtain ⟨notices, hview⟩ := compileAt_eq e load b view
  have hnone : e.outcome? load b.store view = none := Option.isNone_iff_eq_none.1 hfails
  rw [hview, storeAfter_of_fails hwrites hfails, hnone]
  exact ⟨List.append_nil b.outcomes, rfl⟩

/-! ## Whole builds -/

theorem accounted_foldl (views : List Path) (b : Build σ) :
    (views.foldl (e.compileAt load) b).accounted = b.accounted + views.length := by
  induction views generalizing b with
  | nil => rfl
  | cons view views ih =>
      rw [List.foldl_cons, ih, accounted_compileAt, List.length_cons]
      omega

/-- The views that do not succeed are those that are counted as failures. -/
theorem failures_foldl (views : List Path) (b : Build σ) :
    (views.foldl (e.compileAt load) b).failures + (e.succeeding load views b.store).length =
      b.failures + views.length := by
  induction views generalizing b with
  | nil => rfl
  | cons view views ih =>
      have hrest := ih (e.compileAt load b view)
      obtain ⟨notices, hview⟩ := compileAt_eq e load b view
      rw [hview] at hrest
      rw [List.foldl_cons, hview, succeeding, List.length_cons]
      by_cases hfails : e.fails load b.store view = true
      · rw [if_pos hfails]
        simp only [hfails, Bool.toNat_true] at hrest ⊢
        omega
      · rw [if_neg hfails, List.length_cons]
        simp only [hfails, Bool.toNat_false] at hrest ⊢
        omega

theorem Alike.foldl (h : Alike b b') (views : List Path) :
    Alike (views.foldl (e.compileAt load) b) (views.foldl (e.compileAt load) b') := by
  induction views generalizing b b' with
  | nil => exact h
  | cons view views ih => exact ih (Alike.compileAt h view)

/-- A build that goes on from the same store without the views that fail comes to the same. -/
theorem alike_succeeding (hwrites : e.writesSucceed load views b.store = true) :
    Alike ((e.succeeding load views b.store).foldl (e.compileAt load) b)
      (views.foldl (e.compileAt load) b) := by
  induction views generalizing b with
  | nil => exact .refl b
  | cons view views ih =>
      rw [writesSucceed, Bool.and_eq_true, ← store_compileAt] at hwrites
      obtain ⟨hview, hviews⟩ := hwrites
      have hrest := ih hviews
      rw [succeeding, ← store_compileAt, List.foldl_cons]
      by_cases hfails : e.fails load b.store view = true
      · -- the view that is left out would have changed nothing
        rw [if_pos hfails]
        have hnothing := alike_compileAt_of_fails hview hfails
        exact (Alike.foldl hnothing.symm _).trans hrest
      · rw [if_neg hfails, List.foldl_cons]
        exact hrest

/-- The writes of a build are those of its parts. -/
theorem writesSucceed_append (earlier later : List Path) (b : Build σ) :
    e.writesSucceed load (earlier ++ later) b.store =
      (e.writesSucceed load earlier b.store &&
        e.writesSucceed load later (earlier.foldl (e.compileAt load) b).store) := by
  induction earlier generalizing b with
  | nil => rfl
  | cons view earlier ih =>
      have hrest := ih (e.compileAt load b view)
      rw [store_compileAt] at hrest
      rw [List.cons_append, writesSucceed, writesSucceed, List.foldl_cons, hrest, Bool.and_assoc]

theorem writeAll_of_write (hwrite : ∀ (s : σ) p text, (Store.write s p text).2 = .ok ())
    (outs : List (Path × String)) (s : σ) : (writeAll s outs).2 = .ok () := by
  induction outs generalizing s with
  | nil => rfl
  | cons out outs ih =>
      have hfirst := hwrite s out.1 out.2
      rw [writeAll]
      rcases hout : Store.write s out.1 out.2 with ⟨s', cause | value⟩
      · rw [hout] at hfirst
        cases hfirst
      · exact ih s'

/-- In a store in which every write succeeds all writes of a build do. -/
theorem writesSucceed_of_write (hwrite : ∀ (s : σ) p text, (Store.write s p text).2 = .ok ())
    (views : List Path) (s : σ) : e.writesSucceed load views s = true := by
  induction views generalizing s with
  | nil => rfl
  | cons view views ih =>
      rw [writesSucceed, ih, Bool.and_true]
      unfold writesAll
      cases load s view with
      | error cause => rfl
      | ok bytes =>
          simp only [writeAll_of_write hwrite]
          rfl

/-- Let all writes of a build succeed.  Then every view is counted once, those that fail as
failures, and without them the build comes to the same outcomes and the same store.  A view that
fails leaves the store as it was at its turn, and the build comes to the same without it, so that
behind a repair it is compiled as if it had never been tried. -/
theorem compileAll_isolates (e : Engine) (load : σ → Path → Except FileError ByteArray)
    (views : List Path) (s : σ) (hwrites : e.writesSucceed load views s = true) :
    let b := e.compileAll load views s
    b.fresh + b.cached + b.skipped + b.failures = views.length ∧
      b.failures + (e.succeeding load views s).length = views.length ∧
      Alike (e.compileAll load (e.succeeding load views s) s) b ∧
      ∀ earlier view later, views = earlier ++ view :: later →
        let point := (e.compileAll load earlier s).store
        let without := e.compileAll load (earlier ++ later) s
        e.fails load point view = true →
          e.storeAfter load point view = point ∧ Alike without b ∧
            ∀ (repaired : Engine) (repair : σ → σ) (file : SourceFile),
              repaired.compile file (repair b.store) =
                repaired.compile file (repair without.store) := by
  have hsucceeding : Alike (e.compileAll load (e.succeeding load views s) s)
      (e.compileAll load views s) :=
    alike_succeeding hwrites
  have hfailures : (e.compileAll load views s).failures + (e.succeeding load views s).length =
      views.length :=
    (failures_foldl views { store := s }).trans (Nat.zero_add views.length)
  refine ⟨?_, hfailures, hsucceeding, ?_⟩
  · show (e.compileAll load views s).accounted = views.length
    rw [compileAll, accounted_foldl, Build.accounted_eq]
    simp
  · rintro earlier view later rfl point without hfails
    have hparts : e.writesSucceed load (earlier ++ view :: later) s =
        (e.writesSucceed load earlier s && e.writesSucceed load (view :: later) point) :=
      writesSucceed_append earlier (view :: later) { store := s }
    rw [hwrites, eq_comm, Bool.and_eq_true, writesSucceed, Bool.and_eq_true] at hparts
    obtain ⟨-, hview, -⟩ := hparts
    have hnothing := alike_compileAt_of_fails hview hfails
    have hwithout : Alike without (e.compileAll load (earlier ++ view :: later) s) := by
      show Alike ((earlier ++ later).foldl _ _) ((earlier ++ view :: later).foldl _ _)
      rw [List.foldl_append, List.foldl_append, List.foldl_cons]
      exact Alike.foldl hnothing.symm later
    refine ⟨storeAfter_of_fails hview hfails, hwithout, fun repaired repair file => ?_⟩
    rw [hwithout.store]

/-- The bytes of three views: one that is compiled, one that imports a view from outside, and one
that is no text. -/
def bytesOf (view : Path) : Except FileError ByteArray :=
  if view = ⟨"a.blade.php"⟩ then .ok "a".toUTF8
  else if view = ⟨"b.blade.php"⟩ then .ok "<style data-import=\"../c\"></style>".toUTF8
  else if view = ⟨"c.blade.php"⟩ then .ok ⟨#[255]⟩
  else .error .missing

/-- These views and one that is not there. -/
def mixedViews : List Path := [⟨"a.blade.php"⟩, ⟨"b.blade.php"⟩, ⟨"c.blade.php"⟩, ⟨"d.blade.php"⟩]

/-- Two of them fail, and without them the build comes to the same. -/
theorem compileAll_isolates_mixedViews :
    asWritten.writesSucceed (fun _ => bytesOf) mixedViews MemoryStore.empty = true ∧
      asWritten.succeeding (fun _ => bytesOf) mixedViews MemoryStore.empty =
        [⟨"a.blade.php"⟩, ⟨"c.blade.php"⟩] ∧
      Alike (asWritten.compileAll (fun _ => bytesOf) [⟨"a.blade.php"⟩, ⟨"c.blade.php"⟩]
          MemoryStore.empty)
        (asWritten.compileAll (fun _ => bytesOf) mixedViews MemoryStore.empty) := by
  have hwrites : asWritten.writesSucceed (fun _ => bytesOf) mixedViews MemoryStore.empty = true :=
    writesSucceed_of_write (fun _ _ _ => rfl) mixedViews MemoryStore.empty
  have hsucceeding : asWritten.succeeding (fun _ => bytesOf) mixedViews MemoryStore.empty =
      [⟨"a.blade.php"⟩, ⟨"c.blade.php"⟩] := by
    decide +kernel
  obtain ⟨-, -, halike, -⟩ := compileAll_isolates asWritten (fun _ => bytesOf) mixedViews
    MemoryStore.empty hwrites
  rw [hsucceeding] at halike
  exact ⟨hwrites, hsucceeding, halike⟩

end Engine

end ScopedViews
