import ScopedViews.Proofs.Engine.Footprint
import ScopedViews.Proofs.Engine.Outcomes
import ScopedViews.Proofs.Store.Exchange
/-!
# Files in another order

Files may be compiled in any order if none of them writes what another one reads or writes.  Each
file then comes to what it would come to first, for what it reads is as it was at the start, and the
groups of writes can be exchanged.

* `inTurn`: compilations one after another;
* `footprint`, `Independent`: what a compilation reads and writes, and files that do not meet there;
* `inTurn_of_agree`: independent files in turn.
-/

namespace ScopedViews

open MemoryStore (key Same Apart)

/-- What is written under other names does not matter to what is read. -/
theorem Store.AgreeOn.insertAll {paths : List Path} {s s' : MemoryStore}
    (h : Store.AgreeOn paths s s') {outs : List (Path × String)}
    (hapart : ∀ out ∈ outs, ∀ p ∈ paths, key out.1 ≠ key p) :
    Store.AgreeOn paths s (s'.insertAll outs) := by
  intro p hp
  have hkept : kept? outs.reverse p = none := by
    rw [kept?_eq_none_iff]
    intro out hout
    exact hapart out (List.mem_reverse.1 hout) p hp
  show Store.read s p = .ok ((s'.insertAll outs).get? p)
  rw [MemoryStore.get?_insertAll, hkept, Option.none_or, h p hp]
  rfl

namespace Engine

variable {σ : Type} [Store σ] {e : Engine} {s s' : MemoryStore} {file other : SourceFile}
  {files : List SourceFile}

/-- What files come to that are compiled one after another, and the store that they leave. -/
def inTurn (e : Engine) : List SourceFile → σ → List (Except CompileError Outcome) × σ
  | [], s => ([], s)
  | file :: files, s =>
    let c := e.compile file s
    let rest := e.inTurn files c.store
    (c.result :: rest.1, rest.2)

/-- The names under which a compilation writes. -/
def writtenNames (e : Engine) (s : MemoryStore) (file : SourceFile) : List String :=
  (e.written file s).map fun out => key out.1

/-- The names under which a compilation writes or reads. -/
def footprint (e : Engine) (s : MemoryStore) (file : SourceFile) : List String :=
  e.writtenNames s file ++ (e.reads file s).map key

/-- Files of which neither one writes what the other one writes or reads. -/
def Independent (e : Engine) (s : MemoryStore) (file other : SourceFile) : Prop :=
  (∀ name ∈ e.writtenNames s file, name ∉ e.footprint s other) ∧
    ∀ name ∈ e.writtenNames s other, name ∉ e.footprint s file

instance (e : Engine) (s : MemoryStore) (file other : SourceFile) :
    Decidable (e.Independent s file other) :=
  inferInstanceAs (Decidable (_ ∧ _))

theorem Independent.symm (h : e.Independent s file other) : e.Independent s other file :=
  ⟨h.2, h.1⟩

theorem Independent.apart (h : e.Independent s file other) :
    Apart (e.written file s) (e.written other s) := by
  intro out hout out' hout' heq
  have hname : key out.1 ∈ e.writtenNames s file := List.mem_map.2 ⟨out, hout, rfl⟩
  have hname' : key out.1 ∈ e.writtenNames s other := List.mem_map.2 ⟨out', hout', heq.symm⟩
  exact h.1 _ hname (List.mem_append_left _ hname')

theorem Independent.ne_of_mem_reads (h : e.Independent s file other) {out : Path × String}
    (hout : out ∈ e.written file s) {p : Path} (hp : p ∈ e.reads other s) : key out.1 ≠ key p := by
  intro heq
  have hname : key out.1 ∈ e.writtenNames s file := List.mem_map.2 ⟨out, hout, rfl⟩
  exact h.1 _ hname (List.mem_append_right _ (List.mem_map.2 ⟨p, hp, heq.symm⟩))

/-- Independent files come to what they would come to on a store that agrees with this one on all
that they read, and what they write there is written here. -/
theorem inTurn_of_agree (hread : ∀ file ∈ files, Store.AgreeOn (e.reads file s) s s')
    (hindependent : files.Pairwise (e.Independent s)) :
    e.inTurn files s' = (files.map fun file => (e.compile file s).result,
      s'.insertAll (files.map fun file => e.written file s).flatten) := by
  induction files generalizing s' with
  | nil => rfl
  | cons file files ih =>
      have hcompile := compile_congr (hread file List.mem_cons_self)
      obtain ⟨hfirst, hrest⟩ := List.pairwise_cons.1 hindependent
      -- the first file leaves alone what the others read
      have hread' : ∀ other ∈ files, Store.AgreeOn (e.reads other s) s
          (s'.insertAll (e.written file s)) := by
        intro other hother
        refine (hread other (List.mem_cons_of_mem file hother)).insertAll ?_
        intro out hout p hp
        exact (hfirst other hother).ne_of_mem_reads hout hp
      unfold inTurn
      simp only [hcompile, ih hread' hrest, List.map_cons, List.flatten_cons,
        MemoryStore.insertAll_append]

/-- If no two files meet in what one of them writes, then in whatever order they are compiled each
one comes to what it would come to first, and the same store is left. -/
theorem inTurn_perm (e : Engine) (s : MemoryStore) {files others : List SourceFile}
    (hindependent : files.Pairwise (e.Independent s)) (hperm : files.Perm others) :
    (e.inTurn files s).1 = files.map (fun file => (e.compile file s).result) ∧
      (e.inTurn others s).1 = others.map (fun file => (e.compile file s).result) ∧
      (e.inTurn files s).2.Same (e.inTurn others s).2 := by
  have hindependent' : others.Pairwise (e.Independent s) :=
    hperm.pairwise hindependent Independent.symm
  have hread (files : List SourceFile) : ∀ file ∈ files, Store.AgreeOn (e.reads file s) s s :=
    fun _ _ _ _ => rfl
  have hapart : (files.map fun file => e.written file s).Pairwise Apart :=
    List.pairwise_map.2 (hindependent.imp Independent.apart)
  rw [inTurn_of_agree (hread files) hindependent, inTurn_of_agree (hread others) hindependent']
  exact ⟨rfl, rfl, MemoryStore.same_insertAll_perm (hperm.map _) hapart s⟩

/-- `asWritten` with one directory for all that is written. -/
def intoOne : Engine where
  options := { asWritten.options with templateDist := ⟨"out"⟩, publicRoot := ⟨"out"⟩ }
  styleCompiler := asWritten.styleCompiler

/-- A view that includes a script, and one that imports a view outside of the directory. -/
def userAndStranger : List SourceFile :=
  [⟨⟨"a.blade.php"⟩, some "<script data-scoped>exports.include=['lib.js'];</script>"⟩,
    ⟨⟨"b.blade.php"⟩, some "<style data-import=\"../c\"></style>"⟩]

/-- A store with the script. -/
def libraryStore : MemoryStore := .insert .empty ⟨"lib.js"⟩ "lib();"

/-- The first one is compiled and the second one fails, in the other order as well, and the same
store is left. -/
theorem inTurn_perm_userAndStranger :
    userAndStranger.Pairwise (intoOne.Independent libraryStore) ∧
      userAndStranger.Perm userAndStranger.reverse ∧
      (intoOne.inTurn userAndStranger libraryStore).1.map Except.isOk = [true, false] ∧
      (intoOne.inTurn userAndStranger.reverse libraryStore).1.map Except.isOk = [false, true] ∧
      (intoOne.inTurn userAndStranger libraryStore).2.Same
        (intoOne.inTurn userAndStranger.reverse libraryStore).2 := by
  have hindependent : userAndStranger.Pairwise (intoOne.Independent libraryStore) := by
    decide +kernel
  have hresults : (userAndStranger.map fun file =>
      (intoOne.compile file libraryStore).result.isOk) = [true, false] := by
    decide +kernel
  have hperm := (List.reverse_perm userAndStranger).symm
  obtain ⟨hfirst, hother, hsame⟩ := inTurn_perm intoOne libraryStore hindependent hperm
  refine ⟨hindependent, hperm, ?_, ?_, hsame⟩
  · rw [hfirst, List.map_map]
    exact hresults
  · rw [hother, List.map_map, List.map_reverse]
    exact congrArg List.reverse hresults

end Engine

end ScopedViews
