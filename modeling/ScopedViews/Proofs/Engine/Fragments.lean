import Mathlib.Algebra.GroupWithZero.Nat
import Mathlib.Data.List.Forall2
import ScopedViews.ScriptAsset
/-!
# What a script asset is joined from

A script asset is joined from the scripts that its block includes and from the calls of the
functions that the block gives.  Only a line feed is put between them.  It ends a statement where
the next fragment cannot go on with it; a fragment that begins with a parenthesis often can, and the
calls of the block's own functions begin with one.

* `IncludedAs`: an included script and what stands for it in the asset;
* `exists_fragments`: what is joined, and how;
* `KeepsStatements`: whether the statements of all fragments are those of the whole.
-/

namespace ScopedViews

/-- The number of statements of a module, directives among them. -/
def Script.Program.statementCount (p : Script.Program) : Nat := p.directives.length + p.body.length

namespace ScriptAsset

variable {σ : Type} [Store σ] {s : σ} {o : Options} {source : String}

/-! ## What is joined -/

/-- The texts that the asset of a script block is joined from. -/
def fragments (s : σ) (o : Options) (source : String) : Except CompileFault (List String) := do
  let m ← (Sandbox.describe source).mapError CompileFault.scriptBlock
  let included ← m.included.mapM fun (path : String) => include? s o ⟨path⟩
  let entry ← lowerEntry o (entry m o.readyWrapper)
  return included ++ entry

/-- A script in the store and its text in an asset, where it stands as it is or printed anew. -/
def IncludedAs (s : σ) (o : Options) (path text : String) : Prop :=
  ∃ found, Store.read s ⟨path⟩ = .ok (some found) ∧
    if o.minify then Script.minify? found = some text else found = text

theorem includedAs_of_include? {path text : String} (h : include? s o ⟨path⟩ = .ok text) :
    IncludedAs s o path text := by
  unfold include? at h
  cases hread : Store.read s ⟨path⟩ with
  | error cause => simp [hread, Except.mapError, bind, Except.bind] at h
  | ok found =>
      simp only [hread, Except.mapError, bind, Except.bind] at h
      cases found with
      | none => cases h
      | some found =>
          refine ⟨found, hread, ?_⟩
          by_cases hminify : o.minify
          · simp only [hminify, if_true] at h ⊢
            split at h
            next code hcode =>
                rw [hcode, Except.ok.inj h]
            next => cases h
          · simpa [hminify] using h

theorem forall₂_of_mapM {α β ε : Type} {act : α → Except ε β} {xs : List α} {ys : List β}
    (h : xs.mapM act = .ok ys) : List.Forall₂ (fun x y => act x = .ok y) xs ys := by
  induction xs generalizing ys with
  | nil =>
      cases h
      exact .nil
  | cons x xs ih =>
      rw [List.mapM_cons] at h
      cases hx : act x with
      | error fault =>
          rw [hx] at h
          cases h
      | ok y =>
          cases hxs : xs.mapM act with
          | error fault =>
              rw [hx, hxs] at h
              cases h
          | ok rest =>
              rw [hx, hxs] at h
              cases h
              exact .cons hx (ih hxs)

/-- An asset consists of the included scripts in their order and of the calls behind them, if there
are any, with a line feed between any two. -/
theorem exists_fragments {asset : ScriptAsset} (h : ofBlock s o source = .ok asset) :
    ∃ m included calls, Sandbox.describe source = .ok m ∧
      List.Forall₂ (IncludedAs s o) m.included included ∧
      lowerEntry o (entry m o.readyWrapper) = .ok calls ∧
      fragments s o source = .ok (included ++ calls) ∧
      asset = ⟨"\n".intercalate (included ++ calls), m.required⟩ := by
  unfold ofBlock at h
  unfold fragments
  cases hdescribe : Sandbox.describe source with
  | error fault => simp [hdescribe, Except.mapError, bind, Except.bind] at h
  | ok m =>
      cases hincluded : m.included.mapM fun (path : String) => include? s o ⟨path⟩ with
      | error fault => simp [hdescribe, hincluded, Except.mapError, bind, Except.bind] at h
      | ok included =>
          cases hcalls : lowerEntry o (entry m o.readyWrapper) with
          | error fault =>
              simp [hdescribe, hincluded, hcalls, Except.mapError, bind, Except.bind] at h
          | ok calls =>
              simp only [hdescribe, hincluded, hcalls, Except.mapError, bind, Except.bind, pure,
                Except.pure, Except.ok.injEq] at h ⊢
              exact ⟨m, included, calls, rfl,
                (forall₂_of_mapM hincluded).imp fun _ _ => includedAs_of_include?, hcalls, rfl,
                h.symm⟩

/-! ## Statements -/

/-- Whether texts that are modules are one module when they are joined, with as many statements as
they have together. -/
def KeepsStatements (texts : List String) : Prop :=
  ∀ ps, texts.mapM Script.Program.parse? = some ps → (∀ p ∈ ps, p.hashbang = none) →
    ∃ whole, Script.Program.parse? ("\n".intercalate texts) = some whole ∧
      whole.statementCount = (ps.map (·.statementCount)).sum

theorem eq_ok_of_toOption {α ε : Type} {x : Except ε α} {a : α} (h : x.toOption = some a) :
    x = .ok a := by
  cases x with
  | error fault => simp [Except.toOption] at h
  | ok b => simpa [Except.toOption] using h

/-- A store with a script that consists of a call. -/
def callStore : MemoryStore := MemoryStore.empty.insert ⟨"lib.js"⟩ "lib()"

/-- A block that includes this script and gives a function. -/
def callingBlock : String := "exports.include=['lib.js']; exports.init=function(){};"

/-- The call of the block's function becomes a call of what the included call returns. -/
theorem not_keepsStatements_callingBlock :
    ∃ asset, ofBlock callStore {} callingBlock = .ok asset ∧
      fragments callStore {} callingBlock = .ok ["lib()", "(function() {})();\n"] ∧
      asset.contents = "lib()\n(function() {})();\n" ∧
      ¬ KeepsStatements ["lib()", "(function() {})();\n"] := by
  have hasset : (ofBlock callStore {} callingBlock).toOption =
      some ⟨"lib()\n(function() {})();\n", []⟩ := by
    decide +kernel
  have hfragments : (fragments callStore {} callingBlock).toOption =
      some ["lib()", "(function() {})();\n"] := by
    decide +kernel
  have hcounts : (["lib()", "(function() {})();\n"].mapM Script.Program.parse?).map
      (·.map fun p => (p.hashbang, p.statementCount)) = some [(none, 1), (none, 1)] := by
    decide +kernel
  have hwhole : (Script.Program.parse? "lib()\n(function() {})();\n").map (·.statementCount) =
      some 1 := by
    decide +kernel
  refine ⟨_, eq_ok_of_toOption hasset, eq_ok_of_toOption hfragments, rfl, fun hkeeps => ?_⟩
  obtain ⟨ps, hps, hcounts⟩ := Option.map_eq_some_iff.1 hcounts
  have hbang : ∀ p ∈ ps, p.hashbang = none := by
    intro p hp
    have hmem := List.mem_map_of_mem (f := fun p => (p.hashbang, p.statementCount)) hp
    rw [hcounts] at hmem
    obtain ⟨hnone, -⟩ : p.hashbang = none ∧ p.statementCount = 1 := by simpa using hmem
    exact hnone
  have hsum : (ps.map (·.statementCount)).sum = 2 := by
    have hsecond := congrArg (fun counts => (counts.map Prod.snd).sum) hcounts
    simpa [Function.comp_def] using hsecond
  obtain ⟨whole, hparse, hcount⟩ := hkeeps ps hps hbang
  have hjoined : "\n".intercalate ["lib()", "(function() {})();\n"] =
      "lib()\n(function() {})();\n" := by decide
  rw [hjoined] at hparse
  rw [hparse, Option.map_some, hcount, hsum] at hwhole
  cases hwhole

end ScriptAsset

end ScopedViews
