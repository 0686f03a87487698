import ScopedViews.Proofs.Sandbox.Functions
import ScopedViews.Proofs.Script.Callers
/-!
# Functions that are handed out

What a script block exports to be run is the text of a function value, and the text is all that is
left of the function then.  It is cut out of the source where the function is written, so it denotes
the function if what is written there stands alone.  A method is written behind its name and its
modifiers, and its text is made from its parameters on: the modifiers are not in it, so the text of
an async method or of a generator denotes a plain function, if it denotes one at all.

* `exists_denoted_iff_of_held`: the function values that their texts denote;
* `callbacks_denoted_iff`: these, and the texts that a program exports;
* `callers_denoted`: programs whose functions do nothing but call names;
* `not_denoted_asyncMethod`: an async method that is exported.
-/

namespace ScopedViews.Sandbox

open Script

variable {source : String} {p : Program}

/-- A function value that is around is that of a function of the program, and its text denotes this
function exactly if it stands alone and is no method with modifiers. -/
theorem exists_denoted_iff_of_held
    (hparams : ∀ d ∈ p.definitions, d.isMethod = true → d.AtParams source) {q : Point}
    (hq : Reaches (.ofProgram source p) q) {m : Machine} (hm : m = q.machine ∨ m = q.after)
    {f : FunctionRef} (hf : Held source p m (.function f)) :
    ∃ d ∈ p.definitions, d.start = f.start ∧
      (d.IsDenotedBy source f.source ↔
        d.StandsAlone source ∧ (d.isMethod = true → d.function.IsPlain)) := by
  obtain ⟨-, d, hd, hstart, htext⟩ := admits_held hq hm hf
  refine ⟨d, hd, hstart, ?_⟩
  rw [htext]
  exact d.isDenotedBy_text_iff (hparams d hd)

/-- The texts of the metadata are those of functions of the program. -/
theorem exists_definition_of_metadata {m : Machine} (hrun : runProgram source p = .ok m)
    {text : String}
    (h : (Metadata.ofMachine m).init = some text ∨ (Metadata.ofMachine m).ready = some text) :
    ∃ d ∈ p.definitions, text = d.text source := by
  obtain hinit | hready := h
  · exact exists_definition_of_export hrun hinit
  · -- where nothing is exported as `ready`, `main` is taken for it
    obtain hready | ⟨-, hmain⟩ := Option.or_eq_some_iff.1 hready
    · exact exists_definition_of_export hrun hready
    · exact exists_definition_of_export hrun hmain

/-- Where methods are written from their parameters on, the text of every function value that is
around, and every text that a program exports to be run, is that of a function of the program.  It
denotes this function exactly if what is written of it stands alone and it is no method that is
async or a generator. -/
theorem callbacks_denoted_iff
    (hparams : ∀ d ∈ p.definitions, d.isMethod = true → d.AtParams source) :
    (∀ q, Reaches (.ofProgram source p) q → ∀ m, m = q.machine ∨ m = q.after →
      ∀ f, Held source p m (.function f) → ∃ d ∈ p.definitions, d.start = f.start ∧
        (d.IsDenotedBy source f.source ↔
          d.StandsAlone source ∧ (d.isMethod = true → d.function.IsPlain))) ∧
    ∀ m, runProgram source p = .ok m → ∀ text,
      (Metadata.ofMachine m).init = some text ∨ (Metadata.ofMachine m).ready = some text →
        ∃ d ∈ p.definitions, (d.IsDenotedBy source text ↔
          d.StandsAlone source ∧ (d.isMethod = true → d.function.IsPlain)) := by
  refine ⟨fun q hq m hm f hf => exists_denoted_iff_of_held hparams hq hm hf,
    fun m hrun text htext => ?_⟩
  obtain ⟨d, hd, rfl⟩ := exists_definition_of_metadata hrun htext
  exact ⟨d, hd, d.isDenotedBy_text_iff (hparams d hd)⟩

/-- Callers stand alone and have no modifiers, so that where all functions of a program are such,
the texts of all that it has and exports denote them. -/
theorem callers_denoted (hcallers : ∀ d ∈ p.definitions, ∃ c, d.IsCaller source c) :
    (∀ q, Reaches (.ofProgram source p) q → ∀ m, m = q.machine ∨ m = q.after →
      ∀ f, Held source p m (.function f) →
        ∃ d ∈ p.definitions, d.start = f.start ∧ d.IsDenotedBy source f.source) ∧
    ∀ m, runProgram source p = .ok m → ∀ text,
      (Metadata.ofMachine m).init = some text ∨ (Metadata.ofMachine m).ready = some text →
        ∃ d ∈ p.definitions, d.IsDenotedBy source text := by
  have hparams (d : Definition) (hd : d ∈ p.definitions) (hmethod : d.isMethod = true) :
      d.AtParams source := by
    obtain ⟨c, hc⟩ := hcallers d hd
    exact hc.atParams hmethod
  refine ⟨fun q hq m hm f hf => ?_, fun m hrun text htext => ?_⟩
  · obtain ⟨d, hd, hstart, hiff⟩ := exists_denoted_iff_of_held hparams hq hm hf
    obtain ⟨c, hc⟩ := hcallers d hd
    exact ⟨d, hd, hstart, hiff.2 ⟨hc.standsAlone, fun _ => hc.isPlain⟩⟩
  · obtain ⟨d, hd, rfl⟩ := exists_definition_of_metadata hrun htext
    obtain ⟨c, hc⟩ := hcallers d hd
    exact ⟨d, hd, (d.isDenotedBy_text_iff (hparams d hd)).2 ⟨hc.standsAlone, fun _ => hc.isPlain⟩⟩

/-! ## Methods that are exported -/

/-- An async arrow and a plain method as callbacks. -/
def plainMethod : String := "exports = { init: async x => await x, ready() { go(); } };"

theorem callbacks_denoted_plainMethod :
    ∃ p, Program.parse? plainMethod = some p ∧
      (∀ d ∈ p.definitions, d.isMethod = true → d.AtParams plainMethod) ∧
      (∀ q, Reaches (.ofProgram plainMethod p) q → ∀ f,
        Held plainMethod p q.machine (.function f) →
          ∃ d ∈ p.definitions, d.start = f.start ∧ d.IsDenotedBy plainMethod f.source) ∧
      ∃ m, runProgram plainMethod p = .ok m ∧
        (Metadata.ofMachine m).ready = some "function() { go(); }" ∧
        ∃ d ∈ p.definitions, d.IsDenotedBy plainMethod "function() { go(); }" := by
  have hrun : (Program.parse? plainMethod).any (fun p =>
      decide (∀ d ∈ p.definitions, (d.isMethod = true → d.AtParams plainMethod) ∧
        d.StandsAlone plainMethod ∧ (d.isMethod = true → d.function.IsPlain)) &&
        (runProgram plainMethod p).toOption.any fun m =>
          (Metadata.ofMachine m).ready == some "function() { go(); }") = true := by
    decide +kernel
  obtain ⟨p, hparse, hrun⟩ := (Option.any_eq_true _ _).1 hrun
  rw [Bool.and_eq_true] at hrun
  have hdefinitions := of_decide_eq_true hrun.1
  have hparams : ∀ d ∈ p.definitions, d.isMethod = true → d.AtParams plainMethod :=
    fun d hd => (hdefinitions d hd).1
  obtain ⟨hheld, hexports⟩ := callbacks_denoted_iff hparams
  cases hrunProgram : runProgram plainMethod p with
  | error fault =>
      rw [hrunProgram] at hrun
      cases hrun.2
  | ok m =>
      rw [hrunProgram] at hrun
      have hready : (Metadata.ofMachine m).ready = some "function() { go(); }" :=
        beq_iff_eq.1 hrun.2
      refine ⟨p, hparse, hparams, fun q hq f hf => ?_, m, hrunProgram, hready, ?_⟩
      · obtain ⟨d, hd, hstart, hiff⟩ := hheld q hq _ (.inl rfl) f hf
        exact ⟨d, hd, hstart, hiff.2 (hdefinitions d hd).2⟩
      · obtain ⟨d, hd, hiff⟩ := hexports m hrunProgram _ (.inr hready)
        exact ⟨d, hd, hiff.2 (hdefinitions d hd).2⟩

/-- An async method as a callback. -/
def asyncMethod : String := "exports = { async ready() { go(); } };"

/-- The text that is exported for an async method denotes another function, although what is written
of the method stands alone. -/
theorem not_denoted_asyncMethod :
    ∃ p, Program.parse? asyncMethod = some p ∧ ∃ d ∈ p.definitions,
      describe asyncMethod = .ok ⟨[], [], none, some (d.text asyncMethod)⟩ ∧
      d.text asyncMethod = "function() { go(); }" ∧
      ¬ d.IsDenotedBy asyncMethod (d.text asyncMethod) ∧ d.StandsAlone asyncMethod := by
  have hrun : (Program.parse? asyncMethod).any (fun p => p.definitions.any fun d =>
      d.text asyncMethod == "function() { go(); }" &&
        !decide (d.IsDenotedBy asyncMethod (d.text asyncMethod)) &&
        decide (d.StandsAlone asyncMethod)) = true := by
    decide +kernel
  have hresult : (describe asyncMethod).toOption =
      some ⟨[], [], none, some "function() { go(); }"⟩ := by
    decide +kernel
  obtain ⟨p, hparse, hdefinitions⟩ := (Option.any_eq_true _ _).1 hrun
  obtain ⟨d, hd, hfound⟩ := List.any_eq_true.1 hdefinitions
  simp only [Bool.and_eq_true, beq_iff_eq, Bool.not_eq_true', decide_eq_false_iff_not,
    decide_eq_true_eq] at hfound
  obtain ⟨⟨htext, hnot⟩, halone⟩ := hfound
  refine ⟨p, hparse, d, hd, ?_, htext, hnot, halone⟩
  rw [htext]
  exact describe_eq_ok hresult

end ScopedViews.Sandbox
