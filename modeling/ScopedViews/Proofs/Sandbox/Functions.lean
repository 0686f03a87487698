import Mathlib.Data.List.Nodup
import ScopedViews.Proofs.Sandbox.Balance
import ScopedViews.Proofs.Sandbox.Limits
import ScopedViews.Sandbox.Metadata
/-!
# Functions and their code

A function value is a text and the place where its definition starts.  The definition itself is
registered under that place when the value is made, and stays registered.  So every function value
that is around is that of a function of the program: its definition is found when it is called, and
its text is what stands in the source.

* `Held`: the values that are around, in the machine and in lists of arguments;
* `Machine.Ties`: a function value is that of a function of the program;
* `functions_tied`: all function values are, none fails to be found, and exported texts are theirs.
-/

namespace ScopedViews.Sandbox

open Script

/-- The point at which arguments are evaluated with a number of free frames. -/
def Point.ofItems (source : String) (free : Nat) (es : List Expr) (m : Machine) : Point where
  run := evaluateItems ⟨source, invoke source free⟩ es #[]
  plan := Plan.evaluateItems (Plan.invoke source free) es #[]
  machine := m

/-- The values that are around on a machine: those that it holds, and those of arguments that have
been evaluated before.  The functions in the arguments are functions of the program. -/
inductive Held (source : String) (p : Program) (m : Machine) : Value → Prop
  | stored {v : Value} (h : m.Contains v) : Held source p m v
  | pending {free : Nat} {es rest : List Expr} {start behind : Machine} {args : Array Value}
      {v : Value}
      (hreaches : Reaches (.ofProgram source p) (.ofItems source free (es ++ rest) start))
      (hdefined : ∀ d ∈ Expr.definitionsOfAll es, d ∈ p.definitions)
      (hargs : evaluateItems ⟨source, invoke source free⟩ es #[] start = .ok args behind)
      (hlater : behind.Precedes m) (hv : v ∈ args) : Held source p m v

/-- The definition of a function value stands in the program and is registered, and its text is that
of the value. -/
def Machine.Ties (m : Machine) (source : String) (p : Program) (f : FunctionRef) : Prop :=
  ∃ d ∈ p.definitions, d.start = f.start ∧ m.functions.get? f.start = some d.function ∧
    f.source = d.text source

/-! ## The law of functions -/

/-- The law of function values that are those of a program and that a machine has registered. -/
def Law.registered (source : String) (p : Program) (m : Machine) : Law :=
  { Law.everything with
    function := fun f => ∃ d ∈ p.definitions, d.start = f.start ∧ f.source = d.text source
    start := (· ∈ m.starts)
    definition := (· ∈ p.definitions) }

section Registered

variable {source : String} {p : Program} {m m' : Machine} {q : Point}

theorem reads_registered : (Law.registered source p m).Reads source :=
  fun d hd _ => ⟨d, hd, rfl, rfl⟩

theorem respects_registered : (Law.registered source p m).Respects q :=
  ⟨fun _ _ => trivial, fun _ _ => trivial⟩

theorem live_registered (h : m'.Precedes m) : (Law.registered source p m).Live m' := h.starts

theorem upholds_registered (hq : Reaches (.ofProgram source p) q) :
    (Law.registered source p m).Upholds q :=
  Point.upholds_of_respects reads_registered ⟨fun _ _ => trivial, fun _ hd => hd⟩
    (fun _ _ => trivial) (fun _ _ => respects_registered) q hq

/-- What has been registered at the time of a machine is what the law of the machine admits. -/
theorem holds_registered (hq : Reaches (.ofProgram source p) q)
    (hm : m = q.machine ∨ m = q.after) : (Law.registered source p m).Holds m := by
  have hprecedes := (q.plan.returns q.machine).toPrecedes
  rcases hm with rfl | rfl
  · exact (upholds_registered hq (live_registered (.refl _))).before
  · have hstands := upholds_registered hq (live_registered hprecedes)
    exact (hstands.after (live_registered (.refl _))).holds

/-- Arguments that have been evaluated are admitted from then on. -/
theorem admits_pending {free : Nat} {es rest : List Expr} {start behind : Machine}
    {args : Array Value}
    (hreaches : Reaches (.ofProgram source p) (.ofItems source free (es ++ rest) start))
    (hdefined : ∀ d ∈ Expr.definitionsOfAll es, d ∈ p.definitions)
    (hargs : evaluateItems ⟨source, invoke source free⟩ es #[] start = .ok args behind)
    (hlater : behind.Precedes m) : ∀ v ∈ args, (Law.registered source p m).Admits v := by
  have hreads : (Law.registered source p m).Reads source := reads_registered
  have hscene : @Plan.SoundScene (.registered source p m) free ⟨source, invoke source free⟩
      (Plan.invoke source free) :=
    ⟨hreads, Plan.sound_invoke hreads free⟩
  have hready : (Law.registered source p m).Ready free start :=
    ⟨fun hlive => (upholds_registered hreaches hlive).before, fun _ _ => trivial⟩
  have hrespects : (Point.ofItems source free es start).plan.All
      (Law.registered source p m).Respects start :=
    Plan.all_intro _ fun _ _ => respects_registered
  have hsound := Plan.sound_evaluateItems hscene es #[] ⟨fun _ _ => trivial, hdefined⟩ (by simp)
    start hready hrespects
  exact hsound.2 args behind hargs (live_registered hlater)

theorem admits_held (hq : Reaches (.ofProgram source p) q) (hm : m = q.machine ∨ m = q.after)
    {v : Value} (hv : Held source p m v) : (Law.registered source p m).Admits v := by
  cases hv with
  | stored h => exact (holds_registered hq hm).admits h
  | pending hreaches hdefined hargs hlater hv =>
      exact admits_pending hreaches hdefined hargs hlater v hv

/-- One definition only starts where a function value says that its definition does. -/
theorem ties_of_admits (hstarts : (p.definitions.map Definition.start).Nodup) {f : FunctionRef}
    (hm : (Law.registered source p m).Holds m)
    (hf : (Law.registered source p m).Admits (.function f)) : m.Ties source p f := by
  obtain ⟨hregistered, d, hd, hstart, htext⟩ := hf
  obtain ⟨g, hg⟩ := Option.isSome_iff_exists.1 (OrderedMap.isSome_get?_iff.2 hregistered)
  obtain ⟨d', hd', hstart', rfl⟩ := (hm.functions _ (OrderedMap.mem_of_get? hg)).defined
  obtain rfl : d' = d :=
    List.inj_on_of_nodup_map hstarts hd' hd (hstart'.trans hstart.symm)
  exact ⟨d', hd, hstart, hg, htext⟩

end Registered

/-! ## Programs -/

/-- A function that is called is found. -/
theorem ne_unknownFunction {source : String} {p : Program} {q : Point}
    (hq : Reaches (.ofProgram source p) q) (m : Machine) :
    q.run q.machine ≠ .error (.exception (.type .unknownFunction)) m := by
  intro h
  obtain ⟨r, hr, ⟨hleaf, m⟩, m', hmisses⟩ := Plan.exists_leaf_of_error q.plan h
  -- what is called there may be called by the law of what is registered there
  have hstands := upholds_registered (m := m) (hq.trans hr) (live_registered (.refl m))
  obtain ⟨start, hstart, hmissing⟩ := hstands.known ⟨m', hmisses⟩
  exact hmissing hstart

/-- A text that is exported is that of a function of the program. -/
theorem exists_definition_of_export {source : String} {p : Program} {m : Machine}
    (h : runProgram source p = .ok m) {v : Value} {key text : String}
    (htext : functionText (v.get m.heap key) = some text) :
    ∃ d ∈ p.definitions, text = d.text source := by
  have hstart : Reaches (.ofProgram source p) (.ofProgram source p) := .refl
  have hadmits := (holds_registered hstart (.inr (after_ofProgram h).symm)).get v key
  cases hget : v.get m.heap key with
  | function f =>
      rw [hget] at htext hadmits
      cases htext
      obtain ⟨-, d, hd, -, hsource⟩ := hadmits
      exact ⟨d, hd, hsource⟩
  | undefined | null | bool | number | string | array | object =>
      rw [hget] at htext
      cases htext

/-- Where no two functions of a program start at one place, every function value that is around is
that of the function that starts where it says, which is registered under this place; no part of the
evaluation says that a function is unknown; and what a program exports to be run is the text of one
of its functions. -/
theorem functions_tied {source : String} {p : Program}
    (hstarts : (p.definitions.map Definition.start).Nodup) :
    (∀ q, Reaches (.ofProgram source p) q → ∀ m, m = q.machine ∨ m = q.after →
      ∀ f, Held source p m (.function f) → m.Ties source p f) ∧
    (∀ q, Reaches (.ofProgram source p) q → ∀ m,
      q.run q.machine ≠ .error (.exception (.type .unknownFunction)) m) ∧
    ∀ m, runProgram source p = .ok m → ∀ text,
      (Metadata.ofMachine m).init = some text ∨ (Metadata.ofMachine m).ready = some text →
        ∃ d ∈ p.definitions, text = d.text source := by
  refine ⟨fun q hq m hm f hf => ?_, fun q hq m => ne_unknownFunction hq m,
    fun m hrun text htext => ?_⟩
  · exact ties_of_admits hstarts (holds_registered hq hm) (admits_held hq hm hf)
  · rcases htext with hinit | hready
    · exact exists_definition_of_export hrun hinit
    · rcases Option.or_eq_some_iff.1 hready with hready | ⟨-, hmain⟩
      · exact exists_definition_of_export hrun hready
      · exact exists_definition_of_export hrun hmain

/-- A declaration, an arrow and a method that are handed around. -/
def handedAround : String :=
  "function f(g) { return g; } exports.ready = [() => f].concat(f({ m() { } }.m))[1];"

theorem functions_tied_handedAround :
    ∃ p, Program.parse? handedAround = some p ∧ (p.definitions.map Definition.start).Nodup ∧
      (∀ q, Reaches (.ofProgram handedAround p) q → ∀ f,
        Held handedAround p q.machine (.function f) → q.machine.Ties handedAround p f) ∧
      ∃ m, runProgram handedAround p = .ok m ∧
        (Metadata.ofMachine m).ready = some "function() { }" ∧
        ∃ d ∈ p.definitions, d.text handedAround = "function() { }" := by
  have hrun : (Program.parse? handedAround).any (fun p =>
      decide (p.definitions.map Definition.start).Nodup &&
        (runProgram handedAround p).toOption.any fun m =>
          (Metadata.ofMachine m).ready == some "function() { }") = true := by
    decide +kernel
  obtain ⟨p, hparse, hrun⟩ := (Option.any_eq_true _ _).1 hrun
  rw [Bool.and_eq_true] at hrun
  have hstarts := of_decide_eq_true hrun.1
  obtain ⟨hties, -, hexports⟩ := @functions_tied handedAround p hstarts
  cases hrunProgram : runProgram handedAround p with
  | error fault =>
      rw [hrunProgram] at hrun
      cases hrun.2
  | ok m =>
      rw [hrunProgram] at hrun
      have hready : (Metadata.ofMachine m).ready = some "function() { }" := beq_iff_eq.1 hrun.2
      obtain ⟨d, hd, htext⟩ := hexports m hrunProgram _ (.inr hready)
      exact ⟨p, hparse, hstarts, fun q hq f hf => hties q hq _ (.inl rfl) f hf, m, hrunProgram,
        hready, d, hd, htext.symm⟩

end ScopedViews.Sandbox
