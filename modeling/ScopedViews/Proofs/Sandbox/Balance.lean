import ScopedViews.Proofs.Sandbox.Upkeep.Statements
/-!
# The frames of an evaluation

A call puts up a frame and takes it down however its body ends, and nothing else touches the number
of frames.  A `catch` that goes on behind a failed call therefore finds the frames that were there
before it.  Calls are nested no deeper than there are free frames at first, and the outermost frame
keeps what is bound in it.

* `Run.Balanced`: computations that end with as many frames as they have found;
* `Point.depth_le`, `Point.exists_exports`: the frames at the points of an evaluation;
* `frames_balanced`: all parts of an evaluation, and whole programs.
-/

namespace ScopedViews.Sandbox

open Script

/-- However a computation ends, there are as many frames as at its start. -/
def Run.Balanced {α : Type} (x : Run α) : Prop :=
  ∀ m, (Ending.machine (x m)).depth = m.depth

theorem Plan.balanced {α : Type} {x : Run α} (p : Plan x) : x.Balanced :=
  fun m => (p.returns m).depth

/-! ## How many frames there are -/

/-- The law that admits everything on as many frames as calls may put up. -/
def Law.fewFrames : Law := { Law.everything with frames := (· ≤ maxCallDepth + 1) }

theorem Point.depth_le {source : String} {p : Program} {q : Point}
    (hq : Reaches (.ofProgram source p) q) : q.machine.depth ≤ maxCallDepth + 1 := by
  have hreads : Law.fewFrames.Reads source := fun _ _ _ => trivial
  have hallows : Law.fewFrames.Allows p.literals p.definitions :=
    ⟨fun _ _ => trivial, fun _ _ => trivial⟩
  have hframes (n : Nat) (hn : n ≤ maxCallDepth) : 1 + n ≤ maxCallDepth + 1 := by omega
  have hupholds := Point.upholds_of_respects hreads hallows hframes
    (fun _ _ => ⟨fun _ _ => trivial, fun _ _ => trivial⟩) q hq
  exact (hupholds fun _ _ => trivial).frames

theorem Point.depth_after (q : Point) : q.after.depth = q.machine.depth :=
  q.plan.balanced q.machine

/-! ## The outermost frame -/

theorem Machine.Precedes.exists_exports {m m' : Machine} (h : m.Precedes m')
    (hm : exportsName ∈ m.global.keys) : ∃ v, m'.global.get? exportsName = some v :=
  Option.isSome_iff_exists.1 (OrderedMap.isSome_get?_iff.2 (h.names exportsName hm))

theorem exports_mem_initial : exportsName ∈ Machine.initial.global.keys :=
  OrderedMap.mem_keys_insert.2 (.inr rfl)

/-- Nothing that a program does takes `exports` away. -/
theorem Point.exists_exports {source : String} {p : Program} {q : Point}
    (hq : Reaches (.ofProgram source p) q) {m : Machine} (hm : m = q.machine ∨ m = q.after) :
    ∃ v, m.global.get? exportsName = some v := by
  have hbefore : Machine.Precedes .initial q.machine := Reaches.precedes hq
  rcases hm with rfl | rfl
  · exact hbefore.exists_exports exports_mem_initial
  · exact (hbefore.trans (q.plan.returns q.machine).toPrecedes).exists_exports exports_mem_initial

/-- Where no call is active, names are read off the outermost frame. -/
theorem lookup_of_get? {m : Machine} {name : String} {v : Value} (hdepth : m.depth = 1)
    (h : m.global.get? name = some v) : Run.lookup name m = .ok v m := by
  have hlocals : m.locals = [] := List.length_eq_zero_iff.1 (Nat.succ.inj hdepth)
  refine Run.lookup_of_find? ?_
  rw [Run.find?, hlocals, Run.find?.go, h]

theorem after_ofProgram {source : String} {p : Program} {m : Machine}
    (h : runProgram source p = .ok m) : (Point.ofProgram source p).after = m := by
  unfold runProgram at h
  show Ending.machine (executeBlock (Scene.ofSource source) p.body .initial) = m
  split at h
  next m' hrun =>
    cases h
    rw [hrun]
    rfl
  next => cases h

/-- Statements, expressions, calls and methods end with as many frames as they have found, however
they end; at all points of the evaluation of a program there is the outermost frame, which binds
`exports`, and there are no more frames than calls may be active besides; and in the end `exports`
is what it is bound to there. -/
theorem frames_balanced {source : String} {p : Program} :
    (∀ free : Nat,
      (∀ s, (execute ⟨source, invoke source free⟩ s).Balanced) ∧
      (∀ e, (evaluate ⟨source, invoke source free⟩ e).Balanced) ∧
      (∀ start args, (invoke source free start args).Balanced) ∧
      ∀ receiver method args,
        (Builtin.callMethod (invoke source free) receiver method args).Balanced) ∧
    (∀ q, Reaches (.ofProgram source p) q → ∀ m, m = q.machine ∨ m = q.after →
      m.depth = q.machine.depth ∧ 1 ≤ m.depth ∧ m.depth ≤ maxCallDepth + 1 ∧
        ∃ v, m.global.get? exportsName = some v) ∧
    ∀ m, runProgram source p = .ok m →
      ∃ v, m.global.get? exportsName = some v ∧ Run.lookup exportsName m = .ok v m := by
  refine ⟨fun free => ⟨fun s => ?_, fun e => ?_, fun start args => ?_, fun v method args => ?_⟩,
    fun q hq m hm => ?_, fun m hrun => ?_⟩
  · exact (Plan.execute (Plan.invoke source free) s).balanced
  · exact (Plan.evaluate (Plan.invoke source free) e).balanced
  · exact (Plan.invoke source free start args).balanced
  · exact (Plan.callMethod (Plan.invoke source free) v method args).balanced
  · have hdepth : m.depth = q.machine.depth := by
      rcases hm with rfl | rfl
      · rfl
      · exact q.depth_after
    refine ⟨hdepth, Nat.succ_le_succ (Nat.zero_le _), ?_, Point.exists_exports hq hm⟩
    rw [hdepth]
    exact Point.depth_le hq
  · have hafter := after_ofProgram hrun
    have hstart : Reaches (.ofProgram source p) (.ofProgram source p) := .refl
    obtain ⟨v, hv⟩ := Point.exists_exports hstart (.inr hafter.symm)
    have hdepth : m.depth = 1 := by
      rw [← hafter]
      exact (Point.ofProgram source p).depth_after
    exact ⟨v, hv, lookup_of_get? hdepth hv⟩

end ScopedViews.Sandbox
