import ScopedViews.Proofs.Sandbox.Trace
/-!
# What becomes of finalizers

A finalizer is meant to run once, behind everything else in its `try` statement, whichever way the
block and the handler have come to an end that script code can see: normally, left early, or in an
exception.  If it ends normally, what was pending goes on, and otherwise it takes its place.  This
is what happens wherever the block has not failed or a handler has taken its exception.  Where there
is no handler, an exception of the block leaves the statement at once, and its finalizer is passed
over.

* `Completion`, `Completes`: what block and handler have come to, and the course they have taken;
* `Finalizes`: the finalizer runs once and last, and decides what becomes of the statement;
* `finalizes_of_pending`, `not_finalizes_of_unhandled`: where it does and where it does not;
* `finalizes_iff`: the finalizers that run.
-/

namespace ScopedViews.Sandbox

open Script

/-- An end that script code can see: no fault, or one that may be caught. -/
abbrev Completion := Except Exception Flow

/-- A completion among all that may be pending behind a finalizer. -/
def Completion.pending (c : Completion) : Except Fault Flow := c.mapError .exception

section Statement

variable {t : TryStatement} (block : Plan t.runBlock) (handler : Plan t.runHandler)
  (finalizer : Plan t.runFinalizer) (m : Machine)

/-- How the block of a statement, and its handler when it runs, come to a completion: the small
computations on the way to it, the completion, and the machine that they leave. -/
inductive Completes : List Point → Completion → Machine → Prop
  | done {flow : Flow} {m' : Machine} (hblock : t.runBlock m = .ok flow m') :
      Completes (block.trace m) (.ok flow) m'
  | unhandled {e : Exception} {m' : Machine}
      (hblock : t.runBlock m = .error (.exception e) m') (hhandler : t.handler.isSome = false) :
      Completes (block.trace m) (.error e) m'
  | handled {e : Exception} {flow : Flow} {m₁ m₂ m' : Machine}
      (hblock : t.runBlock m = .error (.exception e) m₁) (hhandler : t.handler.isSome = true)
      (htake : t.take e m₁ = .ok () m₂) (hrun : t.runHandler m₂ = .ok flow m') :
      Completes (block.trace m ++ ⟨.leaf (.bindCaught t.param e.caught), m₁⟩ :: handler.trace m₂)
        (.ok flow) m'
  | failed {e cause : Exception} {m₁ m₂ m' : Machine}
      (hblock : t.runBlock m = .error (.exception e) m₁) (hhandler : t.handler.isSome = true)
      (htake : t.take e m₁ = .ok () m₂) (hrun : t.runHandler m₂ = .error (.exception cause) m') :
      Completes (block.trace m ++ ⟨.leaf (.bindCaught t.param e.caught), m₁⟩ :: handler.trace m₂)
        (.error cause) m'

/-- The finalizer runs once, behind all that has been run before it, and the statement ends as it
does, or with what was pending if it ends normally. -/
structure Finalizes (ran : List Point) (c : Completion) (m' : Machine) : Prop where
  once : (Plan.attempt t block handler finalizer).trace m = ran ++ finalizer.trace m'
  normal : ∀ m'', t.runFinalizer m' = .ok .normal m'' →
    t.run m = TryStatement.complete c.pending m''
  early : ∀ flow m'', t.runFinalizer m' = .ok flow m'' → flow ≠ .normal → t.run m = .ok flow m''
  fault : ∀ fault m'', t.runFinalizer m' = .error fault m'' → t.run m = .error fault m''

end Statement

/-! ## Where finalizers run -/

/-- Every evaluation comes to a small computation. -/
theorem Plan.trace_ne_nil {α : Type} {x : Run α} (p : Plan x) (m : Machine) : p.trace m ≠ [] := by
  induction p generalizing m with
  | leaf h => exact List.cons_ne_nil _ _
  | bind first next ihfirst _ =>
      rw [trace]
      exact List.append_ne_nil_of_left_ne_nil (ihfirst m) _
  | map f inner ih => exact ih m
  | frame inner ih => exact ih _
  | attempt t block handler finalizer ihblock _ _ =>
      rw [trace]
      exact List.append_ne_nil_of_left_ne_nil (ihblock m) _

section Statement

variable {t : TryStatement} {block : Plan t.runBlock} {handler : Plan t.runHandler}
  {finalizer : Plan t.runFinalizer} {m m' : Machine} {ran : List Point} {c : Completion}

/-- What is pending where the finalizer starts is settled by it. -/
theorem finalizes_of_pending (hpending : Pending t m c.pending m')
    (hcourse : (Plan.attempt t block handler finalizer).trace m = ran ++ finalizer.trace m') :
    Finalizes block handler finalizer m ran c m' where
  once := hcourse
  normal m'' hfinalizer := by
    rw [TryStatement.run_of_pending hpending, TryStatement.finish_of_normal hfinalizer]
  early flow m'' hfinalizer hflow := by
    rw [TryStatement.run_of_pending hpending, TryStatement.finish_of_early hfinalizer hflow]
  fault fault m'' hfinalizer := by
    rw [TryStatement.run_of_pending hpending, TryStatement.finish_of_error hfinalizer]

/-- Behind an exception that nothing handles nothing more is run. -/
theorem trace_of_unhandled {e : Exception} (hblock : t.runBlock m = .error (.exception e) m')
    (hhandler : t.handler.isSome = false) :
    (Plan.attempt t block handler finalizer).trace m = block.trace m := by
  simp [Plan.trace, hblock, hhandler]

/-- Behind a handler the finalizer is run, whatever the handler has come to. -/
theorem trace_of_handled {e : Exception} {m₁ m₂ : Machine} {r : Ending Flow}
    (hblock : t.runBlock m = .error (.exception e) m₁) (hhandler : t.handler.isSome = true)
    (htake : t.take e m₁ = .ok () m₂) (hrun : t.runHandler m₂ = r) :
    (Plan.attempt t block handler finalizer).trace m =
      (block.trace m ++ ⟨.leaf (.bindCaught t.param e.caught), m₁⟩ :: handler.trace m₂) ++
        finalizer.trace (Ending.machine r) := by
  cases r with
  | ok flow m' => simp [Plan.trace, hblock, hhandler, htake, hrun, Ending.machine]
  | error fault m' => simp [Plan.trace, hblock, hhandler, htake, hrun, Ending.machine]

theorem not_finalizes_of_unhandled {e : Exception}
    (hblock : t.runBlock m = .error (.exception e) m') (hhandler : t.handler.isSome = false) :
    ¬ Finalizes block handler finalizer m (block.trace m) c m' := by
  intro hfinalizes
  -- the finalizer would have come to a small computation of its own
  have honce := hfinalizes.once
  rw [trace_of_unhandled hblock hhandler] at honce
  exact finalizer.trace_ne_nil m' (List.self_eq_append_right.1 honce)

/-- A finalizer runs once and last, and decides what becomes of its statement, exactly if there is a
handler or the block has not ended in an exception. -/
theorem finalizes_iff (h : Completes block handler m ran c m') :
    Finalizes block handler finalizer m ran c m' ↔
      t.handler.isSome = true ∨ ∃ flow, c = .ok flow := by
  cases h with
  | done hblock =>
      have hcourse : (Plan.attempt t block handler finalizer).trace m =
          block.trace m ++ finalizer.trace m' := by
        simp [Plan.trace, hblock]
      exact iff_of_true (finalizes_of_pending (.done hblock) hcourse) (.inr ⟨_, rfl⟩)
  | unhandled hblock hhandler =>
      refine iff_of_false (not_finalizes_of_unhandled hblock hhandler) ?_
      simp [hhandler]
  | handled hblock hhandler htake hrun =>
      have hpending := Pending.handled hblock hhandler htake hrun
      exact iff_of_true (finalizes_of_pending hpending
        (trace_of_handled hblock hhandler htake hrun)) (.inl hhandler)
  | failed hblock hhandler htake hrun =>
      have hpending := Pending.failed hblock hhandler htake hrun
      exact iff_of_true (finalizes_of_pending hpending
        (trace_of_handled hblock hhandler htake hrun)) (.inl hhandler)

end Statement

/-! ## An exception with and without a handler -/

/-- The statement `try { throw 'a'; } finally { break; }`, with or without a handler that does
nothing. -/
def throwing (handler : Option Stmt) : TryStatement where
  scene := .ofSource ""
  span := ⟨0, 0⟩
  block := .throwing ⟨0, 0⟩ (.string ⟨0, 0⟩ "a")
  param := none
  handler := handler
  finalizer := some (.breakTo ⟨0, 0⟩ none)

section Throwing

variable (handler : Option Stmt)

def throwingBlock : Plan (throwing handler).runBlock :=
  .execute (.invoke "" maxCallDepth) (throwing handler).block

def throwingHandler : Plan (throwing handler).runHandler :=
  .executeOption (.invoke "" maxCallDepth) (throwing handler).handler

def throwingFinalizer : Plan (throwing handler).runFinalizer :=
  .executeOption (.invoke "" maxCallDepth) (throwing handler).finalizer

theorem runBlock_throwing (m : Machine) :
    (throwing handler).runBlock m = .error (.exception (.thrown "a")) m :=
  rfl

end Throwing

/-- With a handler the finalizer is run, and the statement is left as it says. -/
theorem finalizes_throwing_handled :
    ∃ ran c m', Completes (throwingBlock (some (.empty ⟨0, 0⟩))) (throwingHandler _) .initial
        ran c m' ∧
      Finalizes (throwingBlock (some (.empty ⟨0, 0⟩))) (throwingHandler _) (throwingFinalizer _)
        .initial ran c m' := by
  have hcompletes : Completes (throwingBlock (some (.empty ⟨0, 0⟩))) (throwingHandler _) .initial
      _ _ _ := .handled (runBlock_throwing _ .initial) rfl rfl rfl
  exact ⟨_, _, _, hcompletes, (finalizes_iff hcompletes).2 (.inl rfl)⟩

/-- A block whose exception is handled only outside the statement that has a finalizer. -/
def handledOutside : String :=
  "var f = 'f'; try { try { throw f; } finally { exports.include.push(f); } } catch (e) { }"

/-- Without a handler the finalizer is passed over, although the statement has come to a completion
that script code can see; a list to which it would add is empty. -/
theorem not_finalizes_throwing :
    (∃ ran c m', (throwing none).finalizer.isSome = true ∧
      Completes (throwingBlock none) (throwingHandler none) .initial ran c m' ∧
      ¬ Finalizes (throwingBlock none) (throwingHandler none) (throwingFinalizer none) .initial
        ran c m') ∧
    describe handledOutside = .ok ⟨[], [], none, none⟩ := by
  have hblock := runBlock_throwing none .initial
  have hresult : (describe handledOutside).toOption = some ⟨[], [], none, none⟩ := by
    decide +kernel
  exact ⟨⟨_, _, _, rfl, .unhandled hblock rfl, not_finalizes_of_unhandled hblock rfl⟩,
    describe_eq_ok hresult⟩

end ScopedViews.Sandbox
