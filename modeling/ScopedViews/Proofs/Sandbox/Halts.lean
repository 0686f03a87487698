import ScopedViews.Proofs.Sandbox.Execution
import ScopedViews.Sandbox.Metadata
/-!
# What becomes of halts

A halt ends the whole evaluation, and nothing is supposed to catch it.  It passes through everything
but a `try` statement with a finalizer, and through the block of one as well, for then the finalizer
is not run.  Where the handler ends in a halt, however, the finalizer is run, and if it is left
early or ends in a fault of its own, this is what becomes of the statement.

* `Overrides`: a finalizer takes the place of a halt;
* `Point.haltsWith_of_next`: everything else passes a halt on;
* `halts_kept_iff`: evaluations in which all halts are kept.
-/

namespace ScopedViews.Sandbox

/-- Whether a point ends in a halt. -/
def Point.HaltsWith (p : Point) (h : Halt) : Prop := ∃ m, p.run p.machine = .error (.halt h) m

/-- A `try` statement whose handler has ended in a halt and whose finalizer, instead of passing it
on, is left early or ends in another fault. -/
inductive Overrides : Point → Halt → Prop
  | mk {t : TryStatement} {block : Plan t.runBlock} {handler : Plan t.runHandler}
      {finalizer : Plan t.runFinalizer} {m m' : Machine} {h : Halt}
      (hpending : Pending t m (.error (.halt h)) m')
      (hnormal : ∀ m'', t.runFinalizer m' ≠ .ok .normal m'')
      (hhalt : ∀ m'', t.runFinalizer m' ≠ .error (.halt h) m'') :
      Overrides ⟨.attempt t block handler finalizer, m⟩ h

/-! ## What a `try` statement comes to -/

namespace TryStatement

variable {t : TryStatement} {pending : Except Fault Flow} {m m' : Machine}

/-- What was pending behind a finalizer that has ended normally. -/
def complete : Except Fault Flow → Run Flow
  | .ok flow => pure flow
  | .error fault => throw fault

/-- A finalizer and what is pending behind it. -/
def finish (t : TryStatement) (pending : Except Fault Flow) : Run Flow := do
  match ← t.runFinalizer with
  | .normal => complete pending
  | flow => return flow

theorem run_eq (t : TryStatement) :
    t.run = tryHandle t.runBlock
      (if t.handler.isSome then some ⟨bindCaught t.param, t.runHandler⟩ else none)
      (if t.finalizer.isSome then some t.runFinalizer else none) :=
  rfl

/-- A finalizer that is missing counts as one that does nothing. -/
theorem finish_eq {flow : Run Flow} (hflow : flow = complete pending) :
    (match (if t.finalizer.isSome then some t.runFinalizer else none) with
      | none => flow
      | some f => do
        match ← f with
        | .normal => flow
        | flow => pure flow : Run Flow) = t.finish pending := by
  subst hflow
  rw [finish, TryStatement.runFinalizer]
  cases t.finalizer with
  | none => rfl
  | some s => rfl

/-- What the finalizer starts from is all that the statement still depends on. -/
theorem run_of_pending (h : Pending t m pending m') : t.run m = t.finish pending m' := by
  rw [run_eq]
  have hfinish (flow : Run Flow) (hflow : flow = complete pending) := finish_eq (t := t) hflow
  cases h with
  | done hblock =>
      simp only [tryHandle, hblock]
      exact congrFun (hfinish _ rfl) m'
  | handled hblock hhandler htake hrun =>
      simp only [tryHandle, hblock, hhandler, if_true]
      simp only [TryStatement.take] at htake
      simp only [htake, hrun]
      exact congrFun (hfinish _ rfl) m'
  | failed hblock hhandler htake hrun =>
      simp only [tryHandle, hblock, hhandler, if_true]
      simp only [TryStatement.take] at htake
      simp only [htake, hrun]
      exact congrFun (hfinish _ rfl) m'

/-- A halt in the block ends the statement. -/
theorem run_of_block_halt {h : Halt} (hblock : t.runBlock m = .error (.halt h) m') :
    t.run m = .error (.halt h) m' := by
  rw [run_eq]
  simp only [tryHandle, hblock]

/-- So does a fault where the handler takes an exception. -/
theorem run_of_take_error {e : Exception} {fault : Fault} {m₁ : Machine}
    (hblock : t.runBlock m = .error (.exception e) m₁) (hhandler : t.handler.isSome = true)
    (htake : t.take e m₁ = .error fault m') : t.run m = .error fault m' := by
  rw [run_eq]
  simp only [tryHandle, hblock, hhandler, if_true]
  simp only [TryStatement.take] at htake
  simp only [htake]

/-- A finalizer that ends normally passes on what is pending. -/
theorem finish_of_normal (hfinalizer : t.runFinalizer m = .ok .normal m') :
    t.finish pending m = complete pending m' := by
  rw [finish, Run.bind_of_ok hfinalizer]

/-- One that is left early takes its place. -/
theorem finish_of_early {flow : Flow} (hfinalizer : t.runFinalizer m = .ok flow m')
    (hflow : flow ≠ .normal) : t.finish pending m = .ok flow m' := by
  rw [finish, Run.bind_of_ok hfinalizer]
  cases flow with
  | normal => exact absurd rfl hflow
  | returned | broke | continued => rfl

/-- So does one that ends in a fault. -/
theorem finish_of_error {fault : Fault} (hfinalizer : t.runFinalizer m = .error fault m') :
    t.finish pending m = .error fault m' := by
  rw [finish, Run.bind_of_error hfinalizer]

end TryStatement

open TryStatement

/-! ## Halts on their way -/

/-- A halt is passed on from part to whole, unless a finalizer takes its place. -/
theorem Point.haltsWith_of_next {p q : Point} {h : Halt} (hnext : Next p q)
    (hkept : ¬ Overrides p h) (hq : q.HaltsWith h) : p.HaltsWith h := by
  obtain ⟨m, hm⟩ := hq
  cases hnext with
  | first => exact ⟨m, Run.bind_of_error hm⟩
  | next hfirst => exact ⟨m, (Run.bind_of_ok hfirst).trans hm⟩
  | map => exact ⟨m, Run.map_of_error hm⟩
  | frame => exact ⟨_, Run.withFrame_of_error hm⟩
  | block => exact ⟨m, run_of_block_halt hm⟩
  | take hblock hhandler => exact ⟨m, run_of_take_error hblock hhandler hm⟩
  | @handler t _ _ _ start _ _ _ hblock hhandler htake =>
      have hpending := Pending.failed hblock hhandler htake hm
      -- what the finalizer does next decides
      cases hfinalizer : t.runFinalizer m with
      | ok flow m' =>
          cases flow with
          | normal => exact ⟨m', (run_of_pending hpending).trans (finish_of_normal hfinalizer)⟩
          | returned | broke | continued =>
              refine absurd (Overrides.mk hpending ?_ ?_) hkept
              · simp [hfinalizer]
              · simp [hfinalizer]
      | error fault m' =>
          by_cases hfault : fault = .halt h
          · subst hfault
            exact ⟨m', (run_of_pending hpending).trans (finish_of_error hfinalizer)⟩
          · refine absurd (Overrides.mk hpending ?_ ?_) hkept
            · simp [hfinalizer]
            · simp [hfinalizer, hfault]
  | finalizer hpending => exact ⟨m, (run_of_pending hpending).trans (finish_of_error hm)⟩

/-- A halt is passed on from all points, if no finalizer takes the place of one. -/
theorem Point.haltsWith_of_reaches {p q : Point} {h : Halt} (hreaches : Reaches p q)
    (hkept : ∀ r, Reaches p r → ¬ Overrides r h) (hq : q.HaltsWith h) : p.HaltsWith h := by
  induction hreaches using Relation.ReflTransGen.head_induction_on with
  | refl => exact hq
  | head hnext _ ih =>
      refine haltsWith_of_next hnext (hkept _ .refl) (ih fun r hr => hkept r (.head hnext hr))

/-- A statement of which the finalizer takes the place of a halt does not end in it, but its handler
does. -/
theorem Overrides.exists_next {p : Point} {h : Halt} (hp : Overrides p h) :
    ¬ p.HaltsWith h ∧ ∃ q, Next p q ∧ q.HaltsWith h := by
  cases hp with
  | @mk t block handler finalizer m m' _ hpending hnormal hhalt =>
      constructor
      · rintro ⟨m'', hm''⟩
        have hfinish : t.finish (.error (.halt h)) m' = .error (.halt h) m'' :=
          (run_of_pending hpending).symm.trans hm''
        cases hfinalizer : t.runFinalizer m' with
        | ok flow m₁ =>
            have hflow : flow ≠ .normal := by
              rintro rfl
              exact hnormal _ hfinalizer
            rw [finish_of_early hfinalizer hflow] at hfinish
            cases hfinish
        | error fault m₁ =>
            rw [finish_of_error hfinalizer] at hfinish
            cases hfinish
            exact hhalt _ hfinalizer
      · cases hpending with
        | failed hblock hhandler htake hrun =>
            exact ⟨_, .handler hblock hhandler htake, _, hrun⟩

/-- In an evaluation every halt in which a point ends is that of all points around it, exactly if no
finalizer takes the place of one. -/
theorem Point.keeps_halts_iff (p : Point) :
    (∀ q r h, Reaches p q → Reaches q r → r.HaltsWith h → q.HaltsWith h) ↔
      ∀ q h, Reaches p q → ¬ Overrides q h := by
  constructor
  · intro hkept q h hq hoverrides
    obtain ⟨hnot, r, hr, hhalts⟩ := hoverrides.exists_next
    exact hnot (hkept q r h hq (.single hr) hhalts)
  · intro hnone q r h hq hr hhalts
    exact haltsWith_of_reaches hr (fun s hs => hnone s h (hq.trans hs)) hhalts

/-- A program ends in the halts of the point at which it starts. -/
theorem Point.haltsWith_ofProgram_iff {source : String} {p : Script.Program} {h : Halt} :
    (ofProgram source p).HaltsWith h ↔ runProgram source p = .error (.halt h) := by
  show (∃ m, executeBlock (Scene.ofSource source) p.body .initial = .error (.halt h) m) ↔ _
  unfold runProgram
  cases executeBlock (Scene.ofSource source) p.body .initial with
  | ok flow m => simp
  | error fault m => simp

/-! ## Looking for overridden halts -/

/-- Whether the finalizer of a `try` statement takes the place of a fault, if it is a halt. -/
def TryStatement.replaces (t : TryStatement) (fault : Fault) (m : Machine) : Bool :=
  match fault, t.runFinalizer m with
  | .exception _, _ => false
  | .halt _, .ok .normal _ => false
  | .halt _, .ok _ _ => true
  | .halt h, .error fault _ => fault != .halt h

/-- Whether a finalizer takes the place of a halt anywhere in an evaluation. -/
def Plan.losesHalt : {α : Type} → {x : Run α} → Plan x → Machine → Bool
  | _, _, .leaf _, _ => false
  | _, _, @Plan.bind _ _ x _ first next, m =>
    first.losesHalt m ||
      match x m with
      | .ok a m => (next a).losesHalt m
      | .error _ _ => false
  | _, _, .map _ inner, m => inner.losesHalt m
  | _, _, .frame inner, m => inner.losesHalt { m with locals := .empty :: m.locals }
  | _, _, .attempt t block handler finalizer, m =>
    block.losesHalt m ||
      match t.runBlock m with
      | .ok _ m => finalizer.losesHalt m
      -- the finalizer is not run behind it, so nothing takes its place
      | .error (.halt _) _ => false
      | .error (.exception e) m =>
        t.handler.isSome &&
          match t.take e m with
          | .error _ _ => false
          | .ok () m =>
            handler.losesHalt m ||
              match t.runHandler m with
              | .ok _ m => finalizer.losesHalt m
              | .error fault m => finalizer.losesHalt m || t.replaces fault m

theorem TryStatement.replaces_halt_iff {t : TryStatement} {h : Halt} {m : Machine} :
    t.replaces (.halt h) m = true ↔ (∀ m', t.runFinalizer m ≠ .ok .normal m') ∧
      ∀ m', t.runFinalizer m ≠ .error (.halt h) m' := by
  unfold replaces
  cases hfinalizer : t.runFinalizer m with
  | ok flow m' =>
      cases flow with
      | normal => simp
      | returned | broke | continued => simp
  | error fault m' => simp

theorem Overrides.losesHalt {p : Point} {h : Halt} (hp : Overrides p h) :
    p.plan.losesHalt p.machine = true := by
  cases hp with
  | mk hpending hnormal hhalt =>
      cases hpending with
      | failed hblock hhandler htake hrun =>
          simp [Plan.losesHalt, hblock, hhandler, htake, hrun,
            TryStatement.replaces_halt_iff.2 ⟨hnormal, hhalt⟩]

theorem Next.losesHalt {p q : Point} (h : Next p q) (hq : q.plan.losesHalt q.machine = true) :
    p.plan.losesHalt p.machine = true := by
  cases h with
  | first => simp_all [Plan.losesHalt]
  | next hfirst => simp_all [Plan.losesHalt]
  | map => exact hq
  | frame => exact hq
  | block => simp_all [Plan.losesHalt]
  | take => cases hq
  | handler hblock hhandler htake => simp_all [Plan.losesHalt]
  | finalizer hpending =>
      cases hpending with
      | done hblock => simp_all [Plan.losesHalt]
      | handled hblock hhandler htake hrun => simp_all [Plan.losesHalt]
      | failed hblock hhandler htake hrun => simp_all [Plan.losesHalt]

theorem Plan.exists_overrides {α : Type} {x : Run α} (p : Plan x) {m : Machine}
    (h : p.losesHalt m = true) : ∃ q halt, Reaches ⟨p, m⟩ q ∧ Overrides q halt := by
  have step {p q : Point} (hnext : Next p q) (hq : ∃ r halt, Reaches q r ∧ Overrides r halt) :
      ∃ r halt, Reaches p r ∧ Overrides r halt := by
    obtain ⟨r, halt, hr, hoverrides⟩ := hq
    exact ⟨r, halt, .head hnext hr, hoverrides⟩
  -- the search follows the evaluation, so it looks at nothing that is not reached
  induction p generalizing m with
  | leaf => cases h
  | @bind _ _ x k first next ihfirst ihnext =>
      rw [losesHalt, Bool.or_eq_true] at h
      rcases h with h | h
      · exact step .first (ihfirst h)
      · split at h
        next a m' hfirst => exact step (.next hfirst) (ihnext a h)
        next => cases h
  | map f inner ih => exact step .map (ih h)
  | frame inner ih => exact step .frame (ih h)
  | attempt t block handler finalizer ihblock ihhandler ihfinalizer =>
      rw [losesHalt, Bool.or_eq_true] at h
      rcases h with h | h
      · exact step .block (ihblock h)
      · split at h
        next flow m' hblock => exact step (.finalizer (.done hblock)) (ihfinalizer h)
        next => cases h
        next e m₁ hblock =>
            rw [Bool.and_eq_true] at h
            obtain ⟨hhandler, h⟩ := h
            split at h
            next => cases h
            next m₂ htake =>
                rw [Bool.or_eq_true] at h
                rcases h with h | h
                · exact step (.handler hblock hhandler htake) (ihhandler h)
                · split at h
                  next flow m' hrun =>
                      exact step (.finalizer (.handled hblock hhandler htake hrun)) (ihfinalizer h)
                  next fault m' hrun =>
                      have hpending := Pending.failed hblock hhandler htake hrun
                      rw [Bool.or_eq_true] at h
                      rcases h with h | h
                      · exact step (.finalizer hpending) (ihfinalizer h)
                      · cases fault with
                        | exception => cases h
                        | halt halt =>
                            obtain ⟨hnormal, hhalt⟩ := TryStatement.replaces_halt_iff.1 h
                            exact ⟨_, halt, .refl, .mk hpending hnormal hhalt⟩

/-- A finalizer takes the place of a halt exactly if one is found to. -/
theorem Plan.losesHalt_iff {α : Type} {x : Run α} (p : Plan x) (m : Machine) :
    p.losesHalt m = true ↔ ∃ q halt, Reaches ⟨p, m⟩ q ∧ Overrides q halt := by
  constructor
  · exact p.exists_overrides
  · rintro ⟨q, halt, hq, hoverrides⟩
    have hstart (s : Point) (hs : Reaches s q) : s.plan.losesHalt s.machine = true := by
      induction hs using Relation.ReflTransGen.head_induction_on with
      | refl => exact hoverrides.losesHalt
      | head hnext _ ih => exact hnext.losesHalt ih
    exact hstart ⟨p, m⟩ hq

/-! ## Programs -/

/-- Every halt in which a part of an evaluation ends is that of all parts around it and of the whole
evaluation, exactly if no handler that ends in a halt stands in front of a finalizer that is left
early or ends in another fault. -/
theorem halts_kept_iff {source : String} {p : Script.Program}
    (hparse : Script.Program.parse? source = some p) :
    (∀ q r h, Reaches (.ofProgram source p) q → Reaches q r → r.HaltsWith h →
      q.HaltsWith h ∧ describe source = .error (.fault (.halt h))) ↔
      ∀ q h, Reaches (.ofProgram source p) q → ¬ Overrides q h := by
  have hdescribe (h : Halt) (hp : (Point.ofProgram source p).HaltsWith h) :
      describe source = .error (.fault (.halt h)) := by
    simp only [describe, hparse, Point.haltsWith_ofProgram_iff.1 hp]
  rw [← Point.keeps_halts_iff]
  constructor
  · intro hkept q r h hq hr hhalts
    exact (hkept q r h hq hr hhalts).1
  · intro hkept q r h hq hr hhalts
    exact ⟨hkept q r h hq hr hhalts,
      hdescribe h (hkept _ r h .refl (hq.trans hr) hhalts)⟩

/-- The fault that a block ends in, if it can be parsed. -/
def faultOf? : Except BlockError Metadata → Option Fault
  | .error (.fault fault) => some fault
  | _ => none

theorem eq_error_of_faultOf? {result : Except BlockError Metadata} {fault : Fault}
    (h : faultOf? result = some fault) : result = .error (.fault fault) := by
  unfold faultOf? at h
  split at h
  next => rw [Option.some.inj h]
  next => cases h

theorem describe_eq_ok {source : String} {metadata : Metadata}
    (h : (describe source).toOption = some metadata) : describe source = .ok metadata := by
  cases hdescribe : describe source with
  | error cause => simp [hdescribe, Except.toOption] at h
  | ok found => simpa [hdescribe, Except.toOption] using h

/-- A halt in a handler, and a finalizer that ends normally. -/
def keptHalt : String := "try { throw null; } catch (e) { delete e.x; } finally { e = null; }"

theorem halts_kept_keptHalt :
    ∃ p, Script.Program.parse? keptHalt = some p ∧
      (∀ q r h, Reaches (.ofProgram keptHalt p) q → Reaches q r → r.HaltsWith h →
        q.HaltsWith h ∧ describe keptHalt = .error (.fault (.halt h))) ∧
      describe keptHalt = .error (.fault (.halt (.unsupported .delete 32))) := by
  have hrun : (Script.Program.parse? keptHalt).map (fun p =>
      (Point.ofProgram keptHalt p).plan.losesHalt .initial) = some false := by
    decide +kernel
  have hresult : faultOf? (describe keptHalt) = some (.halt (.unsupported .delete 32)) := by
    decide +kernel
  obtain ⟨p, hparse, hloses⟩ := Option.map_eq_some_iff.1 hrun
  refine ⟨p, hparse, (halts_kept_iff hparse).2 fun q h hq hoverrides => ?_,
    eq_error_of_faultOf? hresult⟩
  have hlost : (Point.ofProgram keptHalt p).plan.losesHalt .initial = true :=
    (Plan.losesHalt_iff _ _).2 ⟨q, h, hq, hoverrides⟩
  rw [hloses] at hlost
  cases hlost

/-- A halt in a handler, and a finalizer that leaves the loop around it. -/
def lostHalt : String :=
  "while (true) { try { throw null; } catch (e) { delete e.x; } finally { break; } }"

/-- The program runs to its end, although a part of its evaluation ends in a halt. -/
theorem halt_lost_to_break :
    ∃ p, Script.Program.parse? lostHalt = some p ∧
      (∃ q h, Reaches (.ofProgram lostHalt p) q ∧ q.HaltsWith h) ∧
      describe lostHalt = .ok ⟨[], [], none, none⟩ := by
  have hrun : (Script.Program.parse? lostHalt).map (fun p =>
      (Point.ofProgram lostHalt p).plan.losesHalt .initial) = some true := by
    decide +kernel
  have hresult : (describe lostHalt).toOption = some ⟨[], [], none, none⟩ := by
    decide +kernel
  obtain ⟨p, hparse, hloses⟩ := Option.map_eq_some_iff.1 hrun
  obtain ⟨q, h, hq, hoverrides⟩ := (Plan.losesHalt_iff _ _).1 hloses
  obtain ⟨-, r, hr, hhalts⟩ := hoverrides.exists_next
  refine ⟨p, hparse, ⟨r, h, hq.tail hr, hhalts⟩, ?_⟩
  cases hdescribe : describe lostHalt with
  | error cause => simp [hdescribe, Except.toOption] at hresult
  | ok m => simpa [hdescribe, Except.toOption] using hresult

end ScopedViews.Sandbox
