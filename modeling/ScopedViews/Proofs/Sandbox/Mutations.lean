import ScopedViews.Proofs.Sandbox.Growth
/-!
# Changes of arrays that are refused

An array is changed in place, and everything that holds it sees the change.  A change past the limit
is refused with an exception, behind which script code may go on with the same array.  Pushing and
writing check the limit first, so a change that they refuse has not begun.  Unshifting takes the
array apart before it checks, and what it has taken out is not put back.

* `Mutation`: the changes of an array that may be refused;
* `reserve_refused`, `setProperty_refused`: a check that fails leaves the machine as it is;
* `Builtin.push_refused`, `Place.write_refused`: so do a push and a write that are refused;
* `Builtin.unshift_refused`: a refused unshift leaves an empty array;
* `refused_mutation_keeps_iff`: which refused changes leave all arrays and objects as they were.
-/

namespace ScopedViews.Sandbox

open Script Run

/-- Changes of an array that may be refused.  The key that is written is an index, `length`, or one
that arrays do not have. -/
inductive Mutation where
  | push (args : Array Value)
  | unshift (args : Array Value)
  | write (key : String) (x : Value)

/-- What a change does to the array at an address: the methods are called on it, and an assignment
has the value that it writes. -/
def Mutation.run (invoke : Invoke) (address : Nat) : Mutation → Run Value
  | .push args => Builtin.callMethod invoke (.array address) "push" args
  | .unshift args => Builtin.callMethod invoke (.array address) "unshift" args
  | .write key x => do
    (Place.property (.array address) key).write x
    return x

section Run

variable (invoke : Invoke) (address : Nat) (args : Array Value) (m : Machine)

theorem Mutation.run_push :
    (push args).run invoke address m = Builtin.push address args m :=
  rfl

theorem Mutation.run_unshift :
    (unshift args).run invoke address m = Builtin.unshift address args m :=
  rfl

end Run

/-! ## Checks that fail -/

section Refusal

variable {m m' : Machine} {e : Exception}

/-- A fault of two computations one after the other is one of the first, or one of the second behind
the value of the first. -/
theorem Run.bind_eq_error {α β : Type} {x : Run α} {k : α → Run β} {fault : Fault}
    (h : (x >>= k) m = .error fault m') :
    x m = .error fault m' ∨ ∃ a m₁, x m = .ok a m₁ ∧ k a m₁ = .error fault m' := by
  cases hx : x m with
  | ok a m₁ =>
      rw [bind_of_ok hx] at h
      exact .inr ⟨a, m₁, rfl, h⟩
  | error fault' m₁ =>
      rw [bind_of_error hx] at h
      cases h
      exact .inl rfl

/-- A charge that fails halts the evaluation. -/
theorem charge_ne_exception (n : Nat) : charge n m ≠ .error (.exception e) m' := by
  rw [charge_eq]
  split
  · nofun
  · nofun

theorem reserve_of_full {present extra : Nat} (h : maxArrayLength < present + extra) :
    reserve present extra m = .error (.exception (.range .invalidArrayLength)) m := by
  simp only [reserve, if_pos h]
  rfl

theorem reserve_refused {present extra : Nat}
    (h : reserve present extra m = .error (.exception e) m') : m' = m := by
  by_cases hfull : maxArrayLength < present + extra
  · rw [reserve_of_full hfull] at h
    cases h
    rfl
  · simp only [reserve, if_neg hfull] at h
    exact absurd h (charge_ne_exception _)

theorem setProperty_refused {v x : Value} {key : String} {fault : Fault}
    (h : setProperty v key x m = .error fault m') : m' = m := by
  cases hplan : v.planWrite m.heap key x with
  | ok w =>
      rw [setProperty_of_ok hplan] at h
      cases h
  | error cause =>
      rw [setProperty_of_error hplan] at h
      cases h
      rfl

/-! ## Changes that are refused -/

theorem Builtin.push_refused {address : Nat} {args : Array Value}
    (h : push address args m = .error (.exception e) m') : m' = m := by
  obtain hview | ⟨present, m₁, hview, h⟩ := bind_eq_error h
  · cases hview
  cases hview
  obtain hreserve | ⟨_, m₂, hreserve, h⟩ := bind_eq_error h
  · exact reserve_refused hreserve
  · cases h

theorem Place.write_refused {p : Place} {x : Value} (h : p.write x m = .error (.exception e) m') :
    m' = m := by
  cases p with
  | binding name => cases h
  | property holder key =>
      obtain hview | ⟨before, m₁, hview, h⟩ := bind_eq_error h
      · cases hview
      cases hview
      obtain hset | ⟨_, m₂, hset, h⟩ := bind_eq_error h
      · exact setProperty_refused hset
      · -- what has been written is only charged for
        obtain hview | ⟨after, m₃, hview, h⟩ := bind_eq_error h
        · cases hview
        · exact absurd h (charge_ne_exception _)

/-- The array is empty on the machine on which its former elements are given room. -/
theorem Builtin.unshift_refused {address : Nat} {args : Array Value}
    (h : unshift address args m = .error (.exception e) m') :
    m' = { m with heap := m.heap.modifyArray address fun _ => #[] } := by
  obtain hview | ⟨rest, m₁, hview, h⟩ := bind_eq_error h
  · cases hview
  cases hview
  obtain hempty | ⟨_, m₂, hempty, h⟩ := bind_eq_error h
  · cases hempty
  cases hempty
  obtain hreserve | ⟨_, m₃, hreserve, h⟩ := bind_eq_error h
  · exact reserve_refused hreserve
  · cases h

end Refusal

theorem Heap.elements_modifyArray_empty (h : Heap) (address : Nat) :
    (h.modifyArray address fun _ => #[]).elements address = #[] := by
  by_cases hbound : address < h.arrays.size
  · simp [elements, modifyArray, hbound, Array.getElem_modify]
  · simp [elements, modifyArray, hbound]

/-- To take an array apart changes nothing exactly if it is empty. -/
theorem Heap.elements_modifyArray_empty_eq_iff (h : Heap) (address : Nat) :
    (h.modifyArray address fun _ => #[]).elements = h.elements ↔ h.elements address = #[] := by
  constructor
  · intro hsame
    rw [← hsame]
    exact h.elements_modifyArray_empty address
  · intro hempty
    funext other
    by_cases hother : other = address
    · rw [hother, h.elements_modifyArray_empty, hempty]
    · exact h.elements_modifyArray_of_ne hother _

/-- A refused change leaves all arrays and all objects as they were, exactly if it is no unshift or
the array was empty. -/
theorem refused_mutation_keeps_iff {invoke : Invoke} {address : Nat} {op : Mutation} {e : Exception}
    {m m' : Machine} (h : op.run invoke address m = .error (.exception e) m') :
    (m'.heap.elements = m.heap.elements ∧ m'.heap.properties = m.heap.properties) ↔
      (∀ args, op ≠ .unshift args) ∨ m.heap.elements address = #[] := by
  cases op with
  | push args =>
      have hsame : m' = m := Builtin.push_refused h
      simp [hsame]
  | write key x =>
      have hsame : m' = m := by
        obtain hwrite | ⟨_, _, _, hpure⟩ := bind_eq_error h
        · exact Place.write_refused hwrite
        · cases hpure
      simp [hsame]
  | unshift args =>
      have hempty : m' = { m with heap := m.heap.modifyArray address fun _ => #[] } :=
        Builtin.unshift_refused h
      have hproperties : m'.heap.properties = m.heap.properties := by
        rw [hempty]
        rfl
      have helements : m'.heap.elements = m.heap.elements ↔ m.heap.elements address = #[] := by
        rw [hempty]
        exact m.heap.elements_modifyArray_empty_eq_iff address
      simp [hproperties, helements]

/-! ## An array without room -/

section Full

variable {m : Machine} {address : Nat} {args : Array Value}

theorem Builtin.push_of_full (h : maxArrayLength < (m.heap.elements address).size + args.size) :
    push address args m = .error (.exception (.range .invalidArrayLength)) m := by
  have hsize : view (fun m => (m.heap.elements address).size) m =
      .ok (m.heap.elements address).size m := rfl
  exact (bind_of_ok hsize).trans (bind_of_error (reserve_of_full h))

theorem Builtin.unshift_of_full (h : maxArrayLength < args.size + (m.heap.elements address).size) :
    unshift address args m = .error (.exception (.range .invalidArrayLength))
      { m with heap := m.heap.modifyArray address fun _ => #[] } := by
  have helements : elements address m = .ok (m.heap.elements address) m := rfl
  have hempty : modifyArray address (fun _ => #[]) m =
      .ok () { m with heap := m.heap.modifyArray address fun _ => #[] } := rfl
  exact (bind_of_ok helements).trans
    ((bind_of_ok hempty).trans (bind_of_error (reserve_of_full h)))

end Full

/-- An array of the greatest length, as assigning to `length` makes it. -/
def fullArray : Machine :=
  { Machine.initial with heap := ⟨#[Array.replicate maxArrayLength .undefined], #[]⟩ }

theorem size_fullArray : (fullArray.heap.elements 0).size = maxArrayLength :=
  Array.size_replicate

/-- A push that is refused leaves the array as it was. -/
theorem refused_mutation_keeps_fullArray :
    ∃ e m', (Mutation.push #[.null]).run (invoke "" maxCallDepth) 0 fullArray =
        .error (.exception e) m' ∧
      m'.heap.elements = fullArray.heap.elements ∧
      m'.heap.properties = fullArray.heap.properties := by
  have hfull : maxArrayLength < (fullArray.heap.elements 0).size + #[Value.null].size := by
    rw [size_fullArray]
    exact Nat.lt_succ_self _
  have hpush := (Mutation.run_push (invoke "" maxCallDepth) 0 #[.null] fullArray).trans
    (Builtin.push_of_full hfull)
  exact ⟨_, _, hpush, (refused_mutation_keeps_iff hpush).2 (.inl nofun)⟩

/-- Not all refused changes leave arrays as they were: one that is full is empty after an
unshift. -/
theorem not_refused_mutations_keep :
    ¬ ∀ (invoke : Invoke) (address : Nat) (op : Mutation) (e : Exception) (m m' : Machine),
      op.run invoke address m = .error (.exception e) m' →
        m'.heap.elements = m.heap.elements ∧ m'.heap.properties = m.heap.properties := by
  intro hkeeps
  have hsize := size_fullArray
  have hfull : maxArrayLength < #[Value.null].size + (fullArray.heap.elements 0).size := by
    rw [hsize, Nat.add_comm]
    exact Nat.lt_succ_self _
  have hunshift := (Mutation.run_unshift (invoke "" maxCallDepth) 0 #[.null] fullArray).trans
    (Builtin.unshift_of_full hfull)
  obtain ⟨helements, -⟩ := hkeeps _ 0 _ _ _ _ hunshift
  have hempty := (fullArray.heap.elements_modifyArray_empty_eq_iff 0).1 helements
  rw [hempty] at hsize
  exact absurd hsize (by decide)

end ScopedViews.Sandbox
