import ScopedViews.Proofs.Sandbox.Charges
/-!
# Arrays that grow

Pushing and writing charge for the elements that an array gains, and no other array gains any.
Methods that visit an array charge for what they fill, since each element costs a call.  The methods
that charge for a string leave all arrays as they are.

* `Machine.growth`: the elements that an array has gained;
* `Run.Still`: computations that leave the heap as it is;
* `Builtin.push_charges`, `Place.write_charges`, `visitFrom_charges`: what growth is charged for.
-/

namespace ScopedViews.Sandbox

open Script Run

/-- The elements that the array at an address has gained. -/
def Machine.growth (m m' : Machine) (address : Nat) : Nat :=
  (m'.heap.elements address).size - (m.heap.elements address).size

namespace Run

variable {α β : Type} {x : Run α} {m : Machine}

/-- Where it succeeds a computation leaves the heap as it is. -/
def Still (x : Run α) (m : Machine) : Prop := ∀ a m', x m = .ok a m' → m'.heap = m.heap

theorem still_pure (a : α) : Still (pure a) m := by
  intro b m' h
  cases h
  rfl

theorem still_raise (e : Exception) : Still (raise e : Run α) m := nofun

theorem still_view (f : Machine → α) : Still (view f) m := by
  intro b m' h
  cases h
  rfl

theorem still_bind {k : α → Run β} (hx : Still x m) (hk : ∀ a m', Still (k a) m') :
    Still (x >>= k) m := by
  intro b m' h
  obtain ⟨a, m₁, hfirst, hrest⟩ := exists_of_bind_ok h
  exact (hk a m₁ b m' hrest).trans (hx a m₁ hfirst)

theorem still_map (f : α → β) (hx : Still x m) : Still (f <$> x) m := by
  rw [map_eq_pure_bind]
  exact still_bind hx fun _ _ => still_pure _

theorem still_checkLength (s : String) : Still (checkLength s) m := by
  unfold checkLength
  split
  · exact still_raise _
  · exact still_pure _

theorem still_checkString (s : String) : Still (checkString s) m := by
  intro u m' h
  rw [(checkString_ok h).2]

end Run

namespace Builtin

variable {m : Machine}

theorem still_numberArgument (args : Array Value) (i : Nat) (default : Float) :
    Still (numberArgument args i default) m := by
  unfold numberArgument
  split
  · exact still_pure _
  · exact still_bind (still_view _) fun _ _ => still_pure _

theorem still_joinFrom (separator : String) (items : List Value) (first : Bool) (out : String) :
    Still (joinFrom separator items first out) m := by
  induction items generalizing first out m with
  | nil => exact still_pure _
  | cons v rest ih =>
      have hrest (text : String) (m : Machine) :
          Still (do checkLength text; joinFrom separator rest false text) m :=
        still_bind (still_checkLength _) fun _ _ => ih _ _
      by_cases hnullish : v.isNullish
      · simp only [joinFrom, hnullish, if_true]
        exact hrest _ _
      · simp only [joinFrom, hnullish]
        exact still_bind (still_map _ (still_view _)) fun _ _ => hrest _ _

theorem still_appendFrom (items : List Value) (out : String) :
    Still (appendFrom items out) m := by
  induction items generalizing out m with
  | nil => exact still_pure _
  | cons v rest ih =>
      exact still_bind (still_view _) fun _ _ => still_bind (still_checkLength _) fun _ _ => ih _

theorem still_checked (s : String) : Still (do checkString s; return Value.string s) m :=
  still_bind (still_checkString _) fun _ _ => still_pure _

theorem still_stringRepeat (s : String) (args : Array Value) : Still (stringRepeat s args) m := by
  refine still_bind (still_numberArgument _ _ _) fun count _ => ?_
  split
  · exact still_raise _
  · split
    · exact still_raise _
    · split
      · exact still_raise _
      · exact still_checked _

theorem still_join (address : Nat) (args : Array Value) (invoke : Invoke) :
    Still (arrayMethod invoke address "join" args) m := by
  simp only [arrayMethod]
  split
  · exact still_bind (still_pure _) fun _ _ => still_bind (still_view _) fun _ _ =>
      still_bind (still_joinFrom _ _ _ _) fun _ _ => still_checked _
  · exact still_bind (still_view _) fun _ _ => still_bind (still_view _) fun _ _ =>
      still_bind (still_joinFrom _ _ _ _) fun _ _ => still_checked _

end Builtin

theorem Machine.growth_of_heap_eq {m m' : Machine} (h : m'.heap = m.heap) (address : Nat) :
    growth m m' address = 0 := by
  rw [growth, h, Nat.sub_self]

/-- Other arrays than the one that is modified stay as they are. -/
theorem Heap.elements_modifyArray_of_ne (h : Heap) {address other : Nat} (hne : other ≠ address)
    (f : Array Value → Array Value) :
    (h.modifyArray address f).elements other = h.elements other := by
  have hne' : ¬ address = other := fun heq => hne heq.symm
  simp [elements, modifyArray, Array.getElem?_modify, hne']

theorem Heap.size_elements_append_le (h : Heap) (address : Nat) (args : Array Value) :
    ((h.modifyArray address (· ++ args)).elements address).size ≤
      (h.elements address).size + args.size := by
  by_cases hbound : address < h.arrays.size
  · simp [elements, modifyArray, hbound, Array.getElem_modify]
  · simp [elements, modifyArray, hbound]

/-- What is pushed is charged for. -/
theorem Builtin.push_charges {address : Nat} {args : Array Value} {v : Value} {m m' : Machine}
    (h : push address args m = .ok v m') (other : Nat) :
    m.steps + Machine.growth m m' other / 8 ≤ m'.steps := by
  obtain ⟨present, m₁, hpresent, h⟩ := exists_of_bind_ok h
  cases hpresent
  obtain ⟨_, m₂, hreserve, h⟩ := exists_of_bind_ok h
  obtain ⟨-, rfl⟩ := reserve_ok hreserve
  cases h
  have hgrowth : Machine.growth m { m with
      heap := m.heap.modifyArray address (· ++ args), steps := m.steps + args.size / 8 } other ≤
        args.size := by
    by_cases hother : other = address
    · have hsize := m.heap.size_elements_append_le address args
      rw [hother, Machine.growth]
      exact Nat.sub_le_iff_le_add'.2 hsize
    · rw [Machine.growth, m.heap.elements_modifyArray_of_ne hother, Nat.sub_self]
      exact Nat.zero_le _
  exact Nat.add_le_add_left (Nat.div_le_div_right hgrowth) _

/-- A property that is written changes no array but the one that it belongs to. -/
theorem Value.elements_apply_of_ne {h : Heap} {v : Value} {key : String} {x : Value}
    {w : Value.Write} (hw : v.planWrite h key x = .ok w) {address : Nat}
    (hne : v ≠ .array address) : (w.apply h).elements address = h.elements address := by
  unfold planWrite at hw
  split at hw
  next =>
    cases hw
    rfl
  next other =>
    have hother : address ≠ other := fun heq => hne (by rw [heq])
    split at hw
    next =>
      cases hlength : requestedLength h x with
      | error e =>
          rw [hlength] at hw
          cases hw
      | ok n =>
          rw [hlength] at hw
          cases hw
          exact h.elements_modifyArray_of_ne hother _
    next =>
      split at hw
      next => cases hw
      next =>
        split at hw
        next => cases hw
        next =>
          cases hw
          exact h.elements_modifyArray_of_ne hother _
  next => cases hw
  next => cases hw
  next =>
    cases hw
    rfl

theorem elements_of_setProperty {v : Value} {key : String} {x : Value} {u : Unit}
    {m m' : Machine} (h : setProperty v key x m = .ok u m') {address : Nat}
    (hne : v ≠ .array address) : m'.heap.elements address = m.heap.elements address := by
  cases hplan : v.planWrite m.heap key x with
  | error e =>
      rw [setProperty_of_error hplan] at h
      cases h
  | ok w =>
      rw [setProperty_of_ok hplan] at h
      cases h
      exact Value.elements_apply_of_ne hplan hne

/-- What is written is charged for. -/
theorem Place.write_charges {p : Place} {x : Value} {u : Unit} {m m' : Machine}
    (h : p.write x m = .ok u m') (address : Nat) :
    m.steps + Machine.growth m m' address / 8 ≤ m'.steps := by
  cases p with
  | binding name =>
      have hsteps : m.steps ≤ (Ending.machine (assign name x m)).steps :=
        (Metered.assign name x).steps_le m
      have hheap : m'.heap = m.heap := by
        cases h
        dsimp only
        split <;> rfl
      rw [Machine.growth_of_heap_eq hheap]
      cases h
      exact hsteps
  | property holder key =>
      obtain ⟨before, m₁, hbefore, h⟩ := exists_of_bind_ok h
      cases hbefore
      obtain ⟨_, m₂, hset, h⟩ := exists_of_bind_ok h
      obtain ⟨after, m₃, hafter, h⟩ := exists_of_bind_ok h
      cases hafter
      have hcost := Builtin.costs_setProperty holder key x _ _ hset
      rw [charge_ok h]
      -- the lengths that the charge goes by are those of the holder
      by_cases hholder : holder = .array address
      · subst hholder
        show m.steps + _ ≤ m₂.steps + _
        rw [hcost]
        exact Nat.le_refl _
      · have hsame := elements_of_setProperty hset hholder
        have hgrowth : Machine.growth m m₂ address = 0 := by
          rw [Machine.growth, hsame, Nat.sub_self]
        show m.steps + Machine.growth m m₂ address / 8 ≤ m₂.steps + _
        rw [hgrowth, hcost]
        omega

/-! ## Calls -/

/-- A call begins with a tick. -/
theorem invoke_charges {source : String} {free start : Nat} {args : Array Value} {v : Value}
    {m m' : Machine} (h : invoke source free start args m = .ok v m') :
    m.steps + 1 ≤ m'.steps := by
  cases free with
  | zero =>
      -- without a free frame no call succeeds
      obtain ⟨_, m₁, htick, h⟩ := exists_of_bind_ok h
      obtain ⟨f, m₂, hf, h⟩ := exists_of_bind_ok h
      cases h
  | succ free =>
      obtain ⟨_, m₁, htick, h⟩ := exists_of_bind_ok h
      obtain ⟨f, m₂, hf, h⟩ := exists_of_bind_ok h
      have hstep := (Plan.tick_ok htick).2
      have hdefinition := (Plan.leaf (.definitionAt start)).steps_le_of_ok hf
      let body : Plan (withFrame (runFunction ⟨source, invoke source free⟩ f args)) :=
        .frame (.runFunction (Plan.invoke source free) f args)
      have hbody := body.steps_le_of_ok h
      omega

theorem callback_charges {source : String} {free : Nat} {f v : Value} {args : Array Value}
    {m m' : Machine} (h : Builtin.callback (invoke source free) f args m = .ok v m') :
    m.steps + 1 ≤ m'.steps := by
  cases f with
  | function f => exact invoke_charges h
  | undefined | null | bool | number | string | array | object =>
      obtain ⟨_, _, _, h⟩ := exists_of_bind_ok h
      cases h

/-- Of the elements that are visited each costs a call, and each adds one at most to the array that
is made. -/
theorem visitFrom_charges {source : String} {free : Nat} {visit : Builtin.Visit}
    (hvisit : visit = .map ∨ visit = .filter) {f receiver : Value} {items : List Value} {i : Nat}
    {out : Array Value} {address : Nat} {m m' : Machine}
    (h : Builtin.visitFrom (invoke source free) visit f receiver items i out m =
      .ok (.array address) m') :
    m.steps + items.length ≤ m'.steps ∧
      (m'.heap.elements address).size ≤ out.size + items.length := by
  induction items generalizing i out m with
  | nil =>
      have hmade : newArray out m = .ok (.array address) m' := by
        rcases hvisit with rfl | rfl
        · exact h
        · exact h
      cases hmade
      refine ⟨Nat.le_refl _, ?_⟩
      show (Heap.elements { m.heap with arrays := m.heap.arrays.push out } _).size ≤ _
      rw [Law.elements_push]
      exact Nat.le_refl _
  | cons item rest ih =>
      obtain ⟨result, m₁, hcall, h⟩ := exists_of_bind_ok h
      have hstep := callback_charges hcall
      -- the rest of the visits, whether or not this one has added to the array
      have hrest (out' : Array Value) (hsize : out'.size ≤ out.size + 1)
          (h : Builtin.visitFrom (invoke source free) visit f receiver rest (i + 1) out' m₁ =
            .ok (.array address) m') :
          m.steps + (item :: rest).length ≤ m'.steps ∧
            (m'.heap.elements address).size ≤ out.size + (item :: rest).length := by
        obtain ⟨hsteps, hout⟩ := ih h
        rw [List.length_cons]
        omega
      rcases hvisit with rfl | rfl
      · exact hrest (out.push result) (by rw [Array.size_push]) h
      · generalize result.isTruthy = truthy at h
        cases truthy with
        | true => exact hrest (out.push item) (by rw [Array.size_push]) h
        | false => exact hrest out (Nat.le_succ _) h

end ScopedViews.Sandbox
