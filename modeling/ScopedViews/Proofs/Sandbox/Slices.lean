import ScopedViews.Proofs.Number.Whole
import ScopedViews.Proofs.Sandbox.Extension
import ScopedViews.Proofs.Sandbox.Plan
import ScopedViews.Proofs.Sandbox.Properties
/-!
# Slices

A slice of an array or a string is what lies between two positions.  A position is any value: it is
converted to a number and rounded toward zero, a negative one is counted from the end, and one that
is past an end is that end.  So a slice never goes beyond the ends, and what one slice stops at
another one starts at.  Only NaN does not mean the same to both: to the start it is the beginning,
to the stop it is the end.

* `Builtin.bounds`, `Builtin.sliceBounds_eq`: the two positions that arguments name;
* `Builtin.bounds_le`: they are not past the end;
* `callMethod_slice`: what a slice answers;
* `slices_partition_iff`: when two slices at one point are the whole.
-/

namespace ScopedViews.Sandbox

/-- The items that an array or a string is made of. -/
def Value.items (h : Heap) : Value → List Value
  | .array address => (h.elements address).toList
  | .string s => s.toList.map fun c => .string c.toString
  | _ => []

theorem Value.items_of_growsTo {h h' : Heap} {v : Value} (hgrows : h.GrowsTo h')
    (hv : v.IsMade h) : v.items h' = v.items h := by
  cases v with
  | array address => exact congrArg Array.toList (hgrows.elements address hv)
  | _ => rfl

namespace Builtin

/-! ## Positions -/

/-- The position that an argument names, as a number. -/
def positionAt (h : Heap) (args : Array Value) (i : Nat) (default : Float) : Float :=
  match argument args i with
  | .undefined => default
  | v => if (v.toNumber h).isNaN then default else Number.truncate (v.toNumber h)

theorem numberArgument_eq (args : Array Value) (i : Nat) (default : Float) (m : Machine) :
    numberArgument args i default m = .ok (positionAt m.heap args i default) m := by
  unfold numberArgument positionAt
  cases argument args i <;> rfl

theorem positionAt_of_defined {h : Heap} (args : Array Value) (i : Nat) (default : Float)
    (hdefined : argument args i ≠ .undefined) :
    positionAt h args i default = if ((argument args i).toNumber h).isNaN then default
      else Number.truncate ((argument args i).toNumber h) := by
  unfold positionAt
  split
  next hundefined => exact absurd hundefined hdefined
  next => rfl

theorem resolvePosition_le (length : Nat) (x : Float) : resolvePosition length x ≤ length := by
  unfold resolvePosition
  split
  · split
    · omega
    · exact Nat.min_le_right _ _
  · split
    · exact Nat.le_refl _
    · exact Nat.zero_le _

/-- A whole number that is not past the end is its own position. -/
theorem resolvePosition_of_value? {x : Float} {n : ℕ} (hx : Number.value? x = some (n : ℚ))
    (length : Nat) : resolvePosition length x = min n length := by
  have hwhole : Number.whole? x = some (n : ℤ) :=
    (Number.value?_eq_intCast_iff.1 (by exact_mod_cast hx)).2
  simp only [resolvePosition, hwhole]
  rw [if_neg (by omega), Int.toNat_natCast]

theorem resolvePosition_zero (length : Nat) : resolvePosition length 0.0 = 0 := by
  have hzero : Number.value? 0.0 = some ((0 : ℕ) : ℚ) := by
    rw [Number.value?_zero, Nat.cast_zero]
  rw [resolvePosition_of_value? hzero, Nat.zero_min]

theorem resolvePosition_length {length : Nat} (h : length < 2 ^ 53) :
    resolvePosition length (Float.ofNat length) = length := by
  rw [resolvePosition_of_value? (Number.value?_ofNat h), Nat.min_self]

/-- The start and the stop of a slice. -/
def bounds (h : Heap) (args : Array Value) (length : Nat) : Nat × Nat :=
  (resolvePosition length (positionAt h args 0 0.0),
    resolvePosition length (positionAt h args 1 (Float.ofNat length)))

theorem sliceBounds_eq (args : Array Value) (length : Nat) (m : Machine) :
    sliceBounds args length m = .ok (bounds m.heap args length) m := by
  unfold sliceBounds
  rw [Run.bind_of_ok (numberArgument_eq args 0 0.0 m),
    Run.bind_of_ok (numberArgument_eq args 1 (Float.ofNat length) m)]
  rfl

theorem bounds_le (h : Heap) (args : Array Value) (length : Nat) :
    (bounds h args length).1 ≤ length ∧ (bounds h args length).2 ≤ length :=
  ⟨resolvePosition_le _ _, resolvePosition_le _ _⟩

/-! ## Pieces -/

theorem sliceList_map {α β : Type} (f : α → β) (xs : List α) (bounds : Nat × Nat) :
    (sliceList xs bounds).map f = sliceList (xs.map f) bounds := by
  rw [sliceList, sliceList, List.map_drop, List.map_take]

/-- Two pieces, one of which ends where the other one begins. -/
theorem sliceList_append {α : Type} (xs : List α) (p : Nat) :
    sliceList xs (0, p) ++ sliceList xs (p, xs.length) = xs := by
  rw [sliceList, sliceList, List.drop_zero, List.take_length, List.take_append_drop]

/-- A slice of an array is a new array, and one of a string is a string. -/
structure Slices (r : Value) (args : Array Value) (h : Heap) (piece : Value) (h' : Heap) :
    Prop where
  grows : h.GrowsTo h'
  typeName : piece.typeName = r.typeName
  made : piece.IsMade h'
  items : piece.items h' = sliceList (r.items h) (bounds h args (r.items h).length)

theorem callMethod_slice (invoke : Invoke) {r : Value} (hr : r.isSequence = true)
    (args : Array Value) (m : Machine) :
    ∃ piece m', callMethod invoke r "slice" args m = .ok piece m' ∧
      Slices r args m.heap piece m'.heap := by
  cases r with
  | array address =>
      have hbounds := sliceBounds_eq args (m.heap.elements address).size m
      let piece := (m.heap.elements address).extract
        (bounds m.heap args (m.heap.elements address).size).1
        (bounds m.heap args (m.heap.elements address).size).2
      refine ⟨.array m.heap.arrays.size, { m with heap := (m.heap.newArray piece).2 }, ?_, ?_⟩
      · show (sliceBounds args (m.heap.elements address).size >>= _) m = _
        rw [Run.bind_of_ok hbounds]
        rfl
      · refine ⟨Heap.growsTo_newArray _ _, rfl, ?_, ?_⟩
        · show _ < (m.heap.arrays.push piece).size
          rw [Array.size_push]
          exact Nat.lt_succ_self _
        · show ((m.heap.newArray piece).2.elements _).toList = _
          rw [Heap.elements_newArray, Array.toList_extract, List.extract_eq_take_drop,
            ← List.drop_take]
          rfl
  | string s =>
      have hbounds := sliceBounds_eq args s.toList.length m
      refine ⟨.string (String.ofList (sliceList s.toList (bounds m.heap args s.toList.length))), m,
        ?_, ⟨⟨Nat.le_refl _, fun _ _ => rfl⟩, rfl, trivial, ?_⟩⟩
      · show (sliceBounds args s.toList.length >>= _) m = _
        rw [Run.bind_of_ok hbounds]
        rfl
      · simp only [Value.items, String.toList_ofList, List.length_map, sliceList_map]
  | _ => cases hr

/-! ## One point -/

section Point

variable {h : Heap} {k : Value} {length : Nat}

/-- To the stop of a slice NaN is the end. -/
theorem bounds_front (hk : k ≠ .undefined) (hlength : length < 2 ^ 53) :
    bounds h #[.number 0.0, k] length =
      (0, if (k.toNumber h).isNaN then length
        else resolvePosition length (Number.truncate (k.toNumber h))) := by
  have hzero : Number.value? 0.0 = some ((0 : ℤ) : ℚ) := by
    rw [Number.value?_zero, Int.cast_zero]
  have hstart : positionAt h #[.number 0.0, k] 0 0.0 = 0.0 := by
    show (if (0.0 : Float).isNaN then 0.0 else Number.truncate 0.0) = (0.0 : Float)
    rw [Number.truncate_of_value? hzero, ite_self]
  have hstop : positionAt h #[.number 0.0, k] 1 (Float.ofNat length) =
      if (k.toNumber h).isNaN then Float.ofNat length else Number.truncate (k.toNumber h) :=
    positionAt_of_defined #[.number 0.0, k] 1 _ hk
  rw [bounds, hstart, hstop, resolvePosition_zero, apply_ite (resolvePosition length),
    resolvePosition_length hlength]

/-- To the start of a slice NaN is the beginning. -/
theorem bounds_back (hk : k ≠ .undefined) (hlength : length < 2 ^ 53) :
    bounds h #[k] length =
      (if (k.toNumber h).isNaN then 0
        else resolvePosition length (Number.truncate (k.toNumber h)), length) := by
  have hstart : positionAt h #[k] 0 0.0 =
      if (k.toNumber h).isNaN then 0.0 else Number.truncate (k.toNumber h) :=
    positionAt_of_defined #[k] 0 _ hk
  have hstop : positionAt h #[k] 1 (Float.ofNat length) = Float.ofNat length := rfl
  rw [bounds, hstart, hstop, apply_ite (resolvePosition length), resolvePosition_zero,
    resolvePosition_length hlength]

end Point

end Builtin

open Builtin

/-- Two slices at one point: they are the whole, or twice the whole where the point is no number. -/
theorem exists_slices (invoke : Invoke) {m : Machine} {r k : Value} (hclosed : m.heap.IsClosed)
    (hr : r.IsMade m.heap) (hk : k.IsMade m.heap) (hseq : r.isSequence = true)
    (hlength : (r.items m.heap).length < 2 ^ 53) (hdefined : k ≠ .undefined) :
    ∃ front m₁ back m₂, callMethod invoke r "slice" #[.number 0.0, k] m = .ok front m₁ ∧
      callMethod invoke r "slice" #[k] m₁ = .ok back m₂ ∧
      front.typeName = r.typeName ∧ back.typeName = r.typeName ∧
      r.items m₂.heap = r.items m.heap ∧
      front.items m₂.heap ++ back.items m₂.heap =
        if (k.toNumber m.heap).isNaN then r.items m.heap ++ r.items m.heap else r.items m.heap := by
  obtain ⟨front, m₁, hfront, hslices⟩ := callMethod_slice invoke hseq #[.number 0.0, k] m
  obtain ⟨back, m₂, hback, hslices'⟩ := callMethod_slice invoke hseq #[k] m₁
  have hitems := Value.items_of_growsTo hslices.grows hr
  have hnumber := Value.toNumber_of_growsTo hclosed hslices.grows hk
  refine ⟨front, m₁, back, m₂, hfront, hback, hslices.typeName, hslices'.typeName, ?_, ?_⟩
  · rw [Value.items_of_growsTo hslices'.grows (hr.of_growsTo hslices.grows), hitems]
  · rw [Value.items_of_growsTo hslices'.grows hslices.made, hslices.items, hslices'.items, hitems,
      bounds_front hdefined hlength, bounds_back hdefined hlength, hnumber]
    split
    next => rw [sliceList, List.take_length, List.drop_zero]
    next => exact sliceList_append _ _

/-- Slicing at one point takes an array or a string apart into what is in front of the point and
what is behind it, exactly if the point is not NaN or there is nothing to be taken apart.  Whatever
the arguments are, both positions of a slice are in it. -/
theorem slices_partition_iff (invoke : Invoke) {m : Machine} {r k : Value}
    (hclosed : m.heap.IsClosed) (hr : r.IsMade m.heap) (hk : k.IsMade m.heap)
    (hseq : r.isSequence = true) (hlength : (r.items m.heap).length < 2 ^ 53)
    (hdefined : k ≠ .undefined) :
    (∃ front m₁ back m₂, callMethod invoke r "slice" #[.number 0.0, k] m = .ok front m₁ ∧
      callMethod invoke r "slice" #[k] m₁ = .ok back m₂ ∧
      front.typeName = r.typeName ∧ back.typeName = r.typeName ∧
      (front.items m₂.heap ++ back.items m₂.heap = r.items m₂.heap ↔
        (k.toNumber m.heap).isNaN = false ∨ r.items m.heap = [])) ∧
    ∀ (args : Array Value) (length : Nat) (m : Machine), ∃ start stop,
      sliceBounds args length m = .ok (start, stop) m ∧ start ≤ length ∧ stop ≤ length := by
  constructor
  · obtain ⟨front, m₁, back, m₂, hfront, hback, htype, htype', hitems, hjoined⟩ :=
      exists_slices invoke hclosed hr hk hseq hlength hdefined
    refine ⟨front, m₁, back, m₂, hfront, hback, htype, htype', ?_⟩
    rw [hjoined, hitems]
    cases (k.toNumber m.heap).isNaN with
    | false => simp
    | true => simp
  · intro args length m
    obtain ⟨hstart, hstop⟩ := bounds_le m.heap args length
    exact ⟨_, _, sliceBounds_eq args length m, hstart, hstop⟩

/-- An array that is its own element, and one whose text is a number. -/
def numberedHeap : Heap := ⟨#[#[.null, .array 0], #[.string "1"]], #[]⟩

theorem isClosed_numberedHeap : numberedHeap.IsClosed := by
  intro address item hitem
  have hlt : address < 2 := Heap.lt_of_mem_elements hitem
  obtain rfl | rfl : address = 0 ∨ address = 1 := by omega
  · obtain rfl | rfl : item = .null ∨ item = .array 0 := by
      simpa [Heap.elements, numberedHeap] using hitem
    · trivial
    · exact (by decide : 0 < 2)
  · obtain rfl : item = .string "1" := by
      simpa [Heap.elements, numberedHeap] using hitem
    trivial

theorem slices_partition_numbered : ∃ front m₁ back m₂,
    callMethod (fun _ _ => pure .null) (.array 0) "slice" #[.number 0.0, .array 1]
      { Machine.initial with heap := numberedHeap } = .ok front m₁ ∧
    callMethod (fun _ _ => pure .null) (.array 0) "slice" #[.array 1] m₁ = .ok back m₂ ∧
    front.items m₂.heap ++ back.items m₂.heap = (Value.array 0).items m₂.heap := by
  have hnumber : ((Value.array 1).toNumber numberedHeap).isNaN = false := by decide +kernel
  obtain ⟨⟨front, m₁, back, m₂, hfront, hback, -, -, hjoined⟩, -⟩ :=
    slices_partition_iff (fun _ _ => pure .null)
      (m := { Machine.initial with heap := numberedHeap }) (r := .array 0) (k := .array 1)
      isClosed_numberedHeap (by decide : 0 < 2) (by decide : 1 < 2) rfl
      (by decide : 2 < 2 ^ 53) nofun
  exact ⟨front, m₁, back, m₂, hfront, hback, hjoined.2 (.inl hnumber)⟩

/-- A text that is no number is not the same position as a stop and as a start. -/
theorem not_slices_partition :
    ¬ ∀ (invoke : Invoke) (m : Machine) (r k : Value), m.heap.IsClosed → r.IsMade m.heap →
      k.IsMade m.heap → r.isSequence = true → (r.items m.heap).length < 2 ^ 53 →
      k ≠ .undefined → ∃ front m₁ back m₂,
        callMethod invoke r "slice" #[.number 0.0, k] m = .ok front m₁ ∧
        callMethod invoke r "slice" #[k] m₁ = .ok back m₂ ∧
        front.items m₂.heap ++ back.items m₂.heap = r.items m₂.heap := by
  intro hall
  have hclosed : Heap.empty.IsClosed := fun _ _ hitem =>
    absurd (Heap.lt_of_mem_elements hitem) (Nat.not_lt_zero _)
  obtain ⟨front, m₁, back, m₂, hfront, hback, -, -, hitems, htwice⟩ :=
    exists_slices (fun _ _ => pure .null) (m := { Machine.initial with heap := .empty })
      (r := .string "abc") (k := .string "x") hclosed trivial trivial rfl (by decide) nofun
  have hnan : ((Value.string "x").toNumber .empty).isNaN = true := by decide +kernel
  obtain ⟨front', m₁', back', m₂', hfront', hback', hjoined⟩ :=
    hall (fun _ _ => pure .null) { Machine.initial with heap := .empty } (.string "abc")
      (.string "x") hclosed trivial trivial rfl (by decide) nofun
  cases hfront.symm.trans hfront'
  cases hback.symm.trans hback'
  rw [htwice, hitems, if_pos hnan] at hjoined
  have hlength := congrArg List.length hjoined
  simp [Value.items] at hlength

end ScopedViews.Sandbox
