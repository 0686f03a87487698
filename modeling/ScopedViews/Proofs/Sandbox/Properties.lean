import ScopedViews.Proofs.Sandbox.Contents
import ScopedViews.Proofs.Sandbox.Growth
import ScopedViews.Proofs.Sandbox.Indices
/-!
# Reading and writing properties

Objects and arrays live in the heap and are shared, so that a property that is written is seen by
everything that refers to its holder, and by nothing else.  An object takes every property.  An
array takes an element under its index and a number of elements under `length`, both up to a limit,
and refuses other keys.  Listing the keys, looking for one and reading under one go by the same
indices.

* `Value.IsIn`, `Value.element?`: the values of a heap, and their elements;
* `Value.get_toString`, `Value.mem_keys_iff`, `hasKey_array`: the keys of arrays and strings;
* `Value.planWrite_array_eq_ok_iff`: what arrays take;
* `Value.apply_agreesOff`, `Value.IsIn.apply`: what a write leaves alone;
* `Value.apply_member`, `Value.apply_element`, `Value.apply_length`: what it changes;
* `property_laws`: reading after writing.
-/

namespace ScopedViews

namespace OrderedMap

variable {κ α : Type} [DecidableEq κ] {m : OrderedMap κ α} {k : κ}

/-- A key that is there keeps its place, and a new one is the last. -/
theorem keys_insert (v : α) :
    (m.insert k v).keys = if k ∈ m.keys then m.keys else m.keys ++ [k] := by
  obtain ⟨entries, nodup⟩ := m
  simp only [insert]
  split
  next i hi =>
    obtain ⟨hlt, hk, -⟩ := Array.findIdx?_eq_some_iff_getElem.1 hi
    have hk : entries[i].1 = k := by simpa using hk
    have hmem : k ∈ keys ⟨entries, nodup⟩ :=
      List.mem_map.2 ⟨entries[i], Array.mem_toList_iff.2 (Array.getElem_mem hlt), hk⟩
    rw [if_pos hmem, keys, keys_set v hi, keys]
  next hnone =>
    have hmem : k ∉ keys ⟨entries, nodup⟩ := by
      intro hmem
      obtain ⟨e, he, rfl⟩ := List.mem_map.1 hmem
      have hne := Array.findIdx?_eq_none_iff.1 hnone e (Array.mem_toList_iff.1 he)
      simp at hne
    rw [if_neg hmem, keys, Array.toList_push, List.map_append, keys]
    rfl

end OrderedMap

namespace Sandbox

namespace Heap

variable {h : Heap} {address : Nat}

theorem elements_modifyArray_self (hbound : address < h.arrays.size)
    (f : Array Value → Array Value) :
    (h.modifyArray address f).elements address = f (h.elements address) := by
  simp [elements, modifyArray, hbound, Array.getElem_modify]

theorem properties_modifyObject_self (hbound : address < h.objects.size)
    (f : Properties → Properties) :
    (h.modifyObject address f).properties address = f (h.properties address) := by
  simp [properties, modifyObject, hbound, Array.getElem_modify]

theorem properties_modifyObject_of_ne {other : Nat} (hne : other ≠ address)
    (f : Properties → Properties) :
    (h.modifyObject address f).properties other = h.properties other := by
  have hne' : ¬ address = other := fun heq => hne heq.symm
  simp [properties, modifyObject, Array.getElem?_modify, hne']

end Heap

namespace Value

variable {h h' : Heap} {v : Value} {key : String} {x : Value}

/-! ## Elements -/

/-- An array that is shortened or filled up. -/
theorem getElem?_resize (items : Array Value) (n j : Nat) :
    (resize items n)[j]? = if j < n then some (items[j]?.getD .undefined) else none := by
  unfold resize
  split
  next hlt =>
    rw [Array.take_eq_extract, Array.getElem?_extract, Nat.zero_add]
    by_cases hj : j < n
    · rw [if_pos (by omega), if_pos hj, Array.getElem?_eq_getElem (hj.trans hlt), Option.getD_some]
    · rw [if_neg (by omega), if_neg hj]
  next hle =>
    rw [Array.getElem?_append, Array.getElem?_replicate]
    by_cases hj : j < items.size
    · rw [if_pos hj, if_pos (by omega), Array.getElem?_eq_getElem hj, Option.getD_some]
    · rw [if_neg hj, Array.getElem?_eq_none (by omega), Option.getD_none]
      exact if_congr (by omega) rfl rfl

theorem size_writeAt (items : Array Value) (i : Nat) (x : Value) :
    (writeAt items i x).size = max items.size (i + 1) := by
  unfold writeAt
  split
  next => rw [Array.size_setIfInBounds]; omega
  next => rw [Array.size_push, Law.size_resize]; omega

/-- An array with an element that is written; what it gains in front of that is undefined. -/
theorem getElem?_writeAt (items : Array Value) (i j : Nat) (x : Value) :
    (writeAt items i x)[j]? = if j = i then some x
      else if j < max items.size (i + 1) then some (items[j]?.getD .undefined) else none := by
  unfold writeAt
  by_cases hij : j = i
  · subst hij
    rw [if_pos rfl]
    split
    next hlt => exact Array.getElem?_setIfInBounds_self_of_lt hlt
    next => rw [Array.getElem?_push, Law.size_resize, if_pos rfl]
  · rw [if_neg hij]
    split
    next hlt =>
      rw [Array.getElem?_setIfInBounds_ne (Ne.symm hij)]
      by_cases hj : j < items.size
      · rw [if_pos (by omega), Array.getElem?_eq_getElem hj, Option.getD_some]
      · rw [if_neg (by omega), Array.getElem?_eq_none (by omega)]
    next hle =>
      rw [Array.getElem?_push, Law.size_resize, if_neg hij, getElem?_resize]
      exact if_congr (by omega) rfl rfl

/-- What a value refers to is in the heap, and it has no more elements than there are indices. -/
def IsIn (h : Heap) : Value → Prop
  | .array address => address < h.arrays.size ∧ (h.elements address).size ≤ 2 ^ 64
  | .object address => address < h.objects.size
  | .string s => s.length ≤ 2 ^ 64
  | _ => True

/-- The element at an index: arrays have elements, and strings do. -/
def element? (h : Heap) (v : Value) (i : Nat) : Option Value :=
  match v with
  | .array address => (h.elements address)[i]?
  | .string s => (s.toList[i]?).map fun c => .string c.toString
  | _ => none

/-- Arrays and strings. -/
def isSequence : Value → Bool
  | .array _ | .string _ => true
  | _ => false

theorem element?_lt (hv : v.IsIn h) {i : Nat} {e : Value} (he : v.element? h i = some e) :
    i < 2 ^ 64 := by
  cases v with
  | array address =>
      obtain ⟨hlt, -⟩ := Array.getElem?_eq_some_iff.1 he
      exact hlt.trans_le hv.2
  | string s =>
      obtain ⟨c, hc, -⟩ := Option.map_eq_some_iff.1 he
      obtain ⟨hlt, -⟩ := List.getElem?_eq_some_iff.1 hc
      have hle : s.length ≤ 2 ^ 64 := hv
      exact hlt.trans_le hle
  | _ => cases he

/-! ## Reading -/

/-- Under any key but `length` the elements are read. -/
theorem get_of_isSequence (hseq : v.isSequence = true) (hkey : key ≠ "length") :
    v.get h key = ((index? key).bind (v.element? h)).getD .undefined := by
  cases v with
  | array address =>
      simp only [get, if_neg hkey]
      rfl
  | string s =>
      simp only [get, if_neg hkey]
      cases index? key <;> rfl
  | _ => cases hseq

/-- `length` is no index. -/
theorem toString_ne_length (i : Nat) : (toString i : String) ≠ "length" := by
  intro heq
  have hdigits : Nat.toDigits 10 i = "length".toList := by
    rw [← toList_toString, heq]
  have hl : 'l' ∈ Nat.toDigits 10 i := by
    rw [hdigits]
    decide
  exact absurd (Nat.isDigit_of_mem_toDigits (by decide) (by decide) hl) (by decide)

/-- The element at an index is read under the decimal form of the index. -/
theorem get_toString (hv : v.IsIn h) (hseq : v.isSequence = true) (i : Nat) :
    v.get h (toString i) = (v.element? h i).getD .undefined := by
  rw [get_of_isSequence hseq (toString_ne_length i)]
  -- an index that takes too many places is no key of an element, and no element has it
  by_cases hi : i < 2 ^ 64
  · rw [index?_toString hi, Option.bind_some]
  · have hnone : index? (toString i) = none := by
      rw [Option.eq_none_iff_forall_ne_some]
      intro j hj
      obtain ⟨heq, hlt⟩ := index?_eq_some_iff.1 hj
      exact hi (toString_injective heq ▸ hlt)
    have helement : v.element? h i = none := by
      rw [Option.eq_none_iff_forall_ne_some]
      exact fun e he => hi (element?_lt hv he)
    rw [hnone, helement]
    rfl

/-- The keys of an array or a string are the decimal forms of the indices of its elements. -/
theorem mem_keys_iff (hseq : v.isSequence = true) :
    key ∈ v.keys h ↔ ∃ i e, key = toString i ∧ v.element? h i = some e := by
  cases v with
  | array address =>
      simp only [keys, List.mem_map, List.mem_range]
      constructor
      · rintro ⟨i, hi, rfl⟩
        exact ⟨i, _, rfl, Array.getElem?_eq_getElem hi⟩
      · rintro ⟨i, e, rfl, he⟩
        exact ⟨i, (Array.getElem?_eq_some_iff.1 he).1, rfl⟩
  | string s =>
      simp only [keys, List.mem_map, List.mem_range]
      constructor
      · rintro ⟨i, hi, rfl⟩
        exact ⟨i, _, rfl, congrArg (Option.map _) (List.getElem?_eq_getElem (l := s.toList) hi)⟩
      · rintro ⟨i, e, rfl, he⟩
        obtain ⟨c, hc, -⟩ := Option.map_eq_some_iff.1 he
        exact ⟨i, (List.getElem?_eq_some_iff.1 hc).1, rfl⟩
  | _ => cases hseq

/-- Under other keys than these and `length` there is nothing. -/
theorem get_of_notMem_keys (hseq : v.isSequence = true) (hkey : key ≠ "length")
    (hmem : key ∉ v.keys h) : v.get h key = .undefined := by
  rw [get_of_isSequence hseq hkey]
  cases hread : (index? key).bind (v.element? h) with
  | none => rfl
  | some e =>
      obtain ⟨i, hi, he⟩ := Option.bind_eq_some_iff.1 hread
      exact absurd ((mem_keys_iff hseq).2 ⟨i, e, (index?_eq_some_iff.1 hi).1, he⟩) hmem

/-- Identical values have the same properties. -/
theorem reads_of_strictEquals {w : Value} (heq : v.strictEquals w = true) :
    (∀ key, w.get h key = v.get h key) ∧ w.keys h = v.keys h := by
  cases v <;> cases w <;> simp [strictEquals] at heq
  case string => simp [heq]
  case array => simp [heq]
  case object => simp [heq]
  all_goals exact ⟨fun _ => rfl, rfl⟩

/-! ## What is written -/

theorem planWrite_length_eq_ok_iff {address : Nat} {w : Write} :
    planWrite h (.array address) "length" x = .ok w ↔ ∃ n : ℕ, n ≤ maxArrayLength ∧
      Number.value? (x.toNumber h) = some (n : ℚ) ∧ w = .length address n := by
  simp only [planWrite, if_pos]
  cases hlength : requestedLength h x with
  | error e =>
      refine iff_of_false (fun heq => by cases heq) ?_
      rintro ⟨n, hn, hvalue, -⟩
      rw [requestedLength_eq_ok_iff.2 ⟨hn, hvalue⟩] at hlength
      cases hlength
  | ok n =>
      obtain ⟨hn, hvalue⟩ := requestedLength_eq_ok_iff.1 hlength
      constructor
      · intro heq
        cases heq
        exact ⟨n, hn, hvalue, rfl⟩
      · rintro ⟨k, -, hk, rfl⟩
        have hsame : (n : ℚ) = k := Option.some.inj (hvalue.symm.trans hk)
        rw [Nat.cast_injective hsame]
        rfl

theorem planWrite_element_eq_ok_iff {address : Nat} {w : Write} (hkey : key ≠ "length") :
    planWrite h (.array address) key x = .ok w ↔
      ∃ i < maxArrayLength, key = toString i ∧ w = .element address i x := by
  have hplaces : maxArrayLength ≤ 2 ^ 64 := by decide
  simp only [planWrite]
  rw [if_neg hkey]
  cases hindex : index? key with
  | none =>
      refine iff_of_false (fun heq => by cases heq) ?_
      rintro ⟨i, hi, heq, -⟩
      rw [index?_eq_some_iff.2 ⟨heq, hi.trans_le hplaces⟩] at hindex
      cases hindex
  | some i =>
      obtain ⟨rfl, -⟩ := index?_eq_some_iff.1 hindex
      dsimp only
      by_cases hlimit : maxArrayLength ≤ i
      · rw [if_pos hlimit]
        refine iff_of_false (fun heq => by cases heq) ?_
        rintro ⟨j, hj, heq, -⟩
        exact absurd (toString_injective heq ▸ hj) (Nat.not_lt.2 hlimit)
      · rw [if_neg hlimit, Except.ok.injEq]
        constructor
        · rintro rfl
          exact ⟨i, Nat.lt_of_not_le hlimit, rfl, rfl⟩
        · rintro ⟨j, -, heq, rfl⟩
          rw [toString_injective heq]

/-- The changes that an array takes: an element below the limit, and a length up to it. -/
theorem planWrite_array_eq_ok_iff {address : Nat} {w : Write} :
    planWrite h (.array address) key x = .ok w ↔
      (∃ i < maxArrayLength, key = toString i ∧ w = .element address i x) ∨
        key = "length" ∧ ∃ n : ℕ, n ≤ maxArrayLength ∧
          Number.value? (x.toNumber h) = some (n : ℚ) ∧ w = .length address n := by
  by_cases hkey : key = "length"
  · subst hkey
    rw [planWrite_length_eq_ok_iff, or_iff_right, and_iff_right rfl]
    rintro ⟨i, -, heq, -⟩
    exact toString_ne_length i heq.symm
  · rw [planWrite_element_eq_ok_iff hkey, or_iff_left]
    exact fun h => hkey h.1

/-! ## Writing -/

/-- Two heaps have the same arrays and the same objects, but for what a value refers to. -/
structure AgreesOff (v : Value) (h h' : Heap) : Prop where
  arrays : h'.arrays.size = h.arrays.size
  objects : h'.objects.size = h.objects.size
  elements : ∀ address, v ≠ .array address → h'.elements address = h.elements address
  properties : ∀ address, v ≠ .object address → h'.properties address = h.properties address

/-- A property that is written changes nothing but what it belongs to. -/
theorem apply_agreesOff {w : Write} (hw : v.planWrite h key x = .ok w) :
    v.AgreesOff h (w.apply h) := by
  have helements (address : Nat) (hne : v ≠ .array address) := elements_apply_of_ne hw hne
  cases v with
  | object address =>
      cases hw
      refine ⟨rfl, Array.size_modify .., helements, fun other hne => ?_⟩
      exact Heap.properties_modifyObject_of_ne (fun heq => hne (by rw [heq])) _
  | array address =>
      obtain ⟨i, -, -, rfl⟩ | ⟨-, n, -, -, rfl⟩ := planWrite_array_eq_ok_iff.1 hw
      · exact ⟨Array.size_modify .., rfl, helements, fun _ _ => rfl⟩
      · exact ⟨Array.size_modify .., rfl, helements, fun _ _ => rfl⟩
  | undefined => cases hw
  | null => cases hw
  | _ =>
      cases hw
      exact ⟨rfl, rfl, fun _ _ => rfl, fun _ _ => rfl⟩

theorem set_eq_ok_iff :
    v.set h key x = .ok h' ↔ ∃ w, v.planWrite h key x = .ok w ∧ h' = w.apply h := by
  unfold set
  cases v.planWrite h key x with
  | error e => exact iff_of_false nofun nofun
  | ok w => simp [Except.map, eq_comm]

/-- The values of a heap stay in it. -/
theorem IsIn.apply {w : Write} (hw : v.planWrite h key x = .ok w) {u : Value} (hu : u.IsIn h) :
    u.IsIn (w.apply h) := by
  have hagrees := apply_agreesOff hw
  cases u with
  | object address => exact hu.trans_eq hagrees.objects.symm
  | array address =>
      obtain ⟨hbound, hsize⟩ := hu
      refine ⟨hbound.trans_eq hagrees.arrays.symm, ?_⟩
      by_cases hv : v = .array address
      · -- the array that is written to stays below the limit, or as long as it was
        subst hv
        have hplaces : maxArrayLength ≤ 2 ^ 64 := by decide
        obtain ⟨i, hi, -, rfl⟩ | ⟨-, n, hn, -, rfl⟩ := planWrite_array_eq_ok_iff.1 hw
        · show ((h.modifyArray address _).elements address).size ≤ _
          rw [Heap.elements_modifyArray_self hbound, size_writeAt]
          omega
        · show ((h.modifyArray address _).elements address).size ≤ _
          rw [Heap.elements_modifyArray_self hbound, Law.size_resize]
          omega
      · rw [hagrees.elements address hv]
        exact hsize
  | _ => exact hu

/-- The member `key` is `x`, and nothing else has changed. -/
structure MemberWritten (v : Value) (key : String) (x : Value) (h h' : Heap) : Prop where
  get : v.get h' key = x
  others : ∀ other, other ≠ key → v.get h' other = v.get h other
  keys : v.keys h' = if key ∈ v.keys h then v.keys h else v.keys h ++ [key]

/-- The element at `i` is `x`, the other ones have stayed, and the gap is filled with undefined. -/
structure ElementWritten (v : Value) (i : Nat) (x : Value) (h h' : Heap) : Prop where
  get : v.get h' (toString i) = x
  length : v.arrayLength h' = max (v.arrayLength h) (i + 1)
  others : ∀ j, j ≠ i → j < v.arrayLength h' →
    v.element? h' j = some ((v.element? h j).getD .undefined)

/-- There are `n` elements, which are those from before and then undefined. -/
structure LengthWritten (v : Value) (n : Nat) (h h' : Heap) : Prop where
  length : v.arrayLength h' = n
  elements : ∀ j, j < n → v.element? h' j = some ((v.element? h j).getD .undefined)

theorem apply_member {address : Nat} (hbound : address < h.objects.size) :
    (Value.object address).MemberWritten key x h ((Write.member address key x).apply h) := by
  have hself : ((Write.member address key x).apply h).properties address
      = (h.properties address).insert key x := Heap.properties_modifyObject_self hbound _
  refine ⟨?_, fun other hother => ?_, ?_⟩
  · simp only [get]
    rw [hself, OrderedMap.get?_insert_self, Option.getD_some]
  · simp only [get]
    rw [hself, OrderedMap.get?_insert_of_ne hother]
  · simp only [keys]
    rw [hself, OrderedMap.keys_insert]
    exact if_congr Iff.rfl rfl rfl

theorem apply_element {address i : Nat} (hv : (Value.array address).IsIn h)
    (hi : i < maxArrayLength) :
    (Value.array address).ElementWritten i x h ((Write.element address i x).apply h) := by
  have hself : ((Write.element address i x).apply h).elements address
      = writeAt (h.elements address) i x := Heap.elements_modifyArray_self hv.1 _
  have hin : (Value.array address).IsIn ((Write.element address i x).apply h) :=
    hv.apply (planWrite_array_eq_ok_iff.2 (.inl ⟨i, hi, rfl, rfl⟩))
  refine ⟨?_, ?_, fun j hne hj => ?_⟩
  · rw [get_toString hin rfl]
    simp only [element?]
    rw [hself, getElem?_writeAt, if_pos rfl, Option.getD_some]
  · simp only [arrayLength]
    rw [hself, size_writeAt]
  · simp only [arrayLength] at hj
    rw [hself, size_writeAt] at hj
    simp only [element?]
    rw [hself, getElem?_writeAt, if_neg hne, if_pos hj]

theorem apply_length {address n : Nat} (hbound : address < h.arrays.size) :
    (Value.array address).LengthWritten n h ((Write.length address n).apply h) := by
  have hself : ((Write.length address n).apply h).elements address
      = resize (h.elements address) n := Heap.elements_modifyArray_self hbound _
  refine ⟨?_, fun j hj => ?_⟩
  · simp only [arrayLength]
    rw [hself, Law.size_resize]
  · simp only [element?]
    rw [hself, getElem?_resize, if_pos hj]

/-! ## Holders -/

/-- What an array takes. -/
theorem exists_set_array_iff {address : Nat} :
    (∃ h', set h (.array address) key x = .ok h') ↔
      (∃ i < maxArrayLength, key = toString i) ∨
        key = "length" ∧ ∃ n : ℕ, n ≤ maxArrayLength ∧
          Number.value? (x.toNumber h) = some (n : ℚ) := by
  simp only [set_eq_ok_iff, planWrite_array_eq_ok_iff]
  constructor
  · rintro ⟨h', w, ⟨i, hi, hkey, -⟩ | ⟨hkey, n, hn, hvalue, -⟩, -⟩
    · exact .inl ⟨i, hi, hkey⟩
    · exact .inr ⟨hkey, n, hn, hvalue⟩
  · rintro (⟨i, hi, hkey⟩ | ⟨hkey, n, hn, hvalue⟩)
    · exact ⟨_, _, .inl ⟨i, hi, hkey, rfl⟩, rfl⟩
    · exact ⟨_, _, .inr ⟨hkey, n, hn, hvalue, rfl⟩, rfl⟩

/-- What becomes of an array that takes it. -/
theorem written_of_set_array {address : Nat} (hv : (Value.array address).IsIn h)
    (hset : set h (.array address) key x = .ok h') :
    (∀ i, key = toString i → (Value.array address).ElementWritten i x h h') ∧
      ∀ n : ℕ, key = "length" → Number.value? (x.toNumber h) = some (n : ℚ) →
        (Value.array address).LengthWritten n h h' := by
  obtain ⟨w, hw, rfl⟩ := set_eq_ok_iff.1 hset
  obtain ⟨i, hi, rfl, rfl⟩ | ⟨rfl, n, -, hvalue, rfl⟩ := planWrite_array_eq_ok_iff.1 hw
  · -- the key is an index, and no other one
    refine ⟨fun j hj => ?_, fun n hlength => absurd hlength (toString_ne_length i)⟩
    rw [← toString_injective hj]
    exact apply_element hv hi
  · refine ⟨fun j hj => absurd hj.symm (toString_ne_length j), fun k _ hk => ?_⟩
    have hsame : (n : ℚ) = k := Option.some.inj (hvalue.symm.trans hk)
    rw [← Nat.cast_injective hsame]
    exact apply_length hv.1

theorem set_of_isNullish (hnullish : v.isNullish = true) : ∃ e, v.set h key x = .error e := by
  cases v with
  | undefined => exact ⟨_, rfl⟩
  | null => exact ⟨_, rfl⟩
  | _ => cases hnullish

theorem set_of_ignored (hnullish : v.isNullish = false) (hobject : ∀ address, v ≠ .object address)
    (harray : ∀ address, v ≠ .array address) : v.set h key x = .ok h := by
  cases v with
  | object address => exact absurd rfl (hobject address)
  | array address => exact absurd rfl (harray address)
  | undefined => cases hnullish
  | null => cases hnullish
  | _ => rfl

/-- The keys of an array or a string are those under which an element is read. -/
theorem mem_keys_iff_get (hv : v.IsIn h) (hseq : v.isSequence = true) : key ∈ v.keys h ↔
    ∃ i e, key = toString i ∧ v.element? h i = some e ∧ v.get h key = e := by
  refine (mem_keys_iff hseq).trans ?_
  refine exists_congr fun i => exists_congr fun e => and_congr_right ?_
  rintro rfl
  rw [get_toString hv hseq]
  exact ⟨fun he => ⟨he, by rw [he, Option.getD_some]⟩, And.left⟩

end Value

open Value

/-- A script that writes a property has the heap that the write leaves, and when it is refused it
has the heap from before and an exception. -/
theorem setProperty_eq (v : Value) (key : String) (x : Value) (m : Machine) :
    Run.setProperty v key x m = match v.set m.heap key x with
      | .ok h' => .ok () { m with heap := h' }
      | .error e => .error (.exception e) m := by
  unfold Value.set
  cases hplan : v.planWrite m.heap key x with
  | ok w => exact setProperty_of_ok hplan
  | error e => exact setProperty_of_error hplan

/-- The `in` operator finds the keys of an array, and its length. -/
theorem hasKey_array {address : Nat} {m : Machine} (hin : (Value.array address).IsIn m.heap)
    (left : Value) :
    ∃ b, hasKey left (.array address) m = .ok (.bool b) m ∧
      (b = true ↔ left.toText m.heap = "length" ∨
        left.toText m.heap ∈ (Value.array address).keys m.heap) := by
  refine ⟨_, rfl, ?_⟩
  rw [mem_keys_iff rfl, Bool.or_eq_true, decide_eq_true_eq, Option.any_eq_true]
  refine or_congr_right ⟨?_, ?_⟩
  · rintro ⟨i, hi, hlt⟩
    have hlt : i < (m.heap.elements address).size := of_decide_eq_true hlt
    exact ⟨i, _, (index?_eq_some_iff.1 hi).1, Array.getElem?_eq_getElem hlt⟩
  · rintro ⟨i, e, hkey, he⟩
    have hlt : i < (m.heap.elements address).size := (Array.getElem?_eq_some_iff.1 he).1
    exact ⟨i, index?_eq_some_iff.2 ⟨hkey, element?_lt hin he⟩, decide_eq_true hlt⟩

/-- Reading and writing properties, for every heap and every value in it. -/
theorem property_laws {h : Heap} {v : Value} (hv : v.IsIn h) (key : String) (x : Value) :
    -- an object takes everything
    (∀ address, v = .object address →
      ∃ h', v.set h key x = .ok h' ∧ v.MemberWritten key x h h') ∧
    -- an array takes elements under their indices, and its length, up to the limit
    (∀ address, v = .array address →
      ((∃ h', v.set h key x = .ok h') ↔
        (∃ i < maxArrayLength, key = toString i) ∨
          key = "length" ∧ ∃ n : ℕ, n ≤ maxArrayLength ∧
            Number.value? (x.toNumber h) = some (n : ℚ)) ∧
      ∀ h', v.set h key x = .ok h' →
        (∀ i, key = toString i → v.ElementWritten i x h h') ∧
        ∀ n : ℕ, key = "length" → Number.value? (x.toNumber h) = some (n : ℚ) →
          v.LengthWritten n h h') ∧
    -- undefined and null take nothing, and everything else ignores what is written
    (v.isNullish = true → ∃ e, v.set h key x = .error e) ∧
    (v.isNullish = false → (∀ address, v ≠ .object address) → (∀ address, v ≠ .array address) →
      v.set h key x = .ok h) ∧
    -- a refusal leaves everything as it was
    (∀ m : Machine, m.heap = h → Run.setProperty v key x m = match v.set h key x with
      | .ok h' => .ok () { m with heap := h' }
      | .error e => .error (.exception e) m) ∧
    -- other arrays and objects are left alone, and whoever refers to this one sees the same
    (∀ h', v.set h key x = .ok h' → v.AgreesOff h h' ∧ (∀ w : Value, w.IsIn h → w.IsIn h') ∧
      ∀ w, v.strictEquals w = true →
        (∀ other, w.get h' other = v.get h' other) ∧ w.keys h' = v.keys h') ∧
    -- no key occurs twice
    (∀ address, ((Value.object address).keys h).Nodup) ∧
    -- the keys of arrays and strings are those under which their elements are read
    (v.isSequence = true →
      (∀ k, k ∈ v.keys h ↔ ∃ i e, k = toString i ∧ v.element? h i = some e ∧ v.get h k = e) ∧
      ∀ k, k ∉ v.keys h → k ≠ "length" → v.get h k = .undefined) := by
  refine ⟨?object, ?array, set_of_isNullish, set_of_ignored, ?machine, ?others, ?nodup, ?sequence⟩
  case object =>
    rintro address rfl
    exact ⟨_, rfl, apply_member hv⟩
  case array =>
    rintro address rfl
    exact ⟨exists_set_array_iff, fun h' hset => written_of_set_array hv hset⟩
  case machine =>
    rintro m rfl
    exact setProperty_eq v key x m
  case others =>
    intro h' hset
    obtain ⟨w, hw, rfl⟩ := set_eq_ok_iff.1 hset
    exact ⟨apply_agreesOff hw, fun _ hu => hu.apply hw, fun _ heq => reads_of_strictEquals heq⟩
  case nodup => exact fun address => (h.properties address).nodup
  case sequence =>
    exact fun hseq => ⟨fun k => mem_keys_iff_get hv hseq, fun k hmem hk =>
      get_of_notMem_keys hseq hk hmem⟩

/-- An array that is its own element. -/
def cyclicHeap : Heap := ⟨#[#[.array 0]], #[]⟩

theorem property_laws_cyclic : (Value.array 0).IsIn cyclicHeap ∧
    ∃ h', (Value.array 0).set cyclicHeap "2" (.array 0) = .ok h' ∧
      (Value.array 0).ElementWritten 2 (.array 0) cyclicHeap h' := by
  have hin : (Value.array 0).IsIn cyclicHeap := ⟨by decide, by decide⟩
  obtain ⟨-, harray, -⟩ := property_laws hin "2" (.array 0)
  obtain ⟨htakes, hwritten⟩ := harray 0 rfl
  obtain ⟨h', hset⟩ := htakes.2 (.inl ⟨2, by decide, rfl⟩)
  exact ⟨hin, h', hset, (hwritten h' hset).1 2 rfl⟩

end Sandbox

end ScopedViews
