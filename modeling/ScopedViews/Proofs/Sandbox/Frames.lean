import Mathlib.Data.List.Nodup
import ScopedViews.Sandbox.Execute
/-!
# What a machine never gives back

An evaluation binds global names, registers definitions and spends steps, and takes none of this
back.  Frames come and go, but a computation leaves as many of them as it has found.

* `Machine.Precedes`: one machine may come before another one;
* `Machine.Returns`: it may, and both have as many frames;
* `Machine.Returns.pushed`: a computation in a frame of its own.
-/

namespace ScopedViews

namespace OrderedMap

variable {κ α : Type} [DecidableEq κ] {m : OrderedMap κ α} {k k' : κ} {v : α}

theorem mem_of_get? (h : m.get? k = some v) : (k, v) ∈ m.entries := by
  unfold get? at h
  split at h
  next key value hfind =>
    cases h
    have hkey : key = k := by simpa using Array.find?_some hfind
    exact hkey ▸ Array.mem_of_find?_eq_some hfind
  next => cases h

/-- A key has a value exactly if it is there. -/
theorem isSome_get?_iff : (m.get? k).isSome = true ↔ k ∈ m.keys := by
  constructor
  · intro h
    obtain ⟨v, hv⟩ := Option.isSome_iff_exists.1 h
    exact List.mem_map.2 ⟨(k, v), Array.mem_toList_iff.2 (mem_of_get? hv), rfl⟩
  · intro h
    obtain ⟨e, he, rfl⟩ := List.mem_map.1 h
    unfold get?
    split
    next => rfl
    next hnone =>
      have hne := Array.find?_eq_none.1 hnone e (Array.mem_toList_iff.1 he)
      simp at hne

theorem mem_keys_insert : k' ∈ (m.insert k v).keys ↔ k' ∈ m.keys ∨ k' = k := by
  obtain ⟨entries, nodup⟩ := m
  simp only [insert]
  split
  next i hi =>
    -- the key is there already
    have hkey : k ∈ entries.toList.map Prod.fst := by
      obtain ⟨hlt, hk, -⟩ := Array.findIdx?_eq_some_iff_getElem.1 hi
      have hk : entries[i].1 = k := by simpa using hk
      exact List.mem_map.2 ⟨entries[i], Array.mem_toList_iff.2 (Array.getElem_mem hlt), hk⟩
    simp only [keys, keys_set v hi]
    constructor
    · exact .inl
    · rintro (h | rfl)
      · exact h
      · exact hkey
  next => simp [keys, Array.toList_push]

theorem get?_eq_some_iff : m.get? k = some v ↔ (k, v) ∈ m.entries := by
  refine ⟨mem_of_get?, fun hmem => ?_⟩
  have hkey : k ∈ m.keys := List.mem_map.2 ⟨(k, v), Array.mem_toList_iff.2 hmem, rfl⟩
  obtain ⟨v', hv'⟩ := Option.isSome_iff_exists.1 (isSome_get?_iff.2 hkey)
  have heq : (k, v') = (k, v) := List.inj_on_of_nodup_map m.nodup
    (Array.mem_toList_iff.2 (mem_of_get? hv')) (Array.mem_toList_iff.2 hmem) rfl
  rw [hv', (Prod.mk.inj heq).2]

theorem mem_entries_insert_self : (k, v) ∈ (m.insert k v).entries := by
  obtain ⟨entries, nodup⟩ := m
  simp only [insert]
  split
  next i hi =>
    obtain ⟨hlt, -, -⟩ := Array.findIdx?_eq_some_iff_getElem.1 hi
    exact Array.mem_iff_getElem?.2 ⟨i, by simp [hlt]⟩
  next => exact Array.mem_push_self

theorem mem_entries_insert_of_ne {w : α} (h : k' ≠ k) :
    (k', w) ∈ (m.insert k v).entries ↔ (k', w) ∈ m.entries := by
  obtain ⟨entries, nodup⟩ := m
  simp only [insert]
  split
  next i hi =>
    -- the entry that is replaced has another key
    obtain ⟨hlt, hk, -⟩ := Array.findIdx?_eq_some_iff_getElem.1 hi
    have hk : entries[i].1 = k := by simpa using hk
    simp only [Array.mem_iff_getElem?]
    refine exists_congr fun j => ?_
    by_cases hj : i = j
    · subst hj
      rw [Array.getElem?_setIfInBounds_self_of_lt hlt, Array.getElem?_eq_getElem hlt]
      refine iff_of_false (fun heq => ?_) fun heq => ?_
      · cases Option.some.inj heq
        exact h rfl
      · rw [← hk, Option.some.inj heq] at h
        exact h rfl
    · rw [Array.getElem?_setIfInBounds_ne hj]
  next =>
    rw [Array.mem_push, or_iff_left]
    intro heq
    cases heq
    exact h rfl

@[simp] theorem get?_insert_self : (m.insert k v).get? k = some v :=
  get?_eq_some_iff.2 mem_entries_insert_self

theorem get?_insert_of_ne (h : k' ≠ k) : (m.insert k v).get? k' = m.get? k' := by
  refine Option.ext fun w => ?_
  rw [get?_eq_some_iff, get?_eq_some_iff, mem_entries_insert_of_ne h]

end OrderedMap

namespace Sandbox

/-- The definitions that have been registered, by where they start. -/
def Machine.starts (m : Machine) : List Nat := m.functions.keys

/-- No step, no global name and no definition of the first machine is missing in the second. -/
structure Machine.Precedes (m m' : Machine) : Prop where
  steps : m.steps ≤ m'.steps
  names : ∀ name ∈ m.global.keys, name ∈ m'.global.keys
  starts : ∀ start ∈ m.starts, start ∈ m'.starts

/-- Nothing is missing, and there are as many frames. -/
structure Machine.Returns (m m' : Machine) : Prop extends m.Precedes m' where
  depth : m'.depth = m.depth

namespace Machine

variable {m m₁ m₂ m₃ : Machine}

theorem Precedes.refl (m : Machine) : m.Precedes m :=
  ⟨Nat.le_refl _, fun _ h => h, fun _ h => h⟩

theorem Precedes.trans (h : m₁.Precedes m₂) (h' : m₂.Precedes m₃) : m₁.Precedes m₃ where
  steps := Nat.le_trans h.steps h'.steps
  names name hname := h'.names name (h.names name hname)
  starts start hstart := h'.starts start (h.starts start hstart)

theorem Returns.refl (m : Machine) : m.Returns m := ⟨.refl m, rfl⟩

theorem Returns.trans (h : m₁.Returns m₂) (h' : m₂.Returns m₃) : m₁.Returns m₃ :=
  ⟨h.toPrecedes.trans h'.toPrecedes, h'.depth.trans h.depth⟩

/-! ## Single changes -/

theorem returns_steps (m : Machine) (n : Nat) : m.Returns { m with steps := m.steps + n } where
  steps := Nat.le_add_right _ _
  names _ h := h
  starts _ h := h
  depth := rfl

theorem returns_heap (m : Machine) (heap : Heap) : m.Returns { m with heap := heap } where
  steps := Nat.le_refl _
  names _ h := h
  starts _ h := h
  depth := rfl

theorem returns_global (m : Machine) (name : String) (v : Value) :
    m.Returns { m with global := m.global.insert name v } where
  steps := Nat.le_refl _
  names _ h := OrderedMap.mem_keys_insert.2 (.inl h)
  starts _ h := h
  depth := rfl

theorem returns_locals {locals : List Frame} (h : locals.length = m.locals.length) :
    m.Returns { m with locals := locals } where
  steps := Nat.le_refl _
  names _ h := h
  starts _ h := h
  depth := congrArg (· + 1) h

theorem returns_functions (m : Machine) (start : Nat) (f : Script.Function) (made : Nat) :
    m.Returns { m with functions := m.functions.insert start f, made := made } where
  steps := Nat.le_refl _
  names _ h := h
  starts _ h := OrderedMap.mem_keys_insert.2 (.inl h)
  depth := rfl

/-! ## Frames -/

/-- The machine with a new innermost frame. -/
abbrev push (m : Machine) : Machine := { m with locals := .empty :: m.locals }

/-- The machine without its innermost frame. -/
abbrev pop (m : Machine) : Machine := { m with locals := m.locals.drop 1 }

theorem precedes_push (m : Machine) : m.Precedes m.push :=
  ⟨Nat.le_refl _, fun _ h => h, fun _ h => h⟩

theorem precedes_pop (m : Machine) : m.Precedes m.pop :=
  ⟨Nat.le_refl _, fun _ h => h, fun _ h => h⟩

/-- What is done in a new frame leaves as many frames as there were before it. -/
theorem Returns.pushed (h : m.push.Returns m₁) : m.Returns m₁.pop where
  toPrecedes := (precedes_push m).trans (h.toPrecedes.trans (precedes_pop m₁))
  depth := by
    have hdepth : m₁.locals.length + 1 = m.locals.length + 1 + 1 := h.depth
    show (m₁.locals.drop 1).length + 1 = m.locals.length + 1
    rw [List.length_drop]
    omega

end Machine

end Sandbox

end ScopedViews
