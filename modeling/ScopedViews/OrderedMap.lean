/-!
# Ordered maps

Finite maps that remember the order in which their keys first appeared.  They hold the properties
of script objects and the bindings of call frames.  No key occurs twice.
-/

namespace ScopedViews

/-- Keys with their values, each key once, in order of first insertion. -/
structure OrderedMap (κ α : Type) where
  entries : Array (κ × α)
  nodup : (entries.toList.map Prod.fst).Nodup

namespace OrderedMap

variable {κ α : Type}

def empty : OrderedMap κ α := ⟨#[], by simp⟩

instance : Inhabited (OrderedMap κ α) := ⟨empty⟩

/-- The keys in order. -/
def keys (m : OrderedMap κ α) : List κ := m.entries.toList.map Prod.fst

variable [DecidableEq κ]

def get? (m : OrderedMap κ α) (k : κ) : Option α :=
  match m.entries.find? (·.1 == k) with
  | some (_, v) => some v
  | none => none

def contains (m : OrderedMap κ α) (k : κ) : Bool :=
  m.entries.any (·.1 == k)

theorem keys_set {es : Array (κ × α)} {k : κ} {i : Nat} (v : α)
    (h : es.findIdx? (·.1 == k) = some i) :
    (es.setIfInBounds i (k, v)).toList.map Prod.fst = es.toList.map Prod.fst := by
  obtain ⟨hi, hk, _⟩ := Array.findIdx?_eq_some_iff_getElem.1 h
  have hk : es[i].1 = k := by simpa using hk
  rw [Array.toList_setIfInBounds]
  apply List.ext_getElem?
  intro j
  simp only [List.getElem?_map, List.getElem?_set, Array.length_toList]
  by_cases hj : i = j
  · subst hj
    simp [hi, hk]
  · simp [hj]

theorem nodup_set {es : Array (κ × α)} {k : κ} {i : Nat} (v : α)
    (h : es.findIdx? (·.1 == k) = some i) (nodup : (es.toList.map Prod.fst).Nodup) :
    ((es.setIfInBounds i (k, v)).toList.map Prod.fst).Nodup := by
  rw [keys_set v h]
  exact nodup

theorem nodup_push {es : Array (κ × α)} {k : κ} (v : α)
    (h : es.findIdx? (·.1 == k) = none) (nodup : (es.toList.map Prod.fst).Nodup) :
    ((es.push (k, v)).toList.map Prod.fst).Nodup := by
  have fresh : ∀ e ∈ es, e.1 ≠ k := by
    intro e he
    have := Array.findIdx?_eq_none_iff.1 h e he
    simpa using this
  rw [Array.toList_push, List.map_append, List.nodup_append]
  refine ⟨nodup, by simp, ?_⟩
  intro a ha b hb
  simp only [List.map_cons, List.map_nil, List.mem_singleton] at hb
  subst hb
  obtain ⟨e, he, rfl⟩ := List.mem_map.1 ha
  exact fresh e (by simpa using he)

/-- Gives `k` the value `v`: in place if `k` is present, else at the end. -/
def insert (m : OrderedMap κ α) (k : κ) (v : α) : OrderedMap κ α :=
  match m with
  | ⟨es, nodup⟩ =>
    match h : es.findIdx? (·.1 == k) with
    | some i => ⟨es.setIfInBounds i (k, v), nodup_set v h nodup⟩
    | none => ⟨es.push (k, v), nodup_push v h nodup⟩

/-- The map with the given entries inserted one after the other. -/
def ofList (es : List (κ × α)) : OrderedMap κ α :=
  es.foldl (fun m e => m.insert e.1 e.2) empty

end OrderedMap

end ScopedViews
