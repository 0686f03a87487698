import ScopedViews.Proofs.Sandbox.Printing
import ScopedViews.Sandbox.Machine
/-!
# Heaps that have grown

A method that answers a new array puts it behind the arrays that there are.  What was made before
does not refer to it, so that it is printed and converted as it was.

* `Value.IsMade`, `Heap.IsClosed`: what refers to arrays of a heap only;
* `Heap.GrowsTo`: a heap and one that has grown from it;
* `Value.toText_of_growsTo`, `Value.toNumber_of_growsTo`: values mean the same in both.
-/

namespace ScopedViews.Sandbox

/-- An array that a value refers to has been made. -/
def Value.IsMade (h : Heap) : Value → Prop
  | .array address => address < h.arrays.size
  | _ => True

namespace Heap

/-- The arrays refer to arrays that have been made. -/
def IsClosed (h : Heap) : Prop :=
  ∀ address, ∀ item ∈ (h.elements address).toList, item.IsMade h

/-- The arrays of a heap are still there, with the same elements. -/
structure GrowsTo (h h' : Heap) : Prop where
  size : h.arrays.size ≤ h'.arrays.size
  elements : ∀ address < h.arrays.size, h'.elements address = h.elements address

theorem growsTo_newArray (h : Heap) (items : Array Value) : h.GrowsTo (h.newArray items).2 where
  size := by
    show h.arrays.size ≤ (h.arrays.push items).size
    rw [Array.size_push]
    exact Nat.le_succ _
  elements address hlt := by
    have hne : address ≠ h.arrays.size := hlt.ne
    simp [elements, newArray, Array.getD_eq_getD_getElem?, Array.getElem?_push, hne]

theorem elements_newArray (h : Heap) (items : Array Value) :
    (h.newArray items).2.elements h.arrays.size = items := by
  simp [elements, newArray, Array.getD_eq_getD_getElem?]

end Heap

/-- What has been made stays. -/
theorem Value.IsMade.of_growsTo {h h' : Heap} {v : Value} (hv : v.IsMade h)
    (hgrows : h.GrowsTo h') : v.IsMade h' := by
  cases v with
  | array address => exact Nat.lt_of_lt_of_le hv hgrows.size
  | _ => trivial

/-! ## What is printed -/

section Grown

variable {h h' : Heap}

mutual

/-- What was made before is printed as it was. -/
theorem Prints.of_growsTo {path : List Nat} {v : Value} {out out' : String} {printed : List Value}
    (hclosed : h.IsClosed) (hgrows : h.GrowsTo h') (hv : v.IsMade h) :
    Prints h path v out printed out' → Prints h' path v out printed out'
  | .own hv => .own hv
  | .again hpath => .again hpath
  | .array hpath hitems => by
    refine .array hpath ?_
    rw [hgrows.elements _ hv]
    exact PrintsItems.of_growsTo hclosed hgrows (hclosed _) hitems

theorem PrintsItems.of_growsTo {path : List Nat} {items : List Value} {first : Bool}
    {out out' : String} {printed : List Value} (hclosed : h.IsClosed) (hgrows : h.GrowsTo h')
    (hmade : ∀ item ∈ items, item.IsMade h) :
    PrintsItems h path items first out printed out' →
      PrintsItems h' path items first out printed out'
  | .done => .done
  | .full hfull => .full hfull
  | .blank hroom hitem hrest =>
    .blank hroom hitem
      (PrintsItems.of_growsTo hclosed hgrows (List.forall_mem_cons.1 hmade).2 hrest)
  | .item hroom hitem hvalue hrest =>
    .item hroom hitem (Prints.of_growsTo hclosed hgrows (List.forall_mem_cons.1 hmade).1 hvalue)
      (PrintsItems.of_growsTo hclosed hgrows (List.forall_mem_cons.1 hmade).2 hrest)

end

namespace Value

theorem prints_toText (h : Heap) (v : Value) :
    ∃ printed, Prints h [] v "" printed (v.toText h) := by
  have hdepth : h.unseen [] < h.arrays.size + 1 := by
    simp [Heap.unseen]
  have hout : "".utf8ByteSize ≤ maxStringLength + 1 := by simp
  obtain ⟨printed, hprints, -⟩ := prints_writeText (v := v) (fun _ => hdepth) hout
  rw [← toText_eq_writeText] at hprints
  exact ⟨printed, hprints⟩

variable {v : Value}

/-- What was made before has the same text. -/
theorem toText_of_growsTo (hclosed : h.IsClosed) (hgrows : h.GrowsTo h') (hv : v.IsMade h) :
    v.toText h' = v.toText h := by
  obtain ⟨printed, hprints⟩ := prints_toText h v
  obtain ⟨printed', hprints'⟩ := prints_toText h' v
  exact (hprints'.unique (hprints.of_growsTo hclosed hgrows hv)).2

theorem toNumber_of_growsTo (hclosed : h.IsClosed) (hgrows : h.GrowsTo h') (hv : v.IsMade h) :
    v.toNumber h' = v.toNumber h := by
  cases v with
  | array address => exact congrArg parseNumber (toText_of_growsTo hclosed hgrows hv)
  | _ => rfl

end Value

end Grown

end ScopedViews.Sandbox
