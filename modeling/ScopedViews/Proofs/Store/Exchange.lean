import ScopedViews.Proofs.Store.Writes
/-!
# Writes in another order

Texts in memory are found by name, so that it does not matter in which order they were written as
long as no name was written twice.  Groups of writes, each of which may write a name more than once,
can be made in any order if no two groups write the same name.

* `Same`: stores that hold the same texts;
* `Apart`: groups of writes without a name in common;
* `same_insertAll_perm`: such groups in any order.
-/

namespace ScopedViews.MemoryStore

variable {s s' s'' : MemoryStore} {p q : Path} {text other : String}
  {outs outs' : List (Path × String)}

/-- Stores that hold the same texts under the same names. -/
def Same (s s' : MemoryStore) : Prop := ∀ name, s.texts.lookup name = s'.texts.lookup name

theorem Same.refl (s : MemoryStore) : s.Same s := fun _ => rfl

theorem Same.trans (h : s.Same s') (h' : s'.Same s'') : s.Same s'' := fun name =>
  (h name).trans (h' name)

theorem Same.insert (h : s.Same s') (p : Path) (text : String) :
    (s.insert p text).Same (s'.insert p text) := by
  intro name
  rw [lookup_insert, lookup_insert, h name]

theorem Same.insertAll (h : s.Same s') (outs : List (Path × String)) :
    (s.insertAll outs).Same (s'.insertAll outs) := by
  induction outs generalizing s s' with
  | nil => exact h
  | cons out outs ih => exact ih (h.insert out.1 out.2)

/-! ## Two groups -/

/-- Groups of writes that have no name in common. -/
def Apart (outs outs' : List (Path × String)) : Prop :=
  ∀ out ∈ outs, ∀ out' ∈ outs', key out.1 ≠ key out'.1

theorem Apart.symm (h : Apart outs outs') : Apart outs' outs := fun out hout out' hout' heq =>
  h out' hout' out hout heq.symm

theorem same_insert_comm (s : MemoryStore) (hkey : key p ≠ key q) (text other : String) :
    ((s.insert p text).insert q other).Same ((s.insert q other).insert p text) := by
  intro name
  simp only [lookup_insert]
  by_cases hp : key p = name
  · have hq : key q ≠ name := fun hq => hkey (hp.trans hq.symm)
    simp [hp, hq]
  · simp [hp]

/-- A write can be put behind those of other names. -/
theorem same_insertAll_insert (s : MemoryStore) (text : String)
    (hapart : ∀ out ∈ outs, key p ≠ key out.1) :
    ((s.insert p text).insertAll outs).Same ((s.insertAll outs).insert p text) := by
  induction outs generalizing s with
  | nil => exact Same.refl (s.insert p text)
  | cons out outs ih =>
      have hswap := same_insert_comm s (hapart out List.mem_cons_self) text out.2
      have hrest := ih (s.insert out.1 out.2) fun other hother =>
        hapart other (List.mem_cons_of_mem out hother)
      rw [insertAll_cons, insertAll_cons]
      exact (hswap.insertAll outs).trans hrest

theorem same_insertAll_comm (s : MemoryStore) (hapart : Apart outs outs') :
    ((s.insertAll outs).insertAll outs').Same ((s.insertAll outs').insertAll outs) := by
  induction outs generalizing s with
  | nil => exact Same.refl (s.insertAll outs')
  | cons out outs ih =>
      have hfirst := same_insertAll_insert s out.2 (hapart out List.mem_cons_self)
      have hrest := ih (s.insert out.1 out.2) fun other hother =>
        hapart other (List.mem_cons_of_mem out hother)
      rw [insertAll_cons, insertAll_cons]
      exact hrest.trans (hfirst.insertAll outs)

/-! ## Any number of groups -/

theorem insertAll_append (s : MemoryStore) (outs outs' : List (Path × String)) :
    s.insertAll (outs ++ outs') = (s.insertAll outs).insertAll outs' := by
  rw [insertAll, List.foldl_append]
  rfl

/-- Groups of writes of which no two have a name in common can be made in any order. -/
theorem same_insertAll_perm {groups groups' : List (List (Path × String))}
    (hperm : groups.Perm groups') (hapart : groups.Pairwise Apart) (s : MemoryStore) :
    (s.insertAll groups.flatten).Same (s.insertAll groups'.flatten) := by
  induction hperm generalizing s with
  | nil => exact .refl s
  | cons outs _ ih =>
      rw [List.flatten_cons, List.flatten_cons, insertAll_append, insertAll_append]
      exact ih hapart.of_cons (s.insertAll outs)
  | swap outs outs' rest =>
      have hfront : Apart outs' outs := List.rel_of_pairwise_cons hapart List.mem_cons_self
      simp only [List.flatten_cons, insertAll_append]
      exact (same_insertAll_comm s hfront).insertAll rest.flatten
  | trans hfirst _ ih ih' =>
      have hmiddle := (hfirst.pairwise_iff Apart.symm).1 hapart
      exact (ih hapart s).trans (ih' hmiddle s)

end ScopedViews.MemoryStore
