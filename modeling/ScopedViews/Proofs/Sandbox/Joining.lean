import ScopedViews.Proofs.Sandbox.Mutations
import ScopedViews.Proofs.Sandbox.Slices
import ScopedViews.Proofs.Text.Splitting
/-!
# Splitting and joining

Splitting a string makes an array of its parts, and joining an array writes its elements one after
the other.  With one and the same separator the second undoes the first: the parts are those between
occurrences of the separator, and since the string itself is not too long, neither is anything that
is written on the way to it.  Both may end at the step limit, and there may be too many parts.

* `Builtin.intercalate_splitText`, `Builtin.not_isInfix_splitText`: the parts of a string;
* `Builtin.joinFrom_texts`: elements that are written one after the other;
* `join_split`: joining what has been split.
-/

namespace ScopedViews.Sandbox

namespace Run

variable {m m' : Machine}

theorem checkLength_of_short {s : String} (hshort : s.utf8ByteSize ≤ maxStringLength) :
    checkLength s m = .ok () m := by
  rw [checkLength, if_neg (Nat.not_lt.2 hshort)]
  rfl

/-- A string that is short passes its check, or its bytes are past the step limit. -/
theorem checkString_cases {s : String} (hshort : s.utf8ByteSize ≤ maxStringLength) :
    (∃ m', checkString s m = .ok () m') ∨
      ∃ m', checkString s m = .error (.halt .stepLimit) m' := by
  have hcharge : checkString s m = charge (s.utf8ByteSize / 64) m :=
    bind_of_ok (checkLength_of_short hshort)
  rw [hcharge, charge_eq]
  split
  · exact .inr ⟨_, rfl⟩
  · exact .inl ⟨_, rfl⟩

theorem reserve_eq (present extra : Nat) (m : Machine) : reserve present extra m =
    if maxArrayLength < present + extra then .error (.exception (.range .invalidArrayLength)) m
    else charge (extra / 8) m := by
  by_cases hfull : maxArrayLength < present + extra
  · rw [if_pos hfull, reserve_of_full hfull]
  · rw [if_neg hfull]
    simp only [reserve, if_neg hfull]

end Run

namespace Builtin

/-! ## The parts -/

theorem intercalate_characters (cs : List Char) :
    [].intercalate (cs.map fun c => c.toString.toList) = cs := by
  induction cs with
  | nil => rfl
  | cons c rest ih =>
      cases rest with
      | nil => simp
      | cons d rest =>
          rw [List.map_cons] at ih
          rw [List.map_cons, List.map_cons, List.intercalate_cons_cons, ih]
          simp

/-- The parts of a string with the separator between them are the string. -/
theorem intercalate_splitText (s sep : String) : sep.intercalate (splitText s sep) = s := by
  rw [← String.toList_inj, String.toList_intercalate, splitText]
  by_cases hsep : sep.toList = []
  · rw [if_pos (by simpa using hsep), hsep, List.map_map]
    exact intercalate_characters s.toList
  · have hparts : ((Text.splitAt sep.toList s.toList).map String.ofList).map String.toList =
        Text.splitAt sep.toList s.toList := by
      simp [List.map_map, Function.comp_def]
    rw [if_neg (by simpa using hsep), hparts]
    exact (Text.splits_splitAt hsep s.toList).intercalate

/-- A separator that is not empty is in no part. -/
theorem not_isInfix_splitText {s sep part : String} (hsep : sep ≠ "")
    (hpart : part ∈ splitText s sep) : ¬ sep.toList <:+: part.toList := by
  have hsep' : sep.toList ≠ [] := by simpa using hsep
  rw [splitText, if_neg (by simpa using hsep)] at hpart
  obtain ⟨cs, hcs, rfl⟩ := List.mem_map.1 hpart
  rw [String.toList_ofList]
  exact (Text.splits_splitAt hsep' s.toList).not_isInfix hsep' cs hcs

/-! ## Writing one after the other -/

section Joining

variable {sep : String} {m : Machine}

theorem joinFrom_text {part out : String} {first : Bool} {rest : List Value}
    (hshort : ((if first then out else out ++ sep) ++ part).utf8ByteSize ≤ maxStringLength) :
    joinFrom sep (.string part :: rest) first out m =
      joinFrom sep rest false ((if first then out else out ++ sep) ++ part) m :=
  Run.bind_of_ok (Run.checkLength_of_short hshort)

/-- If all of it is short, then so is everything on the way, and nothing is refused. -/
theorem joinFrom_texts {parts : List String} (hparts : parts ≠ []) (first : Bool) (out : String)
    (hshort : ((if first then out else out ++ sep) ++ sep.intercalate parts).utf8ByteSize ≤
      maxStringLength) :
    joinFrom sep (parts.map .string) first out m =
      .ok ((if first then out else out ++ sep) ++ sep.intercalate parts) m := by
  induction parts generalizing first out with
  | nil => exact absurd rfl hparts
  | cons part rest ih =>
      cases rest with
      | nil =>
          rw [String.intercalate_singleton] at hshort ⊢
          exact joinFrom_text hshort
      | cons next rest =>
          rw [String.intercalate_cons_cons, ← String.append_assoc, ← String.append_assoc]
            at hshort ⊢
          have hpart : ((if first then out else out ++ sep) ++ part).utf8ByteSize ≤
              maxStringLength := by
            rw [String.utf8ByteSize_append, String.utf8ByteSize_append] at hshort
            omega
          rw [List.map_cons, joinFrom_text hpart]
          exact ih (List.cons_ne_nil _ _) false _ hshort

theorem joinFrom_intercalate {parts : List String}
    (hshort : (sep.intercalate parts).utf8ByteSize ≤ maxStringLength) :
    joinFrom sep (parts.map .string) true "" m = .ok (sep.intercalate parts) m := by
  cases parts with
  | nil => rfl
  | cons part rest =>
      have hjoined := joinFrom_texts (m := m) (List.cons_ne_nil part rest) true ""
        (by simpa using hshort)
      simpa using hjoined

end Joining

/-! ## The methods -/

section Methods

variable (invoke : Invoke) {sep : Value} {m : Machine}

/-- A split makes room for the parts and is charged for it, and makes an array of them. -/
theorem callMethod_split {s : String} {parts : List String} (hdefined : sep ≠ .undefined)
    (hparts : splitText s (sep.toText m.heap) = parts) :
    callMethod invoke (.string s) "split" #[sep] m =
      if maxArrayLength < parts.length then .error (.exception (.range .invalidArrayLength)) m
      else if maxSteps < m.steps + parts.length / 8 then
        .error (.halt .stepLimit) { m with steps := m.steps + parts.length / 8 }
      else .ok (.array m.heap.arrays.size)
        { m with
          steps := m.steps + parts.length / 8
          heap := (m.heap.newArray (parts.map Value.string).toArray).2 } := by
  have hsplit : callMethod invoke (.string s) "split" #[sep] m = (do
      Run.reserve 0 parts.length
      Run.newArray (parts.map Value.string).toArray) m := by
    rw [← hparts]
    cases sep with
    | undefined => exact absurd rfl hdefined
    | _ => rfl
  have hreserve := Run.reserve_eq 0 parts.length m
  rw [Nat.zero_add, charge_eq] at hreserve
  rw [hsplit]
  split_ifs at hreserve ⊢
  · exact Run.bind_of_error hreserve
  · exact Run.bind_of_error hreserve
  · exact Run.bind_of_ok hreserve

/-- A split that succeeds has made an array of the parts. -/
theorem split_ok {s : String} {a : Value} {m' : Machine} (hdefined : sep ≠ .undefined)
    (h : callMethod invoke (.string s) "split" #[sep] m = .ok a m') :
    a = .array m.heap.arrays.size ∧ m.heap.GrowsTo m'.heap ∧
      (m'.heap.elements m.heap.arrays.size).toList =
        (splitText s (sep.toText m.heap)).map Value.string := by
  rw [callMethod_split invoke hdefined rfl] at h
  split_ifs at h
  cases h
  refine ⟨rfl, Heap.growsTo_newArray _ _, ?_⟩
  exact congrArg Array.toList (Heap.elements_newArray _ _)

theorem split_error {s : String} {fault : Fault} {m' : Machine} (hdefined : sep ≠ .undefined)
    (h : callMethod invoke (.string s) "split" #[sep] m = .error fault m') :
    fault = .exception (.range .invalidArrayLength) ∧
        maxArrayLength < (splitText s (sep.toText m.heap)).length ∨
      fault = .halt .stepLimit := by
  rw [callMethod_split invoke hdefined rfl] at h
  split_ifs at h with hfull
  · cases h
    exact .inl ⟨rfl, hfull⟩
  · cases h
    exact .inr rfl

theorem callMethod_join (hdefined : sep ≠ .undefined) (address : Nat) :
    callMethod invoke (.array address) "join" #[sep] m = (do
      let out ← joinFrom (sep.toText m.heap) (m.heap.elements address).toList true ""
      Run.checkString out
      return Value.string out) m := by
  cases sep with
  | undefined => exact absurd rfl hdefined
  | _ => rfl

/-- Texts that are short when they are joined are joined, unless the step limit is reached. -/
theorem join_texts {address : Nat} {parts : List String} (hdefined : sep ≠ .undefined)
    (hparts : (m.heap.elements address).toList = parts.map Value.string)
    (hshort : ((sep.toText m.heap).intercalate parts).utf8ByteSize ≤ maxStringLength) :
    (∃ m', callMethod invoke (.array address) "join" #[sep] m =
        .ok (.string ((sep.toText m.heap).intercalate parts)) m') ∨
      ∃ m', callMethod invoke (.array address) "join" #[sep] m = .error (.halt .stepLimit) m' := by
  rw [callMethod_join invoke hdefined, hparts, Run.bind_of_ok (joinFrom_intercalate hshort)]
  obtain ⟨m', hcheck⟩ | ⟨m', hcheck⟩ := Run.checkString_cases hshort (m := m)
  · exact .inl ⟨m', Run.bind_of_ok hcheck⟩
  · exact .inr ⟨m', Run.bind_of_error hcheck⟩

end Methods

end Builtin

open Builtin

/-- Splitting fails only where there are too many parts and at the step limit.  The parts do not
contain the separator, and joined with it they are the string again, unless the step limit is
reached. -/
theorem join_split (invoke : Invoke) {m : Machine} {s : String} {sep : Value}
    (hclosed : m.heap.IsClosed) (hsep : sep.IsMade m.heap) (hdefined : sep ≠ .undefined)
    (hshort : s.utf8ByteSize ≤ maxStringLength) :
    (∀ fault m', callMethod invoke (.string s) "split" #[sep] m = .error fault m' →
      fault = .exception (.range .invalidArrayLength) ∧
          maxArrayLength < (splitText s (sep.toText m.heap)).length ∨
        fault = .halt .stepLimit) ∧
    ∀ a m₁, callMethod invoke (.string s) "split" #[sep] m = .ok a m₁ →
      a.items m₁.heap = (splitText s (sep.toText m.heap)).map Value.string ∧
      (∀ part, Value.string part ∈ a.items m₁.heap → sep.toText m.heap ≠ "" →
        ¬ (sep.toText m.heap).toList <:+: part.toList) ∧
      ((∃ m₂, callMethod invoke a "join" #[sep] m₁ = .ok (.string s) m₂) ∨
        ∃ m₂, callMethod invoke a "join" #[sep] m₁ = .error (.halt .stepLimit) m₂) := by
  refine ⟨fun fault m' h => split_error invoke hdefined h, fun a m₁ h => ?_⟩
  obtain ⟨rfl, hgrows, hitems⟩ := split_ok invoke hdefined h
  refine ⟨hitems, fun part hpart hne => ?_, ?_⟩
  · have hmem : Value.string part ∈ (splitText s (sep.toText m.heap)).map Value.string :=
      hitems ▸ hpart
    obtain ⟨part', hpart', heq⟩ := List.mem_map.1 hmem
    cases heq
    exact not_isInfix_splitText hne hpart'
  · -- the separator has the same text when the array of the parts is there
    have htext := Value.toText_of_growsTo hclosed hgrows hsep
    have hjoined := intercalate_splitText s (sep.toText m.heap)
    have hjoin := join_texts invoke (m := m₁) hdefined hitems
      (by rw [htext, hjoined]; exact hshort)
    rwa [htext, hjoined] at hjoin

theorem join_split_numbered : ∃ a m₁,
    callMethod (fun _ _ => pure .null) (.string "a1b1") "split" #[.array 1]
      { Machine.initial with heap := numberedHeap } = .ok a m₁ ∧
    a.items m₁.heap = [.string "a", .string "b", .string ""] ∧
    ((∃ m₂, callMethod (fun _ _ => pure .null) a "join" #[.array 1] m₁ =
        .ok (.string "a1b1") m₂) ∨
      ∃ m₂, callMethod (fun _ _ => pure .null) a "join" #[.array 1] m₁ =
        .error (.halt .stepLimit) m₂) := by
  have hdefined : Value.array 1 ≠ .undefined := nofun
  have hmade : (Value.array 1).IsMade numberedHeap := by
    show 1 < 2
    decide
  have hparts : splitText "a1b1" ((Value.array 1).toText numberedHeap) = ["a", "b", ""] := by
    decide +kernel
  have hsplit := callMethod_split (fun _ _ => pure .null)
    (m := { Machine.initial with heap := numberedHeap }) hdefined hparts
  rw [if_neg (by decide), if_neg (by decide)] at hsplit
  obtain ⟨-, hjoin⟩ := join_split (fun _ _ => pure .null)
    (m := { Machine.initial with heap := numberedHeap }) (s := "a1b1") isClosed_numberedHeap hmade
    hdefined (by decide)
  obtain ⟨hitems, -, hjoined⟩ := hjoin _ _ hsplit
  rw [hparts] at hitems
  exact ⟨_, _, hsplit, hitems, hjoined⟩

end ScopedViews.Sandbox
