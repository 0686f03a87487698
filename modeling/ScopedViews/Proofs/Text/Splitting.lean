import ScopedViews.Proofs.Text.Matching
/-!
# Splitting a text

A text is split at the occurrences of a separator that are found from the left, each behind the end
of the one before it.  The separator is in no part, and written between the parts it makes the text
again.

* `find?_eq_some_iff`: first occurrences are those that none precedes;
* `Splits`: splitting, occurrence by occurrence;
* `splits_splitAt`: this is what the reading of a text character by character amounts to;
* `Splits.intercalate`, `Splits.not_isInfix`: the parts make the text, and none has the separator.
-/

namespace ScopedViews.Text

/-! ## First occurrences -/

/-- The first occurrence is the one that none precedes. -/
theorem find?_eq_some_iff {needle hay : List Char} {i : Nat} :
    find? needle hay = some i ↔
      needle <+: hay.drop i ∧ ∀ j < i, ¬ needle <+: hay.drop j := by
  induction hay generalizing i with
  | nil =>
      simp only [find?, List.drop_nil, List.prefix_nil]
      cases needle with
      | nil =>
          simp only [List.isEmpty_nil, if_true, Option.some.injEq, not_true, imp_false, true_and]
          constructor
          · rintro rfl j hj
            exact absurd hj (Nat.not_lt_zero j)
          · exact fun h => (Nat.eq_zero_of_not_pos (h 0)).symm
      | cons n needle => simp
  | cons c rest ih =>
      rw [find?]
      by_cases hpre : needle <+: c :: rest
      · rw [if_pos (List.isPrefixOf_iff_prefix.2 hpre), Option.some.injEq]
        constructor
        · rintro rfl
          exact ⟨hpre, fun j hj => absurd hj (Nat.not_lt_zero j)⟩
        · intro h
          by_contra hne
          exact h.2 0 (Nat.pos_of_ne_zero (Ne.symm hne)) hpre
      · rw [if_neg fun h => hpre (List.isPrefixOf_iff_prefix.1 h), Option.map_eq_some_iff]
        constructor
        · rintro ⟨j, hj, rfl⟩
          obtain ⟨hat, hbefore⟩ := ih.1 hj
          refine ⟨hat, fun k hk => ?_⟩
          cases k with
          | zero => exact hpre
          | succ k => exact hbefore k (by omega)
        · rintro ⟨hat, hbefore⟩
          cases i with
          | zero => exact absurd hat hpre
          | succ i => exact ⟨i, ih.2 ⟨hat, fun j hj => hbefore (j + 1) (by omega)⟩, rfl⟩

/-- What does not occur starts at no position. -/
theorem find?_eq_none_iff {needle hay : List Char} :
    find? needle hay = none ↔ ∀ i, ¬ needle <+: hay.drop i := by
  rw [← Option.not_isSome_iff_eq_none, find?_isSome_iff]
  constructor
  · exact fun hnot i hpre => hnot (hpre.isInfix.trans (List.drop_suffix i hay).isInfix)
  · rintro hnot ⟨before, after, rfl⟩
    refine hnot before.length ?_
    rw [List.append_assoc, List.drop_left]
    exact List.prefix_append needle after

/-! ## The parts -/

/-- A text is split into parts: what is in front of the first occurrence of the separator, and the
parts of what is behind it. -/
inductive Splits (sep : List Char) : List Char → List (List Char) → Prop
  | last {hay} (hnone : find? sep hay = none) : Splits sep hay [hay]
  | part {hay i parts} (hfirst : find? sep hay = some i)
    (hrest : Splits sep (hay.drop (i + sep.length)) parts) : Splits sep hay (hay.take i :: parts)

section Splits

variable {sep hay : List Char} {parts : List (List Char)}

/-- The rest of an occurrence is passed over. -/
theorem splitFrom_skip (skip : Nat) :
    splitFrom sep hay skip [] = splitFrom sep (hay.drop skip) 0 [] := by
  induction skip generalizing hay with
  | zero => rfl
  | succ skip ih =>
      cases hay with
      | nil => rfl
      | cons c rest => exact ih

/-- Reading a part: it goes on up to the first occurrence. -/
theorem splitFrom_eq (hsep : sep ≠ []) (part : List Char) :
    splitFrom sep hay 0 part = match find? sep hay with
      | none => [part.reverse ++ hay]
      | some i => (part.reverse ++ hay.take i) :: splitAt sep (hay.drop (i + sep.length)) := by
  induction hay generalizing part with
  | nil => simp [splitFrom, find?, hsep]
  | cons c rest ih =>
      rw [splitFrom, find?]
      by_cases hpre : sep.isPrefixOf (c :: rest) = true
      · obtain ⟨d, sep', rfl⟩ := List.exists_cons_of_ne_nil hsep
        rw [if_pos hpre, if_pos hpre, splitFrom_skip]
        simp [splitAt]
      · rw [if_neg hpre, if_neg hpre, ih]
        cases find? sep rest with
        | none => simp
        | some i => simp [Nat.add_right_comm]

/-- Reading a text character by character splits it. -/
theorem splits_splitAt (hsep : sep ≠ []) (hay : List Char) : Splits sep hay (splitAt sep hay) := by
  induction hlength : hay.length using Nat.strong_induction_on generalizing hay with
  | _ n ih =>
      rw [splitAt, splitFrom_eq hsep]
      cases hfind : find? sep hay with
      | none => exact .last hfind
      | some i =>
          have hle := find?_le hfind
          have hpos := List.length_pos_of_ne_nil hsep
          have hshort : (hay.drop (i + sep.length)).length < n := by
            rw [List.length_drop]
            omega
          exact .part hfind (ih _ hshort _ rfl)

theorem Splits.ne_nil (h : Splits sep hay parts) : parts ≠ [] := by
  cases h with
  | last => exact List.cons_ne_nil _ _
  | part => exact List.cons_ne_nil _ _

/-- The parts with the separator between them are the text. -/
theorem Splits.intercalate (h : Splits sep hay parts) : sep.intercalate parts = hay := by
  induction h with
  | last => exact List.intercalate_singleton
  | @part hay i parts hfirst hrest ih =>
      obtain ⟨next, rest, rfl⟩ := List.exists_cons_of_ne_nil hrest.ne_nil
      obtain ⟨after, hafter⟩ := (find?_eq_some_iff.1 hfirst).1
      have hrest : hay.drop (i + sep.length) = after := by
        rw [← List.drop_drop, ← hafter, List.drop_left]
      rw [List.intercalate_cons_cons, ih, hrest, List.append_assoc, hafter, List.take_append_drop]

/-- The separator is in no part. -/
theorem Splits.not_isInfix (hsep : sep ≠ []) (h : Splits sep hay parts) :
    ∀ part ∈ parts, ¬ sep <:+: part := by
  induction h with
  | last hnone =>
      intro part hpart
      obtain rfl := List.mem_singleton.1 hpart
      rw [← find?_isSome_iff, hnone]
      exact Bool.false_ne_true
  | @part hay i _ hfirst _ ih =>
      refine List.forall_mem_cons.2 ⟨?_, ih⟩
      -- an occurrence in the part would be in front of the first one
      rintro ⟨before, after, hpart⟩
      have hlength := congrArg List.length hpart
      rw [List.length_append, List.length_append, List.length_take] at hlength
      have hpos := List.length_pos_of_ne_nil hsep
      refine (find?_eq_some_iff.1 hfirst).2 before.length (by omega) ⟨after ++ hay.drop i, ?_⟩
      have hhay : hay = before ++ (sep ++ (after ++ hay.drop i)) := by
        conv_lhs => rw [← List.take_append_drop i hay, ← hpart]
        simp only [List.append_assoc]
      conv_rhs => rw [hhay, List.drop_left]

end Splits

end ScopedViews.Text
