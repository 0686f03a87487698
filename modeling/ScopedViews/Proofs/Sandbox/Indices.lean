import ScopedViews.Proofs.Number.Order
import ScopedViews.Sandbox.Value
/-!
# Indices and lengths of arrays

The elements of an array are read and written under keys, and a key that names one is the decimal
form of its index.  No other key is an index: a leading zero, a sign or another spelling of the
same number make a key of their own, and so does a number that is too large for an index.  What is
assigned to `length` is a number, and only a whole one up to a limit is a length.

* `Number.toDigits_digitsValue`: digits without a leading zero are those of their value;
* `Value.index?_eq_some_iff`: the keys that are indices;
* `Value.requestedLength_eq_ok_iff`: the values that are lengths.
-/

namespace ScopedViews

namespace Number

/-- The digits of a number have its value. -/
@[simp] theorem digitsValue_toDigits (n : Nat) : digitsValue (Nat.toDigits 10 n) = n :=
  Nat.ofDigitChars_ten_toDigits

theorem digit_lt {c : Char} (h : c.isDigit = true) : c.toNat - 48 < 10 := by
  obtain ⟨hzero, hnine⟩ := Char.isDigit_iff_toNat.1 h
  have hnine : c.toNat ≤ 57 := hnine
  omega

theorem digitChar_of_isDigit {c : Char} (h : c.isDigit = true) : (c.toNat - 48).digitChar = c := by
  have hzero : 48 ≤ c.toNat := (Char.isDigit_iff_toNat.1 h).1
  refine Char.toNat_inj.1 ?_
  rw [Nat.toNat_digitChar_of_lt_ten (digit_lt h)]
  omega

/-- Digits behind those of a positive number: they are the digits of the number that they make. -/
theorem toDigits_append_digits {n : Nat} (h : 0 < n) {cs : List Char}
    (hdigits : ∀ c ∈ cs, c.isDigit = true) :
    Nat.toDigits 10 n ++ cs = Nat.toDigits 10 (Nat.ofDigitChars 10 cs n) := by
  induction cs generalizing n with
  | nil => rw [List.append_nil, Nat.ofDigitChars_nil]
  | cons c cs ih =>
      obtain ⟨hc, hcs⟩ := List.forall_mem_cons.1 hdigits
      have hpos : 0 < 10 * n + (c.toNat - 48) := by omega
      calc Nat.toDigits 10 n ++ c :: cs
          = Nat.toDigits 10 n ++ Nat.toDigits 10 (c.toNat - 48) ++ cs := by
            rw [Nat.toDigits_of_lt_base (digit_lt hc), digitChar_of_isDigit hc, List.append_assoc,
              List.singleton_append]
        _ = Nat.toDigits 10 (10 * n + (c.toNat - 48)) ++ cs := by
            rw [Nat.toDigits_append_toDigits (by decide) h (digit_lt hc)]
        _ = Nat.toDigits 10 (Nat.ofDigitChars 10 (c :: cs) n) := by
            rw [ih hpos hcs, Nat.ofDigitChars_cons]
            rfl

/-- Digits without a leading zero are those of their value. -/
theorem toDigits_digitsValue {c : Char} {cs : List Char} (hzero : c ≠ '0')
    (hdigits : ∀ d ∈ c :: cs, d.isDigit = true) :
    Nat.toDigits 10 (digitsValue (c :: cs)) = c :: cs := by
  obtain ⟨hc, hcs⟩ := List.forall_mem_cons.1 hdigits
  have hpos : 0 < c.toNat - 48 := by
    have hne : c.toNat ≠ 48 := fun h => hzero (Char.toNat_inj.1 h)
    have hle : 48 ≤ c.toNat := (Char.isDigit_iff_toNat.1 hc).1
    omega
  have hvalue : digitsValue (c :: cs) = Nat.ofDigitChars 10 cs (c.toNat - 48) :=
    congrArg (Nat.ofDigitChars 10 cs) (Nat.zero_add _)
  rw [hvalue, ← toDigits_append_digits hpos hcs, Nat.toDigits_of_lt_base (digit_lt hc),
    digitChar_of_isDigit hc, List.singleton_append]

/-- The digits of a positive number have no leading zero. -/
theorem toDigits_ne_zero_cons {n : Nat} (h : 0 < n) (cs : List Char) :
    Nat.toDigits 10 n ≠ '0' :: cs := by
  induction n using Nat.strong_induction_on generalizing cs with
  | _ n ih =>
      by_cases hlt : n < 10
      · rw [Nat.toDigits_of_lt_base hlt]
        intro heq
        have hchar : n.digitChar.toNat = '0'.toNat := congrArg Char.toNat (List.cons.inj heq).1
        rw [Nat.toNat_digitChar_of_lt_ten hlt] at hchar
        have hvalue : '0'.toNat = 48 := rfl
        omega
      · -- the first digit is that of the number without its last one
        have hhead := ih (n / 10) (by omega) (by omega)
        rw [Nat.toDigits_eq_if (by decide), if_neg hlt]
        intro heq
        cases hdigits : Nat.toDigits 10 (n / 10) with
        | nil => exact Nat.toDigits_ne_nil hdigits
        | cons c rest =>
            rw [hdigits] at heq
            exact hhead rest (hdigits.trans (congrArg (· :: rest) (List.cons.inj heq).1))

end Number

namespace Sandbox.Value

theorem toList_toString (i : Nat) : (toString i).toList = Nat.toDigits 10 i :=
  Nat.toList_repr

/-- Different indices have different keys. -/
theorem toString_injective : Function.Injective (toString : Nat → String) := fun i j h => by
  have hdigits := congrArg (fun s : String => Number.digitsValue s.toList) h
  simpa only [toList_toString, Number.digitsValue_toDigits] using hdigits

theorem index?_of_digits {key : String} {cs : List Char} (hkey : key.toList = cs)
    (hnil : cs ≠ []) (hzero : ∀ c rest, cs ≠ '0' :: c :: rest) :
    index? key = if cs.all Char.isDigit then
      if Number.digitsValue cs < 2 ^ 64 then some (Number.digitsValue cs) else none else none := by
  unfold index?
  dsimp only
  rw [hkey]
  split
  next => exact absurd rfl hnil
  next c rest => exact absurd rfl (hzero c rest)
  next => rfl

/-- The decimal form of an index is read as that index. -/
theorem index?_toString {i : Nat} (hlt : i < 2 ^ 64) : index? (toString i) = some i := by
  have hzero : ∀ c rest, Nat.toDigits 10 i ≠ '0' :: c :: rest := by
    intro c rest
    obtain rfl | hpos := Nat.eq_zero_or_pos i
    · simp
    · exact Number.toDigits_ne_zero_cons hpos _
  have hall : (Nat.toDigits 10 i).all Char.isDigit = true :=
    List.all_eq_true.2 fun c hc => Nat.isDigit_of_mem_toDigits (by decide) (by decide) hc
  rw [index?_of_digits (toList_toString i) Nat.toDigits_ne_nil hzero, if_pos hall,
    Number.digitsValue_toDigits, if_pos hlt]

/-- Nothing else is read as an index. -/
theorem eq_toString_of_index? {key : String} {i : Nat} (h : index? key = some i) :
    key = toString i ∧ i < 2 ^ 64 := by
  have hnil : key.toList ≠ [] := by
    intro hnil
    simp [index?, hnil] at h
  have hzero : ∀ c rest, key.toList ≠ '0' :: c :: rest := by
    intro c rest heq
    simp [index?, heq] at h
  rw [index?_of_digits rfl hnil hzero] at h
  obtain ⟨hall, h⟩ := Option.ite_none_right_eq_some.1 h
  obtain ⟨hlt, h⟩ := Option.ite_none_right_eq_some.1 h
  cases h
  refine ⟨?_, hlt⟩
  rw [← String.toList_inj, toList_toString]
  have hdigits : ∀ c ∈ key.toList, c.isDigit = true := List.all_eq_true.1 hall
  cases hkey : key.toList with
  | nil => exact absurd hkey hnil
  | cons c cs =>
      rw [hkey] at hdigits hzero
      by_cases hc : c = '0'
      · -- a zero in front is the only digit
        subst hc
        cases cs with
        | nil => rfl
        | cons d rest => exact absurd rfl (hzero d rest)
      · exact (Number.toDigits_digitsValue hc hdigits).symm

/-- A key is an index exactly if it is the decimal form of that index, which takes 64 binary places
at the most. -/
theorem index?_eq_some_iff {key : String} {i : Nat} :
    index? key = some i ↔ key = toString i ∧ i < 2 ^ 64 := by
  constructor
  · exact eq_toString_of_index?
  · rintro ⟨rfl, hlt⟩
    exact index?_toString hlt

/-- An array takes a length exactly if its number is a whole one, not below zero and not above the
limit. -/
theorem requestedLength_eq_ok_iff {h : Heap} {x : Value} {n : ℕ} :
    requestedLength h x = .ok n ↔
      n ≤ maxArrayLength ∧ Number.value? (x.toNumber h) = some (n : ℚ) := by
  have hlimit : maxArrayLength = 65536 := rfl
  unfold requestedLength
  dsimp only
  rw [hlimit]
  generalize x.toNumber h = y
  cases hwhole : Number.isWhole y with
  | false =>
      rw [Bool.not_false, Bool.or_true, if_pos rfl]
      refine iff_of_false nofun ?_
      rintro ⟨-, hvalue⟩
      rw [← Int.cast_natCast, Number.value?_eq_intCast_iff, hwhole] at hvalue
      exact absurd hvalue.1 Bool.false_ne_true
  | true =>
      -- for a whole number the order of doubles is that of the integers
      obtain ⟨k, hvalue⟩ := Number.isWhole_iff.1 hwhole
      have hk := (Number.value?_eq_intCast_iff.1 hvalue).2
      have hzero : y < 0.0 ↔ k < 0 := by
        rw [Number.lt_iff_value_lt hvalue Number.value?_zero]
        exact Int.cast_lt_zero
      have hlimit : Float.ofNat 65536 < y ↔ 65536 < k := by
        rw [Number.lt_iff_value_lt Number.value?_ofNat_65536 hvalue]
        exact_mod_cast Iff.rfl
      have hn : Number.value? y = some (n : ℚ) ↔ k = n := by
        rw [hvalue, Option.some.injEq]
        exact_mod_cast Iff.rfl
      simp only [hn, hk, hzero, hlimit, Bool.not_true, Bool.or_false, decide_eq_true_eq,
        Option.getD_some]
      split
      next hneg => exact iff_of_false nofun (by omega)
      next hneg =>
        split
        next habove => exact iff_of_false nofun (by omega)
        next hbelow =>
          rw [Except.ok.injEq]
          omega

end Sandbox.Value

end ScopedViews
