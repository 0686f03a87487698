import ScopedViews.Proofs.Number.Digits
import ScopedViews.Proofs.Sandbox.Slices
import ScopedViews.Proofs.Text.Splitting
import ScopedViews.Sandbox.Operators
/-!
# Positions in strings

Several methods tell where something is in a string, or what is somewhere.  All of them count
characters, whatever these take in bytes, so that a position that one of them answers can be handed
to another one.  A position is a double, which is exact for all positions in a string of less than
`2 ^ 53` characters.

* `callMethod_slice_numbers`: slices between whole numbers;
* `isFoundAt_iff`: what it means to find a string in a slice;
* `readProperty_number`: reading a character by its position;
* `positions_agree`: the methods agree.
-/

namespace ScopedViews.Sandbox

namespace Builtin

section Methods

variable {invoke : Invoke} {m : Machine} {s n : String}

/-! ## Slices between whole numbers -/

theorem positionAt_number {h : Heap} {args : Array Value} {i : Nat} {x : Float} {k : ℕ}
    (harg : argument args i = .number x) (hx : Number.value? x = some (k : ℚ)) (default : Float) :
    positionAt h args i default = x := by
  have hx' : Number.value? x = some ((k : ℤ) : ℚ) := by exact_mod_cast hx
  rw [positionAt_of_defined args i default (by rw [harg]; nofun), harg]
  show (if x.isNaN then default else Number.truncate x) = x
  rw [Number.isNaN_of_value? hx, Number.truncate_of_value? hx', if_neg Bool.false_ne_true]

theorem sliceList_min {α : Type} (xs : List α) (j k : Nat) :
    sliceList xs (min j xs.length, min k xs.length) = (xs.take k).drop j := by
  rw [sliceList, ← List.take_eq_take_min, List.drop_eq_drop_iff, List.length_take]
  omega

theorem callMethod_slice_numbers {x y : Float} {j k : ℕ} (hx : Number.value? x = some (j : ℚ))
    (hy : Number.value? y = some (k : ℚ)) :
    callMethod invoke (.string s) "slice" #[.number x, .number y] m =
      .ok (.string (String.ofList ((s.toList.take k).drop j))) m := by
  have hbounds := sliceBounds_eq #[.number x, .number y] s.toList.length m
  rw [bounds, positionAt_number rfl hx, positionAt_number rfl hy, resolvePosition_of_value? hx,
    resolvePosition_of_value? hy] at hbounds
  refine (Run.bind_of_ok hbounds).trans ?_
  rw [← sliceList_min]
  rfl

theorem callMethod_slice_number {x : Float} {j : ℕ} (hs : s.length < 2 ^ 53)
    (hx : Number.value? x = some (j : ℚ)) :
    callMethod invoke (.string s) "slice" #[.number x] m =
      .ok (.string (String.ofList (s.toList.drop j))) m := by
  have hlength : s.toList.length < 2 ^ 53 := hs
  have hbounds := sliceBounds_eq #[.number x] s.toList.length m
  have hstop : positionAt m.heap #[.number x] 1 (Float.ofNat s.toList.length) =
      Float.ofNat s.toList.length := rfl
  rw [bounds, positionAt_number rfl hx, hstop, resolvePosition_of_value? hx,
    resolvePosition_of_value? (Number.value?_ofNat hlength)] at hbounds
  refine (Run.bind_of_ok hbounds).trans ?_
  have hdrop : s.toList.drop j = (s.toList.take s.toList.length).drop j := by
    rw [List.take_length]
  rw [hdrop, ← sliceList_min]
  rfl

/-- No slice is longer than the string. -/
theorem callMethod_slice_le (invoke : Invoke) (m : Machine) (s : String) {x : Float} {j : ℕ}
    (hx : Number.value? x = some (j : ℚ)) (y : Float) :
    ∃ piece, callMethod invoke (.string s) "slice" #[.number x, .number y] m =
      .ok (.string (String.ofList piece)) m ∧ piece.length ≤ s.length - j := by
  have hbounds := sliceBounds_eq #[.number x, .number y] s.toList.length m
  rw [bounds, positionAt_number rfl hx, resolvePosition_of_value? hx] at hbounds
  refine ⟨_, (Run.bind_of_ok hbounds).trans rfl, ?_⟩
  rw [sliceList, List.length_drop, List.length_take, String.length_toList]
  omega

/-! ## Where a string is found -/

theorem addition_numbers (x y : Float) :
    addition (.number x) (.number y) m = .ok (.number (x + y)) m :=
  rfl

theorem get_length (h : Heap) :
    (Value.string n).get h "length" = .number (Float.ofNat n.length) := by
  rw [Value.get, if_pos rfl]

end Methods

end Builtin

open Builtin

/-- A script finds `n` in `s` at `i`: `s.slice(i, i + n.length) === n`. -/
def IsFoundAt (invoke : Invoke) (m : Machine) (s n : String) (i : Float) : Prop :=
  ∃ stop piece, addition (.number i) ((Value.string n).get m.heap "length") m = .ok stop m ∧
    callMethod invoke (.string s) "slice" #[.number i, stop] m = .ok piece m ∧
    piece.strictEquals (.string n) = true

section Found

variable {invoke : Invoke} {m : Machine} {s n : String} {x : Float} {j : ℕ}

theorem isFoundAt_iff_of_slice {piece : List Char}
    (hslice : callMethod invoke (.string s) "slice"
      #[.number x, .number (x + Float.ofNat n.length)] m = .ok (.string (String.ofList piece)) m) :
    IsFoundAt invoke m s n x ↔ piece = n.toList := by
  unfold IsFoundAt
  rw [get_length, addition_numbers]
  constructor
  · rintro ⟨stop, found, hstop, hfound, hequal⟩
    cases hstop
    cases hslice.symm.trans hfound
    have hequal : String.ofList piece = n := eq_of_beq hequal
    rw [← hequal, String.toList_ofList]
  · rintro rfl
    exact ⟨_, _, rfl, hslice, by simp [Value.strictEquals]⟩

/-- A string is found where it is in front of what follows. -/
theorem isFoundAt_iff (hs : s.length < 2 ^ 53) (hx : Number.value? x = some (j : ℚ)) :
    IsFoundAt invoke m s n x ↔ n.toList <+: s.toList.drop j := by
  by_cases hexact : j + n.length < 2 ^ 53
  · have hstop := Number.value?_add hx (Number.value?_ofNat (by omega : n.length < 2 ^ 53)) hexact
    rw [isFoundAt_iff_of_slice (callMethod_slice_numbers hx hstop), List.prefix_iff_eq_take,
      List.drop_take, String.length_toList, Nat.add_sub_cancel_left, eq_comm]
  · -- the sum is not exact, but the position is past the end or the string is too long
    obtain ⟨piece, hslice, hlength⟩ := callMethod_slice_le invoke m s hx
      (x + Float.ofNat n.length)
    rw [isFoundAt_iff_of_slice hslice]
    by_cases hfits : n.length ≤ s.length - j
    · have hn : n.toList = [] := List.eq_nil_of_length_eq_zero (by rw [String.length_toList]; omega)
      have hpiece : piece = [] := List.eq_nil_of_length_eq_zero (by omega)
      rw [hn, hpiece]
      exact iff_of_true rfl List.nil_prefix
    · refine iff_of_false (fun heq => ?_) fun hpre => ?_
      · rw [heq, String.length_toList] at hlength
        exact hfits hlength
      · have hle := hpre.length_le
        rw [List.length_drop, String.length_toList, String.length_toList] at hle
        exact hfits hle

end Found

/-! ## What is at a position -/

section Characters

variable {invoke : Invoke} {m : Machine} {s : String} {x : Float} {j : ℕ}

/-- The character at a position as a string, and the empty string if there is none. -/
def characterAt (s : String) (j : Nat) : String :=
  String.ofList s.toList[j]?.toList

theorem callMethod_charAt (hx : Number.value? x = some (j : ℚ)) :
    callMethod invoke (.string s) "charAt" #[.number x] m = .ok (.string (characterAt s j)) m := by
  have hposition := numberArgument_eq #[.number x] 0 0.0 m
  rw [positionAt_number rfl hx] at hposition
  have hwhole : Number.whole? x = some (j : ℤ) :=
    (Number.value?_eq_intCast_iff.1 (by exact_mod_cast hx)).2
  refine (Run.bind_of_ok hposition).trans ?_
  simp only [charAt, hwhole, Int.natCast_nonneg, if_true, Int.toNat_natCast, characterAt]
  cases s.toList[j]? <;> rfl

theorem callMethod_slice_next (hs : s.length < 2 ^ 53) (hx : Number.value? x = some (j : ℚ)) :
    callMethod invoke (.string s) "slice" #[.number x, .number (x + 1.0)] m =
      .ok (.string (characterAt s j)) m := by
  by_cases hexact : j + 1 < 2 ^ 53
  · have hone : Number.value? 1.0 = some ((1 : ℕ) : ℚ) := by
      rw [Number.value?_one, Nat.cast_one]
    have hnext := Number.value?_add hx hone hexact
    rw [callMethod_slice_numbers hx hnext, List.drop_take, Nat.add_sub_cancel_left, List.take_one,
      List.head?_drop]
    rfl
  · obtain ⟨piece, hslice, hlength⟩ := callMethod_slice_le invoke m s hx (x + 1.0)
    have hpiece : piece = [] := List.eq_nil_of_length_eq_zero (by omega)
    have hnone : s.toList[j]? = none :=
      List.getElem?_eq_none (by rw [String.length_toList]; omega)
    rw [hslice, hpiece, characterAt, hnone]
    rfl

/-- A character is read under the text of its position, and nothing is read under that of another
whole number. -/
theorem get_text (hs : s.length < 2 ^ 53) (hx : Number.value? x = some (j : ℚ)) (h : Heap) :
    (Value.string s).get h (Number.text x) = ((Value.string s).element? h j).getD .undefined := by
  have hin : (Value.string s).IsIn h := by
    show s.length ≤ 2 ^ 64
    omega
  by_cases hlt : j < 2 ^ 53
  · rw [Number.text_of_value? hx hlt, Value.get_toString hin rfl]
  · have hnone (i : ℕ) (hi : 2 ^ 53 ≤ i) : (Value.string s).element? h i = none := by
      rw [Value.element?, List.getElem?_eq_none (by rw [String.length_toList]; omega)]
      rfl
    have hkey : Number.text x ≠ "length" := by
      intro heq
      obtain ⟨c, hc, hdigit⟩ := Number.exists_isDigit_text hx
      rw [heq] at hc
      have hletters : "length".toList.any Char.isDigit = false := by decide
      rw [List.any_eq_true.2 ⟨c, hc, hdigit⟩] at hletters
      cases hletters
    rw [Value.get_of_isSequence rfl hkey, hnone j (Nat.not_lt.1 hlt)]
    -- what the text is the index of, if it is one, is past the end as well
    cases hindex : Value.index? (Number.text x) with
    | none => rfl
    | some i =>
        have htext := (Value.index?_eq_some_iff.1 hindex).1
        rw [Option.bind_some, hnone i (Number.two_pow_le_of_text hx (Nat.not_lt.1 hlt) htext)]

/-- Reading by a position that is a number. -/
theorem readProperty_number (hs : s.length < 2 ^ 53) (hx : Number.value? x = some (j : ℚ)) :
    (do Run.readProperty (.string s) (← Run.text (.number x))) m =
      .ok (((Value.string s).element? m.heap j).getD .undefined) m := by
  have htext : (Value.number x).toText m.heap = Number.text x := by
    simp [Value.toText, Value.writeText]
  rw [← get_text hs hx, ← htext]
  rfl

/-- What is read is the character, or undefined where there is none. -/
theorem characterAt_cases (s : String) (h : Heap) (j : Nat) :
    ((Value.string s).element? h j).getD .undefined = .string (characterAt s j) ∨
      ((Value.string s).element? h j).getD .undefined = .undefined ∧ characterAt s j = "" := by
  simp only [Value.element?, characterAt]
  cases s.toList[j]? with
  | none => exact .inr ⟨rfl, rfl⟩
  | some c => exact .inl rfl

end Characters

/-! ## Agreement -/

section Agreement

variable {invoke : Invoke} {m : Machine} {s n : String} {i : Float}

/-- Where the first occurrence is, as a number, or -1. -/
def firstPosition (s n : String) : Float :=
  match Text.find? n.toList s.toList with
  | some i => Float.ofNat i
  | none => -1.0

theorem callMethod_indexOf :
    callMethod invoke (.string s) "indexOf" #[.string n] m = .ok (.number (firstPosition s n)) m :=
  rfl

/-- The first position is that of the first occurrence. -/
theorem value?_firstPosition {k : ℕ} (hs : s.length < 2 ^ 53)
    (hfind : Text.find? n.toList s.toList = some k) :
    Number.value? (firstPosition s n) = some (k : ℚ) := by
  have hle := Text.find?_le hfind
  rw [String.length_toList, String.length_toList] at hle
  simp only [firstPosition, hfind]
  exact Number.value?_ofNat (by omega)

/-- The least position at which a script finds `n`, or -1 if there is none. -/
def IsFirstPosition (invoke : Invoke) (m : Machine) (s n : String) (i : Float) : Prop :=
  (∃ k : ℕ, Number.value? i = some (k : ℚ) ∧ IsFoundAt invoke m s n i ∧
    ∀ (j : ℕ) (x : Float), Number.value? x = some (j : ℚ) → IsFoundAt invoke m s n x → k ≤ j) ∨
  i = -1.0 ∧ ∀ (j : ℕ) (x : Float), Number.value? x = some (j : ℚ) → ¬ IsFoundAt invoke m s n x

theorem isFirstPosition_firstPosition (hs : s.length < 2 ^ 53) :
    IsFirstPosition invoke m s n (firstPosition s n) := by
  cases hfind : Text.find? n.toList s.toList with
  | none =>
      refine .inr ⟨by simp only [firstPosition, hfind], fun j x hx hfound => ?_⟩
      exact Text.find?_eq_none_iff.1 hfind j ((isFoundAt_iff hs hx).1 hfound)
  | some k =>
      have hk := value?_firstPosition hs hfind
      obtain ⟨hat, hbefore⟩ := Text.find?_eq_some_iff.1 hfind
      refine .inl ⟨k, hk, (isFoundAt_iff hs hk).2 hat, fun j x hx hfound => ?_⟩
      by_contra hlt
      exact hbefore j (Nat.lt_of_not_le hlt) ((isFoundAt_iff hs hx).1 hfound)

theorem firstPosition_eq_neg_one (hs : s.length < 2 ^ 53) :
    (Value.number (firstPosition s n)).strictEquals (.number (-1.0)) =
      !(Text.find? n.toList s.toList).isSome := by
  show (firstPosition s n == -1.0) = _
  rw [Bool.eq_iff_iff]
  cases hfind : Text.find? n.toList s.toList with
  | none =>
      simp only [firstPosition, hfind]
      rw [Number.beq_iff_value_eq Number.value?_neg_one Number.value?_neg_one]
      exact iff_of_true rfl rfl
  | some k =>
      rw [Number.beq_iff_value_eq (value?_firstPosition hs hfind) Number.value?_neg_one]
      refine iff_of_false (fun heq => ?_) nofun
      have hk : (0 : ℚ) ≤ k := Nat.cast_nonneg k
      linarith

theorem firstPosition_eq_zero (hs : s.length < 2 ^ 53) :
    (Value.number (firstPosition s n)).strictEquals (.number 0.0) =
      n.toList.isPrefixOf s.toList := by
  show (firstPosition s n == 0.0) = _
  rw [Bool.eq_iff_iff, List.isPrefixOf_iff_prefix]
  cases hfind : Text.find? n.toList s.toList with
  | none =>
      simp only [firstPosition, hfind]
      rw [Number.beq_iff_value_eq Number.value?_neg_one Number.value?_zero]
      exact iff_of_false (by norm_num) (Text.find?_eq_none_iff.1 hfind 0)
  | some k =>
      obtain ⟨hat, hbefore⟩ := Text.find?_eq_some_iff.1 hfind
      rw [Number.beq_iff_value_eq (value?_firstPosition hs hfind) Number.value?_zero,
        Nat.cast_eq_zero]
      constructor
      · rintro rfl
        exact hat
      · intro hpre
        by_contra hne
        exact hbefore 0 (Nat.pos_of_ne_zero hne) hpre

/-- `s.slice(0, i)`, then `t`, then `s.slice(i + n.length)`. -/
def IsReplaced (invoke : Invoke) (m : Machine) (s n t : String) (i : Float) (out : Value) : Prop :=
  ∃ front stop back,
    callMethod invoke (.string s) "slice" #[.number 0.0, .number i] m = .ok (.string front) m ∧
    addition (.number i) ((Value.string n).get m.heap "length") m = .ok stop m ∧
    callMethod invoke (.string s) "slice" #[stop] m = .ok (.string back) m ∧
    out = .string (front ++ t ++ back)

theorem replace_ok {t : String} {out : Value} {m' : Machine}
    (h : callMethod invoke (.string s) "replace" #[.string n, .string t] m = .ok out m') :
    out = .string (match Text.find? n.toList s.toList with
      | none => s
      | some k => String.ofList (s.toList.take k) ++ t ++
          String.ofList (s.toList.drop (k + n.length))) := by
  have hreplace : callMethod invoke (.string s) "replace" #[.string n, .string t] m =
      (match Text.find? n.toList s.toList with
      | none => return .string s
      | some k => do
        let out := String.ofList (s.toList.take k) ++ t ++
          String.ofList (s.toList.drop (k + n.length))
        Run.checkString out
        return Value.string out : Run Value) m := by
    show Builtin.stringReplace invoke s #[.string n, .string t] m = _
    unfold Builtin.stringReplace
    refine (Run.bind_of_ok (x := textArgument #[.string n, .string t] 0) (a := n) rfl).trans ?_
    cases Text.find? n.toList s.toList <;> rfl
  rw [hreplace] at h
  cases hfind : Text.find? n.toList s.toList with
  | none =>
      rw [hfind] at h
      cases h
      rfl
  | some k =>
      rw [hfind] at h
      obtain ⟨u, m₁, -, hout⟩ := Run.exists_of_bind_ok h
      cases hout
      rfl

theorem isReplaced {k : ℕ} (hs : s.length < 2 ^ 53)
    (hfind : Text.find? n.toList s.toList = some k) (t : String) :
    IsReplaced invoke m s n t (firstPosition s n) (.string (String.ofList (s.toList.take k) ++ t ++
      String.ofList (s.toList.drop (k + n.length)))) := by
  have hle := Text.find?_le hfind
  rw [String.length_toList, String.length_toList] at hle
  have hk := value?_firstPosition hs hfind
  have hzero : Number.value? 0.0 = some ((0 : ℕ) : ℚ) := by
    rw [Number.value?_zero, Nat.cast_zero]
  have hstop := Number.value?_add hk (Number.value?_ofNat (by omega : n.length < 2 ^ 53))
    (by omega)
  refine ⟨_, _, _, callMethod_slice_numbers hzero hk, ?_, callMethod_slice_number hs hstop,
    rfl⟩
  rw [get_length, addition_numbers]

end Agreement

/-- The methods of strings that go by positions agree.  A string is found at the least position at
which a slice is that string, and at -1 if there is none; other methods ask for that position, and
one replaces what is there.  Reading a character is taking a slice of it, and so is reading a
property, which is undefined past the end. -/
theorem positions_agree {s : String} (hs : s.length < 2 ^ 53) (n : String) (invoke : Invoke)
    (m : Machine) :
    (∃ i, callMethod invoke (.string s) "indexOf" #[.string n] m = .ok (.number i) m ∧
      IsFirstPosition invoke m s n i ∧
      callMethod invoke (.string s) "includes" #[.string n] m =
        .ok (.bool (!(Value.number i).strictEquals (.number (-1.0)))) m ∧
      callMethod invoke (.string s) "startsWith" #[.string n] m =
        .ok (.bool ((Value.number i).strictEquals (.number 0.0))) m ∧
      ∀ t out m', callMethod invoke (.string s) "replace" #[.string n, .string t] m = .ok out m' →
        if (Value.number i).strictEquals (.number (-1.0)) then out = .string s
        else IsReplaced invoke m s n t i out) ∧
    ∀ (j : ℕ) (x : Float), Number.value? x = some (j : ℚ) → ∃ text next v,
      callMethod invoke (.string s) "charAt" #[.number x] m = .ok (.string text) m ∧
      addition (.number x) (.number 1.0) m = .ok next m ∧
      callMethod invoke (.string s) "slice" #[.number x, next] m = .ok (.string text) m ∧
      (do Run.readProperty (.string s) (← Run.text (.number x))) m = .ok v m ∧
      (v = .string text ∨ v = .undefined ∧ text = "") := by
  refine ⟨⟨_, callMethod_indexOf, isFirstPosition_firstPosition hs, ?includes, ?startsWith,
    ?replace⟩, fun j x hx => ?position⟩
  case includes =>
    rw [firstPosition_eq_neg_one hs, Bool.not_not]
    rfl
  case startsWith =>
    rw [firstPosition_eq_zero hs]
    rfl
  case replace =>
    intro t out m' h
    rw [replace_ok h, firstPosition_eq_neg_one hs]
    cases hfind : Text.find? n.toList s.toList with
    | none => rfl
    | some k => exact isReplaced hs hfind t
  case position =>
    exact ⟨_, _, _, callMethod_charAt hx, addition_numbers x 1.0, callMethod_slice_next hs hx,
      readProperty_number hs hx, characterAt_cases s m.heap j⟩

theorem positions_agree_umlauts : ∃ i,
    callMethod (fun _ _ => pure .null) (.string "aäßa") "indexOf" #[.string "ßa"] .initial =
      .ok (.number i) .initial ∧
    IsFirstPosition (fun _ _ => pure .null) .initial "aäßa" "ßa" i ∧
    callMethod (fun _ _ => pure .null) (.string "aäßa") "startsWith" #[.string "ßa"] .initial =
      .ok (.bool ((Value.number i).strictEquals (.number 0.0))) .initial := by
  obtain ⟨⟨i, hindex, hfirst, -, hstarts, -⟩, -⟩ :=
    positions_agree (s := "aäßa") (by decide) "ßa" (fun _ _ => pure .null) .initial
  exact ⟨i, hindex, hfirst, hstarts⟩

end ScopedViews.Sandbox
