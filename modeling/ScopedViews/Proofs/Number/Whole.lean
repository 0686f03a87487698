import ScopedViews.Proofs.Number.Equality
/-!
# Whole numbers as doubles

Positions and lengths are whole numbers, and a script has them as doubles.  Below `2 ^ 53` a double
has room for all binary places of a whole number, so that converting one and adding two of them
needs no rounding, although both are defined by rounding.  What they are defined on is a mantissa
and an exponent, which can be presented in several ways; only one of them has all 53 places.

* `round_exact`: rounding changes nothing where there are places enough;
* `wholeDyadic`, `unpack_of_value?`: the parts of the double that stands for a whole number;
* `value?_ofNat`: the double that a whole number is converted to stands for it;
* `value?_add`: the sum of two such doubles stands for the sum.
-/

namespace ScopedViews

namespace Number

open Float.Model (UnpackedFloat Format totalExponent)
open Float.Model.UnpackedFloat

/-! ## Rounding what needs no rounding -/

/-- Zeros that are shifted out leave nothing behind. -/
theorem shiftRight_exact (m k : Nat) :
    (⟨m * 2 ^ k, false, false⟩ : ExtendedMantissa) >>> k = ⟨m, false, false⟩ := by
  show k.repeat ExtendedMantissa.shiftRightOne _ = _
  induction k generalizing m with
  | zero => simp [Nat.repeat]
  | succ k ih =>
      have hdouble : m * 2 ^ (k + 1) = m * 2 * 2 ^ k := by ring
      rw [Nat.repeat, hdouble, ih]
      simp [ExtendedMantissa.shiftRightOne]

theorem log2_mul_two_pow {m : Nat} (hm : 0 < m) (k : Nat) : (m * 2 ^ k).log2 = m.log2 + k := by
  have hlow := Nat.log2_self_le hm.ne'
  have hhigh := Nat.lt_log2_self (n := m)
  rw [Nat.log2_eq_iff (Nat.mul_pos hm (by positivity)).ne', Nat.add_right_comm, pow_add, pow_add]
  exact ⟨Nat.mul_le_mul_right _ hlow, Nat.mul_lt_mul_of_pos_right hhigh (by positivity)⟩

theorem targetExponent_eq (m : Nat) (e : Int) :
    Format.binary64.targetExponent (totalExponent m e) = max (m.log2 + e - 52) (-1074) := by
  show max ((m.log2 : Int) + 1 + e - 53) (-1074) = _
  omega

section Rounding

variable {m : Nat} {e : Int} {s : Sign}

/-- Where a mantissa of 53 places, with zeros behind them, is to be cut. -/
theorem shiftToTargetExponent_exact (hm : m.log2 = 52) (he : -1074 ≤ e) (k : Nat) :
    shiftToTargetExponent Format.binary64 (m * 2 ^ k) (e - k) .exact = (⟨m, false, false⟩, e) := by
  have hpos : 0 < m := Nat.pos_of_ne_zero fun h => by simp [h] at hm
  have htarget : Format.binary64.targetExponent (totalExponent (m * 2 ^ k) (e - k)) = e := by
    rw [targetExponent_eq, log2_mul_two_pow hpos, hm]
    omega
  have hshift : (e - (e - (k : Int))).toNat = k := by omega
  simp only [shiftToTargetExponent, shiftToExponent, htarget, hshift,
    ExtendedMantissa.ofMantissaAndAccuracy, shiftRight_exact]
  exact Prod.ext rfl (by simp)

theorem roundWithAccuracy_exact (hm : m.log2 = 52) (he : -1074 ≤ e) (k : Nat) (hpos : 0 < m) :
    roundWithAccuracy Format.binary64 s (m * 2 ^ k) (e - k) .exact = .finite s m e hpos := by
  have hagain := shiftToTargetExponent_exact hm he 0
  rw [pow_zero, Nat.mul_one, Nat.cast_zero, sub_zero] at hagain
  have hround : (⟨m, false, false⟩ : ExtendedMantissa).roundedMantissa = m := rfl
  simp only [roundWithAccuracy, shiftToTargetExponent_exact hm he k, hround, hagain]
  exact dif_neg hpos.ne'

/-- A mantissa with fewer places is shifted up. -/
theorem round_of_fewer_places (hpos : 0 < m) (k : Nat) (hm : (m * 2 ^ k).log2 = 52)
    (he : -1074 ≤ e) (hpos' : 0 < m * 2 ^ k) :
    UnpackedFloat.round Format.binary64 s m (e + k) = .finite s (m * 2 ^ k) e hpos' := by
  have htarget : Format.binary64.targetExponent (totalExponent m (e + k)) = e := by
    rw [log2_mul_two_pow hpos] at hm
    rw [targetExponent_eq]
    omega
  have hshift : (e + (k : Int) - e).toNat = k := by omega
  have hround := roundWithAccuracy_exact (s := s) hm he 0 hpos'
  rw [pow_zero, Nat.mul_one, Nat.cast_zero, sub_zero] at hround
  simp only [UnpackedFloat.round, decreaseExponent, htarget, hshift, Nat.shiftLeft_eq,
    Int.add_sub_cancel]
  exact hround

/-- A mantissa with zeros at its end loses them. -/
theorem round_of_more_places (hpos : 0 < m) (k : Nat) (hm : m.log2 = 52) (he : -1074 ≤ e) :
    UnpackedFloat.round Format.binary64 s (m * 2 ^ k) (e - k) = .finite s m e hpos := by
  have htarget : Format.binary64.targetExponent (totalExponent (m * 2 ^ k) (e - k)) = e := by
    rw [targetExponent_eq, log2_mul_two_pow hpos, hm]
    omega
  have hshift : (e - (k : Int) - e).toNat = 0 := by omega
  have hround := roundWithAccuracy_exact (s := s) hm he k hpos
  simp only [UnpackedFloat.round, decreaseExponent, htarget, hshift, Nat.shiftLeft_zero,
    Nat.cast_zero, sub_zero]
  exact hround

/-- A number that has a mantissa of 53 places is rounded to it, however it is presented. -/
theorem round_exact {M : Nat} {E : Int} (hM : M.log2 = 52) (hE : -1074 ≤ E) (hpos : 0 < M)
    (h : (m : ℚ) * 2 ^ e = M * 2 ^ E) :
    UnpackedFloat.round Format.binary64 s m e = .finite s M E hpos := by
  have hmpos : 0 < m := by
    have hvalue : (0 : ℚ) < m * 2 ^ e := h ▸ by positivity
    exact_mod_cast pos_of_mul_pos_left hvalue (by positivity)
  rcases le_total E e with hle | hle
  · obtain ⟨k, rfl⟩ := Int.le.dest hle
    obtain rfl : M = m * 2 ^ k := by
      rw [add_comm E, zpow_add₀ (by norm_num), ← mul_assoc] at h
      exact_mod_cast (mul_right_cancel₀ (by positivity) h).symm
    exact round_of_fewer_places hmpos k hM hE hpos
  · obtain ⟨k, rfl⟩ := Int.le.dest hle
    obtain rfl : m = M * 2 ^ k := by
      rw [zpow_add₀ (by norm_num), mul_comm (2 ^ e : ℚ), ← mul_assoc] at h
      exact_mod_cast mul_right_cancel₀ (by positivity) h
    have hround := round_of_more_places (s := s) hpos k hM hE
    rwa [Int.add_sub_cancel] at hround

end Rounding

/-! ## Packing and unpacking -/

/-- A double with a mantissa of 53 places keeps its parts. -/
theorem unpack_pack {m : Nat} {e : Int} (s : Sign) (hpos : 0 < m) (hm : m.log2 = 52)
    (hlow : -1074 ≤ e) (hhigh : e ≤ 971) :
    (Float.Model.pack (.finite s m e hpos)).unpack = .finite s m e hpos := by
  have hbounds := (Nat.log2_eq_iff hpos.ne').1 hm
  have hbias : (e + Format.binary64.exponentBias +
      Format.binary64.mantissaBitsWithoutImplicit).toNat = (e + 1075).toNat := by
    show (e + 1023 + 52).toNat = _
    omega
  have hbits : (BitVec.ofNat 11 (e + 1075).toNat).toNat = (e + 1075).toNat := by
    rw [BitVec.toNat_ofNat, Nat.mod_eq_of_lt (by omega)]
  have hnotAll : BitVec.ofNat 11 (e + 1075).toNat ≠ -1#11 := by
    intro hall
    rw [hall] at hbits
    have hvalue : (-1#11).toNat = 2047 := rfl
    omega
  have hnotNone : BitVec.ofNat 11 (e + 1075).toNat ≠ 0#11 := by
    intro hnone
    rw [hnone] at hbits
    have hvalue : (0#11).toNat = 0 := rfl
    omega
  show UnpackedFloat.unpack Format.binary64 (UnpackedFloat.pack Format.binary64 _) = _
  rw [UnpackedFloat.pack]
  simp only [hm, hbias]
  rw [if_neg (by omega), if_pos (show 52 + 1 = Format.binary64.mantissaBits from rfl),
    UnpackedFloat.unpack]
  simp only [unpackMantissa_packComponents, unpackExponent_packComponents,
    unpackSign_packComponents, Sign.ofBitVec_toBitVec]
  rw [if_neg hnotAll, if_neg hnotNone, UnpackedFloat.finite.injEq]
  refine ⟨rfl, ?_, ?_⟩
  · -- the first place of the mantissa is not stored
    rw [toNat_one_append, BitVec.toNat_ofNat]
    omega
  · rw [hbits]
    show ((e + 1075).toNat : ℤ) - (1023 + 52) = e
    omega

/-! ## The parts of whole numbers -/

/-- The double of a whole number between zero and `2 ^ 53`: its places are those of the number. -/
def wholeDyadic (n : ℕ) : Dyadic := ⟨false, n * 2 ^ (52 - n.log2), n.log2 - 52⟩

section Parts

variable {n : ℕ} {x y : Float}

theorem magnitudeValue_wholeDyadic (hn : n.log2 ≤ 52) : (wholeDyadic n).magnitudeValue = n := by
  obtain ⟨k, hk⟩ := Nat.exists_eq_add_of_le hn
  have hexponent : (n.log2 : ℤ) - 52 = -(k : ℤ) := by omega
  have hplaces : 52 - n.log2 = k := by omega
  simp [wholeDyadic, Dyadic.magnitudeValue, hexponent, hplaces]

theorem log2_le_of_lt (hlt : n < 2 ^ 53) : n.log2 ≤ 52 := by
  by_cases hn : n = 0
  · simp [hn]
  · exact Nat.le_of_lt_succ ((Nat.log2_lt hn).2 hlt)

theorem log2_wholeDyadic (hpos : 0 < n) (hlt : n < 2 ^ 53) :
    (wholeDyadic n).magnitude.log2 = 52 := by
  have hle := log2_le_of_lt hlt
  rw [wholeDyadic, log2_mul_two_pow hpos]
  omega

theorem wholeDyadic_pos (hpos : 0 < n) : 0 < (wholeDyadic n).magnitude :=
  Nat.mul_pos hpos (by positivity)

theorem isCanonical_wholeDyadic (hpos : 0 < n) (hlt : n < 2 ^ 53) :
    (wholeDyadic n).IsCanonical := by
  obtain ⟨hlow, hhigh⟩ := (Nat.log2_eq_iff (wholeDyadic_pos hpos).ne').1 (log2_wholeDyadic hpos hlt)
  exact ⟨hhigh, by simp only [wholeDyadic]; omega, .inl hlow⟩

theorem value_wholeDyadic (hlt : n < 2 ^ 53) : (wholeDyadic n).value = n :=
  (Dyadic.value_of_positive rfl).trans (magnitudeValue_wholeDyadic (log2_le_of_lt hlt))

theorem unpack_of_value?_zero (hx : value? x = some 0) : ∃ s, x.toModel.unpack = .zero s := by
  obtain ⟨d, hd, hvalue⟩ := Option.map_eq_some_iff.1 hx
  have hzero : d.magnitude = 0 := Dyadic.value_eq_zero_iff.1 hvalue
  exact ⟨_, (unpack_of_ofFloat? hd).2.trans (dif_pos hzero)⟩

/-- What has a value is no NaN. -/
theorem isNaN_of_value? {q : ℚ} (hx : value? x = some q) : x.isNaN = false := by
  obtain ⟨d, hd, -⟩ := Option.map_eq_some_iff.1 hx
  have hne := unpacked_ne_notANumber d
  rw [← (unpack_of_ofFloat? hd).2] at hne
  show x.toModel.unpack.isNaN = false
  cases hunpack : x.toModel.unpack with
  | notANumber => exact absurd hunpack hne
  | _ => rfl

/-- A whole number is not changed by rounding toward zero. -/
theorem truncate_of_value? {k : ℤ} (hx : value? x = some (k : ℚ)) : truncate x = x := by
  obtain ⟨d, hd, hwhole⟩ := (Option.any_eq_true _ _).1 (value?_eq_intCast_iff.1 hx).1
  simp only [truncate, hd, if_pos hwhole]

/-- A double with a whole number as its value has the parts of that number. -/
theorem unpack_of_value? (hx : value? x = some (n : ℚ)) (hpos : 0 < n) (hlt : n < 2 ^ 53) :
    x.toModel.unpack = unpacked (wholeDyadic n) := by
  obtain ⟨d, hd, hvalue⟩ := Option.map_eq_some_iff.1 hx
  obtain ⟨hcanonical, hunpack⟩ := unpack_of_ofFloat? hd
  have hsame : wholeDyadic n = d :=
    (isCanonical_wholeDyadic hpos hlt).eq_of_value_eq hcanonical (wholeDyadic_pos hpos).ne'
      ((value_wholeDyadic hlt).trans hvalue.symm)
  rw [hunpack, hsame]

theorem unpack_of_ofFloat?_eq_none (h : Dyadic.ofFloat? x = none) (d : Dyadic) :
    x.toModel.unpack ≠ unpacked d := by
  have hunpack : x.toModel.unpack = UnpackedFloat.unpack Format.binary64 x.toBits.toBitVec := rfl
  have hexponent := toNat_unpackExponent x.toBits
  simp only [Dyadic.ofFloat?] at h
  have hall : @unpackExponent Format.binary64 x.toBits.toBitVec = -1#11 := by
    split at h
    next hall => exact BitVec.eq_of_toNat_eq (hexponent.trans hall)
    next => split at h <;> cases h
  rw [hunpack, UnpackedFloat.unpack]
  dsimp only
  rw [if_pos hall]
  by_cases hzero : d.magnitude = 0
  · split <;> simp [unpacked, hzero]
  · split <;> simp [unpacked, hzero]

theorem value?_of_unpack {d : Dyadic} (h : x.toModel.unpack = unpacked d) :
    value? x = some d.value := by
  cases hx : Dyadic.ofFloat? x with
  | none => exact absurd h (unpack_of_ofFloat?_eq_none hx d)
  | some d' =>
      have hsame := (unpack_of_ofFloat? hx).2.symm.trans h
      rw [value?, hx, Option.map_some, value_eq_of_unpacked_eq hsame]

theorem unpacked_wholeDyadic (hpos : 0 < n) : unpacked (wholeDyadic n) =
    .finite .positive (wholeDyadic n).magnitude (wholeDyadic n).exponent (wholeDyadic_pos hpos) :=
  dif_neg (wholeDyadic_pos hpos).ne'

theorem value?_pack (hlt : n < 2 ^ 53) :
    value? (.ofModel (.pack (unpacked (wholeDyadic n)))) = some (n : ℚ) := by
  rw [← value_wholeDyadic hlt]
  refine value?_of_unpack ?_
  obtain rfl | hpos := Nat.eq_zero_or_pos n
  · rfl
  · have hle := log2_le_of_lt hlt
    rw [unpacked_wholeDyadic hpos]
    refine unpack_pack _ _ (log2_wholeDyadic hpos hlt) ?_ ?_
    · simp only [wholeDyadic]; omega
    · simp only [wholeDyadic]; omega

theorem round_eq_unpacked {m : Nat} {e : Int} (hpos : 0 < n) (hlt : n < 2 ^ 53)
    (h : (m : ℚ) * 2 ^ e = n) :
    UnpackedFloat.round Format.binary64 .positive m e = unpacked (wholeDyadic n) := by
  rw [unpacked_wholeDyadic hpos]
  refine round_exact (log2_wholeDyadic hpos hlt) ?_ _ ?_
  · simp only [wholeDyadic]; omega
  · rw [h]
    exact (magnitudeValue_wholeDyadic (log2_le_of_lt hlt)).symm

/-! ## Conversion and addition -/

theorem value?_toFloat (hlt : n < 2 ^ 53) : value? n.toUInt64.toFloat = some (n : ℚ) := by
  have hbits : n.toUInt64.toNat = n := by
    show n % 2 ^ 64 = n
    omega
  have hparts : UnpackedFloat.ofUInt64 Format.binary64 n.toUInt64 = unpacked (wholeDyadic n) := by
    rw [UnpackedFloat.ofUInt64, hbits, UnpackedFloat.ofNat, UnpackedFloat.ofInt,
      UnpackedFloat.normalize]
    obtain rfl | hpos := Nat.eq_zero_or_pos n
    · rfl
    · have hcompare : compare (n : ℤ) 0 = .gt := by
        rw [compare_gt_iff_gt]
        omega
      rw [hcompare]
      exact round_eq_unpacked hpos hlt (by simp)
  show value? (.ofModel (.pack (UnpackedFloat.ofUInt64 Format.binary64 n.toUInt64))) = _
  rw [hparts]
  exact value?_pack hlt

theorem value?_ofBits_one : value? (Float.ofBits 0x3FF0000000000000) = some 1 := by
  have hone : Dyadic.ofFloat? (Float.ofBits 0x3FF0000000000000) = some ⟨false, 2 ^ 52, -52⟩ := by
    decide +kernel
  norm_num [value?, hone, Dyadic.value, Dyadic.magnitudeValue]

theorem value?_one : value? 1.0 = some 1 := by
  have hone : Dyadic.ofFloat? 1.0 = some ⟨false, 2 ^ 52, -52⟩ := by decide +kernel
  norm_num [value?, hone, Dyadic.value, Dyadic.magnitudeValue]

theorem value?_neg_one : value? (-1.0) = some (-1) := by
  have hone : Dyadic.ofFloat? (-1.0) = some ⟨true, 2 ^ 52, -52⟩ := by decide +kernel
  norm_num [value?, hone, Dyadic.value, Dyadic.magnitudeValue]

theorem value?_mul_one (hx : value? x = some (n : ℚ)) (hpos : 0 < n) (hlt : n < 2 ^ 53) :
    value? (x * Float.ofBits 0x3FF0000000000000) = some (n : ℚ) := by
  have hone : value? (Float.ofBits 0x3FF0000000000000) = some ((1 : ℕ) : ℚ) := by
    rw [value?_ofBits_one, Nat.cast_one]
  have hx' := unpack_of_value? hx hpos hlt
  have hone' := unpack_of_value? hone (by decide) (by decide)
  have hmul : UnpackedFloat.mul Format.binary64 x.toModel.unpack
      (Float.ofBits 0x3FF0000000000000).toModel.unpack = unpacked (wholeDyadic n) := by
    have hle := log2_le_of_lt hlt
    rw [hx', hone', unpacked_wholeDyadic hpos, unpacked_wholeDyadic (by decide : 0 < 1)]
    exact roundWithAccuracy_exact (log2_wholeDyadic hpos hlt)
      (by simp only [wholeDyadic]; omega) 52 _
  show value? (.ofModel (.pack (UnpackedFloat.mul Format.binary64 _ _))) = _
  rw [hmul]
  exact value?_pack hlt

/-- A whole number is converted to the double that stands for it. -/
theorem value?_ofNat (hlt : n < 2 ^ 53) : value? (Float.ofNat n) = some (n : ℚ) := by
  obtain rfl | hpos := Nat.eq_zero_or_pos n
  · have hzero : Dyadic.ofFloat? (Float.ofNat 0) = some ⟨false, 0, -1074⟩ := by decide +kernel
    simp [value?, hzero, Dyadic.value, Dyadic.magnitudeValue]
  · have hofNat : Float.ofNat n = n.toUInt64.toFloat * Float.ofBits 0x3FF0000000000000 :=
      dif_pos ⟨hlt, by decide⟩
    rw [hofNat]
    exact value?_mul_one (value?_toFloat hlt) hpos hlt

theorem decreaseExponent_value {m : Nat} {e t : Int} (h : t ≤ e) :
    ((decreaseExponent m e t).1 : ℚ) * 2 ^ t = m * 2 ^ e := by
  have he : e = (e - t).toNat + t := by omega
  simp only [decreaseExponent, Nat.shiftLeft_eq, Nat.cast_mul, Nat.cast_pow, Nat.cast_ofNat]
  rw [← zpow_natCast, mul_assoc, ← zpow_add₀ (by norm_num), ← he]

theorem value?_pack_zero (s : Sign) : value? (.ofModel (.pack (.zero s))) = some 0 := by
  have hparts : (Float.ofModel (.pack (.zero s))).toModel.unpack =
      unpacked ⟨s == .negative, 0, 0⟩ := by
    cases s <;> rfl
  rw [value?_of_unpack hparts, Dyadic.value_of_zero rfl]

theorem zero_add_unpacked (s : Sign) (hpos : 0 < n) :
    UnpackedFloat.add Format.binary64 (.zero s) (unpacked (wholeDyadic n)) =
      unpacked (wholeDyadic n) := by
  rw [unpacked_wholeDyadic hpos]
  rfl

theorem unpacked_add_zero (hpos : 0 < n) (s : Sign) :
    UnpackedFloat.add Format.binary64 (unpacked (wholeDyadic n)) (.zero s) =
      unpacked (wholeDyadic n) := by
  rw [unpacked_wholeDyadic hpos]
  rfl

/-- The parts of a sum: the mantissas are added where they have the same last place. -/
theorem add_unpacked {k : ℕ} (hn : 0 < n) (hk : 0 < k) (hlt : n + k < 2 ^ 53) :
    UnpackedFloat.add Format.binary64 (unpacked (wholeDyadic n)) (unpacked (wholeDyadic k)) =
      unpacked (wholeDyadic (n + k)) := by
  have hn' := magnitudeValue_wholeDyadic (log2_le_of_lt (by omega : n < 2 ^ 53))
  have hk' := magnitudeValue_wholeDyadic (log2_le_of_lt (by omega : k < 2 ^ 53))
  have hmin := decreaseExponent_value (m := (wholeDyadic n).magnitude)
    (min_le_left (wholeDyadic n).exponent (wholeDyadic k).exponent)
  have hmin' := decreaseExponent_value (m := (wholeDyadic k).magnitude)
    (min_le_right (wholeDyadic n).exponent (wholeDyadic k).exponent)
  rw [unpacked_wholeDyadic hn, unpacked_wholeDyadic hk]
  simp only [UnpackedFloat.add, Sign.apply]
  generalize (decreaseExponent (wholeDyadic n).magnitude _ _).1 = a at hmin ⊢
  generalize (decreaseExponent (wholeDyadic k).magnitude _ _).1 = b at hmin' ⊢
  generalize min (wholeDyadic n).exponent (wholeDyadic k).exponent = e at hmin hmin' ⊢
  have hsum : ((a + b : ℕ) : ℚ) * 2 ^ e = (n + k : ℕ) := by
    rw [Nat.cast_add, add_mul, hmin, hmin', Nat.cast_add, ← hn', ← hk']
    rfl
  have hpos : 0 < a + b := by
    have hvalue : (0 : ℚ) < (a + b : ℕ) * 2 ^ e := hsum ▸ by exact_mod_cast Nat.add_pos_left hn k
    exact_mod_cast pos_of_mul_pos_left hvalue (by positivity)
  have hcompare : compare ((a : ℤ) + b) 0 = .gt := by
    rw [compare_gt_iff_gt]
    omega
  rw [UnpackedFloat.normalize, hcompare]
  exact round_eq_unpacked (Nat.add_pos_left hn k) hlt hsum

/-- The sum of whole numbers is exact. -/
theorem value?_add {k : ℕ} (hx : value? x = some (n : ℚ)) (hy : value? y = some (k : ℚ))
    (hlt : n + k < 2 ^ 53) : value? (x + y) = some ((n + k : ℕ) : ℚ) := by
  show value? (.ofModel (.pack (UnpackedFloat.add Format.binary64 x.toModel.unpack
    y.toModel.unpack))) = _
  obtain rfl | hn := Nat.eq_zero_or_pos n
  · obtain ⟨s, hs⟩ := unpack_of_value?_zero (by simpa using hx)
    rw [hs, Nat.zero_add]
    obtain rfl | hk := Nat.eq_zero_or_pos k
    · obtain ⟨t, ht⟩ := unpack_of_value?_zero (by simpa using hy)
      rw [ht, UnpackedFloat.add]
      split <;> exact value?_pack_zero _
    · rw [unpack_of_value? hy hk (by omega), zero_add_unpacked s hk]
      exact value?_pack (by omega)
  · rw [unpack_of_value? hx hn (by omega)]
    obtain rfl | hk := Nat.eq_zero_or_pos k
    · obtain ⟨t, ht⟩ := unpack_of_value?_zero (by simpa using hy)
      rw [ht, unpacked_add_zero hn t]
      exact value?_pack (by omega)
    · rw [unpack_of_value? hy hk (by omega), add_unpacked hn hk hlt]
      exact value?_pack hlt

end Parts

end Number

end ScopedViews
