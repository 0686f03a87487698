import Mathlib.Algebra.Order.Field.Power
import Mathlib.Algebra.Order.Ring.Rat
import Mathlib.Tactic.Linarith
import Mathlib.Tactic.NormNum
import Mathlib.Tactic.Positivity
import Mathlib.Tactic.Ring
import ScopedViews.Number.Dyadic
/-!
# The order of doubles

The order of doubles is defined on what their bits stand for: a sign, a mantissa and an exponent.
These are the parts that a double is decoded to, and a mantissa is as long as its exponent allows.
So finite doubles are ordered by their exact values.

* `Dyadic.value`, `value?`: exact values;
* `Dyadic.isWhole_iff`, `Dyadic.value_of_isWhole`: values without a fractional part;
* `unpack_of_ofFloat?`: the parts of a double that is decoded;
* `lt_iff_value_lt`: the order of doubles is that of their values;
* `value?_eq_intCast_iff`: the doubles that stand for integers.
-/

namespace ScopedViews

/-! ## Exact values -/

namespace Dyadic

/-- The exact value without its sign. -/
def magnitudeValue (d : Dyadic) : ℚ := d.magnitude * 2 ^ d.exponent

/-- The exact value. -/
def value (d : Dyadic) : ℚ := if d.negative then -d.magnitudeValue else d.magnitudeValue

/-- The mantissa has 53 binary places, or fewer ones with the least exponent. -/
structure IsCanonical (d : Dyadic) : Prop where
  lt : d.magnitude < 2 ^ 53
  least : -1074 ≤ d.exponent
  full : 2 ^ 52 ≤ d.magnitude ∨ d.exponent = -1074

variable {d d' : Dyadic}

theorem magnitudeValue_nonneg (d : Dyadic) : 0 ≤ d.magnitudeValue := by
  unfold magnitudeValue
  positivity

theorem magnitudeValue_of_zero (h : d.magnitude = 0) : d.magnitudeValue = 0 := by
  simp [magnitudeValue, h]

theorem magnitudeValue_pos (h : 0 < d.magnitude) : 0 < d.magnitudeValue := by
  unfold magnitudeValue
  positivity

theorem value_of_zero (h : d.magnitude = 0) : d.value = 0 := by
  rw [value, magnitudeValue_of_zero h, neg_zero, ite_self]

theorem value_of_positive (h : d.negative = false) : d.value = d.magnitudeValue := by
  rw [value, h, if_neg Bool.false_ne_true]

theorem value_of_negative (h : d.negative = true) : d.value = -d.magnitudeValue := by
  rw [value, h, if_pos rfl]

/-- A greater exponent makes a greater value, as its mantissa has all its places. -/
theorem IsCanonical.magnitudeValue_lt (hd : d.IsCanonical) (hd' : d'.IsCanonical)
    (h : d.exponent < d'.exponent) : d.magnitudeValue < d'.magnitudeValue := by
  have hleast := hd.least
  have hfull : (2 ^ 52 : ℚ) ≤ d'.magnitude := by
    exact_mod_cast hd'.full.resolve_right (by omega)
  have hlt : (d.magnitude : ℚ) < 2 ^ 53 := by
    exact_mod_cast hd.lt
  -- one place more than the mantissa has is made up for by the exponent
  calc d.magnitudeValue
      < 2 ^ 53 * 2 ^ d.exponent := mul_lt_mul_of_pos_right hlt (by positivity)
    _ = 2 ^ 52 * 2 ^ (d.exponent + 1) := by
        rw [zpow_add_one₀ (by norm_num)]
        ring
    _ ≤ 2 ^ 52 * 2 ^ d'.exponent :=
        mul_le_mul_of_nonneg_left (zpow_le_zpow_right₀ (by norm_num) (by omega)) (by positivity)
    _ ≤ d'.magnitudeValue := mul_le_mul_of_nonneg_right hfull (by positivity)

/-- Values are compared by the exponent first, and then by the mantissa. -/
theorem IsCanonical.magnitudeValue_lt_iff (hd : d.IsCanonical) (hd' : d'.IsCanonical) :
    d.magnitudeValue < d'.magnitudeValue ↔
      d.exponent < d'.exponent ∨ d.exponent = d'.exponent ∧ d.magnitude < d'.magnitude := by
  rcases lt_trichotomy d.exponent d'.exponent with h | h | h
  · exact iff_of_true (hd.magnitudeValue_lt hd' h) (.inl h)
  · have hpos : (0 : ℚ) < 2 ^ d'.exponent := by positivity
    rw [magnitudeValue, magnitudeValue, h, mul_lt_mul_iff_left₀ hpos, Nat.cast_lt]
    simp
  · refine iff_of_false (hd'.magnitudeValue_lt hd h).not_gt ?_
    omega

theorem magnitudeValue_of_exponent_neg {k : ℕ} (h : d.exponent = -k) :
    d.magnitudeValue * 2 ^ k = d.magnitude := by
  rw [magnitudeValue, h, mul_assoc, ← zpow_natCast, ← zpow_add₀ (by norm_num), neg_add_cancel,
    zpow_zero, mul_one]

/-- A value without a fractional part is its whole part. -/
theorem magnitudeValue_of_isWhole (h : d.isWhole = true) :
    d.magnitudeValue = d.wholeMagnitude := by
  rw [isWhole, Bool.or_eq_true, decide_eq_true_eq, beq_iff_eq] at h
  unfold wholeMagnitude
  by_cases hexponent : 0 ≤ d.exponent
  · obtain ⟨k, hk⟩ := Int.eq_ofNat_of_zero_le hexponent
    rw [if_pos hexponent, magnitudeValue, Nat.shiftLeft_eq, hk]
    simp
  · have hk : d.exponent = -((-d.exponent).toNat : ℤ) := by omega
    have hmod := h.resolve_left hexponent
    rw [if_neg hexponent, Nat.shiftRight_eq_div_pow]
    have hpos : (0 : ℚ) < 2 ^ (-d.exponent).toNat := by positivity
    have hmul := magnitudeValue_of_exponent_neg hk
    refine mul_right_cancel₀ hpos.ne' (hmul.trans ?_)
    exact_mod_cast (Nat.div_mul_cancel (Nat.dvd_of_mod_eq_zero hmod)).symm

theorem value_of_isWhole (h : d.isWhole = true) : d.value = d.whole := by
  rw [value, whole, magnitudeValue_of_isWhole h]
  split <;> simp

/-- There is no fractional part exactly if the value is an integer. -/
theorem isWhole_iff : d.isWhole = true ↔ ∃ n : ℤ, d.value = n := by
  constructor
  · exact fun h => ⟨d.whole, value_of_isWhole h⟩
  · rintro ⟨n, hn⟩
    rw [isWhole, Bool.or_eq_true, decide_eq_true_eq, beq_iff_eq]
    by_contra hnot
    obtain ⟨hexponent, hmod⟩ := not_or.1 hnot
    have hk : d.exponent = -((-d.exponent).toNat : ℤ) := by omega
    have hmul := magnitudeValue_of_exponent_neg hk
    refine hmod (Nat.mod_eq_zero_of_dvd (Int.natCast_dvd_natCast.1 ?_))
    -- up to its sign, the mantissa is a multiple of the power of two
    have hvalue : d.magnitudeValue = ((if d.negative then -n else n : ℤ) : ℚ) := by
      rw [value] at hn
      split at hn
      next hneg => rw [if_pos hneg, Int.cast_neg, ← hn, neg_neg]
      next hneg => rw [if_neg hneg, hn]
    rw [hvalue] at hmul
    refine ⟨if d.negative then -n else n, ?_⟩
    rw [mul_comm]
    exact_mod_cast hmul.symm

end Dyadic

namespace Number

open Float.Model (UnpackedFloat Format)
open Float.Model.UnpackedFloat

/-- The exact value of a finite double. -/
def value? (x : Float) : Option ℚ := (Dyadic.ofFloat? x).map Dyadic.value

/-! ## The parts of a double -/

section Bits

variable (b : UInt64)

theorem toNat_unpackExponent :
    (@unpackExponent Format.binary64 b.toBitVec).toNat = (b >>> 52 &&& 2047).toNat := by
  simp only [unpackExponent, BitVec.toNat_cast, BitVec.extractLsb_toNat]
  rw [UInt64.toNat_and, UInt64.toNat_shiftRight]
  show _ = b.toNat >>> 52 &&& (2 ^ 11 - 1)
  rw [Nat.and_two_pow_sub_one_eq_mod]
  rfl

theorem toNat_unpackMantissa :
    (@unpackMantissa Format.binary64 b.toBitVec).toNat
      = (b &&& 0xFFFFFFFFFFFFF).toNat := by
  simp only [unpackMantissa, BitVec.toNat_cast, BitVec.extractLsb_toNat]
  rw [UInt64.toNat_and]
  show _ = b.toNat &&& (2 ^ 52 - 1)
  rw [Nat.and_two_pow_sub_one_eq_mod]
  rfl

theorem sign_unpackSign :
    Sign.ofBitVec (@unpackSign Format.binary64 b.toBitVec)
      = if b >>> 63 == 1 then .negative else .positive := by
  have hbit : (@unpackSign Format.binary64 b.toBitVec).toNat = (b >>> 63).toNat := by
    delta unpackSign
    simp only [BitVec.toNat_cast, BitVec.extractLsb_toNat]
    rw [UInt64.toNat_shiftRight]
    show b.toNat >>> 63 % 2 ^ 1 = b.toNat >>> 63
    have hlt := b.toNat_lt
    omega
  have hlt := (@unpackSign Format.binary64 b.toBitVec).isLt
  unfold Sign.ofBitVec
  by_cases hone : b >>> 63 = 1
  · have hne : @unpackSign Format.binary64 b.toBitVec ≠ 0#1 := by
      intro hzero
      rw [hzero, hone] at hbit
      simp at hbit
    rw [if_neg hne]
    simp [hone]
  · have hzero : @unpackSign Format.binary64 b.toBitVec = 0#1 := by
      refine BitVec.eq_of_toNat_eq ?_
      have hne : (b >>> 63).toNat ≠ 1 := fun h => hone (UInt64.toNat_inj.1 h)
      show _ = 0
      omega
    rw [if_pos hzero]
    simp [hone]

end Bits

theorem toNat_one_append {w : Nat} (v : BitVec w) : (1#1 ++ v).toNat = v.toNat + 2 ^ w := by
  rw [BitVec.toNat_append, ← Nat.shiftLeft_add_eq_or_of_lt v.isLt, Nat.add_comm]
  simp [Nat.shiftLeft_eq]

/-- The parts of a double that is decoded to `d`. -/
def unpacked (d : Dyadic) : UnpackedFloat :=
  let sign := if d.negative then .negative else .positive
  if hzero : d.magnitude = 0 then .zero sign
  else .finite sign d.magnitude d.exponent (Nat.pos_of_ne_zero hzero)

/-- A double that is decoded has the sign, the mantissa and the exponent that it is decoded to. -/
theorem unpack_of_ofFloat? {x : Float} {d : Dyadic} (h : Dyadic.ofFloat? x = some d) :
    d.IsCanonical ∧ x.toModel.unpack = unpacked d := by
  have hunpack : x.toModel.unpack = UnpackedFloat.unpack Format.binary64 x.toBits.toBitVec := rfl
  have hexponent := toNat_unpackExponent x.toBits
  have hmantissa := toNat_unpackMantissa x.toBits
  have hsign := sign_unpackSign x.toBits
  have hlt : (@unpackMantissa Format.binary64 x.toBits.toBitVec).toNat < 2 ^ 52 :=
    (@unpackMantissa Format.binary64 x.toBits.toBitVec).isLt
  simp only [Dyadic.ofFloat?] at h
  rw [hunpack]
  delta UnpackedFloat.unpack
  dsimp only
  split at h
  next => cases h
  next hfinite =>
    have hne : @unpackExponent Format.binary64 x.toBits.toBitVec ≠ -1#11 := by
      intro hall
      rw [hall] at hexponent
      exact hfinite hexponent.symm
    rw [if_neg hne]
    split at h
    next hzero =>
      cases h
      have hz : @unpackExponent Format.binary64 x.toBits.toBitVec = 0#11 :=
        BitVec.eq_of_toNat_eq (hexponent.trans hzero)
      rw [if_pos hz, ← hmantissa]
      refine ⟨⟨hlt.trans (by decide), le_refl _, .inr rfl⟩, ?_⟩
      by_cases hm : @unpackMantissa Format.binary64 x.toBits.toBitVec = 0#52
      · have hm0 : (@unpackMantissa Format.binary64 x.toBits.toBitVec).toNat = 0 := by
          rw [hm]
          rfl
        rw [dif_pos hm, unpacked, dif_pos hm0, UnpackedFloat.zero.injEq]
        exact hsign
      · have hm0 : (@unpackMantissa Format.binary64 x.toBits.toBitVec).toNat ≠ 0 := by
          exact fun h0 => hm (BitVec.eq_of_toNat_eq h0)
        rw [dif_neg hm, unpacked, dif_neg hm0, UnpackedFloat.finite.injEq]
        refine ⟨hsign, rfl, ?_⟩
        rw [hz]
        rfl
    next hnonzero =>
      cases h
      have hnz : @unpackExponent Format.binary64 x.toBits.toBitVec ≠ 0#11 := by
        intro hz
        rw [hz] at hexponent
        exact hnonzero hexponent.symm
      have htwo : Nat.pow 2 52 = 2 ^ 52 := rfl
      rw [if_neg hnz, ← hmantissa, htwo]
      refine ⟨⟨Nat.add_lt_add_right hlt (2 ^ 52), ?_, .inl (Nat.le_add_left _ _)⟩, ?_⟩
      · show (-1074 : ℤ) ≤ ((x.toBits >>> 52 &&& 2047).toNat : ℤ) - 1075
        omega
      · rw [unpacked, dif_neg (Nat.add_pos_right _ (by decide)).ne', UnpackedFloat.finite.injEq]
        refine ⟨hsign, toNat_one_append _, ?_⟩
        rw [hexponent]
        rfl

/-! ## The order -/

theorem lt_iff_compare_eq {x y : Float} :
    x < y ↔ UnpackedFloat.compare x.toModel.unpack y.toModel.unpack = some .lt := by
  have hlt : x < y ↔ x.toModel.unpack.lt y.toModel.unpack = true :=
    ⟨of_decide_eq_true, decide_eq_true (p := x.toModel < y.toModel)⟩
  rw [hlt, UnpackedFloat.lt, beq_iff_eq]

/-- What is decoded is compared by its value: by the signs first, and then by the exponent and the
mantissa. -/
theorem compare_unpacked_eq_lt_iff {d d' : Dyadic} (hd : d.IsCanonical) (hd' : d'.IsCanonical) :
    UnpackedFloat.compare (unpacked d) (unpacked d') = some .lt ↔ d.value < d'.value := by
  have hlt : (compare d.exponent d'.exponent).then (compare d.magnitude d'.magnitude) = .lt ↔
      d.magnitudeValue < d'.magnitudeValue := by
    rw [hd.magnitudeValue_lt_iff hd', Ordering.then_eq_lt, compare_lt_iff_lt, compare_eq_iff_eq,
      compare_lt_iff_lt]
  have hgt : (compare d.exponent d'.exponent).then (compare d.magnitude d'.magnitude) = .gt ↔
      d'.magnitudeValue < d.magnitudeValue := by
    rw [hd'.magnitudeValue_lt_iff hd, Ordering.then_eq_gt, compare_gt_iff_gt, compare_eq_iff_eq,
      compare_gt_iff_gt, @eq_comm _ d.exponent]
  unfold unpacked
  by_cases hzero : d.magnitude = 0 <;> by_cases hzero' : d'.magnitude = 0
  · -- both are zero
    rw [dif_pos hzero, dif_pos hzero', Dyadic.value_of_zero hzero, Dyadic.value_of_zero hzero']
    exact iff_of_false nofun (lt_irrefl 0)
  · rw [dif_pos hzero, dif_neg hzero', Dyadic.value_of_zero hzero]
    have hpos := Dyadic.magnitudeValue_pos (Nat.pos_of_ne_zero hzero')
    cases hneg : d'.negative with
    | false =>
        rw [Dyadic.value_of_positive hneg]
        exact iff_of_true rfl hpos
    | true =>
        rw [Dyadic.value_of_negative hneg]
        exact iff_of_false nofun (by linarith)
  · rw [dif_neg hzero, dif_pos hzero', Dyadic.value_of_zero hzero']
    have hpos := Dyadic.magnitudeValue_pos (Nat.pos_of_ne_zero hzero)
    cases hneg : d.negative with
    | false =>
        rw [Dyadic.value_of_positive hneg]
        exact iff_of_false nofun hpos.not_gt
    | true =>
        rw [Dyadic.value_of_negative hneg]
        exact iff_of_true rfl (by linarith)
  · -- neither is zero, and the greater magnitude is the smaller value below zero
    rw [dif_neg hzero, dif_neg hzero']
    have hpos := Dyadic.magnitudeValue_pos (Nat.pos_of_ne_zero hzero)
    have hpos' := Dyadic.magnitudeValue_pos (Nat.pos_of_ne_zero hzero')
    cases hneg : d.negative with
    | false =>
        rw [Dyadic.value_of_positive hneg]
        cases hneg' : d'.negative with
        | false =>
            rw [Dyadic.value_of_positive hneg', ← hlt]
            exact Option.some_inj
        | true =>
            rw [Dyadic.value_of_negative hneg']
            exact iff_of_false nofun (by linarith)
    | true =>
        rw [Dyadic.value_of_negative hneg]
        cases hneg' : d'.negative with
        | false =>
            rw [Dyadic.value_of_positive hneg']
            exact iff_of_true rfl (by linarith)
        | true =>
            rw [Dyadic.value_of_negative hneg', neg_lt_neg_iff, ← hgt, ← Ordering.swap_eq_lt]
            exact Option.some_inj

/-- Finite doubles are ordered by their values. -/
theorem lt_iff_value_lt {x y : Float} {p q : ℚ} (hx : value? x = some p)
    (hy : value? y = some q) : x < y ↔ p < q := by
  obtain ⟨d, hd, rfl⟩ := Option.map_eq_some_iff.1 hx
  obtain ⟨d', hd', rfl⟩ := Option.map_eq_some_iff.1 hy
  obtain ⟨hcanonical, hunpack⟩ := unpack_of_ofFloat? hd
  obtain ⟨hcanonical', hunpack'⟩ := unpack_of_ofFloat? hd'
  rw [lt_iff_compare_eq, hunpack, hunpack', compare_unpacked_eq_lt_iff hcanonical hcanonical']

/-! ## Whole numbers -/

/-- The doubles whose values are an integer are the ones with this whole part and no fractional
part. -/
theorem value?_eq_intCast_iff {x : Float} {n : ℤ} :
    value? x = some (n : ℚ) ↔ isWhole x = true ∧ whole? x = some n := by
  unfold value? isWhole whole?
  cases Dyadic.ofFloat? x with
  | none => simp
  | some d =>
      simp only [Option.map_some, Option.some.injEq, Option.any_some]
      constructor
      · intro hn
        have hwhole := Dyadic.isWhole_iff.2 ⟨n, hn⟩
        refine ⟨hwhole, ?_⟩
        exact_mod_cast (Dyadic.value_of_isWhole hwhole).symm.trans hn
      · rintro ⟨hwhole, rfl⟩
        exact Dyadic.value_of_isWhole hwhole

theorem isWhole_iff {x : Float} : isWhole x = true ↔ ∃ n : ℤ, value? x = some (n : ℚ) := by
  constructor
  · intro h
    obtain ⟨d, hd, -⟩ := (Option.any_eq_true _ _).1 h
    exact ⟨d.whole, value?_eq_intCast_iff.2 ⟨h, congrArg (Option.map Dyadic.whole) hd⟩⟩
  · rintro ⟨n, hn⟩
    exact (value?_eq_intCast_iff.1 hn).1

theorem value?_zero : value? 0.0 = some 0 := by
  have hzero : Dyadic.ofFloat? 0.0 = some ⟨false, 0, -1074⟩ := by decide +kernel
  simp [value?, hzero, Dyadic.value, Dyadic.magnitudeValue]

theorem value?_ofNat_65536 : value? (Float.ofNat 65536) = some 65536 := by
  have hpower : Dyadic.ofFloat? (Float.ofNat 65536) = some ⟨false, 2 ^ 52, -36⟩ := by
    decide +kernel
  norm_num [value?, hpower, Dyadic.value, Dyadic.magnitudeValue]

end Number

end ScopedViews
