import Mathlib
import ScopedViews.Proofs.Number.Order
/-!
# The equality of doubles

Two doubles are equal if none is NaN and both have the same parts or are zero.  A mantissa is as
long as its exponent allows, so that the parts are those of the value, and finite doubles are equal
exactly if their values are.

* `Dyadic.IsCanonical.eq_of_magnitudeValue_eq`: the parts are given by the value;
* `value_eq_of_unpacked_eq`: and the value by the parts;
* `beq_iff_value_eq`: equality is that of the values.
-/

namespace ScopedViews

namespace Dyadic

variable {d d' : Dyadic}

/-- Canonical numbers are given by their values. -/
theorem IsCanonical.eq_of_magnitudeValue_eq (hd : d.IsCanonical) (hd' : d'.IsCanonical)
    (h : d.magnitudeValue = d'.magnitudeValue) :
    d.exponent = d'.exponent ∧ d.magnitude = d'.magnitude := by
  have hlt := (hd.magnitudeValue_lt_iff hd').not.1 h.not_lt
  have hgt := (hd'.magnitudeValue_lt_iff hd).not.1 h.not_gt
  omega

theorem value_eq_zero_iff : d.value = 0 ↔ d.magnitude = 0 := by
  constructor
  · intro hvalue
    by_contra hne
    have hpos := magnitudeValue_pos (Nat.pos_of_ne_zero hne)
    rw [value] at hvalue
    split at hvalue <;> linarith
  · exact value_of_zero

/-- A value that is not zero gives the sign as well. -/
theorem IsCanonical.eq_of_value_eq (hd : d.IsCanonical) (hd' : d'.IsCanonical)
    (hzero : d.magnitude ≠ 0) (h : d.value = d'.value) : d = d' := by
  have hzero' : d'.magnitude ≠ 0 := by rwa [Ne, ← value_eq_zero_iff, ← h, value_eq_zero_iff]
  have hpos := magnitudeValue_pos (Nat.pos_of_ne_zero hzero)
  have hpos' := magnitudeValue_pos (Nat.pos_of_ne_zero hzero')
  obtain ⟨hsign, hvalue⟩ : d.negative = d'.negative ∧ d.magnitudeValue = d'.magnitudeValue := by
    rw [value, value] at h
    cases hneg : d.negative <;> cases hneg' : d'.negative <;>
      simp only [hneg, hneg', if_true, if_false, Bool.false_eq_true] at h
    case false.false => exact ⟨rfl, h⟩
    case true.true => exact ⟨rfl, neg_inj.1 h⟩
    all_goals linarith
  obtain ⟨hexponent, hmagnitude⟩ := hd.eq_of_magnitudeValue_eq hd' hvalue
  cases d
  cases d'
  simp_all

end Dyadic

namespace Number

open Float.Model (UnpackedFloat)
open Float.Model.UnpackedFloat

section Parts

variable {d d' : Dyadic}

theorem unpacked_ne_notANumber (d : Dyadic) : unpacked d ≠ .notANumber := by
  by_cases hzero : d.magnitude = 0
  · simp [unpacked, hzero]
  · simp [unpacked, hzero]

theorem unpacked_eq_zero_iff {s : Sign} : unpacked d = .zero s ↔
    d.magnitude = 0 ∧ s = if d.negative then .negative else .positive := by
  unfold unpacked
  dsimp only
  split
  next hzero => rw [UnpackedFloat.zero.injEq, and_iff_right hzero, eq_comm]
  next hzero => simp [hzero]

theorem value_eq_of_unpacked_eq (h : unpacked d = unpacked d') : d.value = d'.value := by
  by_cases hzero : d.magnitude = 0
  · have hzero' : unpacked d' = .zero _ := h ▸ unpacked_eq_zero_iff.2 ⟨hzero, rfl⟩
    rw [Dyadic.value_of_zero hzero, Dyadic.value_of_zero (unpacked_eq_zero_iff.1 hzero').1]
  · have hzero' : d'.magnitude ≠ 0 := fun hzero' =>
      hzero (unpacked_eq_zero_iff.1 (h.trans (unpacked_eq_zero_iff.2 ⟨hzero', rfl⟩))).1
    rw [unpacked, unpacked, dif_neg hzero, dif_neg hzero', UnpackedFloat.finite.injEq] at h
    obtain ⟨hsign, hmagnitude, hexponent⟩ := h
    have hnegative : d.negative = d'.negative := by
      cases hneg : d.negative <;> cases hneg' : d'.negative <;> simp_all
    rw [Dyadic.value, Dyadic.value, Dyadic.magnitudeValue, Dyadic.magnitudeValue, hnegative,
      hmagnitude, hexponent]

end Parts

/-- Finite doubles are equal exactly if they have the same value. -/
theorem beq_iff_value_eq {x y : Float} {p q : ℚ} (hx : value? x = some p)
    (hy : value? y = some q) : (x == y) = true ↔ p = q := by
  obtain ⟨d, hd, rfl⟩ := Option.map_eq_some_iff.1 hx
  obtain ⟨d', hd', rfl⟩ := Option.map_eq_some_iff.1 hy
  obtain ⟨hcanonical, hunpack⟩ := unpack_of_ofFloat? hd
  obtain ⟨hcanonical', hunpack'⟩ := unpack_of_ofFloat? hd'
  have hbeq : (x == y) = x.toModel.unpack.beq y.toModel.unpack := rfl
  rw [hbeq, hunpack, hunpack', beq_iff_ne_notANumber_and_eq]
  constructor
  · rintro ⟨-, -, hsame | ⟨hzero, hzero'⟩ | ⟨hzero, hzero'⟩⟩
    · exact value_eq_of_unpacked_eq hsame
    all_goals
      rw [Dyadic.value_of_zero (unpacked_eq_zero_iff.1 hzero).1,
        Dyadic.value_of_zero (unpacked_eq_zero_iff.1 hzero').1]
  · intro hvalue
    refine ⟨unpacked_ne_notANumber d, unpacked_ne_notANumber d', ?_⟩
    by_cases hzero : d.magnitude = 0
    · -- zeros are equal, whatever their signs
      have hzero' : d'.magnitude = 0 := by
        rwa [← Dyadic.value_eq_zero_iff, ← hvalue, Dyadic.value_eq_zero_iff]
      rw [unpacked, unpacked, dif_pos hzero, dif_pos hzero']
      cases d.negative <;> cases d'.negative <;> simp
    · exact .inl (congrArg unpacked (hcanonical.eq_of_value_eq hcanonical' hzero hvalue))

end Number

end ScopedViews
