import ScopedViews.Proofs.Number.Whole
import ScopedViews.Proofs.Sandbox.Indices
/-!
# The texts of whole numbers

A script that uses a number as a key uses its text.  Below `2 ^ 53` the text of a whole number is
its decimal form.  Above, it is the shortest decimal that is read back as the same double, which
need not be the number itself and may have a power of ten behind it.  But if it is the decimal form
of a number, then not of one below `2 ^ 53`, as these have doubles of their own.

* `Dyadic.Interval.low_le_of_coarsest`: what is chosen lies in the interval of a double;
* `eq_of_layOut`: the layouts that are decimal forms;
* `text_of_value?`: the text of a whole number below `2 ^ 53`;
* `exists_of_text`: the text of a greater one;
* `two_pow_le_of_text`: what it may be the decimal form of.
-/

namespace ScopedViews

namespace Dyadic

/-! ## What is chosen -/

namespace Interval

variable {i : Interval} {k : Int} {n : Nat}

/-- Whether a multiple of a power of ten, which is not a fraction, lies in an interval. -/
def contains (i : Interval) (k n : Nat) : Bool :=
  let x := n * (i.denominator * 10 ^ k)
  if i.closed then i.low * 1 ≤ x && x ≤ i.high * 1 else i.low * 1 < x && x < i.high * 1

theorem low_le_of_contains {k : Nat} (h : i.contains k n = true) :
    i.low ≤ n * (i.denominator * 10 ^ k) := by
  simp only [contains, Nat.mul_one] at h
  split at h
  · exact of_decide_eq_true (Bool.and_eq_true_iff.1 h).1
  · exact Nat.le_of_lt (of_decide_eq_true (Bool.and_eq_true_iff.1 h).1)

/-- A multiple is chosen only if it lies in the interval. -/
theorem contains_of_onGrid? (hk : 0 ≤ k) (h : i.onGrid? k = some n) :
    i.contains k.toNat n = true := by
  simp only [onGrid?, if_pos hk, Nat.pow_eq] at h
  split at h
  next hbelow habove =>
    have hbelow := (Bool.and_eq_true_iff.1 hbelow).1
    -- both neighbours lie in it, and any of them may be chosen
    split_ifs at h
    · cases h
      exact hbelow
    · cases h
      exact habove
    · cases h
      exact hbelow
    · cases h
      exact habove
  next hbelow _ =>
    cases h
    exact (Bool.and_eq_true_iff.1 hbelow).1
  next _ habove =>
    cases h
    exact habove
  next => cases h

/-- The digits that are chosen are not below the interval, or they are those of its number. -/
theorem low_le_of_coarsest {fuel : Nat} {start : Int} (hk : 0 ≤ k)
    (h : i.coarsest fuel start = (n, k)) :
    i.low ≤ n * (i.denominator * 10 ^ k.toNat) ∨ n = i.value / i.denominator := by
  induction fuel generalizing start with
  | zero =>
      cases h
      exact .inr rfl
  | succ fuel ih =>
      rw [coarsest] at h
      split at h
      next hgrid =>
        cases h
        exact .inl (low_le_of_contains (contains_of_onGrid? hk hgrid))
      next => exact ih h

end Interval

/-! ## Large doubles -/

/-- The distance from a double to the lower end of its interval, in quarters of its last place.  It
is halved where the exponent changes. -/
def lowStep (d : Dyadic) : Nat :=
  if d.magnitude = Nat.pow 2 52 && decide (-1074 < d.exponent) then 1 else 2

theorem le_of_lowStep {d : Dyadic} (hfull : 2 ^ 52 ≤ d.magnitude) (hexponent : 1 ≤ d.exponent) :
    2 ^ 54 - 1 ≤ 4 * d.magnitude - d.lowStep := by
  have hpow : Nat.pow 2 52 = 2 ^ 52 := rfl
  have hleast : -1074 < d.exponent := by omega
  simp only [lowStep, hpow, hleast, decide_true, Bool.and_true, decide_eq_true_eq]
  split <;> omega

/-- In the units of a denominator, `2 ^ 53` is not above the number of an interval, and no whole
number is between the lower end and `2 ^ 53`. -/
structure Interval.IsLarge (i : Interval) : Prop where
  pos : 0 < i.denominator
  value : 2 ^ 53 * i.denominator ≤ i.value
  low : ∀ n, i.low ≤ n * i.denominator → 2 ^ 53 ≤ n

theorem isLarge_interval {d : Dyadic} (hfull : 2 ^ 52 ≤ d.magnitude) (hexponent : 1 ≤ d.exponent) :
    (d.interval 52 (-1074)).IsLarge := by
  have hstep := le_of_lowStep hfull hexponent
  obtain ⟨k, hk⟩ := Int.le.dest hexponent
  cases k with
  | zero =>
      -- a quarter of the last place is one half
      have hquarter : d.exponent - 2 = -1 := by omega
      obtain ⟨hlow, hvalue, hdenominator⟩ :
          (d.interval 52 (-1074)).low = 4 * d.magnitude - d.lowStep * 1 ∧
            (d.interval 52 (-1074)).value = 4 * d.magnitude ∧
            (d.interval 52 (-1074)).denominator = 2 := by
        unfold interval
        rw [hquarter]
        exact ⟨rfl, rfl, rfl⟩
      refine ⟨by omega, by omega, fun n hn => ?_⟩
      rw [hdenominator] at hn
      omega
  | succ k =>
      have hquarter : d.exponent - 2 = Int.ofNat k := by
        show _ = (k : ℤ)
        omega
      obtain ⟨hlow, hvalue, hdenominator⟩ :
          (d.interval 52 (-1074)).low = (4 * d.magnitude) <<< k - d.lowStep * (1 <<< k) ∧
            (d.interval 52 (-1074)).value = (4 * d.magnitude) <<< k ∧
            (d.interval 52 (-1074)).denominator = 1 := by
        unfold interval
        rw [hquarter]
        exact ⟨rfl, rfl, rfl⟩
      have hpos : 1 ≤ 2 ^ k := Nat.one_le_two_pow
      rw [Nat.shiftLeft_eq] at hvalue
      rw [Nat.shiftLeft_eq, Nat.shiftLeft_eq, Nat.one_mul, ← Nat.sub_mul] at hlow
      have hlowest : 4 * d.magnitude - d.lowStep ≤ (d.interval 52 (-1074)).low :=
        hlow ▸ Nat.le_mul_of_pos_right _ hpos
      have hleast : 4 * d.magnitude ≤ (d.interval 52 (-1074)).value :=
        hvalue ▸ Nat.le_mul_of_pos_right _ hpos
      refine ⟨by omega, by omega, fun n hn => ?_⟩
      rw [hdenominator] at hn
      omega

/-- The digits that are chosen for a large number make one that is not below `2 ^ 53`. -/
theorem le_of_coarsest {i : Interval} {fuel n k : Nat} {start : Int} (hi : i.IsLarge)
    (h : i.coarsest fuel start = (n, (k : ℤ))) : 2 ^ 53 ≤ n * 10 ^ k := by
  rcases Interval.low_le_of_coarsest (Int.natCast_nonneg k) h with hlow | hn
  · refine hi.low _ ?_
    rwa [Int.toNat_natCast, Nat.mul_comm i.denominator, ← Nat.mul_assoc] at hlow
  · have hle : 2 ^ 53 ≤ n := by
      rw [hn, Nat.le_div_iff_mul_le hi.pos]
      exact hi.value
    exact Nat.le_trans hle (Nat.le_mul_of_pos_right n (by positivity))

end Dyadic

namespace Number

/-! ## Layouts that are decimal forms -/

theorem digitsValue_append_zeros (cs : List Char) (k : Nat) :
    digitsValue (cs ++ List.replicate k '0') = digitsValue cs * 10 ^ k := by
  induction k with
  | zero => simp
  | succ k ih =>
      rw [List.replicate_succ', ← List.append_assoc, digitsValue, List.foldl_append]
      show 10 * digitsValue (cs ++ List.replicate k '0') + 0 = _
      rw [ih]
      ring

/-- Of the layouts of a decimal only the one without a point and without a power of ten has nothing
but digits in it. -/
theorem eq_of_layOut {d : Decimal} (h : ∀ c ∈ layOut d, c.isDigit = true) :
    ∃ k : ℕ, d.point = d.digits.length + k ∧ layOut d = d.digits ++ List.replicate k '0' := by
  have hnot {c : Char} (hc : c.isDigit = false) : c ∉ layOut d := fun hmem => by
    simp [h c hmem] at hc
  unfold layOut at hnot ⊢
  split at hnot
  · have hpower := hnot (by decide : 'e'.isDigit = false)
    exact absurd (List.mem_append_right _ List.mem_cons_self) hpower
  next hscale =>
    rw [if_neg hscale]
    unfold Decimal.positional at hnot ⊢
    split at hnot
    · exact absurd (by simp) (hnot (by decide : '.'.isDigit = false))
    next hpoint =>
      rw [if_neg hpoint]
      dsimp only at hnot ⊢
      split at hnot
      next hlength =>
        rw [if_pos hlength]
        exact ⟨d.point.toNat - d.digits.length, by omega, rfl⟩
      · exact absurd (by simp) (hnot (by decide : '.'.isDigit = false))

theorem isDigit_of_toDigits {n : Nat} {c : Char} {cs : List Char}
    (h : Nat.toDigits 10 n = c :: cs) : c.isDigit = true :=
  Nat.isDigit_of_mem_toDigits (by decide) (by decide) (h ▸ List.mem_cons_self)

/-- No layout of digits is without one. -/
theorem exists_isDigit_layOut (n : Nat) (point : Int) :
    ∃ c ∈ layOut ⟨Nat.toDigits 10 n, point⟩, c.isDigit = true := by
  obtain ⟨c, cs, hdigits⟩ := List.exists_cons_of_ne_nil (Nat.toDigits_ne_nil (n := n) (b := 10))
  have hc := isDigit_of_toDigits hdigits
  rw [hdigits]
  unfold layOut
  split
  · refine ⟨c, List.mem_append_left _ ?_, hc⟩
    cases cs <;> simp [Decimal.mantissa]
  · unfold Decimal.positional
    dsimp only
    split
    · exact ⟨'0', by simp, by decide⟩
    next hpoint =>
      split
      · exact ⟨c, by simp, hc⟩
      next =>
        obtain ⟨k, hk⟩ := Nat.exists_eq_succ_of_ne_zero (by omega : point.toNat ≠ 0)
        exact ⟨c, by simp [hk], hc⟩

/-- If the layout of the digits that are chosen for a large double is the decimal form of a number,
then of one that is not below `2 ^ 53`. -/
theorem two_pow_le_of_layOut {d : Dyadic} {i : Nat} (hfull : 2 ^ 52 ≤ d.magnitude)
    (hexponent : 1 ≤ d.exponent) (h : layOut d.shortest = Nat.toDigits 10 i) : 2 ^ 53 ≤ i := by
  obtain ⟨k, hpoint, hlayOut⟩ := eq_of_layOut (d := d.shortest) fun c hc =>
    Nat.isDigit_of_mem_toDigits (by decide) (by decide) (h ▸ hc)
  simp only [Dyadic.shortest, Dyadic.shortestIn] at hpoint hlayOut h
  generalize hchosen : (d.interval 52 (-1074)).coarsest 22 _ = chosen at hpoint hlayOut h
  obtain ⟨n, e⟩ := chosen
  obtain rfl : e = k := by
    dsimp only at hpoint
    omega
  have hvalue := congrArg digitsValue (h.symm.trans hlayOut)
  rw [digitsValue_append_zeros] at hvalue
  simp only [digitsValue_toDigits] at hvalue
  rw [hvalue]
  exact Dyadic.le_of_coarsest (Dyadic.isLarge_interval hfull hexponent) hchosen

/-! ## The texts -/

section Texts

variable {x : Float} {n : ℕ}

/-- A whole number is decoded to its absolute value and its sign. -/
theorem exists_of_value?_natCast (hx : value? x = some (n : ℚ)) :
    ∃ d, Dyadic.ofFloat? x = some d ∧ d.IsCanonical ∧ d.isWhole = true ∧ d.magnitudeValue = n ∧
      (0 < n → d.negative = false) := by
  obtain ⟨d, hd, hvalue⟩ := Option.map_eq_some_iff.1 hx
  have hwhole : d.isWhole = true := Dyadic.isWhole_iff.2 ⟨n, by exact_mod_cast hvalue⟩
  have hn : (0 : ℚ) ≤ n := Nat.cast_nonneg n
  have hmagnitude := d.magnitudeValue_nonneg
  cases hsign : d.negative with
  | false =>
      rw [Dyadic.value_of_positive hsign] at hvalue
      exact ⟨d, hd, (unpack_of_ofFloat? hd).1, hwhole, hvalue, fun _ => hsign⟩
  | true =>
      -- there is a zero with a sign, and no other number
      rw [Dyadic.value_of_negative hsign] at hvalue
      have hzero : n = 0 := by
        have hle : (n : ℚ) ≤ 0 := by linarith
        exact_mod_cast le_antisymm hle hn
      refine ⟨d, hd, (unpack_of_ofFloat? hd).1, hwhole, by linarith, fun hpos => ?_⟩
      omega

/-- The text of a whole number is its decimal form. -/
theorem text_of_value? (hx : value? x = some (n : ℚ)) (hlt : n < 2 ^ 53) : text x = toString n := by
  obtain ⟨d, hd, -, hwhole, hvalue, hsign⟩ := exists_of_value?_natCast hx
  have hmagnitude : d.wholeMagnitude = n := by
    exact_mod_cast (Dyadic.magnitudeValue_of_isWhole hwhole).symm.trans hvalue
  simp only [text, hd]
  by_cases hzero : d.magnitude = 0
  · have hn : n = 0 := by
      rw [Dyadic.magnitudeValue_of_zero hzero] at hvalue
      exact_mod_cast hvalue.symm
    rw [if_pos hzero, hn]
    rfl
  · have hn : 0 < n := by
      have hpos := Dyadic.magnitudeValue_pos (Nat.pos_of_ne_zero hzero)
      rw [hvalue] at hpos
      exact_mod_cast hpos
    have hsmall : (d.isWhole && decide (d.wholeMagnitude < Nat.pow 2 53)) = true := by
      rw [hwhole, hmagnitude, Bool.true_and]
      exact decide_eq_true hlt
    rw [if_neg hzero, if_pos hsmall, hsign hn, hmagnitude]
    exact String.empty_append

/-- The text of a greater number is a layout of the digits that are chosen for it. -/
theorem exists_of_text (hx : value? x = some (n : ℚ)) (hle : 2 ^ 53 ≤ n) :
    ∃ d : Dyadic, 2 ^ 52 ≤ d.magnitude ∧ 1 ≤ d.exponent ∧ (text x).toList = layOut d.shortest := by
  obtain ⟨d, hd, hcanonical, hwhole, hvalue, hsign⟩ := exists_of_value?_natCast hx
  have hmagnitude : d.wholeMagnitude = n := by
    exact_mod_cast (Dyadic.magnitudeValue_of_isWhole hwhole).symm.trans hvalue
  have hzero : d.magnitude ≠ 0 := by
    intro hzero
    rw [Dyadic.magnitudeValue_of_zero hzero] at hvalue
    have hn : n = 0 := by exact_mod_cast hvalue.symm
    omega
  have hlarge : ¬ (d.isWhole && decide (d.wholeMagnitude < Nat.pow 2 53)) = true := by
    rw [hwhole, hmagnitude, Bool.true_and, decide_eq_true_eq]
    exact Nat.not_lt.2 hle
  -- the mantissa has 53 places, which are not enough for so great a number
  have hexponent : 1 ≤ d.exponent := by
    by_contra hnot
    have hlt : (d.magnitude : ℚ) < 2 ^ 53 := by exact_mod_cast hcanonical.lt
    have hpow : (2 : ℚ) ^ d.exponent ≤ 1 := zpow_le_one_of_nonpos₀ (by norm_num) (by omega)
    have hsmall : d.magnitudeValue < 2 ^ 53 :=
      (mul_le_of_le_one_right (Nat.cast_nonneg _) hpow).trans_lt hlt
    rw [hvalue] at hsmall
    have hn : n < 2 ^ 53 := by exact_mod_cast hsmall
    omega
  refine ⟨d, hcanonical.full.resolve_right (by omega), hexponent, ?_⟩
  simp only [text, hd, if_neg hzero, if_neg hlarge, hsign (by omega)]
  exact String.toList_ofList

/-- If the text of a greater number is a decimal form, then that of a great number. -/
theorem two_pow_le_of_text {i : ℕ} (hx : value? x = some (n : ℚ)) (hle : 2 ^ 53 ≤ n)
    (htext : text x = toString i) : 2 ^ 53 ≤ i := by
  obtain ⟨d, hfull, hexponent, hlayOut⟩ := exists_of_text hx hle
  refine two_pow_le_of_layOut hfull hexponent ?_
  rw [← hlayOut, htext, Sandbox.Value.toList_toString]

/-- A number is written with a digit. -/
theorem exists_isDigit_text (hx : value? x = some (n : ℚ)) :
    ∃ c ∈ (text x).toList, c.isDigit = true := by
  by_cases hlt : n < 2 ^ 53
  · obtain ⟨c, cs, hdigits⟩ := List.exists_cons_of_ne_nil (Nat.toDigits_ne_nil (n := n) (b := 10))
    rw [text_of_value? hx hlt, Sandbox.Value.toList_toString, hdigits]
    exact ⟨c, List.mem_cons_self, isDigit_of_toDigits hdigits⟩
  · obtain ⟨d, -, -, hlayOut⟩ := exists_of_text hx (Nat.not_lt.1 hlt)
    rw [hlayOut]
    exact exists_isDigit_layOut _ _

end Texts

end Number

end ScopedViews
