import EdgeMeter.Binary64.Rounding
import Mathlib.Algebra.Order.Field.Rat

/-!
# Quotients as numbers

A rounded quotient is a number of steps, and a step is a power of two units. Rounding crosses no
power of two, so a quotient that is not too large stays finite.

* `magnitude_ofMagnitude`, `negative_ofMagnitude`: a number taken apart again;
* `units_ofSteps`: the units in some steps;
* `steps_bounds`, `ofQuotient_eq_steps`: the steps of a rounded quotient;
* **`ofQuotient_bounds`**: a rounded quotient is finite, has its sign, and lies between the same
  powers of two;
* `ofNat_bounds`, `div_bounds`: whole numbers, and quotients of numbers.
-/

namespace EdgeMeter

theorem roundEven_bounds (n d : Nat) : n / d ≤ roundEven n d ∧ roundEven n d ≤ n / d + 1 := by
  unfold roundEven
  split
  · omega
  split
  · omega
  · omega

namespace Binary64

variable {negative : Bool} {m : Nat}

/-! ## Numbers taken apart -/

theorem toNat_ofMagnitude (h : m < 2 ^ 63) :
    (ofMagnitude negative m).bits.toNat = if negative then 2 ^ 63 + m else m := by
  apply UInt64.toNat_ofNat_of_lt'
  change _ < 2 ^ 64
  rw [Nat.pow_eq]
  split <;> omega

theorem magnitude_ofMagnitude (h : m < 2 ^ 63) : (ofMagnitude negative m).magnitude = m := by
  rw [magnitude, toNat_ofMagnitude h, Nat.pow_eq]
  split <;> omega

theorem negative_ofMagnitude (h : m < 2 ^ 63) : (ofMagnitude negative m).negative = negative := by
  rw [Binary64.negative, toNat_ofMagnitude h, Nat.pow_eq]
  cases negative
  · simpa using h
  · simp

/-- **The units in some steps.** Fifty-three digits are enough for them, and all are used unless a
step is one unit. -/
theorem units_ofSteps {step steps : Nat} (full : step = 0 ∨ 2 ^ 52 ≤ steps)
    (le : steps ≤ 2 ^ 53) (fits : step ≤ 2044) :
    (ofMagnitude negative (step * 2 ^ 52 + steps)).isFinite ∧
      (ofMagnitude negative (step * 2 ^ 52 + steps)).negative = negative ∧
      (ofMagnitude negative (step * 2 ^ 52 + steps)).units = steps * 2 ^ step := by
  have hlt : step * 2 ^ 52 + steps < 2 ^ 63 := by omega
  refine ⟨?_, negative_ofMagnitude hlt, ?_⟩
  · simp only [isFinite, magnitude_ofMagnitude hlt, infinityMagnitude, Nat.pow_eq,
      decide_eq_true_eq]
    omega
  · simp only [units, scale, biased, fraction, magnitude_ofMagnitude hlt, Nat.pow_eq]
    rcases Nat.lt_or_ge steps (2 ^ 52) with hsub | hsub
    · -- a number below the least full one
      obtain rfl : step = 0 := by omega
      rw [if_pos (by omega)]
      omega
    rcases Nat.lt_or_ge steps (2 ^ 53) with hnorm | hnorm
    · have hbiased : (step * 2 ^ 52 + steps) / 2 ^ 52 = step + 1 := by omega
      have hfraction : (step * 2 ^ 52 + steps) % 2 ^ 52 = steps - 2 ^ 52 := by omega
      rw [hbiased, hfraction, if_neg (by omega), Nat.add_sub_cancel, Nat.add_sub_of_le hsub]
    · -- rounding up has filled the last digit before the next power of two
      obtain rfl : steps = 2 ^ 53 := by omega
      have hbiased : (step * 2 ^ 52 + 2 ^ 53) / 2 ^ 52 = step + 2 := by omega
      have hfraction : (step * 2 ^ 52 + 2 ^ 53) % 2 ^ 52 = 0 := by omega
      have hdouble : 2 ^ (step + 2 - 1) = 2 * 2 ^ step := Nat.pow_succ'
      rw [hbiased, hfraction, if_neg (by omega), hdouble, Nat.add_zero]
      omega

/-! ## Rounded quotients -/

theorem two_pow_le_of_step {q step : Nat} (hstep : step = q.log2 - 52) (hpos : 0 < step) :
    2 ^ (52 + step) ≤ q := by
  have hlog : q.log2 = 52 + step := by omega
  have hq : q ≠ 0 := by
    rintro rfl
    rw [Nat.log2_zero] at hlog
    omega
  exact hlog ▸ Nat.log2_self_le hq

/-- **The steps of a rounded quotient** have fifty-three digits, unless a step is one unit, and
cross no power of two. -/
theorem steps_bounds {q step steps : Nat} (hstep : step = q.log2 - 52)
    (hlow : q / 2 ^ step ≤ steps) (hhigh : steps ≤ q / 2 ^ step + 1) :
    (step = 0 ∨ 2 ^ 52 ≤ steps) ∧ steps ≤ 2 ^ 53 ∧
      (∀ k, 2 ^ k ≤ q → 2 ^ k ≤ steps * 2 ^ step) ∧
      ∀ k, q < 2 ^ k → steps * 2 ^ step ≤ 2 ^ k := by
  have hdigits : q / 2 ^ step < 2 ^ 53 := by
    rw [Nat.div_lt_iff_lt_mul (Nat.two_pow_pos step), ← Nat.pow_add]
    exact Nat.lt_of_lt_of_le Nat.lt_log2_self (Nat.pow_le_pow_right (by decide) (by omega))
  have hle : steps ≤ 2 ^ 53 := by omega
  rcases Nat.eq_zero_or_pos step with hzero | hpos
  · rw [hzero, Nat.pow_zero, Nat.div_one] at hlow hhigh
    rw [hzero, Nat.pow_zero, Nat.mul_one]
    refine ⟨.inl rfl, hle, fun k hk => ?_, fun k hk => ?_⟩ <;> omega
  have hleading : 2 ^ (52 + step) ≤ q := two_pow_le_of_step hstep hpos
  have hq : q ≠ 0 := Nat.ne_of_gt (Nat.lt_of_lt_of_le (Nat.two_pow_pos _) hleading)
  have hlog : q.log2 = 52 + step := by omega
  have hfull : 2 ^ 52 ≤ steps := by
    refine Nat.le_trans ?_ hlow
    rwa [Nat.le_div_iff_mul_le (Nat.two_pow_pos step), ← Nat.pow_add]
  refine ⟨.inr hfull, hle, fun k hk => ?_, fun k hk => ?_⟩
  · have hk' : k ≤ 52 + step := hlog ▸ (Nat.le_log2 hq).mpr hk
    calc 2 ^ k ≤ 2 ^ (52 + step) := Nat.pow_le_pow_right (by decide) hk'
      _ = 2 ^ 52 * 2 ^ step := Nat.pow_add 2 52 step
      _ ≤ steps * 2 ^ step := Nat.mul_le_mul_right _ hfull
  · have hk' : 52 + step < k := hlog ▸ (Nat.log2_lt hq).mpr hk
    calc steps * 2 ^ step ≤ 2 ^ 53 * 2 ^ step := Nat.mul_le_mul_right _ hle
      _ = 2 ^ (53 + step) := (Nat.pow_add 2 53 step).symm
      _ ≤ 2 ^ k := Nat.pow_le_pow_right (by decide) (by omega)

/-- **A rounded quotient in steps.** Of not too many units, it is the whole number of steps nearest
to the quotient, in the step at its size. -/
theorem ofQuotient_eq_steps (negative : Bool) {n d scaled step : Nat}
    (hscaled : n * Nat.pow 2 1074 = scaled) (hstep : (scaled / d).log2 - 52 = step)
    (fits : step ≤ 2044) :
    let steps := roundEven scaled (d * 2 ^ step)
    ofQuotient negative n d = ofMagnitude negative (step * 2 ^ 52 + steps) ∧
      (step = 0 ∨ 2 ^ 52 ≤ steps) ∧ steps ≤ 2 ^ 53 ∧
      (∀ k, 2 ^ k ≤ scaled / d → 2 ^ k ≤ steps * 2 ^ step) ∧
      ∀ k, scaled / d < 2 ^ k → steps * 2 ^ step ≤ 2 ^ k := by
  intro steps
  obtain ⟨hlow, hhigh⟩ := roundEven_bounds scaled (d * 2 ^ step)
  rw [← Nat.div_div_eq_div_mul] at hlow hhigh
  have bounds := steps_bounds hstep.symm hlow hhigh
  refine ⟨?_, bounds⟩
  have le : steps ≤ 2 ^ 53 := bounds.2.1
  have hmin : min (step * 2 ^ 52 + steps) infinityMagnitude = step * 2 ^ 52 + steps := by
    apply Nat.min_eq_left
    rw [infinityMagnitude, Nat.pow_eq]
    omega
  simp only [ofQuotient, hscaled, hstep]
  exact congrArg (ofMagnitude negative) hmin

theorem ofQuotient_bounds (negative : Bool) {n d : Nat}
    (fits : (n * Nat.pow 2 1074 / d).log2 ≤ 2096) :
    (ofQuotient negative n d).isFinite ∧ (ofQuotient negative n d).negative = negative ∧
      (∀ k, 2 ^ k ≤ n * Nat.pow 2 1074 / d → 2 ^ k ≤ (ofQuotient negative n d).units) ∧
      ∀ k, n * Nat.pow 2 1074 / d < 2 ^ k → (ofQuotient negative n d).units ≤ 2 ^ k := by
  have hfits : (n * Nat.pow 2 1074 / d).log2 - 52 ≤ 2044 := by omega
  obtain ⟨heq, full, le, above, below⟩ := ofQuotient_eq_steps negative rfl rfl hfits
  obtain ⟨finite, sign, hunits⟩ := units_ofSteps full le hfits
  rw [heq, hunits]
  exact ⟨finite, sign, above, below⟩

theorem log2_le_of_le {n k : Nat} (h : n ≤ 2 ^ k) : n.log2 ≤ k := by
  by_cases hn : n = 0
  · rw [hn, Nat.log2_zero]
    exact Nat.zero_le k
  · have hlt : n < 2 ^ (k + 1) := by
      have := Nat.two_pow_pos k
      rw [Nat.pow_succ]
      omega
    exact Nat.le_of_lt_succ ((Nat.log2_lt hn).mpr hlt)

theorem unitsOfOne_pos : 0 < Nat.pow 2 1074 := by
  simp only [Nat.pow_eq, Nat.two_pow_pos]

theorem unitsOfOne_eq : ∃ p, p = 1074 ∧ Nat.pow 2 1074 = 2 ^ p :=
  ⟨1074, rfl, by decide +kernel⟩

theorem log2_units_le {n k : Nat} (hn : n < 2 ^ k) (hk : k ≤ 1022) :
    (n * Nat.pow 2 1074 / 1).log2 ≤ 2096 := by
  obtain ⟨places, hplaces, hone⟩ := unitsOfOne_eq
  rw [hone, Nat.div_one]
  refine Nat.le_trans (log2_le_of_le (k := places + k) ?_) (by omega)
  rw [Nat.mul_comm, Nat.pow_add]
  exact Nat.mul_le_mul_left _ (Nat.le_of_lt hn)

theorem ofNat_bounds {n k : Nat} (hn : n < 2 ^ k) (hk : k ≤ 1022) :
    (ofNat n).isFinite ∧ (ofNat n).negative = false ∧
      (n ≠ 0 → Nat.pow 2 1074 ≤ (ofNat n).units) ∧ ∃ j ≤ 1074 + k, (ofNat n).units ≤ 2 ^ j := by
  have bounds := ofQuotient_bounds false (log2_units_le hn hk)
  have hone := unitsOfOne_eq
  generalize Nat.pow 2 1074 = one at *
  obtain ⟨places, hplaces, rfl⟩ := hone
  obtain ⟨finite, sign, above, below⟩ := bounds
  rw [Nat.div_one] at above below
  have hq : n * 2 ^ places < 2 ^ (places + k) := by
    rw [Nat.mul_comm, Nat.pow_add]
    exact Nat.mul_lt_mul_of_pos_left hn (Nat.two_pow_pos places)
  refine ⟨finite, sign, fun hne => ?_, places + k, by omega, below _ hq⟩
  exact above _ (Nat.le_mul_of_pos_left _ (Nat.pos_of_ne_zero hne))

theorem isNaN_of_finite {x : Binary64} (finite : x.isFinite) : x.isNaN = false := by
  simp only [isFinite, isNaN, decide_eq_true_eq, decide_eq_false_iff_not] at *
  omega

theorem isInfinite_of_finite {x : Binary64} (finite : x.isFinite) : x.isInfinite = false := by
  simp only [isFinite, isInfinite, decide_eq_true_eq, beq_eq_false_iff_ne] at *
  omega

theorem isZero_of_units_pos {x : Binary64} (pos : 0 < x.units) : x.isZero = false := by
  rw [isZero, beq_eq_false_iff_ne]
  intro hzero
  simp [units, biased, fraction, hzero] at pos

/-- **A quotient of finite numbers** neither of which is negative is finite and not negative, if the
divisor is at least one and the other not too large. -/
theorem div_bounds {x y : Binary64} {k : Nat} (finite : x.isFinite) (finite' : y.isFinite)
    (sign : x.negative = y.negative) (fits : x.units ≤ 2 ^ k) (hk : k ≤ 2096)
    (one_le : Nat.pow 2 1074 ≤ y.units) :
    (x.div y).isFinite ∧ (x.div y).negative = false := by
  have hpos : 0 < y.units := Nat.lt_of_lt_of_le unitsOfOne_pos one_le
  have hdiv : x.div y = ofQuotient false x.units y.units := by
    simp [div, isNaN_of_finite, isInfinite_of_finite, isZero_of_units_pos, *]
  have bounds := ofQuotient_bounds (n := x.units) (d := y.units) false
  generalize Nat.pow 2 1074 = one at *
  have hq : x.units * one / y.units ≤ x.units := by
    apply Nat.div_le_of_le_mul
    rw [Nat.mul_comm]
    exact Nat.mul_le_mul_right _ one_le
  have hlog : (x.units * one / y.units).log2 ≤ 2096 :=
    Nat.le_trans (log2_le_of_le (Nat.le_trans hq fits)) hk
  obtain ⟨finite, sign, -, -⟩ := bounds hlog
  rw [hdiv]
  exact ⟨finite, sign⟩

end Binary64

end EdgeMeter
