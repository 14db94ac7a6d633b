import EdgeMeter.Proofs.Nearest
import Mathlib.Data.Nat.Cast.Order.Field

/-!
# Nearest numbers

A rounded quotient is the number nearest to it, and of two equally near ones the one whose last
digit is even. The numbers below the step at its size are on a finer grid, but too far away; all
others are multiples of that step, and rounding gives the nearest multiple.

* `Binary64.Nearest`: the number that rounding is to give;
* `Nearest.mono`: rounding is monotone;
* `Nearest.value_eq`: a quotient that is a number is not changed;
* `units_eq_digits`: fifty-three digits at a scale;
* `multiple_or_lt`, `lt_or_multiple`: a number is too far away, or a multiple of the step;
* **`nearest_ofQuotient`**: a rounded quotient is the nearest number;
* `nearest_ofNat`, `value_ofNat_mono`, `isZero_ofNat_iff`: whole numbers;
* `exists_value_eq_nat`, `value_ofNat`: those that are numbers.
-/

namespace EdgeMeter

namespace Binary64

/-- **`x` is the finite number nearest to `q`**, the one with an even last digit of two equally
near. -/
structure Nearest (x : Binary64) (q : ℚ) : Prop where
  finite : x.isFinite
  nearest : ∀ y : Binary64, y.isFinite → |q - x.value| ≤ |q - y.value|
  even_of_tie : ∀ y : Binary64, y.isFinite → y.value ≠ x.value →
    |q - y.value| = |q - x.value| → Even x.fraction

namespace Nearest

variable {x x' y : Binary64} {q q' : ℚ}

theorem mono (h : x.Nearest q) (h' : x'.Nearest q') (hq : q < q') : x.value ≤ x'.value := by
  by_contra hlt
  push Not at hlt
  have hx : |q - x.value| ≤ |q - x'.value| := h.nearest x' h'.finite
  have hx' : |q' - x'.value| ≤ |q' - x.value| := h'.nearest x h.finite
  -- both quotients are on the nearer side of the middle, so they are the other way around
  have hlow : x'.value + x.value ≤ 2 * q := by
    have := sq_le_sq.mpr hx
    nlinarith
  have hhigh : 2 * q' ≤ x'.value + x.value := by
    have := sq_le_sq.mpr hx'
    nlinarith
  linarith

theorem value_eq (h : x.Nearest q) (finite : y.isFinite) (hy : y.value = q) : x.value = q := by
  have hle : |q - x.value| ≤ |q - y.value| := h.nearest y finite
  rw [hy, sub_self, abs_zero, abs_nonpos_iff] at hle
  linarith

end Nearest

/-! ## Digits -/

/-- The whole number that the digits of a number are. -/
def digits (x : Binary64) : ℕ := if x.biased = 0 then x.fraction else 2 ^ 52 + x.fraction

theorem digits_lt (x : Binary64) : x.digits < 2 ^ 53 := by
  have hlt : x.fraction < 2 ^ 52 := Nat.mod_lt _ (Nat.two_pow_pos 52)
  unfold digits
  split <;> omega

theorem units_eq_digits (x : Binary64) : x.units = x.digits * 2 ^ x.scale := by
  unfold units digits
  split
  · rename_i hzero
    rw [scale, hzero, Nat.zero_sub, Nat.pow_zero, Nat.mul_one]
  · rfl

/-- The units of a number, with its sign. -/
def signedUnits (x : Binary64) : ℤ := if x.negative then -x.units else x.units

theorem value_eq_signedUnits (x : Binary64) :
    x.value = x.signedUnits / (Nat.pow 2 1074 : ℕ) := by
  unfold value signedUnits
  split
  · push_cast
    ring
  · push_cast
    ring

theorem abs_signedUnits (x : Binary64) : |x.signedUnits| = x.units := by
  unfold signedUnits
  split
  · rw [abs_neg, Nat.abs_cast]
  · rw [Nat.abs_cast]

/-- **A number is a multiple of a step**, or less than any fifty-three digits in that step. -/
theorem multiple_or_lt (y : Binary64) (step : ℕ) :
    (∃ j : ℤ, y.signedUnits = j * 2 ^ step) ∨ step ≠ 0 ∧ y.units < 2 ^ 52 * 2 ^ step := by
  rcases Nat.lt_or_ge y.scale step with hlt | hle
  · right
    refine ⟨by omega, ?_⟩
    calc y.units = y.digits * 2 ^ y.scale := y.units_eq_digits
      _ < 2 ^ 53 * 2 ^ y.scale := Nat.mul_lt_mul_of_pos_right y.digits_lt (Nat.two_pow_pos _)
      _ = 2 ^ 52 * 2 ^ (y.scale + 1) := by rw [Nat.pow_succ]; ring
      _ ≤ 2 ^ 52 * 2 ^ step := Nat.mul_le_mul_left _ (Nat.pow_le_pow_right (by decide) hlt)
  · left
    have hunits : (y.units : ℤ) = (y.digits * 2 ^ (y.scale - step) : ℕ) * 2 ^ step := by
      have hsplit : 2 ^ (y.scale - step) * 2 ^ step = 2 ^ y.scale := pow_sub_mul_pow 2 hle
      have hnat : y.units = y.digits * 2 ^ (y.scale - step) * 2 ^ step := by
        rw [Nat.mul_assoc, hsplit, units_eq_digits]
      exact_mod_cast hnat
    unfold signedUnits
    split
    · exact ⟨-(y.digits * 2 ^ (y.scale - step) : ℕ), by rw [hunits, neg_mul]⟩
    · exact ⟨_, hunits⟩

/-! ## Rounded quotients -/

theorem lt_or_multiple {step : ℕ} {c : ℚ} {k : ℤ} (h : NearestMultiple (2 ^ step) c k)
    (full : step ≠ 0 → 2 ^ 52 * 2 ^ step ≤ c) (y : Binary64) :
    |c - k * 2 ^ step| < |c - y.signedUnits| ∨ ∃ j : ℤ, y.signedUnits = j * 2 ^ step := by
  rcases y.multiple_or_lt step with hmultiple | ⟨hstep, hlt⟩
  · exact .inr hmultiple
  left
  have hy : (y.signedUnits : ℚ) < 2 ^ 52 * 2 ^ step := by
    have : (y.units : ℤ) < 2 ^ 52 * 2 ^ step := by exact_mod_cast hlt
    have hle : y.signedUnits ≤ y.units := y.abs_signedUnits ▸ le_abs_self _
    exact_mod_cast hle.trans_lt this
  have hc := full hstep
  calc |c - k * 2 ^ step| ≤ |c - (2 ^ 52 : ℤ) * 2 ^ step| := h.nearest (2 ^ 52)
    _ = c - 2 ^ 52 * 2 ^ step := by
      push_cast
      exact abs_of_nonneg (by linarith)
    _ < c - y.signedUnits := by linarith
    _ ≤ |c - y.signedUnits| := le_abs_self _

theorem cast_unitsOfOne_pos : (0 : ℚ) < (Nat.pow 2 1074 : ℕ) := Nat.cast_pos.mpr unitsOfOne_pos

theorem abs_sub_value (q : ℚ) (x : Binary64) :
    |q - x.value| = |q * (Nat.pow 2 1074 : ℕ) - x.signedUnits| / (Nat.pow 2 1074 : ℕ) := by
  have hone := cast_unitsOfOne_pos
  rw [value_eq_signedUnits, eq_div_iff hone.ne']
  nth_rewrite 2 [← abs_of_pos hone]
  rw [← abs_mul, sub_mul, div_mul_cancel₀ _ hone.ne']

/-- **The nearest multiple of a step is the nearest number**, if the quotient has fifty-three digits
in that step or a step is one unit. -/
theorem nearest_of_multiple {x : Binary64} {q : ℚ} {step : ℕ} {k : ℤ} (finite : x.isFinite)
    (hx : x.signedUnits = k * 2 ^ step)
    (h : NearestMultiple (2 ^ step) (q * (Nat.pow 2 1074 : ℕ)) k)
    (full : step ≠ 0 → 2 ^ 52 * 2 ^ step ≤ q * (Nat.pow 2 1074 : ℕ))
    (even : Even k → Even x.fraction) : x.Nearest q := by
  have hone := cast_unitsOfOne_pos
  have hvalue : (x.signedUnits : ℚ) = k * 2 ^ step := by exact_mod_cast hx
  refine ⟨finite, fun y _ => ?_, fun y _ hne htie => ?_⟩
  · rw [abs_sub_value, abs_sub_value, div_le_div_iff_of_pos_right hone, hvalue]
    obtain hlt | ⟨j, hj⟩ := lt_or_multiple h full y
    · exact hlt.le
    · have := h.nearest j
      rw [hj]
      exact_mod_cast this
  · rw [abs_sub_value, abs_sub_value, div_left_inj' hone.ne', hvalue] at htie
    obtain hlt | ⟨j, hj⟩ := lt_or_multiple h full y
    · exact absurd htie hlt.ne'
    · apply even
      apply h.even_of_tie j
      · rintro rfl
        apply hne
        rw [value_eq_signedUnits, value_eq_signedUnits, hj, hx]
      · rw [← htie, hj]
        push_cast
        rfl

/-- **A rounded quotient is the nearest number**, of two equally near ones the even one. -/
theorem nearest_ofQuotient {n d : ℕ} (hd : 0 < d)
    (fits : (n * Nat.pow 2 1074 / d).log2 ≤ 2096) : (ofQuotient false n d).Nearest (n / d) := by
  generalize hscaled : n * Nat.pow 2 1074 = scaled at fits
  generalize hstep : (scaled / d).log2 - 52 = step
  have hfits : step ≤ 2044 := by omega
  obtain ⟨heq, full, le, -, -⟩ := ofQuotient_eq_steps false hscaled hstep hfits
  obtain ⟨finite, sign, hunits⟩ := @units_ofSteps false _ _ full le hfits
  have hq : (n / d : ℚ) * (Nat.pow 2 1074 : ℕ) = scaled / d := by
    rw [← hscaled]
    push_cast
    ring
  rw [heq]
  refine @nearest_of_multiple _ _ step (roundEven scaled (d * 2 ^ step)) finite ?_ ?_
    (fun hpos => ?_) (fun heven => ?_)
  · rw [signedUnits, sign, hunits, if_neg Bool.false_ne_true]
    push_cast
    rfl
  · have hnearest := nearestMultiple_roundEven scaled (d := d * 2 ^ step)
      (Nat.mul_pos hd (Nat.two_pow_pos step)) (u := 2 ^ step) (by positivity)
    have hscale : (scaled / (d * 2 ^ step : ℕ) * 2 ^ step : ℚ) = scaled / d := by
      push_cast
      field_simp
    rwa [hq, ← hscale]
  · have hwhole : 2 ^ (52 + step) ≤ scaled / d :=
      two_pow_le_of_step hstep.symm (Nat.pos_of_ne_zero hpos)
    calc (2 ^ 52 * 2 ^ step : ℚ) = (2 ^ (52 + step) : ℕ) := by
          rw [pow_add]
          push_cast
          rfl
      _ ≤ (scaled / d : ℕ) := by exact_mod_cast hwhole
      _ ≤ scaled / d := Nat.cast_div_le
      _ = n / d * (Nat.pow 2 1074 : ℕ) := hq.symm
  · have hlt : step * 2 ^ 52 + roundEven scaled (d * 2 ^ step) < 2 ^ 63 := by omega
    rw [fraction, magnitude_ofMagnitude hlt, Nat.pow_eq, Nat.even_iff]
    have := Nat.even_iff.mp ((Int.even_coe_nat _).mp heven)
    omega

/-! ## Whole numbers -/

/-- **A whole number is rounded to the nearest number.** -/
theorem nearest_ofNat {n k : ℕ} (hn : n < 2 ^ k) (hk : k ≤ 1022) : (ofNat n).Nearest n := by
  have h := nearest_ofQuotient Nat.one_pos (log2_units_le hn hk)
  rwa [Nat.cast_one, div_one] at h

theorem exists_added_digits {n : ℕ} (hn : n ≤ 2 ^ 53) (hne : n ≠ 0) :
    ∃ e ≤ 52, 2 ^ 52 ≤ n * 2 ^ e ∧ n * 2 ^ e ≤ 2 ^ 53 := by
  rcases Nat.lt_or_ge n (2 ^ 53) with hlt | hge
  · have hlog : n.log2 ≤ 52 := Nat.le_of_lt_succ ((Nat.log2_lt hne).mpr hlt)
    refine ⟨52 - n.log2, Nat.sub_le _ _, ?_, ?_⟩
    · calc 2 ^ 52 = 2 ^ n.log2 * 2 ^ (52 - n.log2) := by rw [← pow_add, Nat.add_sub_cancel' hlog]
        _ ≤ n * 2 ^ (52 - n.log2) := Nat.mul_le_mul_right _ (Nat.log2_self_le hne)
    · have hplaces : n.log2 + 1 + (52 - n.log2) = 53 := by omega
      calc n * 2 ^ (52 - n.log2) ≤ 2 ^ (n.log2 + 1) * 2 ^ (52 - n.log2) :=
            Nat.mul_le_mul_right _ Nat.lt_log2_self.le
        _ = 2 ^ 53 := by rw [← pow_add, hplaces]
  · exact ⟨0, Nat.zero_le _, by omega, by omega⟩

theorem exists_value_eq_nat {n : ℕ} (hn : n ≤ 2 ^ 53) :
    ∃ y : Binary64, y.isFinite ∧ y.value = n := by
  suffices h : ∃ y : Binary64, y.isFinite ∧ y.negative = false ∧ y.units = n * Nat.pow 2 1074 by
    obtain ⟨y, finite, sign, hunits⟩ := h
    refine ⟨y, finite, ?_⟩
    rw [value, sign, if_neg Bool.false_ne_true, one_mul, hunits, Nat.cast_mul,
      mul_div_cancel_right₀ _ cast_unitsOfOne_pos.ne']
  by_cases hne : n = 0
  · obtain ⟨finite, sign, hunits⟩ := @units_ofSteps false 0 0 (.inl rfl) (Nat.zero_le _)
      (Nat.zero_le _)
    refine ⟨_, finite, sign, ?_⟩
    rw [hunits, hne]
    simp only [Nat.zero_mul]
  · obtain ⟨e, he, full, le⟩ := exists_added_digits hn hne
    obtain ⟨places, hplaces, hone⟩ := unitsOfOne_eq
    obtain ⟨finite, sign, hunits⟩ := @units_ofSteps false (places - e) _ (.inr full) le (by omega)
    refine ⟨_, finite, sign, ?_⟩
    rw [hunits, hone, Nat.mul_assoc, pow_mul_pow_sub 2 (by omega : e ≤ places)]

theorem value_ofNat {n : ℕ} (hn : n ≤ 2 ^ 53) : (ofNat n).value = n := by
  obtain ⟨y, finite, hy⟩ := exists_value_eq_nat hn
  have hlt : n < 2 ^ 54 := by omega
  exact (nearest_ofNat hlt (by decide)).value_eq finite hy

theorem value_ofNat_mono {m n k : ℕ} (hmn : m ≤ n) (hn : n < 2 ^ k) (hk : k ≤ 1022) :
    (ofNat m).value ≤ (ofNat n).value := by
  rcases hmn.eq_or_lt with rfl | hlt
  · exact le_rfl
  · exact (nearest_ofNat (hlt.trans hn) hk).mono (nearest_ofNat hn hk) (by exact_mod_cast hlt)

theorem isZero_ofNat_iff {n k : ℕ} (hn : n < 2 ^ k) (hk : k ≤ 1022) :
    (ofNat n).isZero ↔ n = 0 := by
  obtain ⟨-, -, above, -⟩ := ofNat_bounds hn hk
  constructor
  · intro hzero
    by_contra hne
    have hunits : 0 < (ofNat n).units := Nat.lt_of_lt_of_le unitsOfOne_pos (above hne)
    rw [isZero_of_units_pos hunits] at hzero
    exact Bool.false_ne_true hzero
  · rintro rfl
    decide +kernel

end Binary64

end EdgeMeter
