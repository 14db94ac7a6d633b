import EdgeMeter.Decimal.Hundredths
import EdgeMeter.Proofs.Quotients
import Mathlib.Algebra.Order.Field.Rat
import Mathlib.Tactic.FieldSimp
import Mathlib.Tactic.Linarith
import Mathlib.Tactic.Positivity
import Mathlib.Tactic.Push
import Mathlib.Tactic.Ring

/-!
# Nearest multiples

Rounding gives the nearest multiple of a unit, and of two equally near ones the even one. Such a
multiple grows with the number that is rounded, so there is only one.

* `NearestMultiple`: what rounding is to give;
* `nearestMultiple_of_error`: it is enough to be off by half a unit, and even if it is that much;
* **`NearestMultiple.mono`**: rounding is monotone;
* `nearestMultiple_roundEven`: the integer quotient that is rounded is nearest;
* `Binary64.value`, `Binary64.signedHundredths`: a finite number, and its hundredths with their
  sign; **`Binary64.nearestMultiple_signedHundredths`**: they are the nearest ones.
-/

namespace EdgeMeter

/-- **`k * u` is the multiple of `u` nearest to `q`**, the even one of two equally near. -/
structure NearestMultiple (u q : ℚ) (k : ℤ) : Prop where
  nearest : ∀ j : ℤ, |q - k * u| ≤ |q - j * u|
  even_of_tie : ∀ j : ℤ, j ≠ k → |q - j * u| = |q - k * u| → Even k

section

variable {u q q' : ℚ} {j k k' : ℤ}

theorem unit_le_abs_add (hu : 0 < u) (hjk : j ≠ k) : u ≤ |q - k * u| + |q - j * u| := by
  have hgap : (1 : ℚ) ≤ |(j : ℚ) - k| := by
    have : 1 ≤ |j - k| := Int.one_le_abs (sub_ne_zero.mpr hjk)
    exact_mod_cast this
  calc u ≤ |(j : ℚ) - k| * u := le_mul_of_one_le_left hu.le hgap
    _ = |(q - k * u) - (q - j * u)| := by
      rw [show (q - k * u) - (q - j * u) = (j - k) * u by ring, abs_mul, abs_of_pos hu]
    _ ≤ |q - k * u| + |q - j * u| := abs_sub _ _

theorem nearestMultiple_of_error (hu : 0 < u) (herror : 2 * |q - k * u| ≤ u)
    (heven : 2 * |q - k * u| = u → Even k) : NearestMultiple u q k where
  nearest j := by
    by_cases hjk : j = k
    · rw [hjk]
    · have := unit_le_abs_add (q := q) hu hjk
      linarith
  even_of_tie j hjk htie := by
    apply heven
    have := unit_le_abs_add (q := q) hu hjk
    linarith

namespace NearestMultiple

theorem neg (h : NearestMultiple u q k) : NearestMultiple u (-q) (-k) := by
  have hflip : ∀ i : ℤ, |-q - i * u| = |q - (-i : ℤ) * u| := by
    intro i
    rw [← abs_neg]
    congr 1
    push_cast
    ring
  refine ⟨fun j => ?_, fun j hjk htie => ?_⟩
  · rw [hflip, hflip, neg_neg]
    exact h.nearest _
  · rw [hflip, hflip, neg_neg] at htie
    apply Even.neg
    apply h.even_of_tie (-j) _ htie
    omega

/-- The nearest multiple is not beyond the middle between it and another. -/
theorem le_middle (h : NearestMultiple u q k) (hu : 0 < u) (hjk : j < k) :
    (j + k) * u ≤ 2 * q := by
  have hlt : (j : ℚ) * u < k * u := mul_lt_mul_of_pos_right (by exact_mod_cast hjk) hu
  by_contra hlow
  push Not at hlow
  -- then `q` is nearer to the smaller multiple
  have hk : |q - k * u| = k * u - q := by
    rw [abs_sub_comm, abs_of_nonneg]
    linarith
  have hj : |q - j * u| < k * u - q := by
    rw [abs_lt]
    constructor <;> linarith
  have := h.nearest j
  linarith

theorem mono (h : NearestMultiple u q k) (h' : NearestMultiple u q' k') (hu : 0 < u)
    (hq : q ≤ q') : k ≤ k' := by
  by_contra hlt
  push Not at hlt
  have hlow := h.le_middle hu hlt
  have hhigh : 2 * q' ≤ (k' + k) * u := by
    have hmirror := h'.neg.le_middle hu (j := -k) (by omega)
    push_cast at hmirror
    linarith
  -- both are in the middle between two multiples, which are therefore even and not neighbours
  have hmiddle : 2 * q = (k' + k) * u := by linarith
  have hmiddle' : 2 * q' = (k' + k) * u := by linarith
  have htie : |q - k' * u| = |q - k * u| := by
    rw [← abs_neg]
    congr 1
    linarith
  have htie' : |q' - k * u| = |q' - k' * u| := by
    rw [← abs_neg]
    congr 1
    linarith
  have heven : Even k := h.even_of_tie k' hlt.ne htie
  have heven' : Even k' := h'.even_of_tie k hlt.ne' htie'
  have hbetween : k' + 1 < k := by
    obtain ⟨a, rfl⟩ := heven
    obtain ⟨a', rfl⟩ := heven'
    omega
  have := h.le_middle hu hbetween
  push_cast at this
  linarith

end NearestMultiple

end

/-! ## Rounded quotients -/

/-- The rest that rounding leaves, in parts of the divisor: not more than half of it, and if it
is as much, the rounded quotient is even. -/
theorem two_mul_abs_sub_roundEven (n : ℕ) {d : ℕ} (hd : 0 < d) :
    2 * |(n : ℤ) - roundEven n d * d| ≤ d ∧
      (2 * |(n : ℤ) - roundEven n d * d| = d → Even (roundEven n d : ℤ)) := by
  have hlt : n % d < d := Nat.mod_lt n hd
  have hsplit : (n : ℤ) = (n / d : ℕ) * d + (n % d : ℕ) := by
    rw [mul_comm]
    exact_mod_cast (Nat.div_add_mod n d).symm
  have hdown : (n : ℤ) - (n / d : ℕ) * d = (n % d : ℕ) := by linarith
  have hup : (n : ℤ) - (n / d + 1 : ℕ) * d = (n % d : ℕ) - d := by
    push_cast at hsplit ⊢
    linarith
  unfold roundEven
  by_cases hlow : 2 * (n % d) < d
  · rw [if_pos hlow, hdown, abs_of_nonneg (by omega)]
    constructor <;> omega
  rw [if_neg hlow]
  by_cases hhigh : d < 2 * (n % d)
  · rw [if_pos hhigh, hup, abs_of_nonpos (by omega)]
    constructor <;> omega
  rw [if_neg hhigh]
  rcases Nat.mod_two_eq_zero_or_one (n / d) with hpar | hpar
  · rw [hpar, Nat.add_zero, hdown, abs_of_nonneg (by omega)]
    refine ⟨by omega, fun _ => ?_⟩
    exact_mod_cast Nat.even_iff.mpr hpar
  · rw [hpar, hup, abs_of_nonpos (by omega)]
    refine ⟨by omega, fun _ => ?_⟩
    exact_mod_cast Nat.even_iff.mpr (by omega)

/-- **A rounded quotient is the nearest multiple** of any unit in which the quotient is counted. -/
theorem nearestMultiple_roundEven (n : ℕ) {d : ℕ} (hd : 0 < d) {u : ℚ} (hu : 0 < u) :
    NearestMultiple u (n / d * u) (roundEven n d) := by
  obtain ⟨herror, heven⟩ := two_mul_abs_sub_roundEven n hd
  have hd' : (0 : ℚ) < d := by exact_mod_cast hd
  have hscale : 2 * |(n / d * u : ℚ) - (roundEven n d : ℤ) * u| =
      (2 * |(n : ℤ) - roundEven n d * d| : ℤ) / d * u := by
    have hfactor : (n / d * u : ℚ) - (roundEven n d : ℤ) * u =
        ((n : ℤ) - roundEven n d * d : ℤ) / d * u := by
      push_cast
      field_simp
    rw [hfactor, abs_mul, abs_div, abs_of_pos hu, abs_of_pos hd']
    push_cast
    ring
  apply nearestMultiple_of_error hu
  · rw [hscale]
    apply mul_le_of_le_one_left hu.le
    rw [div_le_one hd']
    exact_mod_cast herror
  · rw [hscale]
    intro htie
    apply heven
    have hone := mul_right_cancel₀ hu.ne' (htie.trans (one_mul u).symm)
    rw [div_eq_one_iff_eq hd'.ne'] at hone
    exact_mod_cast hone

theorem nearestMultiple_hundredths (n : ℕ) {d : ℕ} (hd : 0 < d) :
    NearestMultiple (1 / 100) (n / d) (roundEven (100 * n) d) := by
  have h := nearestMultiple_roundEven (100 * n) hd (u := 1 / 100) (by norm_num)
  have hcount : ((100 * n : ℕ) : ℚ) / d * (1 / 100) = n / d := by
    push_cast
    ring
  rwa [hcount] at h

/-! ## Values -/

namespace Binary64

/-- The rational number that a finite number is. -/
def value (x : Binary64) : ℚ := (if x.negative then -1 else 1) * (x.units / (Nat.pow 2 1074 : ℕ))

/-- The hundredths of a finite number, with its sign. -/
def signedHundredths (x : Binary64) : ℤ :=
  if x.negative then -x.hundredths else x.hundredths

/-- **The hundredths of a finite number are the nearest ones.** -/
theorem nearestMultiple_signedHundredths (x : Binary64) :
    NearestMultiple (1 / 100) x.value x.signedHundredths := by
  have habs : NearestMultiple (1 / 100) (x.units / (Nat.pow 2 1074 : ℕ)) x.hundredths :=
    nearestMultiple_hundredths x.units unitsOfOne_pos
  unfold value signedHundredths
  split
  · rw [neg_one_mul]
    exact habs.neg
  · rw [one_mul]
    exact habs

end Binary64

end EdgeMeter
