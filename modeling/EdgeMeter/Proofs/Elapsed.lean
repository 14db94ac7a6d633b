import EdgeMeter.Proofs.NearestNumber
import EdgeMeter.Proofs.Reports

/-!
# Elapsed time

Instants are in the order of their seconds, and within a second of their nanoseconds. From one to a
later one the seconds and the nanoseconds are subtracted apart, and a second is borrowed where the
nanoseconds run short. What is left is counted in nanoseconds, and only that count is rounded.

* `total_le_total_iff`: the order of instants is that of their nanoseconds;
* `Instant.since`: what a stopwatch shows;
* `representable_since`, `total_since`: it can be shown, and is the difference;
* **`Timer.span_monotonic`**: the time that a monotonic timer tells is the number nearest to that
  difference; hence it is finite, not negative, zero only if none has passed, exact as far as all
  whole numbers are, and grows with the time that has passed.
-/

namespace EdgeMeter

namespace Instant

variable {a b start finish later : Instant}

/-- An instant is not before another if its seconds are not, or are the same and its nanoseconds are
not. -/
instance : LE Instant where
  le a b := a.seconds < b.seconds ∨ a.seconds = b.seconds ∧ a.nanos ≤ b.nanos

theorem le_iff : a ≤ b ↔ a.seconds < b.seconds ∨ a.seconds = b.seconds ∧ a.nanos ≤ b.nanos :=
  Iff.rfl

instance (a b : Instant) : Decidable (a ≤ b) := decidable_of_iff _ le_iff.symm

theorem total_le_total_iff (ha : a.Representable) (hb : b.Representable) :
    a.total ≤ b.total ↔ a ≤ b := by
  have := ha.nanos
  have := hb.nanos
  rw [le_iff, total, total]
  omega

/-- **What a stopwatch shows** at `finish` that was started at `start`: seconds and nanoseconds,
with a second borrowed where the nanoseconds run short. It stands at zero before the start. -/
def since (finish start : Instant) : Instant :=
  if finish ≤ start then ⟨0, 0⟩
  else if start.nanos ≤ finish.nanos then
    ⟨finish.seconds - start.seconds, finish.nanos - start.nanos⟩
  else ⟨finish.seconds - start.seconds - 1, finish.nanos + 1000000000 - start.nanos⟩

theorem representable_since (hstart : start.Representable) (hfinish : finish.Representable) :
    (finish.since start).Representable := by
  obtain ⟨hseconds, hnanos⟩ := hfinish
  have := hstart.nanos
  unfold since
  split
  · exact ⟨by decide, by decide⟩
  split
  · constructor <;> dsimp only <;> omega
  · constructor <;> dsimp only <;> omega

/-- **The stopwatch shows the difference** in nanoseconds. -/
theorem total_since (hstart : start.Representable) (hfinish : finish.Representable) :
    (finish.since start).total = finish.total - start.total := by
  have := hstart.nanos
  have := hfinish.nanos
  unfold since
  split
  · rename_i hle
    rw [Nat.sub_eq_zero_of_le ((total_le_total_iff hfinish hstart).mpr hle)]
    rfl
  rename_i hlt
  rw [le_iff] at hlt
  split
  · simp only [total]
    omega
  · -- the seconds differ, so that there is one to borrow
    simp only [total]
    omega

end Instant

/-- **The time between two instants** is their difference in nanoseconds, or none if the second is
not later, rounded once to the nearest number. -/
theorem Timer.span_monotonic {start finish : Instant} (hstart : start.Representable)
    (hfinish : finish.Representable) (c : Instant × List Instant) :
    let n : ℤ := max 0 ((finish.total : ℤ) - start.total)
    let x := (Timer.monotonic.span start finish c).1
    x = .ofNat (finish.since start).total ∧ (finish.since start).Representable ∧
      ((finish.since start).total : ℤ) = n ∧ x.Nearest n ∧
      x.negative = false ∧ x.isNaN = false ∧ x.isInfinite = false ∧
      (x.isZero ↔ finish ≤ start) ∧ (n ≤ 2 ^ 53 → x.value = n) ∧
      (∀ later : Instant, later.Representable → finish ≤ later →
        x.value ≤ (Timer.monotonic.span start later c).1.value) ∧
      ∀ later : Instant, later.Representable → start ≤ later →
        (Timer.monotonic.span later finish c).1.value ≤ x.value := by
  intro n x
  have hlt (t : Instant) (h : t.Representable) (s : Instant) : t.total - s.total < 2 ^ 94 :=
    (Nat.sub_le _ _).trans_lt h.total_lt
  have hx : x = .ofNat (finish.total - start.total) := rfl
  have hn : ((finish.total - start.total : ℕ) : ℤ) = n := by omega
  obtain ⟨finite, sign, -, -⟩ := Binary64.ofNat_bounds (hlt finish hfinish start) (by decide)
  have hnearest := Binary64.nearest_ofNat (hlt finish hfinish start) (by decide)
  rw [Instant.total_since hstart hfinish, hx]
  refine ⟨rfl, Instant.representable_since hstart hfinish, hn, ?_, sign,
    Binary64.isNaN_of_finite finite, Binary64.isInfinite_of_finite finite, ?_, fun hle => ?_,
    fun later hlater hle => ?_, fun later hlater hle => ?_⟩
  · rw [← hn]
    exact_mod_cast hnearest
  · rw [Binary64.isZero_ofNat_iff (hlt finish hfinish start) (by decide), Nat.sub_eq_zero_iff_le,
      Instant.total_le_total_iff hfinish hstart]
  · rw [← hn] at hle ⊢
    exact_mod_cast Binary64.value_ofNat (by exact_mod_cast hle)
  · have htotal := (Instant.total_le_total_iff hfinish hlater).mpr hle
    exact Binary64.value_ofNat_mono (Nat.sub_le_sub_right htotal _) (hlt later hlater start)
      (by decide)
  · have htotal := (Instant.total_le_total_iff hstart hlater).mpr hle
    exact Binary64.value_ofNat_mono (Nat.sub_le_sub_left htotal _) (hlt finish hfinish start)
      (by decide)

/-- One nanosecond more than `2 ^ 53`, with a second borrowed: it is between two numbers, and the
even one is below. One more is a number again. -/
theorem Timer.span_monotonic_borrow :
    let start : Instant := ⟨1, 999999999⟩
    let finish : Instant := ⟨9007201, 254740992⟩
    let later : Instant := ⟨9007201, 254740993⟩
    let x := (Timer.monotonic.span start finish (start, [])).1
    let y := (Timer.monotonic.span start later (start, [])).1
    start.Representable ∧ finish.Representable ∧ later.Representable ∧
      finish.since start = ⟨9007199, 254740993⟩ ∧
      x = ⟨0x4340000000000000⟩ ∧ x.Nearest (2 ^ 53 + 1) ∧ x.isNaN = false ∧ ¬x.isZero ∧
      y = ⟨0x4340000000000001⟩ ∧ x.value ≤ y.value := by
  intro start finish later x y
  have hstart : start.Representable := ⟨by decide, by decide⟩
  have hfinish : finish.Representable := ⟨by decide, by decide⟩
  have hlater : later.Representable := ⟨by decide, by decide⟩
  obtain ⟨-, -, -, hnearest, -, hnumber, -, hzero, -, hmono, -⟩ :=
    Timer.span_monotonic hstart hfinish (start, [])
  have hn : max 0 ((finish.total : ℤ) - start.total) = 2 ^ 53 + 1 := by decide
  rw [hn] at hnearest
  refine ⟨hstart, hfinish, hlater, by decide, by decide +kernel, by exact_mod_cast hnearest,
    hnumber, fun h => ?_, by decide +kernel, hmono later hlater (by decide)⟩
  exact absurd (hzero.mp h) (by decide)

end EdgeMeter
