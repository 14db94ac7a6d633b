import EdgeMeter.Binary64.Basic

/-!
# Rounding to the nearest number

An exact quotient is rounded once: to the nearest binary64 number, and to the one with an even
last digit when two are equally near.

* `roundEven n d`: the integer nearest to `n / d`, an even one at a tie;
* `Binary64.ofQuotient`: the number nearest to `n / d`, infinite from `2 ^ 1024 - 2 ^ 970` on;
* `Binary64.ofNat`, `Binary64.div`.
-/

namespace EdgeMeter

/-- The integer nearest to `n / d`, the even one of two equally near. -/
def roundEven (n d : Nat) : Nat :=
  if 2 * (n % d) < d then n / d
  else if d < 2 * (n % d) then n / d + 1
  else n / d + n / d % 2

namespace Binary64

/-- **The number nearest to `n / d`.** The quotient is counted in units; the step at its size is
the power of two that leaves fifty-three digits, and at least one unit. Multiples of that step are
consecutive magnitudes, so the rounded multiple is added to the magnitude at which they start. -/
def ofQuotient (negative : Bool) (n d : Nat) : Binary64 :=
  let scaled := n * Nat.pow 2 1074
  let step := (scaled / d).log2 - 52
  let steps := roundEven scaled (d * Nat.pow 2 step)
  ofMagnitude negative (min (step * Nat.pow 2 52 + steps) infinityMagnitude)

/-- The number nearest to a natural number. -/
def ofNat (n : Nat) : Binary64 := ofQuotient false n 1

/-- **Division**, rounded once. Zero by zero and infinity by infinity have no value. -/
def div (x y : Binary64) : Binary64 :=
  let negative := x.negative != y.negative
  if x.isNaN || y.isNaN then nan
  else if x.isInfinite then
    if y.isInfinite then nan else infinity negative
  else if y.isInfinite then zero negative
  else if y.isZero then
    if x.isZero then nan else infinity negative
  else ofQuotient negative x.units y.units

end Binary64

end EdgeMeter
