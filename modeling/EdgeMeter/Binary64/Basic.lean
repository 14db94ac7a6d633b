/-!
# Binary64 — double precision numbers by their bits

A number is its 64 bits: a sign, eleven bits of biased exponent and fifty-two of fraction. Every
finite magnitude is a whole multiple of the least positive number `2 ^ -1074`, and `units` is that
multiple; all exact arithmetic on finite numbers is arithmetic on units.

* `Binary64`, `negative`, `biased`, `fraction`, `magnitude`, `units`;
* `ofMagnitude`, `zero`, `infinity`, `nan`;
* `isNaN`, `isInfinite`, `isFinite`, `isZero`;
* `same`: equality of numbers, in which no NaN equals anything and both zeros are equal.
-/

namespace EdgeMeter

/-- A double precision number. -/
structure Binary64 where
  bits : UInt64
deriving DecidableEq, Inhabited

namespace Binary64

/-- The sign bit, set for negative numbers and for negative zero. -/
def negative (x : Binary64) : Bool := Nat.pow 2 63 ≤ x.bits.toNat

/-- All bits but the sign. It grows with the absolute value. -/
def magnitude (x : Binary64) : Nat := x.bits.toNat % Nat.pow 2 63

/-- The exponent field. -/
def biased (x : Binary64) : Nat := x.magnitude / Nat.pow 2 52

/-- The fraction field. -/
def fraction (x : Binary64) : Nat := x.magnitude % Nat.pow 2 52

/-- The magnitude of infinity: the exponent field full, the fraction empty. -/
def infinityMagnitude : Nat := 2047 * Nat.pow 2 52

def isNaN (x : Binary64) : Bool := infinityMagnitude < x.magnitude

def isInfinite (x : Binary64) : Bool := x.magnitude == infinityMagnitude

def isFinite (x : Binary64) : Bool := x.magnitude < infinityMagnitude

def isZero (x : Binary64) : Bool := x.magnitude == 0

/-- The number with a given sign and magnitude below `2 ^ 63`. -/
def ofMagnitude (negative : Bool) (magnitude : Nat) : Binary64 :=
  ⟨.ofNat (if negative then Nat.pow 2 63 + magnitude else magnitude)⟩

def zero (negative : Bool) : Binary64 := ofMagnitude negative 0

def infinity (negative : Bool) : Binary64 := ofMagnitude negative infinityMagnitude

/-- The quiet NaN that invalid operations give. -/
def nan : Binary64 := ofMagnitude false (infinityMagnitude + Nat.pow 2 51)

/-- The step between neighbours at `x` is `2 ^ x.scale` units. -/
def scale (x : Binary64) : Nat := x.biased - 1

/-- The absolute value of a finite number, counted in the least positive number `2 ^ -1074`. -/
def units (x : Binary64) : Nat :=
  if x.biased = 0 then x.fraction else (Nat.pow 2 52 + x.fraction) * Nat.pow 2 x.scale

/-- **Equality of numbers**: a NaN equals nothing, and the two zeros are equal. -/
def same (x y : Binary64) : Bool :=
  !x.isNaN && !y.isNaN && (x == y || x.isZero && y.isZero)

end Binary64

end EdgeMeter
