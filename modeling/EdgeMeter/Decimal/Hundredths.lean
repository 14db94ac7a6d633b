import EdgeMeter.Binary64.Rounding

/-!
# Numbers with two decimal places

* `Binary64.hundredths`: the whole number of hundredths nearest to the absolute value, an even one
  at a tie;
* `Binary64.twoPlaces`: its text, without an exponent at any size. The sign shown is the sign bit,
  so negative numbers that round to zero read `-0.00`.
-/

namespace EdgeMeter

namespace Binary64

/-- The hundredths nearest to the absolute value of a finite number. -/
def hundredths (x : Binary64) : Nat := roundEven (100 * x.units) (Nat.pow 2 1074)

/-- A number of hundredths as digits, a point and two digits. -/
def showHundredths (h : Nat) : String :=
  Nat.repr (h / 100) ++ "." ++ Nat.repr (h / 10 % 10) ++ Nat.repr (h % 10)

/-- **The text with two places**: `NaN`, or a sign if the sign bit is set and then `inf` or the
nearest hundredths. -/
def twoPlaces (x : Binary64) : String :=
  if x.isNaN then "NaN"
  else (if x.negative then "-" else "") ++
    if x.isInfinite then "inf" else showHundredths x.hundredths

end Binary64

end EdgeMeter
