import EdgeMeter.Binary64.Basic

/-!
# The shortest decimal that reads back

Since `2 ^ -1074 = 5 ^ 1074 / 10 ^ 1074`, every finite magnitude has an exact decimal expansion with
1074 places: the natural number `units * 5 ^ 1074`. The decimals that round to a number lie between
the midpoints to its neighbours, the midpoints included when the number is even. Cutting the exact
expansion after one, two, three digits, … gives coarser to finer grids, and on each only the two
neighbours of the exact value have to be tried.

* `Decimal`: digits and the place of the last one;
* `Binary64.shortest`: a decimal of fewest digits that rounds to the number, the nearest of those,
  and the upper one at a tie;
* `Binary64.describe`: its text, positional from `0.0001` up to below `10 ^ 16`, with an exponent
  otherwise.
-/

namespace EdgeMeter

/-- The decimal number `digits * 10 ^ (place - 1074)`. -/
structure Decimal where
  digits : Nat
  place : Nat
deriving DecidableEq

namespace Binary64

/-- Four times the exact expansion, in the places of `Decimal`, so that midpoints are whole. -/
def quadruple (x : Binary64) : Nat := 4 * x.units * Nat.pow 5 1074

/-- Four times the midpoint to the neighbour above. -/
def upperMidpoint (x : Binary64) : Nat := (4 * x.units + 2 * Nat.pow 2 x.scale) * Nat.pow 5 1074

/-- Four times the midpoint to the neighbour below, which is nearer when the fraction is empty and
the number is not at the least exponent. -/
def lowerMidpoint (x : Binary64) : Nat :=
  (4 * x.units -
    if x.fraction = 0 ∧ 1 < x.biased then Nat.pow 2 x.scale else 2 * Nat.pow 2 x.scale) *
      Nat.pow 5 1074

/-- Whether a quarter of `n` rounds to `x`. -/
def roundsFrom (x : Binary64) (n : Nat) : Bool :=
  if x.fraction % 2 = 0 then x.lowerMidpoint ≤ n && n ≤ x.upperMidpoint
  else x.lowerMidpoint < n && n < x.upperMidpoint

/-- The better of the two multiples of `10 ^ place` next to `x`, if one of them rounds to it. -/
def onGrid? (x : Binary64) (place : Nat) : Option Decimal :=
  let step := 4 * Nat.pow 10 place
  let below := x.quadruple / step
  let rest := x.quadruple % step
  match x.roundsFrom (below * step), x.roundsFrom ((below + 1) * step) with
  | true, true => some ⟨if 2 * rest < step then below else below + 1, place⟩
  | true, false => some ⟨below, place⟩
  | false, true => some ⟨below + 1, place⟩
  | false, false => none

/-- **The shortest decimal** of a finite number other than zero; seventeen digits always do. -/
def shortest (x : Binary64) : Decimal :=
  let exact := x.units * Nat.pow 5 1074
  let length := (Nat.toDigits 10 exact).length
  ((List.range 17).findSome? fun k => x.onGrid? (length - (k + 1))).getD ⟨exact, 0⟩

/-- The digits without trailing zeros. -/
def stripZeros (digits : List Char) : List Char := (digits.reverse.dropWhile (· == '0')).reverse

/-- The text of the number with the significant `digits` and the decimal exponent `exponent` of the
first of them. -/
def showDecimal (digits : List Char) (exponent : Int) : List Char :=
  if exponent < -4 ∨ 16 ≤ exponent then
    digits.take 1 ++ (if digits.length ≤ 1 then [] else '.' :: digits.drop 1) ++
      'e' :: (toString exponent).toList
  else if exponent < 0 then
    '0' :: '.' :: List.replicate (-exponent - 1).toNat '0' ++ digits
  else
    let whole := exponent.toNat + 1
    digits.take whole ++ List.replicate (whole - digits.length) '0' ++
      '.' :: if digits.length ≤ whole then ['0'] else digits.drop whole

/-- **The text of a number for inspection**: it reads back as the same number. -/
def describe (x : Binary64) : String :=
  if x.isNaN then "NaN"
  else (if x.negative then "-" else "") ++
    if x.isInfinite then "inf"
    else if x.isZero then "0.0"
    else
      let d := x.shortest
      let written := Nat.toDigits 10 d.digits
      String.ofList (showDecimal (stripZeros written) (written.length + d.place - 1075))

end Binary64

end EdgeMeter
