/-!
# Sets of characters as ranges of code points

* `inRanges`: membership in a list of closed ranges.
-/

namespace EdgeMeter.Text

/-- Whether the code point of `c` lies in one of the closed ranges. -/
def inRanges (ranges : List (Nat × Nat)) (c : Char) : Bool :=
  ranges.any fun r => r.1 ≤ c.toNat && c.toNat ≤ r.2

end EdgeMeter.Text
