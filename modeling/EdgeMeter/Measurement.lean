import EdgeMeter.Decimal.Hundredths
import EdgeMeter.Decimal.Shortest
import EdgeMeter.Text.Quoted

/-!
# Measurements

* `Measurement`: the name of a scenario and the number reported for it;
* `Measurement.line`: the line that announces it;
* `Measurement.same`, `Measurement.describe`.
-/

namespace EdgeMeter

structure Measurement where
  name : String
  figure : Binary64
deriving DecidableEq

namespace Measurement

/-- **The line of a measurement**: the name and the number with two decimal places. -/
def line (m : Measurement) : String := "BENCH " ++ m.name ++ " " ++ m.figure.twoPlaces

/-- The line and its end, as bytes. -/
def bytes (m : Measurement) : Bytes := Bytes.ofString (m.line ++ "\n")

/-- Whether names and numbers are equal; no NaN equals itself. -/
def same (m n : Measurement) : Bool := m.name == n.name && m.figure.same n.figure

def describe (m : Measurement) : String :=
  "ScenarioResult \x7b name: " ++ Text.quote m.name ++ ", nanos: " ++ m.figure.describe ++ " \x7d"

end Measurement

end EdgeMeter
