import EdgeMeter.Binary64.Rounding
import EdgeMeter.Text.Quoted

/-!
# Scenarios

* `Scenario`: how a device is driven and what is reported;
* `Scenario.figure`: from elapsed time to the reported number;
* `Scenario.table`: the fixed scenarios of the program.
-/

namespace EdgeMeter

inductive Basis where
  /-- Each timed edge. -/
  | perEdge
  /-- All timed edges together. -/
  | total
deriving DecidableEq

/-- **A scenario**: how many edges are driven before and during the measurement, whether the output
is read after each timed edge, and what is reported. -/
structure Scenario where
  name : String
  /-- Edges driven after reset, before the measurement. -/
  warmUp : UInt32
  /-- Edges driven during the measurement. -/
  timed : UInt32
  /-- Whether the output is read after each timed edge. -/
  sampled : Bool
  basis : Basis
deriving DecidableEq

def Basis.describe : Basis → String
  | .perEdge => "PerOp"
  | .total => "Total"

namespace Scenario

/-- **The reported number** for an elapsed time in nanoseconds. No edges at all leave a quotient
by zero. -/
def figure (s : Scenario) (elapsed : Binary64) : Binary64 :=
  match s.basis with
  | .perEdge => elapsed.div (.ofNat s.timed.toNat)
  | .total => elapsed

def showFlag (b : Bool) : String := if b then "true" else "false"

def describe (s : Scenario) : String :=
  "Scenario \x7b name: " ++ Text.quote s.name ++
    ", warmup_edges: " ++ Nat.repr s.warmUp.toNat ++
    ", timed_edges: " ++ Nat.repr s.timed.toNat ++
    ", reads_output: " ++ showFlag s.sampled ++
    ", metric: " ++ s.basis.describe ++ " \x7d"

/-- **The scenarios of the program.** Those over a million edges report total time. -/
def table : List Scenario :=
  [⟨"simulation_tick_top_n1000_x1", 10000, 100000, false, .perEdge⟩,
   ⟨"simulation_tick_top_n1000_x1000000", 0, 1000000, false, .total⟩,
   ⟨"testbench_tick_top_n1000_x1", 10000, 100000, true, .perEdge⟩,
   ⟨"testbench_tick_top_n1000_x1000000", 0, 1000000, true, .total⟩]

end Scenario

end EdgeMeter
