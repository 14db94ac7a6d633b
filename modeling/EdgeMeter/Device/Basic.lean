/-!
# Devices under test

A device is a synchronous circuit under simulation. It has a clock pin that can be driven and asked
for, a reset pin that can be driven, and an output that can be read; driven pins take effect when
the circuit settles. `Device σ` is how to do these five things to a state `σ`, and everything else
is made of them.

* `Device`, `Signal`: the five things, and what is seen of each;
* `Device.reset`, `Device.edge`: the reset sequence and one edge of the clock;
* `times`: doing something a number of times;
* `Device.within`: a device as part of a larger state, each signal noted there;
* `Operation`, `Device.perform`: what can be asked of a device, and its replies.
-/

namespace EdgeMeter

/-- The pins of a device, as functions of its state. -/
structure Device (σ : Type) where
  driveClock : Bool → σ → σ
  clockLevel : σ → Bool × σ
  driveReset : Bool → σ → σ
  settle : σ → σ
  output : σ → UInt32 × σ

/-- Something done at the pins of a device, with the answer it gave. -/
inductive Signal where
  | clockDriven (high : Bool)
  | clockAsked (high : Bool)
  | resetDriven (asserted : Bool)
  | settled
  | outputRead (value : UInt32)
deriving DecidableEq

/-- `f` applied `n` times. -/
def times {σ : Type} : Nat → (σ → σ) → σ → σ
  | 0, _, s => s
  | n + 1, f, s => times n f (f s)

theorem times_succ {σ : Type} (n : Nat) (f : σ → σ) (s : σ) :
    times (n + 1) f s = f (times n f s) := by
  induction n generalizing s with
  | zero => rfl
  | succ n ih => exact ih (f s)

namespace Device

variable {σ ω : Type} (dev : Device σ)

/-- **The reset sequence**: reset asserted with the clock low, then high, then low, then reset
released; the circuit settles after each of the four. -/
def reset (s : σ) : σ :=
  let s := dev.settle (dev.driveClock false (dev.driveReset true s))
  let s := dev.settle (dev.driveClock true s)
  let s := dev.settle (dev.driveClock false s)
  dev.settle (dev.driveReset false s)

/-- **One edge of the clock**: the pin is driven to the opposite of the level it reports. -/
def edge (s : σ) : σ :=
  let (high, s) := dev.clockLevel s
  dev.settle (dev.driveClock (!high) s)

/-- The device as the part `get` of a larger state, in which every signal is noted. -/
@[inline] def within (get : ω → σ) (put : σ → ω → ω) (note : Signal → ω → ω) : Device ω where
  driveClock high w := note (.clockDriven high) (put (dev.driveClock high (get w)) w)
  clockLevel w :=
    let (high, s) := dev.clockLevel (get w)
    (high, note (.clockAsked high) (put s w))
  driveReset asserted w := note (.resetDriven asserted) (put (dev.driveReset asserted (get w)) w)
  settle w := note .settled (put (dev.settle (get w)) w)
  output w :=
    let (value, s) := dev.output (get w)
    (value, note (.outputRead value) (put s w))

end Device

/-- What can be asked of any device. -/
inductive Operation where
  | reset
  | edges (count : Nat)
  | driveClock (high : Bool)
  | driveReset (asserted : Bool)
  | settle (count : Nat)
  | clockLevel
  | output
deriving DecidableEq

inductive Reply where
  | done
  | level (high : Bool)
  | word (value : UInt32)
deriving DecidableEq

namespace Device

variable {σ : Type} (dev : Device σ)

def perform : Operation → σ → Reply × σ
  | .reset, s => (.done, dev.reset s)
  | .edges n, s => (.done, times n dev.edge s)
  | .driveClock high, s => (.done, dev.driveClock high s)
  | .driveReset asserted, s => (.done, dev.driveReset asserted s)
  | .settle n, s => (.done, times n dev.settle s)
  | .clockLevel, s =>
    let (high, s) := dev.clockLevel s
    (.level high, s)
  | .output, s =>
    let (value, s) := dev.output s
    (.word value, s)

def performAll : List Operation → σ → List Reply × σ
  | [], s => ([], s)
  | op :: ops, s =>
    let (r, s) := dev.perform op s
    let (rs, s) := performAll ops s
    (r :: rs, s)

end Device

end EdgeMeter
