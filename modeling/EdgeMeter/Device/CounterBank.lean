import EdgeMeter.Device.Basic

/-!
# A bank of counters

The built-in device: 32-bit counters that all clear under reset and all count rising edges of the
clock. Since they count together, the state keeps one count for all of them and, for counters that
were set one by one, how far each is ahead.

* `CounterBank`, `CounterBank.new`, `CounterBank.standard`;
* `CounterBank.counter?`, `CounterBank.values`: the counters themselves;
* `CounterBank.preset`: set one counter;
* `CounterBank.settle`, `CounterBank.device`: the bank at its pins. Its output is the first counter;
* `counter?_new`, `counter?_preset`, `counter?_settle`: all of it by the counters alone.
-/

namespace EdgeMeter

structure CounterBank where
  size : Nat
  clock : Bool := false
  reset : Bool := false
  /-- The clock as it was when the bank last settled. -/
  lastClock : Bool := false
  /-- Rising edges counted by all since they were last cleared. -/
  rises : UInt32 := 0
  /-- How far single counters are ahead of `rises`; the first entry for a counter holds. -/
  ahead : List (Nat × UInt32) := []
deriving DecidableEq

namespace CounterBank

/-- A bank of `n` counters, all zero, with both pins low. -/
def new (n : Nat) : CounterBank := { size := n }

/-- The number of counters in the bank that scenario names refer to. -/
def standardSize : Nat := 1000

/-- The bank that scenario names refer to. -/
def standard : CounterBank := new standardSize

/-- How far counter `i` is ahead of the common count. -/
def lookAhead (i : Nat) : List (Nat × UInt32) → UInt32
  | [] => 0
  | (j, v) :: rest => if i = j then v else lookAhead i rest

/-- The value of counter `i`, whether or not there is one. -/
def valueAt (b : CounterBank) (i : Nat) : UInt32 := lookAhead i b.ahead + b.rises

/-- The value of counter `i`, if there is one. -/
def counter? (b : CounterBank) (i : Nat) : Option UInt32 :=
  if i < b.size then some (b.valueAt i) else none

def values (b : CounterBank) : List UInt32 := (List.range b.size).map b.valueAt

/-- Set counter `i`, if there is one. -/
def preset (i : Nat) (v : UInt32) (b : CounterBank) : CounterBank :=
  if i < b.size then { b with ahead := (i, v - b.rises) :: b.ahead } else b

/-- The first counter, or zero if there is none. -/
def first (b : CounterBank) : UInt32 := (b.counter? 0).getD 0

/-- **Settling**: under reset all counters clear; otherwise they count if the clock is high and was
low when the bank settled before. -/
def settle (b : CounterBank) : CounterBank :=
  if b.reset then { b with lastClock := b.clock, rises := 0, ahead := [] }
  else if b.clock && !b.lastClock then { b with lastClock := b.clock, rises := b.rises + 1 }
  else { b with lastClock := b.clock }

/-! What the operations do to the counters. -/

@[simp] theorem counter?_new (n i : Nat) : (new n).counter? i = if i < n then some 0 else none := by
  simp [counter?, new, valueAt, lookAhead]

/-- Setting a counter gives it that value and leaves the others as they were. -/
theorem counter?_preset (b : CounterBank) (i j : Nat) (v : UInt32) :
    (b.preset i v).counter? j = if i = j ∧ j < b.size then some v else b.counter? j := by
  unfold preset
  by_cases hi : i < b.size
  · by_cases h : j = i
    · subst h; simp [counter?, valueAt, lookAhead, hi]
    · simp [counter?, valueAt, lookAhead, hi, h, Ne.symm h]
  · by_cases h : i = j
    · subst h; simp [counter?, hi]
    · simp [hi, h]

theorem counter?_settle (b : CounterBank) (i : Nat) :
    b.settle.counter? i = (b.counter? i).map fun v =>
      if b.reset then 0 else if b.clock && !b.lastClock then v + 1 else v := by
  unfold settle
  split
  · by_cases h : i < b.size <;> simp [counter?, valueAt, lookAhead, h]
  split
  · by_cases h : i < b.size <;> simp [counter?, valueAt, h, UInt32.add_assoc]
  · by_cases h : i < b.size <;> simp [counter?, h, valueAt]

@[simp] theorem size_settle (b : CounterBank) : b.settle.size = b.size := by
  unfold settle; split
  · rfl
  · split <;> rfl

@[simp] theorem size_preset (b : CounterBank) (i : Nat) (v : UInt32) :
    (b.preset i v).size = b.size := by
  unfold preset; split <;> rfl

@[simp] theorem clock_settle (b : CounterBank) : b.settle.clock = b.clock := by
  unfold settle; split
  · rfl
  · split <;> rfl

@[simp] theorem reset_settle (b : CounterBank) : b.settle.reset = b.reset := by
  unfold settle; split
  · rfl
  · split <;> rfl

@[simp] theorem lastClock_settle (b : CounterBank) : b.settle.lastClock = b.clock := by
  unfold settle; split
  · rfl
  · split <;> rfl

@[simp] theorem clock_preset (b : CounterBank) (i : Nat) (v : UInt32) :
    (b.preset i v).clock = b.clock := by
  unfold preset; split <;> rfl

@[simp] theorem reset_preset (b : CounterBank) (i : Nat) (v : UInt32) :
    (b.preset i v).reset = b.reset := by
  unfold preset; split <;> rfl

@[simp] theorem lastClock_preset (b : CounterBank) (i : Nat) (v : UInt32) :
    (b.preset i v).lastClock = b.lastClock := by
  unfold preset; split <;> rfl

def device : Device CounterBank where
  driveClock high b := { b with clock := high }
  clockLevel b := (b.clock, b)
  driveReset asserted b := { b with reset := asserted }
  settle := settle
  output b := (b.first, b)

end CounterBank

end EdgeMeter
