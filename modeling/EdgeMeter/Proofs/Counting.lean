import EdgeMeter.Device.CounterBank
import Mathlib.Data.List.Basic

/-!
# What the counters of a bank hold

A bank remembers one level of its clock. Its counters are nevertheless told by the whole history:
each holds the value at which it started afresh last, and one more for every rising edge that was
seen since. A rising edge is a settling out of reset that sees the clock high after the settling
before it, under reset or not, saw it low.

* `Action`, `run`: histories of a bank;
* `Moment`, `moments`: what a history shows to the counters; pins that are driven and not settled
  leave no moment;
* `base`, `risesSince`: where a counter started last, and the rising edges since;
* `Tracks`: the invariant between a history and the bank after it;
* **`counter?_run_new`**: every counter of a bank after any history.
-/

namespace EdgeMeter.CounterBank

/-! ## Histories -/

/-- Something done to a bank. -/
inductive Action where
  | driveClock (high : Bool)
  | driveReset (asserted : Bool)
  | settle
  | edge
  | reset
  /-- One counter is set directly. -/
  | preset (i : Nat) (v : UInt32)
deriving DecidableEq

/-- A bank after an action. -/
def act (b : CounterBank) : Action → CounterBank
  | .driveClock high => device.driveClock high b
  | .driveReset asserted => device.driveReset asserted b
  | .settle => device.settle b
  | .edge => device.edge b
  | .reset => device.reset b
  | .preset i v => b.preset i v

/-- A bank after a history. -/
def run (b : CounterBank) (history : List Action) : CounterBank := history.foldl act b

/-- The levels to which the pins were driven last. -/
structure Pins where
  clock : Bool := false
  reset : Bool := false

/-- The pins after an action. -/
def Pins.after (p : Pins) : Action → Pins
  | .driveClock high => { p with clock := high }
  | .driveReset asserted => { p with reset := asserted }
  | .settle => p
  | .edge => { p with clock := !p.clock }
  | .reset => { clock := false, reset := false }
  | .preset .. => p

/-- The pins after a history of a new bank. -/
def driven (history : List Action) : Pins := history.foldl Pins.after {}

/-- What the counters are told by: a settling, with the levels that it saw, or a counter set
directly. -/
inductive Moment where
  | settled (reset clock : Bool)
  | preset (i : Nat) (v : UInt32)
deriving DecidableEq

/-- The moments of an action, with the pins as they were before it. -/
def Action.moments (p : Pins) : Action → List Moment
  | .driveClock _ => []
  | .driveReset _ => []
  | .settle => [.settled p.reset p.clock]
  | .edge => [.settled p.reset !p.clock]
  | .reset => [.settled true false, .settled true true, .settled true false, .settled false false]
  | .preset i v => [.preset i v]

/-- The moments of a history. -/
def moments : Pins → List Action → List Moment
  | _, [] => []
  | p, a :: history => a.moments p ++ moments (p.after a) history

/-! ## What a counter holds by the moments -/

/-- The clock that a moment saw, if it was a settling. -/
def Moment.clock? : Moment → Option Bool
  | settled _ clock => some clock
  | preset .. => none

/-- The value at which a moment starts counter `i` afresh, if it does. -/
def Moment.start? (i : Nat) : Moment → Option UInt32
  | settled reset _ => if reset then some 0 else none
  | preset j v => if j = i then some v else none

/-- The clock as the last settling saw it, low if there was none. -/
def lastSeen (ms : List Moment) : Bool := (ms.filterMap Moment.clock?).getLast?.getD false

/-- **The value at which counter `i` started afresh last**, zero if it never did. -/
def base (i : Nat) (ms : List Moment) : UInt32 := (ms.filterMap (Moment.start? i)).getLast?.getD 0

/-- Whether moment `k` saw a rising edge. -/
def isRise (ms : List Moment) (k : Nat) : Bool :=
  ms[k]? == some (.settled false true) && !lastSeen (ms.take k)

/-- **The number of rising edges since counter `i` started afresh.** -/
def risesSince (i : Nat) (ms : List Moment) : Nat :=
  (List.range ms.length).countP fun k =>
    isRise ms k && (ms.drop k).all fun m => (m.start? i).isNone

/-! One moment more. -/

theorem lastSeen_concat (ms : List Moment) (m : Moment) :
    lastSeen (ms ++ [m]) = m.clock?.getD (lastSeen ms) := by
  unfold lastSeen
  cases m <;> simp [Moment.clock?]

theorem base_concat (i : Nat) (ms : List Moment) (m : Moment) :
    base i (ms ++ [m]) = (m.start? i).getD (base i ms) := by
  unfold base
  rw [List.filterMap_append]
  cases h : m.start? i <;> simp [h]

theorem isRise_concat_of_lt {ms : List Moment} {k : Nat} (h : k < ms.length) (m : Moment) :
    isRise (ms ++ [m]) k = isRise ms k := by
  rw [isRise, isRise, List.getElem?_append_left h, List.take_append_of_le_length (Nat.le_of_lt h)]

theorem isRise_concat_length (ms : List Moment) (m : Moment) :
    isRise (ms ++ [m]) ms.length = (m == .settled false true && !lastSeen ms) := by
  simp [isRise]

theorem risesSince_concat (i : Nat) (ms : List Moment) (m : Moment) :
    risesSince i (ms ++ [m]) =
      if (m.start? i).isSome then 0
      else risesSince i ms + if m = .settled false true ∧ lastSeen ms = false then 1 else 0 := by
  -- earlier edges count as they did, unless the new moment starts the counter afresh
  have hdrop : ∀ k ∈ List.range ms.length,
      (isRise (ms ++ [m]) k && ((ms ++ [m]).drop k).all fun m => (m.start? i).isNone) =
        (isRise ms k && (ms.drop k).all (fun m => (m.start? i).isNone) && (m.start? i).isNone) := by
    intro k hk
    have hk := List.mem_range.mp hk
    rw [isRise_concat_of_lt hk, List.drop_append_of_le_length (Nat.le_of_lt hk), List.all_append,
      Bool.and_assoc]
    simp
  rw [risesSince, List.length_append, List.length_singleton, List.range_succ, List.countP_append,
    List.countP_congr fun k hk => by rw [hdrop k hk], List.countP_singleton, isRise_concat_length,
    List.drop_left]
  cases h : m.start? i with
  | some v => simp [h]
  | none => simp [h, risesSince]

/-! ## The invariant -/

/-- **A bank tracks a history** when its pins are as they were driven last, it remembers the clock
of the last settling, and its counters are told by the moments. -/
structure Tracks (n : Nat) (p : Pins) (ms : List Moment) (b : CounterBank) : Prop where
  size : b.size = n
  clock : b.clock = p.clock
  reset : b.reset = p.reset
  lastClock : b.lastClock = lastSeen ms
  counters : ∀ i, b.counter? i = if i < n then some (base i ms + .ofNat (risesSince i ms)) else none

theorem tracks_new (n : Nat) : Tracks n {} [] (new n) where
  size := rfl
  clock := rfl
  reset := rfl
  lastClock := rfl
  counters i := by rw [counter?_new]; rfl

namespace Tracks

variable {n : Nat} {p : Pins} {ms : List Moment} {b : CounterBank}

theorem driveClock (h : Tracks n p ms b) (high : Bool) :
    Tracks n { p with clock := high } ms (device.driveClock high b) :=
  { h with clock := rfl }

theorem driveReset (h : Tracks n p ms b) (asserted : Bool) :
    Tracks n { p with reset := asserted } ms (device.driveReset asserted b) :=
  { h with reset := rfl }

theorem settle (h : Tracks n p ms b) :
    Tracks n p (ms ++ [.settled p.reset p.clock]) (device.settle b) where
  size := (size_settle b).trans h.size
  clock := (clock_settle b).trans h.clock
  reset := (reset_settle b).trans h.reset
  lastClock := by
    rw [lastSeen_concat]
    exact (lastClock_settle b).trans h.clock
  counters i := by
    change b.settle.counter? i = _
    rw [counter?_settle, h.counters, h.reset, h.clock, h.lastClock, base_concat, risesSince_concat]
    by_cases hi : i < n
    · rw [if_pos hi, if_pos hi]
      cases hr : p.reset
      · cases hc : p.clock
        · simp [Moment.start?]
        · cases hl : lastSeen ms
          · simp [Moment.start?, UInt32.ofNat_add, UInt32.add_assoc]
          · simp [Moment.start?]
      · simp [Moment.start?]
    · rw [if_neg hi, if_neg hi]
      rfl

theorem preset (h : Tracks n p ms b) (i : Nat) (v : UInt32) :
    Tracks n p (ms ++ [.preset i v]) (b.preset i v) where
  size := (size_preset b i v).trans h.size
  clock := (clock_preset b i v).trans h.clock
  reset := (reset_preset b i v).trans h.reset
  lastClock := by
    rw [lastSeen_concat]
    exact (lastClock_preset b i v).trans h.lastClock
  counters j := by
    rw [counter?_preset, h.counters, h.size, base_concat, risesSince_concat]
    by_cases hij : i = j
    · subst hij
      by_cases hi : i < n
      · simp [Moment.start?, hi]
      · simp [hi]
    · simp [Moment.start?, hij]

theorem edge (h : Tracks n p ms b) :
    Tracks n { p with clock := !p.clock } (ms ++ [.settled p.reset !p.clock]) (device.edge b) := by
  have hdriven : device.edge b = device.settle (device.driveClock (!p.clock) b) := by
    rw [← h.clock]
    rfl
  rw [hdriven]
  exact (h.driveClock _).settle

theorem resetSequence (h : Tracks n p ms b) :
    Tracks n { clock := false, reset := false }
      (ms ++ [.settled true false, .settled true true, .settled true false, .settled false false])
      (device.reset b) := by
  have h := ((h.driveReset true).driveClock false).settle
  have h := (h.driveClock true).settle
  have h := (h.driveClock false).settle
  have h := (h.driveReset false).settle
  rw [List.append_assoc, List.append_assoc, List.append_assoc] at h
  exact h

theorem act (h : Tracks n p ms b) (a : Action) :
    Tracks n (p.after a) (ms ++ a.moments p) (b.act a) := by
  cases a with
  | driveClock high =>
    rw [Action.moments, List.append_nil]
    exact h.driveClock high
  | driveReset asserted =>
    rw [Action.moments, List.append_nil]
    exact h.driveReset asserted
  | settle => exact h.settle
  | edge => exact h.edge
  | reset => exact h.resetSequence
  | preset i v => exact h.preset i v

/-- **A history keeps the invariant.** -/
theorem run (h : Tracks n p ms b) (history : List Action) :
    Tracks n (history.foldl Pins.after p) (ms ++ moments p history) (b.run history) := by
  induction history generalizing p ms b with
  | nil =>
    rw [moments, List.append_nil]
    exact h
  | cons a history ih =>
    rw [moments, ← List.append_assoc]
    exact ih (h.act a)

end Tracks

/-! ## After any history -/

/-- **The counters of a new bank after any history**: each holds the value at which it started
afresh last and the rising edges since. -/
theorem counter?_run_new (n : Nat) (history : List Action) :
    let b := (new n).run history
    let ms := moments {} history
    (∀ i, b.counter? i = if i < n then some (base i ms + .ofNat (risesSince i ms)) else none) ∧
      b.size = n ∧
      (device.output b).1 = (if 0 < n then base 0 ms + .ofNat (risesSince 0 ms) else 0) ∧
      (device.clockLevel b).1 = (driven history).clock := by
  intro b ms
  have h : Tracks n (driven history) ms b := (tracks_new n).run history
  refine ⟨h.counters, h.size, ?_, h.clock⟩
  change (b.counter? 0).getD 0 = _
  rw [h.counters]
  split <;> rfl

/-- An edge seen under reset counts for nothing, but the clock it left high is remembered. -/
example : ((new 2).run [.driveReset true, .edge, .driveReset false, .settle, .edge, .preset 1 9,
    .edge]).values = [1, 10] := by decide

end EdgeMeter.CounterBank
