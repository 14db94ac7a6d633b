import EdgeMeter.Binary64.Rounding

/-!
# Timers

* `Timer κ τ`: reads instants `τ` and tells the time between two, on a state `κ`;
* `Timer.Script`, `Timer.scripted`: a timer that advances by a fixed step, or answers from a list;
* `Instant`, `Instant.nanosTo`, `Timer.monotonic`: a timer whose spans are never negative.
-/

namespace EdgeMeter

/-- A source of instants, as functions of its state. -/
structure Timer (κ τ : Type) where
  read : κ → τ × κ
  /-- Nanoseconds from the first instant to the second. -/
  span : τ → τ → κ → Binary64 × κ

structure Timer.Script where
  next : UInt64 := 0
  step : UInt64 := 1
  /-- Prescribed spans, zero when they run out. -/
  spans : Option (List Binary64) := none

/-- A timer whose every reading is a step after the one before. -/
def Timer.scripted : Timer Timer.Script UInt64 where
  read c := (c.next, { c with next := c.next + c.step })
  span start finish c :=
    match c.spans with
    | none => (.ofNat (finish - start).toNat, c)
    | some [] => (.zero false, c)
    | some (a :: rest) => (a, { c with spans := some rest })

/-- A point in time: whole seconds and nanoseconds after some origin. -/
structure Instant where
  seconds : Nat
  nanos : Nat
deriving DecidableEq

namespace Instant

def total (t : Instant) : Nat := t.seconds * 1000000000 + t.nanos

/-- **The time between two instants** in nanoseconds, none if the second is not later, rounded
once. -/
def nanosTo (start finish : Instant) : Binary64 := .ofNat (finish.total - start.total)

end Instant

/-- The monotonic timer; its state is the last instant it showed and those yet to come. The last
one stands once they run out. -/
def Timer.monotonic : Timer (Instant × List Instant) Instant where
  read
    | (last, []) => (last, (last, []))
    | (_, t :: rest) => (t, (t, rest))
  span start finish c := (start.nanosTo finish, c)

end EdgeMeter
