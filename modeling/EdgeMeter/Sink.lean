import EdgeMeter.Failure

/-!
# Sinks

Result lines go to a sink. It may take a line in pieces of any size, may be interrupted for a while
and may fail; its flush may fail too.

* `Sink`, `Sink.Uptake`, `Sink.Event`;
* `Sink.writeAll`: offer bytes until all are taken or the sink fails. Interruptions are tried again,
  and a sink that takes none of what it is offered has failed;
* `Sink.Script`, `Sink.scripted`: a sink with a prescribed failure.
-/

namespace EdgeMeter

/-- What a sink does with the bytes it is offered. -/
inductive Sink.Uptake where
  /-- Takes so many from the front. -/
  | took (count : Nat)
  /-- Takes none now, but may later. -/
  | interrupted
  | refused (e : IoError)

/-- A place for lines, as functions of its state. -/
structure Sink (ω : Type) where
  write : Bytes → ω → Sink.Uptake × ω
  /-- Ask for all bytes taken to be passed on. -/
  flush : ω → Except IoError Unit × ω
  /-- A bound on the interruptions yet to come before the next bytes are taken. -/
  patience : ω → Nat
  /-- An interruption uses up some patience. -/
  patience_lt : ∀ bs s, (write bs s).1 = .interrupted → patience (write bs s).2 < patience s

inductive Sink.Event where
  | wrote (bytes : Bytes)
  | interrupted
  | writeFailed (e : IoError)
  | flushed
  | flushFailed (e : IoError)
deriving DecidableEq

namespace Sink

variable {ω : Type} (sink : Sink ω)

/-- The outcome of using a sink: what it did, whether it failed, and its state. -/
structure Outcome (ω : Type) where
  events : List Event
  result : Except IoError Unit
  state : ω

/-- An event that came before all others of an outcome. -/
def Outcome.after (e : Event) (o : Outcome ω) : Outcome ω := { o with events := e :: o.events }

/-- **Offer all bytes**: what is left over is offered again until nothing is. -/
def writeAll (bs : Bytes) (s : ω) : Outcome ω :=
  if bs = [] then ⟨[], .ok (), s⟩
  else match h : sink.write bs s with
    | (.took 0, s') => ⟨[.writeFailed .wroteNothing], .error .wroteNothing, s'⟩
    | (.took (n + 1), s') => (writeAll (bs.drop (n + 1)) s').after (.wrote (bs.take (n + 1)))
    | (.interrupted, s') => (writeAll bs s').after .interrupted
    | (.refused e, s') => ⟨[.writeFailed e], .error e, s'⟩
termination_by (bs.length, sink.patience s)
decreasing_by
  · have : 0 < bs.length := List.length_pos_iff.2 ‹_›
    exact Prod.Lex.left _ _ (by simp only [List.length_drop]; omega)
  · have := sink.patience_lt bs s (by rw [h])
    exact Prod.Lex.right _ (by simpa [h] using this)

def flushOnce (s : ω) : Outcome ω :=
  match sink.flush s with
  | (.ok (), s') => ⟨[.flushed], .ok (), s'⟩
  | (.error e, s') => ⟨[.flushFailed e], .error e, s'⟩

/-- **Deliver a line**: write it all and, if that succeeds, flush. -/
def deliver (bs : Bytes) (s : ω) : Outcome ω :=
  let written := sink.writeAll bs s
  match written.result with
  | .error _ => written
  | .ok () =>
    let flushed := sink.flushOnce written.state
    { flushed with events := written.events ++ flushed.events }

/-! ## Scripted sinks -/

inductive Fault where
  /-- It takes nothing. -/
  | takesNothing
  /-- It is interrupted once and takes everything afterwards. -/
  | interrupts
  | fails (e : IoError)
deriving DecidableEq

structure Script where
  /-- The most bytes taken at once. -/
  chunk : Option Nat := none
  /-- How many more bytes are taken before the fault shows. -/
  limit : Option Nat := none
  fault : Fault := .fails (.kind .other)
  /-- The number of the flush that fails, counted from one. -/
  failingFlush : Option Nat := none
  flushes : Nat := 0

/-- The error of a fault outside of writing. -/
def Fault.error : Fault → IoError
  | .takesNothing => .wroteNothing
  | .interrupts => .kind .interrupted
  | .fails e => e

namespace Script

/-- A scripted sink takes what its limit allows and then shows its fault. -/
def write (bs : Bytes) (s : Script) : Uptake × Script :=
  match s.limit, s.fault with
  | some 0, .takesNothing => (.took 0, s)
  | some 0, .interrupts => (.interrupted, { s with limit := none })
  | some 0, .fails e => (.refused e, s)
  | limit, _ =>
    let n := min (s.chunk.getD bs.length) (min (limit.getD bs.length) bs.length)
    (.took n, { s with limit := limit.map (· - n) })

def flush (s : Script) : Except IoError Unit × Script :=
  let s := { s with flushes := s.flushes + 1 }
  (if s.failingFlush = some s.flushes then .error s.fault.error else .ok (), s)

/-- Only a limit can interrupt, and it is lifted by that. -/
def patience (s : Script) : Nat := if s.limit.isSome then 1 else 0

theorem patience_write_lt (bs : Bytes) (s : Script) (h : (s.write bs).1 = .interrupted) :
    (s.write bs).2.patience < s.patience := by
  unfold write at h ⊢
  split <;> simp_all [patience]

end Script

/-- A sink with a prescribed failure. -/
def scripted : Sink Script where
  write bs s := s.write bs
  flush := Script.flush
  patience := Script.patience
  patience_lt := Script.patience_write_lt

end Sink

end EdgeMeter
