import EdgeMeter.Binary64.Basic
import EdgeMeter.Device.Basic
import EdgeMeter.Log
import EdgeMeter.Sink

/-!
# Events of a trial

A trial makes a device in a workshop, drives it, reads a timer and writes to a sink. Whatever it
does is an event, and the order of events is the whole behaviour of a trial as others see it.

* `Event`;
* `Event.isSignal`: the events at a device's pins, which may be millions;
* `Event.bytes`: what an event adds to the text of the sink.
-/

namespace EdgeMeter

/-- Something that happens during a trial on a device `δ` that leaves `ρ` behind, with a timer of
instants `τ`. -/
inductive Event (δ ρ τ : Type) where
  | logged (r : Log.Record)
  | made (d : δ)
  | notMade (f : Failure)
  | signal (d : δ) (s : Signal)
  | read (t : τ)
  | span (start finish : τ) (nanos : Binary64)
  | sink (e : Sink.Event)
  | scrapped (d : δ) (remains : ρ)

namespace Event

variable {δ ρ τ : Type}

/-- Whether an event happened at the pins of a device. -/
def isSignal : Event δ ρ τ → Bool
  | signal .. => true
  | _ => false

/-- The bytes that a sink took in an event. -/
def bytes : Event δ ρ τ → Bytes
  | sink (.wrote bs) => bs
  | _ => []

end Event

end EdgeMeter
