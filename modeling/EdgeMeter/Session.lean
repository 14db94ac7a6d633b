import EdgeMeter.Bench.Trial
import EdgeMeter.Model.Host

/-!
# Sessions

A session makes requests of a host: load a library, hand it arguments, make, drive and drop
instances in any order, and run scenarios on instances of their own.

* `Session`, `Session.Request`, `Session.Answer`;
* `Session.answer`: one request;
* `Session.answers`: requests in order.
-/

namespace EdgeMeter

open Model

/-- A host and the instances made so far, in order; dropped ones leave a gap. -/
structure Session (φ μ : Type) where
  host : Host φ μ
  devices : List (Option Handle) := []

namespace Session

inductive Request (κ τ ω : Type) where
  | load (path : Bytes)
  | passArguments (arguments : List String)
  | make
  | operate (device : Nat) (operations : List Operation)
  | drop (device : Nat)
  /-- Run a series of trials with a timer and a sink. -/
  | run (scenarios : List Scenario) (timer : Timer κ τ) (time : κ) (sink : Sink ω) (out : ω)

inductive Answer (μ τ : Type) where
  | loaded (lib : Library μ)
  | passed
  | made (device : Nat)
  | replies (rs : List Reply)
  | dropped
  | ran (events : List (Event Handle (List String) τ))
      (result : Except Failure (List Measurement))
  | failed (f : Failure)
  | noLibrary
  | noDevice

variable {φ μ κ τ ω : Type}

/-- The instance with a number, if it is alive. -/
def device? (i : Nat) (s : Session φ μ) : Option Handle := s.devices[i]?.join

def withGuest (g : Guest μ) (s : Session φ μ) : Session φ μ := { s with host.guest := g }

/-- Run a series of trials on instances of a library. Signals are calls of the model and are not
noted twice. -/
def runOn (lib : Library μ) (scenarios : List Scenario) (timer : Timer κ τ) (time : κ)
    (sink : Sink ω) (out : ω) (g : Guest μ) : Answer μ τ × Guest μ :=
  let rig : Rig (Guest μ) Handle (List String) κ τ ω := ⟨lib.workshop, timer, sink⟩
  let (result, bench) := rig.series scenarios (.quiet g time out)
  (.ran bench.events result, bench.floor)

/-- **Answer a request.** -/
def answer (loader : Loader φ μ) (r : Request κ τ ω) (s : Session φ μ) :
    Answer μ τ × Session φ μ :=
  match r, s.host.loaded with
  | .load path, _ =>
    let (found, host) := s.host.load loader path
    (match found with
      | .ok lib => .loaded lib
      | .error f => .failed f, { s with host := host })
  | .passArguments arguments, some lib =>
    let (passed, g) := lib.passCounted arguments s.host.guest
    (match passed with
      | .ok _ => .passed
      | .error f => .failed f, s.withGuest g)
  | .make, some lib =>
    match lib.make s.host.guest with
    | (.ok h, g) =>
      (.made s.devices.length, { s.withGuest g with devices := s.devices ++ [some h] })
    | (.error f, g) => (.failed f, s.withGuest g)
  | .operate i operations, some lib =>
    match s.device? i with
    | none => (.noDevice, s)
    | some h =>
      let (rs, g) := (lib.device h).performAll operations s.host.guest
      (.replies rs, s.withGuest g)
  | .drop i, some lib =>
    match s.device? i with
    | none => (.noDevice, s)
    | some h =>
      let (_, g) := lib.free h s.host.guest
      (.dropped, { s.withGuest g with devices := s.devices.set i none })
  | .run scenarios timer time sink out, some lib =>
    let (a, g) := runOn lib scenarios timer time sink out s.host.guest
    (a, s.withGuest g)
  | .operate .., none => (.noDevice, s)
  | .drop _, none => (.noDevice, s)
  | _, none => (.noLibrary, s)

def answers (loader : Loader φ μ) :
    List (Request κ τ ω) → Session φ μ → List (Answer μ τ) × Session φ μ
  | [], s => ([], s)
  | r :: rs, s =>
    let (a, s) := s.answer loader r
    let (as, s) := answers loader rs s
    (a :: as, s)

end Session

end EdgeMeter
