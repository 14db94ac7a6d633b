import EdgeMeter.Bench.Trial
import EdgeMeter.Proofs.Delivery
import EdgeMeter.Text.Utf8.Lemmas
import Mathlib.Data.List.Iterate

/-!
# The course of a trial

What a trial does is settled by the answers of its device, its timer and its sink. This module gives
the whole of it in closed form: the events in order, and the states that are left.

* `Device.resetSignals`, `Device.edgeSignals`, `Device.timedSignals`: what is seen at the pins;
* `Window`, `Timer.window`, `Timer.windows`: two readings of a timer and the time between them;
* `Measurement.printed`: the text of a measurement;
* `Scenario.course`: the events of a trial up to the delivery of its line;
* **`Rig.trial_of_made`**, `Rig.trial_of_not_made`: a trial, by what its workshop answers.
-/

namespace EdgeMeter

variable {σ δ ρ κ τ ω : Type}

/-! ## At the pins -/

namespace Device

/-- The signals of the reset sequence. -/
def resetSignals : List Signal :=
  [.resetDriven true, .clockDriven false, .settled, .clockDriven true, .settled,
    .clockDriven false, .settled, .resetDriven false, .settled]

variable (dev : Device σ)

/-- The signals of an edge: the pin is driven to the opposite of what it answers. -/
def edgeSignals (x : σ) : List Signal :=
  let level := (dev.clockLevel x).1
  [.clockAsked level, .clockDriven !level, .settled]

/-- An edge, and a read after it if the device is sampled. -/
def timedEdge (sampled : Bool) (x : σ) : σ :=
  if sampled then (dev.output (dev.edge x)).2 else dev.edge x

/-- The signals of an edge, and of the read after it if there is one. -/
def timedSignals (sampled : Bool) (x : σ) : List Signal :=
  dev.edgeSignals x ++ if sampled then [.outputRead (dev.output (dev.edge x)).1] else []

end Device

/-! ## Measured time -/

/-- Two readings of a timer and the time between them. -/
structure Window (τ : Type) where
  start : τ
  finish : τ
  nanos : Binary64

/-- The readings of a window. -/
def Window.readings (w : Window τ) : List τ := [w.start, w.finish]

namespace Timer

variable (timer : Timer κ τ)

/-- Read the timer twice, and ask it for the time from the first reading to the second. -/
def window (c : κ) : Window τ × κ :=
  let (start, c) := timer.read c
  let (finish, c) := timer.read c
  let (nanos, c) := timer.span start finish c
  (⟨start, finish, nanos⟩, c)

/-- The windows of a timer, one after another. -/
def windows : Nat → κ → List (Window τ)
  | 0, _ => []
  | n + 1, c => (timer.window c).1 :: windows n (timer.window c).2

@[simp] theorem length_windows (n : Nat) (c : κ) : (timer.windows n c).length = n := by
  induction n generalizing c with
  | zero => rfl
  | succ n ih => rw [windows, List.length_cons, ih]

end Timer

/-! ## Text -/

/-- **The text of a measurement**: its name and its number on a line of their own. -/
def Measurement.printed (m : Measurement) : Bytes :=
  ("BENCH " ++ m.name ++ " " ++ m.figure.twoPlaces ++ "\n").toUTF8.data.toList

theorem Measurement.bytes_eq (m : Measurement) : m.bytes = m.printed := Bytes.ofString_eq _

/-! ## Trials of a scenario -/

namespace Scenario

variable (s : Scenario)

/-- The measurement of a scenario in a window. -/
def measurement (w : Window τ) : Measurement := ⟨s.name, s.figure w.nanos⟩

/-- The state of a new device after reset and the untimed edges. -/
def warmed (dev : Device σ) (x : σ) : σ := times s.warmUp.toNat dev.edge (dev.reset x)

/-- The state of a new device at the end of a trial. -/
def driven (dev : Device σ) (x : σ) : σ :=
  times s.timed.toNat (dev.timedEdge s.sampled) (s.warmed dev x)

/-- The signals of the untimed edges. -/
def warmSignals (dev : Device σ) (x : σ) : List Signal :=
  (List.iterate dev.edge (dev.reset x) s.warmUp.toNat).flatMap dev.edgeSignals

/-- The signals of the timed edges. -/
def drivenSignals (dev : Device σ) (x : σ) : List Signal :=
  (List.iterate (dev.timedEdge s.sampled) (s.warmed dev x) s.timed.toNat).flatMap
    (dev.timedSignals s.sampled)

/-- **The events of a trial up to the delivery of its line**, on a new device in state `x`. -/
def course (dev : Device σ) (d : δ) (x : σ) (w : Window τ) : List (Event δ ρ τ) :=
  [Event.logged s.opening, Event.made d] ++
  Device.resetSignals.map (Event.signal d) ++
  (if s.warmUp = 0 then [] else [Event.logged s.warming]) ++
  (s.warmSignals dev x).map (Event.signal d) ++
  [Event.logged s.timing, Event.read w.start] ++
  (s.drivenSignals dev x).map (Event.signal d) ++
  [Event.read w.finish, Event.span w.start w.finish w.nanos]

end Scenario

/-! ## Work on a bench -/

namespace Bench

/-- The bench after work on the floor during which some events were noted. -/
def worked (x : σ) (es : List (Event δ ρ τ)) (b : Bench σ δ ρ κ τ ω) : Bench σ δ ρ κ τ ω :=
  { b with floor := x, journal := b.journal.recordAll es }

@[simp] theorem floor_worked (x : σ) (es : List (Event δ ρ τ)) (b : Bench σ δ ρ κ τ ω) :
    (b.worked x es).floor = x := rfl

@[simp] theorem worked_worked (x y : σ) (es es' : List (Event δ ρ τ)) (b : Bench σ δ ρ κ τ ω) :
    (b.worked x es).worked y es' = b.worked y (es ++ es') := by
  simp only [worked, Journal.recordAll_append]

theorem log_eq (r : Log.Record) (b : Bench σ δ ρ κ τ ω) :
    b.log r = b.worked b.floor [.logged r] := rfl

theorem times_worked {f : Bench σ δ ρ κ τ ω → Bench σ δ ρ κ τ ω} (g : σ → σ)
    (see : σ → List (Event δ ρ τ)) (h : ∀ b, f b = b.worked (g b.floor) (see b.floor)) (n : Nat)
    (b : Bench σ δ ρ κ τ ω) :
    times n f b = b.worked (times n g b.floor) ((List.iterate g b.floor n).flatMap see) := by
  induction n generalizing b with
  | zero => rfl
  | succ n ih =>
    rw [times, ih, h, worked_worked, floor_worked, List.iterate, List.flatMap_cons, times]

theorem events_of_fresh {b b' : Bench σ δ ρ κ τ ω} {es : List (Event δ ρ τ)}
    (fresh : b.journal = {}) (h : b'.journal = b.journal.recordAll es) : b'.events = es := by
  rw [Bench.events, h, fresh]
  exact Journal.toList_recordAll_fresh es

end Bench

namespace Rig

variable (rig : Rig σ δ ρ κ τ ω)

theorem reset_device (d : δ) (b : Bench σ δ ρ κ τ ω) :
    (rig.device d).reset b = b.worked ((rig.workshop.device d).reset b.floor)
      (Device.resetSignals.map (.signal d)) := rfl

theorem edge_device (d : δ) (b : Bench σ δ ρ κ τ ω) :
    (rig.device d).edge b = b.worked ((rig.workshop.device d).edge b.floor)
      (((rig.workshop.device d).edgeSignals b.floor).map (.signal d)) := rfl

theorem timedEdge_eq (s : Scenario) (d : δ) (b : Bench σ δ ρ κ τ ω) :
    rig.timedEdge s d b = b.worked ((rig.workshop.device d).timedEdge s.sampled b.floor)
      (((rig.workshop.device d).timedSignals s.sampled b.floor).map (.signal d)) := by
  unfold timedEdge Device.timedEdge Device.timedSignals
  split
  · rfl
  · rw [List.append_nil]
    rfl

theorem drive_eq (s : Scenario) (d : δ) (b : Bench σ δ ρ κ τ ω) :
    rig.drive s d b =
      b.worked (times s.timed.toNat ((rig.workshop.device d).timedEdge s.sampled) b.floor)
        (((List.iterate ((rig.workshop.device d).timedEdge s.sampled) b.floor s.timed.toNat).flatMap
          ((rig.workshop.device d).timedSignals s.sampled)).map (.signal d)) := by
  rw [drive, Bench.times_worked _ (fun x => (_ : List Signal).map (.signal d))
    (rig.timedEdge_eq s d), List.map_flatMap]

theorem warmUp_eq (s : Scenario) (d : δ) (b : Bench σ δ ρ κ τ ω) :
    rig.warmUp s d b =
      b.worked (times s.warmUp.toNat (rig.workshop.device d).edge b.floor)
        ((if s.warmUp = 0 then [] else [.logged s.warming]) ++
          ((List.iterate (rig.workshop.device d).edge b.floor s.warmUp.toNat).flatMap
            (rig.workshop.device d).edgeSignals).map (.signal d)) := by
  unfold warmUp
  split
  · next h =>
    rw [h]
    rfl
  · rw [Bench.times_worked _ (fun x => (_ : List Signal).map (.signal d)) (rig.edge_device d),
      ← List.map_flatMap, Bench.log_eq, Bench.worked_worked, Bench.floor_worked]

/-! ## Trials -/

theorem deliver_eq (m : Measurement) (b : Bench σ δ ρ κ τ ω) :
    rig.deliver m b =
      let o := rig.sink.deliver m.printed b.out
      (o.result.mapError .output,
        { b with out := o.state, journal := b.journal.recordAll (o.events.map .sink) }) := by
  have foldl_note : ∀ (es : List Sink.Event) (b : Bench σ δ ρ κ τ ω),
      es.foldl (fun b e => b.note (.sink e)) b =
        { b with journal := b.journal.recordAll (es.map .sink) } := by
    intro es
    induction es with
    | nil => exact fun _ => rfl
    | cons e es ih => exact fun b => ih (b.note (.sink e))
  simp only [deliver, foldl_note, Measurement.bytes_eq]

theorem make_log (r : Log.Record) (b : Bench σ δ ρ κ τ ω) :
    rig.make (b.log r) =
      match rig.workshop.make b.floor with
      | (.ok d, x) => (.ok d, b.worked x [.logged r, .made d])
      | (.error f, x) => (.error f, b.worked x [.logged r, .notMade f]) := by
  unfold make
  rw [show (b.log r).floor = b.floor from rfl]
  rcases rig.workshop.make b.floor with ⟨_ | _, x⟩ <;> rfl

theorem trial_of_not_made {s : Scenario} {b : Bench σ δ ρ κ τ ω} {f : Failure} {x : σ}
    (made : rig.workshop.make b.floor = (.error f, x)) :
    rig.trial s b = (.error f, b.worked x [.logged s.opening, .notMade f]) := by
  simp only [trial_eq, prepare, make_log, made]

theorem prepare_of_made {s : Scenario} {b : Bench σ δ ρ κ τ ω} {d : δ} {x : σ}
    (made : rig.workshop.make b.floor = (.ok d, x)) :
    rig.prepare s b = (.ok d, b.worked (s.warmed (rig.workshop.device d) x)
      ([.logged s.opening, .made d] ++
        Device.resetSignals.map (.signal d) ++
        (if s.warmUp = 0 then [] else [.logged s.warming]) ++
        (s.warmSignals (rig.workshop.device d) x).map (.signal d) ++ [.logged s.timing])) := by
  rw [prepare, make_log, made]
  simp only [reset_device, warmUp_eq, Bench.log_eq, Bench.worked_worked, Bench.floor_worked,
    Scenario.warmed, Scenario.warmSignals, List.append_assoc]

/-- **A trial on a new device**: all of its events, the states that it leaves, and its result. -/
theorem trial_of_made {s : Scenario} {b : Bench σ δ ρ κ τ ω} {d : δ} {x : σ}
    (made : rig.workshop.make b.floor = (.ok d, x)) :
    rig.trial s b =
      let dev := rig.workshop.device d
      let (w, time) := rig.timer.window b.time
      let m := s.measurement w
      let o := rig.sink.deliver m.printed b.out
      let (remains, floor) := rig.workshop.scrap d (s.driven dev x)
      ((o.result.mapError .output).map fun _ => m,
        { floor, time, out := o.state
          journal := b.journal.recordAll
            (s.course dev d x w ++ o.events.map .sink ++ [.scrapped d remains]) }) := by
  rw [trial_eq, prepare_of_made rig made]
  simp only [read, drive_eq, measure, deliver_eq, retire, Timer.window, Scenario.course,
    Bench.worked, Bench.note, Journal.recordAll_append]
  rfl

/-- **Every trial is of one of two kinds**: no device was made, or its line was delivered in one of
three ways before it was scrapped. -/
theorem trial_cases (s : Scenario) (b : Bench σ δ ρ κ τ ω) :
    (∃ f x, rig.workshop.make b.floor = (.error f, x) ∧
      rig.trial s b = (.error f, b.worked x [.logged s.opening, .notMade f])) ∨
    ∃ d x es r out, rig.workshop.make b.floor = (.ok d, x) ∧
      let dev := rig.workshop.device d
      let w := rig.timer.window b.time
      let m := s.measurement w.1
      let scrapped := rig.workshop.scrap d (s.driven dev x)
      Sink.Delivery m.printed es r ∧
      rig.trial s b = ((r.mapError .output).map fun _ => m,
        { floor := scrapped.2, time := w.2, out
          journal := b.journal.recordAll
            (s.course dev d x w.1 ++ es.map .sink ++ [.scrapped d scrapped.1]) }) := by
  rcases made : rig.workshop.make b.floor with ⟨f | d, x⟩
  · exact .inl ⟨f, x, rfl, rig.trial_of_not_made made⟩
  · exact .inr ⟨d, x, _, _, _, rfl, rig.sink.delivery_deliver _ b.out, rig.trial_of_made made⟩

end Rig

end EdgeMeter
