import EdgeMeter.Bench.Event
import EdgeMeter.Bench.Workshop
import EdgeMeter.Journal
import EdgeMeter.Measurement
import EdgeMeter.Scenario
import EdgeMeter.Timer

/-!
# Trials

A trial of a scenario has five phases: `prepare` makes a device, resets it and drives the untimed
edges; `drive` is what happens between two readings of the timer; `measure` turns the readings into
a number; `deliver` writes the line and flushes; `retire` scraps the device. The device is alive
until its line is flushed, and it is scrapped also when that fails.

* `Phases`: the phases as actions of a monad; `Phases.trial`, `Phases.series`: a trial of one
  scenario, and trials in order, up to the first failure;
* `Rig`, `Bench`: a workshop, a timer and a sink, and the state of all three with a journal;
* `Rig.phases`, `Rig.trial`, `Rig.series`: the phases on a bench;
* `Rig.trial_eq`, `Rig.series_cons`: how trials go from bench to bench.
-/

namespace EdgeMeter

/-! ## Phases -/

/-- The phases of a trial as actions of a monad, on devices `δ` and with instants `τ`. -/
structure Phases (m : Type → Type) (δ τ : Type) where
  prepare : Scenario → m (Except Failure δ)
  read : m τ
  drive : Scenario → δ → m Unit
  measure : Scenario → τ → τ → m Measurement
  deliver : Measurement → m (Except Failure Unit)
  retire : δ → m Unit

namespace Phases

variable {m n : Type → Type} {δ τ : Type}

/-- The phases as actions of another monad. -/
def lift (f : ∀ {α : Type}, m α → n α) (p : Phases m δ τ) : Phases n δ τ where
  prepare s := f (p.prepare s)
  read := f p.read
  drive s d := f (p.drive s d)
  measure s start finish := f (p.measure s start finish)
  deliver measured := f (p.deliver measured)
  retire d := f (p.retire d)

variable [Monad m] (p : Phases m δ τ)

/-- **A trial** of a scenario on a device of its own. -/
def trial (s : Scenario) : m (Except Failure Measurement) := do
  match ← p.prepare s with
  | .error f => return .error f
  | .ok d =>
    let start ← p.read
    p.drive s d
    let finish ← p.read
    let measured ← p.measure s start finish
    let delivered ← p.deliver measured
    p.retire d
    return delivered.map fun _ => measured

/-- **Trials in order**, up to the first that fails. -/
def series : List Scenario → m (Except Failure (List Measurement))
  | [] => return .ok []
  | s :: rest => do
    match ← p.trial s with
    | .error f => return .error f
    | .ok measured => return (← series rest).map (measured :: ·)

end Phases

/-! ## Rigs -/

structure Rig (σ δ ρ κ τ ω : Type) where
  workshop : Workshop σ δ ρ
  timer : Timer κ τ
  sink : Sink ω

/-- The state of a rig and the journal of what happened. -/
structure Bench (σ δ ρ κ τ ω : Type) where
  floor : σ
  time : κ
  out : ω
  journal : Journal (Event δ ρ τ) := {}

namespace Scenario

/-- The record that opens a trial. -/
def opening (s : Scenario) : Log.Record :=
  ⟨.info, .runner, "scenario " ++ s.name ++ ": constructing device"⟩

/-- The record before the untimed edges. -/
def warming (s : Scenario) : Log.Record :=
  ⟨.debug, .runner,
    "scenario " ++ s.name ++ ": " ++ Nat.repr s.warmUp.toNat ++ " warm-up edges"⟩

/-- The record before the timed edges. -/
def timing (s : Scenario) : Log.Record :=
  ⟨.debug, .runner,
    "scenario " ++ s.name ++ ": measuring " ++ Nat.repr s.timed.toNat ++
      " edges (reads output: " ++ showFlag s.sampled ++ ")"⟩

end Scenario

variable {σ δ ρ κ τ ω : Type}

namespace Bench

def note (e : Event δ ρ τ) (b : Bench σ δ ρ κ τ ω) : Bench σ δ ρ κ τ ω :=
  { b with journal := b.journal.record e }

def log (r : Log.Record) (b : Bench σ δ ρ κ τ ω) : Bench σ δ ρ κ τ ω := b.note (.logged r)

/-- The events noted, in order. -/
def events (b : Bench σ δ ρ κ τ ω) : List (Event δ ρ τ) := b.journal.toList

/-- A new bench that does not note signals. -/
def quiet (floor : σ) (time : κ) (out : ω) : Bench σ δ ρ κ τ ω :=
  { floor, time, out, journal := { keeps := fun e => !e.isSignal } }

end Bench

namespace Rig

variable (rig : Rig σ δ ρ κ τ ω)

/-- A device of the rig, every signal of it noted. -/
def device (d : δ) : Device (Bench σ δ ρ κ τ ω) :=
  (rig.workshop.device d).within Bench.floor (fun s b => { b with floor := s })
    (fun signal b => b.note (.signal d signal))

def make (b : Bench σ δ ρ κ τ ω) : Except Failure δ × Bench σ δ ρ κ τ ω :=
  let (made, floor) := rig.workshop.make b.floor
  let b := { b with floor := floor }
  match made with
  | .ok d => (.ok d, b.note (.made d))
  | .error f => (.error f, b.note (.notMade f))

/-- Drive the untimed edges, if there are any. -/
def warmUp (s : Scenario) (d : δ) (b : Bench σ δ ρ κ τ ω) : Bench σ δ ρ κ τ ω :=
  if s.warmUp = 0 then b
  else times s.warmUp.toNat (rig.device d).edge (b.log s.warming)

/-- Make a device, reset it and drive the untimed edges. -/
def prepare (s : Scenario) (b : Bench σ δ ρ κ τ ω) : Except Failure δ × Bench σ δ ρ κ τ ω :=
  match rig.make (b.log s.opening) with
  | (.error f, b) => (.error f, b)
  | (.ok d, b) => (.ok d, (rig.warmUp s d ((rig.device d).reset b)).log s.timing)

/-- An edge, and a read after it if the scenario reads. -/
def timedEdge (s : Scenario) (d : δ) (b : Bench σ δ ρ κ τ ω) : Bench σ δ ρ κ τ ω :=
  let b := (rig.device d).edge b
  if s.sampled then ((rig.device d).output b).2 else b

/-- **The measured part**: the timed edges and nothing else. -/
def drive (s : Scenario) (d : δ) (b : Bench σ δ ρ κ τ ω) : Bench σ δ ρ κ τ ω :=
  times s.timed.toNat (rig.timedEdge s d) b

def read (b : Bench σ δ ρ κ τ ω) : τ × Bench σ δ ρ κ τ ω :=
  let (t, time) := rig.timer.read b.time
  (t, { b with time := time }.note (.read t))

/-- The measurement between two readings of the timer. -/
def measure (s : Scenario) (start finish : τ) (b : Bench σ δ ρ κ τ ω) :
    Measurement × Bench σ δ ρ κ τ ω :=
  let (nanos, time) := rig.timer.span start finish b.time
  (⟨s.name, s.figure nanos⟩, { b with time := time }.note (.span start finish nanos))

/-- Write the line of a measurement and flush. -/
def deliver (m : Measurement) (b : Bench σ δ ρ κ τ ω) :
    Except Failure Unit × Bench σ δ ρ κ τ ω :=
  let outcome := rig.sink.deliver m.bytes b.out
  (outcome.result.mapError .output,
    outcome.events.foldl (fun b e => b.note (.sink e)) { b with out := outcome.state })

def retire (d : δ) (b : Bench σ δ ρ κ τ ω) : Bench σ δ ρ κ τ ω :=
  let (remains, floor) := rig.workshop.scrap d b.floor
  { b with floor := floor }.note (.scrapped d remains)

/-- **The phases of a trial** on a bench. -/
def phases : Phases (StateM (Bench σ δ ρ κ τ ω)) δ τ where
  prepare := rig.prepare
  read := rig.read
  drive s d := modify (rig.drive s d)
  measure := rig.measure
  deliver := rig.deliver
  retire d := modify (rig.retire d)

def trial (s : Scenario) (b : Bench σ δ ρ κ τ ω) :
    Except Failure Measurement × Bench σ δ ρ κ τ ω :=
  (rig.phases.trial s).run b

@[irreducible] def series (scenarios : List Scenario) (b : Bench σ δ ρ κ τ ω) :
    Except Failure (List Measurement) × Bench σ δ ρ κ τ ω :=
  (rig.phases.series scenarios).run b

/-! ### From bench to bench -/

theorem trial_eq (s : Scenario) (b : Bench σ δ ρ κ τ ω) :
    rig.trial s b =
      match rig.prepare s b with
      | (.error f, b) => (.error f, b)
      | (.ok d, b) =>
        let (start, b) := rig.read b
        let (finish, b) := rig.read (rig.drive s d b)
        let (m, b) := rig.measure s start finish b
        let (delivered, b) := rig.deliver m b
        (delivered.map fun _ => m, rig.retire d b) := by
  simp only [trial, Phases.trial, phases]
  generalize rig.prepare s = prepared
  simp only [StateT.run, bind, StateT.bind]
  rcases prepared b with ⟨_ | _, b'⟩ <;> rfl

theorem series_nil (b : Bench σ δ ρ κ τ ω) : rig.series [] b = (.ok [], b) := by
  unfold series
  rfl

theorem series_cons (s : Scenario) (rest : List Scenario) (b : Bench σ δ ρ κ τ ω) :
    rig.series (s :: rest) b =
      match rig.trial s b with
      | (.error f, b) => (.error f, b)
      | (.ok m, b) => ((rig.series rest b).1.map (m :: ·), (rig.series rest b).2) := by
  simp only [series, trial, Phases.series]
  generalize rig.phases.trial s = first
  simp only [StateT.run, bind, StateT.bind]
  rcases first b with ⟨_ | _, b'⟩ <;> rfl

end Rig

end EdgeMeter
