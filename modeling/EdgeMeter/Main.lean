import EdgeMeter.Program

/-!
# The command

The program on a real timer and a real standard output. The phases of a trial are those of a rig,
put in order by `Phases.series`; only reading the time and writing happen here. No shared library
can be opened, so a named model is refused by the loader.

* `Command.setting`, `Command.rig`: what the program is given, and the rig of the built-in bank;
* `Command.phases`: the phases of that rig in the real world;
* `Command.work`, `Command.run`: the program, its last words and its exit status.
-/

namespace EdgeMeter.Command

/-- A loader that opens nothing. -/
def refusing : Model.Loader Unit Unit where
  fetch _ _ := (.error "shared libraries cannot be opened", ())

/-- What the program is given. Lines are written for real, so the sink is offered nothing. -/
def setting : Program.Setting Unit Unit (Instant × List Instant) Instant Sink.Script :=
  ⟨refusing, .monotonic, .scripted⟩

def rig : Rig CounterBank Unit CounterBank (Instant × List Instant) Instant Sink.Script :=
  ⟨CounterBank.workshop CounterBank.standardSize, setting.timer, setting.sink⟩

abbrev RigBench : Type :=
  Bench CounterBank Unit CounterBank (Instant × List Instant) Instant Sink.Script

/-- The threshold that a name stands for; only errors are shown without one. -/
def threshold : Option String → Log.Threshold
  | some "off" => .off
  | some "warn" => .upTo .warn
  | some "info" => .upTo .info
  | some "debug" => .upTo .debug
  | some "trace" => .upTo .trace
  | _ => .upTo .error

/-- The cause of a failed write, with the text of the system. -/
def writeError : IO.Error → IoError
  | .resourceExhausted _ code text => .system code.toNat text
  | .resourceVanished code text => .system code.toNat text
  | .permissionDenied _ code text => .system code.toNat text
  | .hardwareFault code text => .system code.toNat text
  | e => .custom .other (toString e)

/-- Write diagnostics to standard error. -/
def speak (shown : Log.Threshold) (ds : List Program.Diagnostic) : IO Unit := do
  for d in ds do
    IO.eprint (d.text shown)

/-- Write what a bench has noted to standard error, and let it forget that. -/
def report (shown : Log.Threshold) : StateT RigBench IO Unit := do
  let b ← get
  speak shown (b.events.flatMap (Program.spoken fun _ => []))
  set { b with journal := b.journal.cleared }

/-- The instant of a reading of the real timer. -/
def readTimer : IO Instant := do
  let nanos ← IO.monoNanosNow
  return ⟨nanos / 1000000000, nanos % 1000000000⟩

/-- Write bytes to standard output and flush. -/
def write (bs : Bytes) : IO (Except Failure Unit) := do
  let out ← IO.getStdout
  try
    out.write ⟨bs.toArray⟩
    out.flush
    return .ok ()
  catch e => return .error (.output (writeError e))

/-- **The phases of a trial of the rig**, but on the real timer and with lines to standard
output. -/
def phases (shown : Log.Threshold) : Phases (StateT RigBench IO) Unit Instant :=
  let onRig := rig.phases.lift fun action b => IO.lazyPure fun _ => action b
  { onRig with
    prepare := fun s => do
      let made ← onRig.prepare s
      report shown
      return made
    read := do
      let t ← readTimer
      modify (·.note (.read t))
      return t
    deliver := fun m => write m.bytes
    retire := fun d => do
      onRig.retire d
      report shown }

/-- The program on the chosen model, with what it says on the way. -/
def work (shown : Log.Threshold) (choice : Model.Choice) (arguments : List String) :
    IO (Except Failure (List Measurement)) := do
  let origin : Instant × List Instant := (⟨0, 0⟩, [])
  match choice with
  | .builtin =>
    speak shown [.logged (Program.ignoring arguments.length)]
    ((phases shown).series Scenario.table).run' (.quiet .standard origin {})
  | .library path =>
    let o := Program.runLibrary setting path arguments
      { host := { loader := (), guest := { memory := () } }, time := origin, out := {} }
    speak shown o.diagnostics
    return o.result

/-- **The command** on its arguments, its own name first. -/
def run (arguments : List String) : IO UInt32 := do
  let shown := threshold (← IO.getEnv "RUST_LOG")
  let choice ← Model.Choice.read fun name => return (← IO.getEnv name).map Bytes.ofString
  let result ← work shown choice arguments
  IO.eprint (Program.farewell result)
  return (Program.exitStatus result).toUInt32

end EdgeMeter.Command

/-- Runs the command on the process's arguments. -/
def main (arguments : List String) : IO UInt32 := EdgeMeter.Command.run ("edgemeter" :: arguments)
