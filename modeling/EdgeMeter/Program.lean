import EdgeMeter.Bench.Trial
import EdgeMeter.Model.Choice
import EdgeMeter.Model.Host

/-!
# The program

The program chooses a model, runs the table of scenarios on it and writes a line for each. Log
records and lines that models write go to standard error, and so does the message of a failure, as
the last line.

* `Program.Setting`, `Program.State`, `Program.Outcome`;
* `Program.run`: the whole work, for arguments that are text;
* `Program.start`: the same for arguments as bytes; one that is not text stops the program before
  anything else;
* `Program.exitStatus`, `Program.farewell`: what the result comes to;
* `Program.Ending.status`, `Program.Outcome.standardError`.
-/

namespace EdgeMeter.Program

open Model

/-- Something written to standard error. -/
inductive Diagnostic where
  | logged (r : Log.Record)
  | said (line : String)
deriving DecidableEq

structure Setting (φ μ κ τ ω : Type) where
  loader : Loader φ μ
  timer : Timer κ τ
  sink : Sink ω

/-- The state that the program changes. -/
structure State (φ μ κ ω : Type) where
  host : Host φ μ
  time : κ
  out : ω

structure Outcome (φ μ κ ω : Type) where
  result : Except Failure (List Measurement)
  diagnostics : List Diagnostic
  /-- What standard output took. -/
  written : Bytes
  state : State φ μ κ ω

variable {σ δ ρ φ μ κ τ ω : Type}

/-- The record that arguments have no effect. -/
def ignoring (count : Nat) : Log.Record :=
  ⟨.debug, .program, "builtin model ignores " ++ Nat.repr count ++ " argument(s)"⟩

/-- What an event writes to standard error, when a device leaves `lines` behind. -/
def spoken (lines : ρ → List String) : Event δ ρ τ → List Diagnostic
  | .logged r => [.logged r]
  | .scrapped _ remains => (lines remains).map .said
  | _ => []

/-- Run the table of scenarios in a workshop. -/
def runTable (setting : Setting φ μ κ τ ω) (workshop : Workshop σ δ ρ) (floor : σ) (time : κ)
    (out : ω) : Except Failure (List Measurement) × Bench σ δ ρ κ τ ω :=
  let rig : Rig σ δ ρ κ τ ω := ⟨workshop, setting.timer, setting.sink⟩
  rig.series Scenario.table (.quiet floor time out)

/-- The work on the built-in bank of counters. -/
def runBuiltin (setting : Setting φ μ κ τ ω) (arguments : List String) (s : State φ μ κ ω) :
    Outcome φ μ κ ω :=
  let (result, bench) :=
    runTable setting (CounterBank.workshop CounterBank.standardSize) CounterBank.standard
      s.time s.out
  { result
    diagnostics :=
      .logged (ignoring arguments.length) :: bench.events.flatMap (spoken fun _ => [])
    written := bench.events.flatMap Event.bytes
    state := { s with time := bench.time, out := bench.out } }

/-- The work on instances of a loaded library: it takes the arguments, and only then makes
instances. -/
def runLoaded (setting : Setting φ μ κ τ ω) (lib : Library μ) (arguments : List String)
    (s : State φ μ κ ω) : Outcome φ μ κ ω :=
  let (passed, guest) := lib.passCounted arguments s.host.guest
  let s := { s with host.guest := guest }
  match passed with
  | .error f => ⟨.error f, [], [], s⟩
  | .ok parsing =>
    let (result, bench) := runTable setting lib.workshop guest s.time s.out
    { result
      diagnostics := parsing.map .said ++ bench.events.flatMap (spoken id)
      written := bench.events.flatMap Event.bytes
      state :=
        { host := { s.host with guest := bench.floor }, time := bench.time, out := bench.out } }

/-- The work on a library: it is loaded before anything else. -/
def runLibrary (setting : Setting φ μ κ τ ω) (path : Bytes) (arguments : List String)
    (s : State φ μ κ ω) : Outcome φ μ κ ω :=
  let (found, host) := s.host.load setting.loader path
  let loading := host.log.toList.map Diagnostic.logged
  let s := { s with host := host }
  match found with
  | .error f => ⟨.error f, loading, [], s⟩
  | .ok lib =>
    let o := runLoaded setting lib arguments s
    { o with diagnostics := loading ++ o.diagnostics }

/-- **The work of the program** on the chosen model. -/
def run (setting : Setting φ μ κ τ ω) (choice : Choice) (arguments : List String)
    (s : State φ μ κ ω) : Outcome φ μ κ ω :=
  match choice with
  | .builtin => runBuiltin setting arguments s
  | .library path => runLibrary setting path arguments s

/-- A diagnostic as text, unless it is a record that is not shown. -/
def Diagnostic.text (shown : Log.Threshold) : Diagnostic → String
  | .logged r => if shown.shows r then r.written else ""
  | .said line => line ++ "\n"

/-- The last line on standard error: the message of a failure. -/
def farewell : Except Failure (List Measurement) → String
  | .ok _ => ""
  | .error f => f.display ++ "\n"

/-- **The exit status**: zero if all trials succeeded. -/
def exitStatus (result : Except Failure (List Measurement)) : Nat := if result.isOk then 0 else 1

/-- **All that is written to standard error.** -/
def Outcome.standardError (shown : Log.Threshold) (o : Outcome φ μ κ ω) : String :=
  String.join (o.diagnostics.map (·.text shown)) ++ farewell o.result

inductive Ending (φ μ κ ω : Type) where
  /-- An argument is not text. -/
  | unreadableArgument
  | finished (o : Outcome φ μ κ ω)

def Ending.status : Ending φ μ κ ω → Nat
  | .unreadableArgument => 101
  | .finished o => exitStatus o.result

/-- **The program**, with its arguments, its own name first, and the value of the variable that
names the model. All arguments must be text before anything else is looked at. -/
def start (setting : Setting φ μ κ τ ω) (arguments : List Bytes) (value : Option Bytes)
    (s : State φ μ κ ω) : Ending φ μ κ ω :=
  match arguments.mapM Utf8.decode? with
  | none => .unreadableArgument
  | some texts => .finished (run setting (Choice.ofValue value) (texts.map String.ofList) s)

end EdgeMeter.Program
