import EdgeMeter.Text.Plain

/-!
# Log records

* `Log.Level`, from errors to the finest tracing;
* `Log.Source`: the part of the program that speaks;
* `Log.Record`, and `Log.Record.written`, its text on standard error;
* `Log.Threshold`: which records are shown.
-/

namespace EdgeMeter.Log

inductive Level where
  | error
  | warn
  | info
  | debug
  | trace
deriving DecidableEq

namespace Level

def name : Level → String
  | .error => "ERROR"
  | .warn => "WARN"
  | .info => "INFO"
  | .debug => "DEBUG"
  | .trace => "TRACE"

/-- A larger number is a less important level. -/
def rank : Level → Nat
  | .error => 1
  | .warn => 2
  | .info => 3
  | .debug => 4
  | .trace => 5

end Level

/-- Who logs: the program, the loader of model libraries, or the runner of scenarios. -/
inductive Source where
  | program
  | loader
  | runner
deriving DecidableEq

def Source.name : Source → String
  | .program => "tickbench"
  | .loader => "tickbench::c_api"
  | .runner => "tickbench::runner"

structure Record where
  level : Level
  source : Source
  text : String
deriving DecidableEq

/-- A text whose lines after the first are indented. -/
def indented (text : String) : String :=
  String.ofList (text.toList.flatMap fun c => if c = '\n' then ['\n', ' ', ' ', ' ', ' '] else [c])

/-- **The record as written**: its level in five places, its source and its text, without terminal
control. -/
def Record.written (r : Record) : String :=
  Text.plain ("[" ++ r.level.name ++ "".pushn ' ' (5 - r.level.name.length) ++ " " ++
    r.source.name ++ "] " ++ indented r.text ++ "\n")

/-- The records shown: those at least as important as a level, or none at all. -/
structure Threshold where
  rank : Nat

/-- The threshold that shows a level and all more important ones. -/
def Threshold.upTo (l : Level) : Threshold := ⟨l.rank⟩

def Threshold.off : Threshold := ⟨0⟩

/-- Whether a record is shown. -/
def Threshold.shows (t : Threshold) (r : Record) : Bool := r.level.rank ≤ t.rank

end EdgeMeter.Log
