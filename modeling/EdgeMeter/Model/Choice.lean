import EdgeMeter.Environment
import EdgeMeter.Path
import EdgeMeter.Text.Blank
import EdgeMeter.Text.Quoted

/-!
# Choosing the model

One environment variable names the model library. Unset or blank, it leaves the built-in bank of
counters; any other value is a path as it stands.

* `Model.Choice`, `Model.Choice.ofValue`: the choice by the value of the variable;
* `Model.Choice.read`: the choice by any way to look up variables, which is used once;
* `Model.Choice.ofEnvironment`: the choice by the environment of the process;
* `Model.Choice.same`, `Model.Choice.describe`.
-/

namespace EdgeMeter.Model

inductive Choice where
  | builtin
  | library (path : Bytes)
deriving DecidableEq

namespace Choice

/-- The variable that names the library. -/
def variableName : String := "TICKBENCH_MODEL_DSO"

/-- **The choice by the value of the variable**, if it has one. -/
def ofValue : Option Bytes → Choice
  | none => .builtin
  | some path => if Text.isBlank path then .builtin else .library path

/-- The choice by looking up the variable. -/
def read {m : Type → Type} [Monad m] (lookup : String → m (Option Bytes)) : m Choice := do
  return ofValue (← lookup variableName)

/-- The choice by the environment of the process. -/
def ofEnvironment (env : Environment) : Choice := read (m := Id) env.value?

def path? : Choice → Option Bytes
  | builtin => none
  | library path => some path

/-- Whether two choices are the same; paths count by their components. -/
def same : Choice → Choice → Bool
  | builtin, builtin => true
  | library p, library q => Path.same p q
  | _, _ => false

def showModel : Choice → String
  | builtin => "Builtin"
  | library path => "SharedLibrary(" ++ Text.quoteBytes path ++ ")"

def describe (c : Choice) : String := "Config \x7b model: " ++ c.showModel ++ " \x7d"

end Choice

end EdgeMeter.Model
