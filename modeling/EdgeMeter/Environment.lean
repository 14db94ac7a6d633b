import EdgeMeter.Text.Utf8

/-!
# The environment of a process

An environment is a list of entries, each a name, an equals sign and a value, all of it bytes. A
name may stand in several entries, and then the first one counts.

* `Environment`, `Environment.values`, `Environment.value?`.
-/

namespace EdgeMeter

structure Environment where
  entries : List Bytes

namespace Environment

/-- What an entry for a name begins with. -/
def heading (name : String) : Bytes := Bytes.ofString name ++ [0x3D]

/-- All values under a name, in order. -/
def values (env : Environment) (name : String) : List Bytes :=
  env.entries.filterMap (heading name).isPrefixOf?

/-- **The value of a variable**, if it is set. -/
def value? (env : Environment) (name : String) : Option Bytes := (env.values name).head?

end Environment

end EdgeMeter
