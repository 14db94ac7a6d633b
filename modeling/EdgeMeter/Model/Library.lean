import EdgeMeter.Bench.Workshop
import EdgeMeter.Journal
import EdgeMeter.Model.Arguments

/-!
# Model libraries

A simulation model may come as a library with eight entry points: seven that make, free, drive and
read instances, and one, which it may lack, that takes the program's arguments. Instances are known
by handles, signals are bytes, and a model may write lines to standard error when it takes arguments
and when an instance is freed. Entry points are functions of the model's memory `μ`.

* `Model.Symbol`, `Model.Exports`, `Model.Entries`: the names looked up, what was found, and a
  complete set;
* `Model.Call`, `Model.Guest`: what a model is called for, and its memory with the calls so far;
* `Model.Library`: a loaded library. `Library.device` drives an instance through its pins,
  `Library.workshop` makes and frees instances, `Library.passArguments` hands over arguments.
-/

namespace EdgeMeter.Model

/-- What a library knows an instance by; the address zero means that there is none. -/
structure Handle where
  address : Nat
deriving DecidableEq

def Handle.null : Handle := ⟨0⟩

/-! ## Entry points -/

inductive Symbol where
  | new
  | free
  | setClk
  | getClk
  | setRst
  | eval
  | readOutput
  | commandArgs
deriving DecidableEq

def Symbol.name : Symbol → String
  | .new => "tickbench_model_new"
  | .free => "tickbench_model_free"
  | .setClk => "tickbench_model_set_clk"
  | .getClk => "tickbench_model_get_clk"
  | .setRst => "tickbench_model_set_rst"
  | .eval => "tickbench_model_eval"
  | .readOutput => "tickbench_model_read_output"
  | .commandArgs => "tickbench_model_command_args"

variable {μ : Type}

/-- An entry point that takes the program's arguments, and the lines it writes. -/
abbrev Parser (μ : Type) : Type := List Bytes → μ → List String × μ

structure Entries (μ : Type) where
  new : μ → Handle × μ
  free : Handle → μ → List String × μ
  setClk : Handle → UInt8 → μ → μ
  getClk : Handle → μ → UInt8 × μ
  setRst : Handle → UInt8 → μ → μ
  eval : Handle → μ → μ
  readOutput : Handle → μ → UInt32 × μ
  commandArgs : Option (Parser μ)

/-- What looking up the symbols of a library gave: for each an entry point, or the reason why it was
not found. -/
structure Exports (μ : Type) where
  new : Except String (μ → Handle × μ)
  free : Except String (Handle → μ → List String × μ)
  setClk : Except String (Handle → UInt8 → μ → μ)
  getClk : Except String (Handle → μ → UInt8 × μ)
  setRst : Except String (Handle → UInt8 → μ → μ)
  eval : Except String (Handle → μ → μ)
  readOutput : Except String (Handle → μ → UInt32 × μ)
  commandArgs : Except String (Parser μ)

/-- An entry point that must be there. -/
def Symbol.require {α : Type} (symbol : Symbol) (found : Except String α) : Except Failure α :=
  found.mapError (.noSymbol symbol.name)

/-- **A complete set of entry points**, or the first required symbol that is missing. A library
without a parser of arguments is complete. -/
def Exports.resolve (e : Exports μ) : Except Failure (Entries μ) := do
  let new ← Symbol.new.require e.new
  let free ← Symbol.free.require e.free
  let setClk ← Symbol.setClk.require e.setClk
  let getClk ← Symbol.getClk.require e.getClk
  let setRst ← Symbol.setRst.require e.setRst
  let eval ← Symbol.eval.require e.eval
  let readOutput ← Symbol.readOutput.require e.readOutput
  return {
    new, free, setClk, getClk, setRst, eval, readOutput
    commandArgs := e.commandArgs.toOption }

/-! ## Calls -/

/-- A call that a model received, with its answer. -/
inductive Call where
  /-- The `attempt`-th call for a new instance, counted from one. -/
  | new (attempt : Nat) (made : Handle)
  | free (h : Handle)
  | setClk (h : Handle) (level : UInt8)
  | getClk (h : Handle) (level : UInt8)
  | setRst (h : Handle) (level : UInt8)
  | eval (h : Handle)
  | readOutput (h : Handle) (value : UInt32)
  | commandArgs (argv : List Bytes)
deriving DecidableEq

/-- How many calls of each kind a model received. -/
structure Tally where
  new : Nat := 0
  free : Nat := 0
  setClk : Nat := 0
  getClk : Nat := 0
  setRst : Nat := 0
  eval : Nat := 0
  readOutput : Nat := 0
  commandArgs : Nat := 0
deriving DecidableEq

def Tally.add (t : Tally) : Call → Tally
  | .new .. => { t with new := t.new + 1 }
  | .free _ => { t with free := t.free + 1 }
  | .setClk .. => { t with setClk := t.setClk + 1 }
  | .getClk .. => { t with getClk := t.getClk + 1 }
  | .setRst .. => { t with setRst := t.setRst + 1 }
  | .eval _ => { t with eval := t.eval + 1 }
  | .readOutput .. => { t with readOutput := t.readOutput + 1 }
  | .commandArgs _ => { t with commandArgs := t.commandArgs + 1 }

/-- The memory of a model and the calls it received. -/
structure Guest (μ : Type) where
  memory : μ
  calls : Journal Call := {}
  tally : Tally := {}

def Guest.note (c : Call) (g : Guest μ) : Guest μ :=
  { g with calls := g.calls.record c, tally := g.tally.add c }

/-! ## Libraries -/

/-- A loaded library: the path it was asked for under, and its entry points. -/
structure Library (μ : Type) where
  path : Bytes
  entries : Entries μ

namespace Library

variable (lib : Library μ)

/-- The byte that stands for a level. -/
def levelByte (high : Bool) : UInt8 := if high then 1 else 0

/-- **An instance at its pins.** Levels are passed as the bytes 0 and 1, and any byte but 0 is read
as high. -/
def device (h : Handle) : Device (Guest μ) where
  driveClock high g :=
    { g with memory := lib.entries.setClk h (levelByte high) g.memory }.note
      (.setClk h (levelByte high))
  clockLevel g :=
    let (level, memory) := lib.entries.getClk h g.memory
    (level != 0, { g with memory := memory }.note (.getClk h level))
  driveReset asserted g :=
    { g with memory := lib.entries.setRst h (levelByte asserted) g.memory }.note
      (.setRst h (levelByte asserted))
  settle g := { g with memory := lib.entries.eval h g.memory }.note (.eval h)
  output g :=
    let (value, memory) := lib.entries.readOutput h g.memory
    (value, { g with memory := memory }.note (.readOutput h value))

/-- Make an instance. A library that answers with no handle has failed. -/
def make (g : Guest μ) : Except Failure Handle × Guest μ :=
  let (h, memory) := lib.entries.new g.memory
  let g := { g with memory := memory }.note (.new (g.tally.new + 1) h)
  (if h = .null then .error .nullModel else .ok h, g)

/-- Free an instance; the lines it writes are what is left of it. -/
def free (h : Handle) (g : Guest μ) : List String × Guest μ :=
  let (lines, memory) := lib.entries.free h g.memory
  (lines, { g with memory := memory }.note (.free h))

/-- The workshop whose devices are instances of the library. -/
def workshop : Workshop (Guest μ) Handle (List String) where
  make := lib.make
  device := lib.device
  scrap := lib.free

/-- **Hand over the arguments.** A library without a parser is not called, whatever they are;
otherwise it is called once with all of them, unless one cannot be passed. -/
def passArguments (arguments : List String) (g : Guest μ) :
    Except Failure (List String) × Guest μ :=
  match lib.entries.commandArgs with
  | none => (.ok [], g)
  | some parse =>
    match Arguments.marshal arguments with
    | .error f => (.error f, g)
    | .ok argv =>
      let (lines, memory) := parse argv g.memory
      (.ok lines, { g with memory := memory }.note (.commandArgs argv))

/-- **Hand over any number of arguments.** A parser is not called if it cannot be told how many
there are; the arguments of a process never are that many. -/
def passCounted (arguments : List String) (g : Guest μ) : Except Failure (List String) × Guest μ :=
  match lib.entries.commandArgs, Arguments.counted arguments with
  | some _, .error f => (.error f, g)
  | _, _ => lib.passArguments arguments g

/-- Whether the library takes arguments, as text. -/
def showParser : String := if lib.entries.commandArgs.isSome then "true" else "false"

def describe : String :=
  "ModelLibrary \x7b path: " ++ Text.quoteBytes lib.path ++
    ", has_command_args: " ++ lib.showParser ++ " \x7d"

def describeLines : String :=
  "ModelLibrary \x7b\n    path: " ++ Text.quoteBytes lib.path ++
    ",\n    has_command_args: " ++ lib.showParser ++ ",\n\x7d"

end Library

end EdgeMeter.Model
