import EdgeMeter.Model.Library

/-!
# Counter circuits as models

A family of one-counter circuits behind the entry points of a model library. The plain circuit
clears its counter under reset and counts rising edges of its clock; a variant may start
differently, report its clock by other bytes, ignore reset, count both edges, or stop making
instances. Every instance keeps account of its settlings and reads, and when it is freed it writes
the account to standard error.

* `Circuit.Variant`, `Circuit.Cell`, `Circuit.Memory`;
* `Circuit.Variant.exports`: the entry points, some of which may be left out.
-/

namespace EdgeMeter.Model.Circuit

structure Cell where
  clock : Bool := false
  reset : Bool := false
  /-- The clock as it was when the instance last settled. -/
  lastClock : Bool := false
  count : UInt32 := 0x5A5A
  settlings : Nat := 0
  reads : Nat := 0
deriving DecidableEq

structure Variant where
  start : Cell := {}
  /-- The byte by which a level of the clock is reported. -/
  report : Bool → UInt8 := Library.levelByte
  /-- Whether reset clears the counter. -/
  clears : Bool := true
  /-- Whether falling edges count too. -/
  bothEdges : Bool := false
  /-- The call from which on no more instances are made, counted from one. -/
  exhaustedFrom : Option Nat := none
  lacks : List Symbol := []

/-- The memory of a model: the calls for new instances, and the instances by handle. -/
structure Memory where
  attempts : Nat := 0
  cells : List (Handle × Cell) := []

namespace Memory

/-- The instance with a handle, if it is alive. -/
def find? (h : Handle) (m : Memory) : Option Cell := m.cells.lookup h

/-- Change the instance with a handle, if it is alive. -/
def update (h : Handle) (f : Cell → Cell) (m : Memory) : Memory :=
  { m with cells := m.cells.map fun p => if p.1 = h then (h, f p.2) else p }

end Memory

namespace Variant

variable (v : Variant)

/-- Whether settling sees an edge that counts. -/
def counts (c : Cell) : Bool :=
  if v.bothEdges then c.clock != c.lastClock else c.clock && !c.lastClock

/-- **Settling.** Nothing is counted under reset. -/
def settle (c : Cell) : Cell :=
  { c with
    lastClock := c.clock
    count :=
      if c.reset then if v.clears then 0 else c.count
      else if v.counts c then c.count + 1
      else c.count
    settlings := c.settlings + 1 }

/-- Make an instance; its handle is the number of the call. -/
def new (m : Memory) : Handle × Memory :=
  let k := m.attempts + 1
  if v.exhaustedFrom.any (· ≤ k) then (.null, { m with attempts := k })
  else (⟨k⟩, { attempts := k, cells := (⟨k⟩, v.start) :: m.cells })

/-- The line written when an instance is freed. -/
def farewell (h : Handle) (c : Cell) : String :=
  "model: free #" ++ Nat.repr h.address ++ " evals=" ++ Nat.repr c.settlings ++
    " reads=" ++ Nat.repr c.reads ++ " out=" ++ Nat.repr c.count.toNat

def free (h : Handle) (m : Memory) : List String × Memory :=
  ((m.find? h).toList.map (farewell h), { m with cells := m.cells.filter (·.1 != h) })

/-- The byte by which an instance reports its clock. -/
def getClk (h : Handle) (m : Memory) : UInt8 × Memory :=
  (v.report ((m.find? h).any (·.clock)), m)

def readOutput (h : Handle) (m : Memory) : UInt32 × Memory :=
  (((m.find? h).map (·.count)).getD 0, m.update h fun c => { c with reads := c.reads + 1 })

/-- The lines written when arguments are taken. -/
def parse (argv : List Bytes) (m : Memory) : List String × Memory :=
  ("model: args" :: argv.map fun block => "model: arg " ++ Utf8.lossy (Arguments.read block), m)

/-- An entry point, unless the variant lacks it. -/
def export? {α : Type} (reason : String) (symbol : Symbol) (entry : α) : Except String α :=
  if symbol ∈ v.lacks then .error reason else .ok entry

/-- **The symbols of a library with this circuit**; the reason is given for those it lacks. -/
def exports (reason : String) : Exports Memory where
  new := v.export? reason .new v.new
  free := v.export? reason .free free
  setClk := v.export? reason .setClk fun h b => Memory.update h fun c => { c with clock := b != 0 }
  getClk := v.export? reason .getClk v.getClk
  setRst := v.export? reason .setRst fun h b => Memory.update h fun c => { c with reset := b != 0 }
  eval := v.export? reason .eval fun h => Memory.update h v.settle
  readOutput := v.export? reason .readOutput readOutput
  commandArgs := v.export? reason .commandArgs parse

end Variant

end EdgeMeter.Model.Circuit
