import EdgeMeter.Device.Basic

/-!
# Probes

A probe is a device with one counter that keeps account of how it is used. Its clock pin may be
stuck: then it reports one level whatever it is driven to.

* `Probe`, `Probe.device`;
* `Probe.Usage`: the account, with a checksum of the values read.
-/

namespace EdgeMeter

/-- How often a probe settled, was asked for its clock and was read, how often it had settled at the
first read, and a checksum of the values read. -/
structure Probe.Usage where
  settlings : Nat := 0
  clockReads : Nat := 0
  outputReads : Nat := 0
  settlingsAtFirstRead : Nat := 0
  checksum : UInt32 := 0
deriving DecidableEq

structure Probe where
  clock : Bool := false
  reset : Bool := false
  /-- The clock as it was when the probe last settled. -/
  lastClock : Bool := false
  count : UInt32 := 0
  /-- The level that the clock pin reports, if it is stuck. -/
  stuck : Option Bool := none
  usage : Probe.Usage := {}
deriving DecidableEq

namespace Probe

/-- Under reset the counter clears; otherwise it counts if the clock is high and was low when the
probe settled before. -/
def settle (p : Probe) : Probe :=
  { p with
    lastClock := p.clock
    count :=
      if p.reset then 0
      else if p.clock && !p.lastClock then p.count + 1
      else p.count
    usage := { p.usage with settlings := p.usage.settlings + 1 } }

/-- A read enters the account; the checksum is thirty-one times itself plus the value. -/
def Usage.read (value : UInt32) (u : Usage) : Usage :=
  { u with
    outputReads := u.outputReads + 1
    settlingsAtFirstRead := if u.outputReads = 0 then u.settlings else u.settlingsAtFirstRead
    checksum := u.checksum * 31 + value }

def device : Device Probe where
  driveClock high p := { p with clock := high }
  clockLevel p := (p.stuck.getD p.clock, { p with usage.clockReads := p.usage.clockReads + 1 })
  driveReset asserted p := { p with reset := asserted }
  settle := settle
  output p := (p.count, { p with usage := p.usage.read p.count })

end Probe

end EdgeMeter
