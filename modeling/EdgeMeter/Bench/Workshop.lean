import EdgeMeter.Device.CounterBank
import EdgeMeter.Device.Probe
import EdgeMeter.Failure

/-!
# Workshops

* `Workshop`: makes devices, gives access to their pins, and scraps them;
* `CounterBank.workshop`: makes fresh banks of counters;
* `Assortment`: makes banks and probes to a list of plans, some of which may fail.
-/

namespace EdgeMeter

/-- A place where devices are made: `δ` names a device, `σ` is the state of the place and of all
devices in it, and `ρ` is what a device leaves behind. -/
structure Workshop (σ δ ρ : Type) where
  make : σ → Except Failure δ × σ
  device : δ → Device σ
  scrap : δ → σ → ρ × σ

/-- A workshop with room for one bank at a time; every new one has `n` counters. -/
def CounterBank.workshop (n : Nat) : Workshop CounterBank Unit CounterBank where
  make _ := (.ok (), .new n)
  device _ := CounterBank.device
  scrap _ b := (b, b)

/-! ## Assortments -/

namespace Assortment

inductive Plan where
  | bank (size : Nat)
  | probe (start : Probe)
  | fails (text : String)

/-- The name of a device: its kind, and the number of the call that made it, from zero. -/
inductive Name where
  | bank (call : Nat)
  | probe (call : Nat)
deriving DecidableEq

end Assortment

/-- The state of a workshop that follows a list of plans again and again: how often it was called,
and the devices in it. -/
structure Assortment where
  plans : List Assortment.Plan
  calls : Nat := 0
  banks : List (Nat × CounterBank) := []
  probes : List (Nat × Probe) := []

namespace Assortment

def find? {α : Type} (k : Nat) : List (Nat × α) → Option α
  | [] => none
  | (j, a) :: rest => if j = k then some a else find? k rest

/-- The entries, with all for a key replaced by one. -/
def store {α : Type} (k : Nat) (a : α) (entries : List (Nat × α)) : List (Nat × α) :=
  (k, a) :: entries.filter (·.1 != k)

/-- The bank of a call; one without counters if that call made none. -/
def bank (k : Nat) (a : Assortment) : CounterBank := (find? k a.banks).getD (.new 0)

/-- The probe of a call; a fresh one if that call made none. -/
def probe (k : Nat) (a : Assortment) : Probe := (find? k a.probes).getD {}

/-- **Follow the next plan.** The call counts also if it fails. -/
def make (a : Assortment) : Except Failure Name × Assortment :=
  let k := a.calls
  let plan? : Option Plan := a.plans[k % a.plans.length]?
  let a := { a with calls := k + 1 }
  match plan? with
  | some (.bank n) => (.ok (.bank k), { a with banks := store k (.new n) a.banks })
  | some (.probe p) => (.ok (.probe k), { a with probes := store k p a.probes })
  | some (.fails text) => (.error (.reported text), a)
  | none => (.error (.reported "no plan"), a)

def device : Name → Device Assortment
  | .bank k => CounterBank.device.within (bank k)
      (fun b a => { a with banks := store k b a.banks }) (fun _ a => a)
  | .probe k => Probe.device.within (probe k)
      (fun p a => { a with probes := store k p a.probes }) (fun _ a => a)

/-- What a scrapped device leaves behind: a probe its final state. -/
def scrap (d : Name) (a : Assortment) : Option Probe × Assortment :=
  match d with
  | .bank k => (none, { a with banks := a.banks.filter (·.1 != k) })
  | .probe k => (some (a.probe k), { a with probes := a.probes.filter (·.1 != k) })

/-- The workshop that follows plans. -/
def workshop : Workshop Assortment Name (Option Probe) where
  make := make
  device := device
  scrap := scrap

end Assortment

end EdgeMeter
