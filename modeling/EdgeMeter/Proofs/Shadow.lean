import EdgeMeter.Proofs.Ledger
import EdgeMeter.Proofs.Passing
import EdgeMeter.Proofs.Series
import EdgeMeter.Proofs.Simulation

/-!
# Instances and their shadows

A model is a counter circuit if its instances behave like a counter with three registers, each for
itself. Beside every instance of such a model we keep a shadow: a bank with one counter that goes
through the calls of that instance and no others. Whatever an instance answers, its shadow answers
too.

* `Registers`, `Entries.Conforms`: what is asked of a counter circuit;
* `shadow`: the bank that went through the calls of one instance;
* `Faithful`: calls with the answers that shadows give;
* `Mirrors`: the invariant between the memory of a model and all calls so far;
* **`Library.device_follows`**: an instance follows its shadow, and the other shadows stay;
* `Rig.mirrors_series`: so it is in a whole series of trials.
-/

namespace EdgeMeter

/-- The bank with one counter, set to `c₀`. -/
def CounterBank.single (c₀ : UInt32) : CounterBank := (CounterBank.new 1).preset 0 c₀

namespace Model

variable {μ : Type}

/-! ## Counter circuits -/

/-- **The registers of an instance**: both pins, the clock as it was when the instance last settled,
and the count. -/
structure Registers where
  clock : UInt8 := 0
  reset : UInt8 := 0
  lastClock : UInt8 := 0
  count : UInt32
deriving DecidableEq

namespace Registers

/-- **Settling**: under reset the count is cleared; otherwise it grows by one if the clock has
risen. -/
def settle (r : Registers) : Registers :=
  { r with
    lastClock := r.clock
    count :=
      if r.reset != 0 then 0
      else if r.clock != 0 && r.lastClock == 0 then r.count + 1
      else r.count }

/-- Registers and a bank in the same state. -/
structure Shows (r : Registers) (b : CounterBank) : Prop where
  clock : b.clock = (r.clock != 0)
  reset : b.reset = (r.reset != 0)
  lastClock : b.lastClock = (r.lastClock != 0)
  count : b.counter? 0 = some r.count

theorem shows_single (c₀ : UInt32) : ({ count := c₀ } : Registers).Shows (.single c₀) := by
  refine ⟨?_, ?_, ?_, ?_⟩
  · rw [CounterBank.single, CounterBank.clock_preset]
    rfl
  · rw [CounterBank.single, CounterBank.reset_preset]
    rfl
  · rw [CounterBank.single, CounterBank.lastClock_preset]
    rfl
  · rw [CounterBank.single, CounterBank.counter?_preset]
    rfl

namespace Shows

variable {r : Registers} {b : CounterBank}

theorem driveClock (h : r.Shows b) (high : Bool) :
    ({ r with clock := Library.levelByte high } : Registers).Shows
      (CounterBank.device.driveClock high b) :=
  ⟨by cases high <;> rfl, h.reset, h.lastClock, h.count⟩

theorem driveReset (h : r.Shows b) (asserted : Bool) :
    ({ r with reset := Library.levelByte asserted } : Registers).Shows
      (CounterBank.device.driveReset asserted b) :=
  ⟨h.clock, by cases asserted <;> rfl, h.lastClock, h.count⟩

theorem settle (h : r.Shows b) : r.settle.Shows b.settle := by
  have hlow : (!b.lastClock) = (r.lastClock == 0) := by
    rw [h.lastClock, bne, Bool.not_not]
  refine ⟨?_, ?_, ?_, ?_⟩
  · rw [CounterBank.clock_settle, h.clock, Registers.settle]
  · rw [CounterBank.reset_settle, h.reset, Registers.settle]
  · rw [CounterBank.lastClock_settle, h.clock, Registers.settle]
  · rw [CounterBank.counter?_settle, h.count, h.reset, h.clock, hlow]
    rfl

theorem first (h : r.Shows b) : b.first = r.count := by
  rw [CounterBank.first, h.count, Option.getD_some]

end Shows

end Registers

/-- One instance in a model's memory goes over to registers `r`, and all others stay as they were;
`view` tells the registers of an instance. -/
structure Becomes (view : Handle → μ → Option Registers) (h : Handle) (m m' : μ)
    (r : Registers) : Prop where
  own : view h m' = some r
  others : ∀ h', h' ≠ h → view h' m' = view h' m

/-- **A model is a counter circuit.** A new instance has a handle that no other has, both pins low
and the count `c₀`; pins keep the byte that they are driven to; the clock is reported by zero when
it is low, and by any other byte when it is high; and nothing that is done to an instance is felt by
another. -/
structure Entries.Conforms (e : Entries μ) (view : Handle → μ → Option Registers)
    (c₀ : UInt32) : Prop where
  new : ∀ m, (e.new m).1 ≠ .null →
    view (e.new m).1 m = none ∧ Becomes view (e.new m).1 m (e.new m).2 { count := c₀ }
  refuse : ∀ m, (e.new m).1 = .null → ∀ h, view h (e.new m).2 = view h m
  free : ∀ {h m r}, view h m = some r → ∀ h', h' ≠ h → view h' (e.free h m).2 = view h' m
  setClk : ∀ high {h m r}, view h m = some r →
    let byte := Library.levelByte high
    Becomes view h m (e.setClk h byte m) { r with clock := byte }
  getClk : ∀ {h m r}, view h m = some r →
    ((e.getClk h m).1 != 0) = (r.clock != 0) ∧ Becomes view h m (e.getClk h m).2 r
  setRst : ∀ asserted {h m r}, view h m = some r →
    let byte := Library.levelByte asserted
    Becomes view h m (e.setRst h byte m) { r with reset := byte }
  eval : ∀ {h m r}, view h m = some r → Becomes view h m (e.eval h m) r.settle
  readOutput : ∀ {h m r}, view h m = some r →
    (e.readOutput h m).1 = r.count ∧ Becomes view h m (e.readOutput h m).2 r

/-! ## Shadows -/

namespace Call

/-- What a call does to a bank in place of the instance. -/
def act : Call → CounterBank → CounterBank
  | setClk _ level => CounterBank.device.driveClock (level != 0)
  | setRst _ level => CounterBank.device.driveReset (level != 0)
  | eval _ => CounterBank.device.settle
  | _ => id

/-- Whether a bank gives the answer that a call gave. -/
def Agrees (b : CounterBank) : Call → Prop
  | getClk _ level => (level != 0) = (CounterBank.device.clockLevel b).1
  | readOutput _ value => value = (CounterBank.device.output b).1
  | _ => True

/-- Whether a call drives pins to the bytes 0 and 1 only. -/
def PassesLevel : Call → Prop
  | setClk _ level => level = 0 ∨ level = 1
  | setRst _ level => level = 0 ∨ level = 1
  | _ => True

end Call

/-- What a call does to the shadow of an instance, if it is a call of that instance. -/
def shadowStep (c₀ : UInt32) (h : Handle) (b : Option CounterBank) (c : Call) :
    Option CounterBank :=
  if c.created? = some h then some (.single c₀)
  else if c.freed? = some h then none
  else if c.carried? = some h then b.map c.act
  else b

/-- **The shadow of an instance** after some calls, as long as it is alive. -/
def shadow (c₀ : UInt32) (h : Handle) (log : List Call) : Option CounterBank :=
  log.foldl (shadowStep c₀ h) none

/-- **Faithful calls** carry handles that have a shadow, and answer as it does. -/
def Faithful (c₀ : UInt32) (log : List Call) : Prop :=
  ∀ before c, before ++ [c] <+: log → ∀ h, c.carried? = some h →
    ∃ b, shadow c₀ h before = some b ∧ c.Agrees b

section Shadow

variable {c₀ : UInt32} {h h' : Handle} {log cs : List Call} {c : Call} {b : CounterBank}

theorem shadow_concat : shadow c₀ h (log ++ [c]) = shadowStep c₀ h (shadow c₀ h log) c := by
  rw [shadow, List.foldl_append]
  rfl

theorem shadow_new (n : Nat) (ne_null : h ≠ .null) :
    shadow c₀ h (log ++ [.new n h]) = some (.single c₀) := by
  have hcreated : (Call.new n h).created? = some h := if_neg ne_null
  rw [shadow_concat, shadowStep, if_pos hcreated]

theorem shadow_uses (hc : c.Uses h) (hb : shadow c₀ h log = some b) :
    shadow c₀ h (log ++ [c]) = some (c.act b) := by
  rw [shadow_concat, shadowStep, hc.created?, hc.2, if_neg nofun, if_neg nofun, if_pos hc.1, hb]
  rfl

/-- The calls of other instances leave a shadow alone. -/
theorem shadow_append_of_ne (hcs : ∀ c ∈ cs, c.created? ≠ some h ∧ c.carried? ≠ some h) :
    shadow c₀ h (log ++ cs) = shadow c₀ h log := by
  induction cs generalizing log with
  | nil => rw [List.append_nil]
  | cons c cs ih =>
    obtain ⟨⟨hcreated, hcarried⟩, hcs⟩ := List.forall_mem_cons.mp hcs
    have hfreed : c.freed? ≠ some h := by
      cases c with
      | free => exact hcarried
      | _ => nofun
    rw [List.append_cons, ih hcs, shadow_concat, shadowStep, if_neg hcreated, if_neg hfreed,
      if_neg hcarried]

theorem shadow_append_uses (ne : h' ≠ h) (uses : ∀ c ∈ cs, c.Uses h) :
    shadow c₀ h' (log ++ cs) = shadow c₀ h' log := by
  refine shadow_append_of_ne fun c hc => ⟨?_, ?_⟩
  · rw [(uses c hc).created?]
    exact nofun
  · rw [(uses c hc).1]
    exact fun hh => ne (Option.some.inj hh).symm

theorem Faithful.concat (hlog : Faithful c₀ log)
    (hc : ∀ h, c.carried? = some h → ∃ b, shadow c₀ h log = some b ∧ c.Agrees b) :
    Faithful c₀ (log ++ [c]) := by
  intro before c' hp
  rcases List.prefix_concat_iff.mp hp with heq | hp
  · obtain ⟨rfl, hc'⟩ := List.append_inj' heq rfl
    obtain rfl := (List.cons.inj hc').1
    exact hc
  · exact hlog before c' hp

end Shadow

/-! ## The memory of a model and its calls -/

/-- **The invariant between the memory of a model and all calls so far**: every shadow shows what
the registers of its instance hold, and all answers were those of shadows. -/
structure Mirrors (view : Handle → μ → Option Registers) (c₀ : UInt32) (g : Guest μ)
    (log : List Call) : Prop where
  recorded : g.calls = ({} : Journal Call).recordAll log
  shows : ∀ {h b}, shadow c₀ h log = some b → ∃ r, view h g.memory = some r ∧ r.Shows b
  faithful : Faithful c₀ log
  levels : ∀ c ∈ log, c.PassesLevel

/-- Every shadow is as it was before. -/
def Spares (c₀ : UInt32) (log log' : List Call) : Prop :=
  ∀ h b, shadow c₀ h log = some b → shadow c₀ h log' = some b

/-- The memory after more calls of an instance, none of them to free it, mirrors them, and its
shadow is `b`. -/
def Reflects (view : Handle → μ → Option Registers) (c₀ : UInt32) (h : Handle) (log : List Call)
    (g : Guest μ) (b : CounterBank) : Prop :=
  ∃ cs, (∀ c ∈ cs, c.Uses h) ∧ Mirrors view c₀ g (log ++ cs) ∧ shadow c₀ h (log ++ cs) = some b

section Mirrors

variable {lib : Library μ} {view : Handle → μ → Option Registers} {c₀ : UInt32} {g : Guest μ}
  {h : Handle} {log : List Call} {b : CounterBank}

theorem mirrors_new (m : μ) : Mirrors view c₀ { memory := m } [] where
  recorded := rfl
  shows := nofun
  faithful := by
    intro before c hp
    cases List.append_ne_nil_of_right_ne_nil before (List.cons_ne_nil c []) (List.prefix_nil.mp hp)
  levels := nofun

theorem Mirrors.use (mirrors : Mirrors view c₀ g log) (hb : shadow c₀ h log = some b) {c : Call}
    (hc : c.Uses h) (agrees : c.Agrees b) (level : c.PassesLevel) {m : μ} {r : Registers}
    (becomes : Becomes view h g.memory m r) (shows : r.Shows (c.act b)) :
    Mirrors view c₀ ({ g with memory := m }.note c) (log ++ [c]) where
  recorded := by
    rw [Journal.recordAll_append, ← mirrors.recorded]
    rfl
  shows := by
    intro h' b' hb'
    by_cases ne : h' = h
    · subst ne
      obtain rfl := Option.some.inj ((shadow_uses hc hb).symm.trans hb')
      exact ⟨r, becomes.own, shows⟩
    · rw [shadow_append_uses ne (List.forall_mem_singleton.mpr hc)] at hb'
      obtain ⟨r', hr', shows'⟩ := mirrors.shows hb'
      exact ⟨r', (becomes.others h' ne).trans hr', shows'⟩
  faithful := by
    refine mirrors.faithful.concat fun h' hh' => ?_
    obtain rfl := Option.some.inj (hc.1.symm.trans hh')
    exact ⟨b, hb, agrees⟩
  levels := List.forall_mem_append.mpr ⟨mirrors.levels, List.forall_mem_singleton.mpr level⟩

theorem Reflects.use (reflects : Reflects view c₀ h log g b) {c : Call} (hc : c.Uses h)
    (agrees : c.Agrees b) (level : c.PassesLevel) {m : μ}
    (becomes : ∀ {r}, view h g.memory = some r → r.Shows b →
      ∃ r', Becomes view h g.memory m r' ∧ r'.Shows (c.act b)) :
    Reflects view c₀ h log ({ g with memory := m }.note c) (c.act b) := by
  obtain ⟨cs, uses, mirrors, hb⟩ := reflects
  obtain ⟨r, hr, shows⟩ := mirrors.shows hb
  obtain ⟨r', becomes', shows'⟩ := becomes hr shows
  refine ⟨cs ++ [c], ?_, ?_, ?_⟩
  · exact List.forall_mem_append.mpr ⟨uses, List.forall_mem_singleton.mpr hc⟩
  · rw [← List.append_assoc]
    exact mirrors.use hb hc agrees level becomes' shows'
  · rw [← List.append_assoc]
    exact shadow_uses hc hb

theorem passesLevel_levelByte (high : Bool) :
    Library.levelByte high = 0 ∨ Library.levelByte high = 1 := by
  cases high
  · exact .inl rfl
  · exact .inr rfl

theorem levelByte_bne_zero (high : Bool) : (Library.levelByte high != 0) = high := by
  cases high <;> rfl

/-- **An instance of a counter circuit follows its shadow.** -/
theorem Library.device_follows (conforms : lib.entries.Conforms view c₀) (h : Handle)
    (log : List Call) :
    (lib.device h).Follows CounterBank.device (Reflects view c₀ h log) where
  driveClock high {g b} reflects := by
    have level := passesLevel_levelByte high
    have hact : (Call.setClk h (levelByte high)).act b = CounterBank.device.driveClock high b := by
      rw [Call.act, levelByte_bne_zero]
    rw [← hact]
    refine reflects.use (c := .setClk h _) ⟨rfl, rfl⟩ trivial level fun hr shows => ?_
    rw [hact]
    exact ⟨_, conforms.setClk high hr, shows.driveClock high⟩
  clockLevel {g b} reflects := by
    have hlevel : ((lib.entries.getClk h g.memory).1 != 0) =
        (CounterBank.device.clockLevel b).1 := by
      obtain ⟨cs, -, mirrors, hb⟩ := reflects
      obtain ⟨r, hr, shows⟩ := mirrors.shows hb
      exact (conforms.getClk hr).1.trans shows.clock.symm
    refine ⟨hlevel, ?_⟩
    exact reflects.use (c := .getClk h _) ⟨rfl, rfl⟩ hlevel trivial fun hr shows =>
      ⟨_, (conforms.getClk hr).2, shows⟩
  driveReset asserted {g b} reflects := by
    have level := passesLevel_levelByte asserted
    have hact : (Call.setRst h (levelByte asserted)).act b =
        CounterBank.device.driveReset asserted b := by
      rw [Call.act, levelByte_bne_zero]
    rw [← hact]
    refine reflects.use (c := .setRst h _) ⟨rfl, rfl⟩ trivial level fun hr shows => ?_
    rw [hact]
    exact ⟨_, conforms.setRst asserted hr, shows.driveReset asserted⟩
  settle {g b} reflects :=
    reflects.use (c := .eval h) ⟨rfl, rfl⟩ trivial trivial fun hr shows =>
      ⟨_, conforms.eval hr, shows.settle⟩
  output {g b} reflects := by
    have hvalue : (lib.entries.readOutput h g.memory).1 = (CounterBank.device.output b).1 := by
      obtain ⟨cs, -, mirrors, hb⟩ := reflects
      obtain ⟨r, hr, shows⟩ := mirrors.shows hb
      exact (conforms.readOutput hr).1.trans shows.first.symm
    refine ⟨hvalue, ?_⟩
    exact reflects.use (c := .readOutput h _) ⟨rfl, rfl⟩ hvalue trivial fun hr shows =>
      ⟨_, (conforms.readOutput hr).2, shows⟩

/-! ## Instances come and go -/

theorem shadow_new_of_ne {h' : Handle} (n : Nat) (ne : h' ≠ h) :
    shadow c₀ h' (log ++ [.new n h]) = shadow c₀ h' log := by
  refine shadow_append_of_ne (List.forall_mem_singleton.mpr ⟨?_, nofun⟩)
  change (if h = .null then none else some h) ≠ some h'
  split
  · exact nofun
  · exact fun hh => ne (Option.some.inj hh).symm

theorem shadow_refused (n : Nat) : shadow c₀ h (log ++ [.new n .null]) = shadow c₀ h log := by
  have hcreated : (Call.new n .null).created? = none := by rw [Call.created?, if_pos rfl]
  have none_ne : none ≠ some h := (Option.some_ne_none h).symm
  refine shadow_append_of_ne (List.forall_mem_singleton.mpr ⟨?_, none_ne⟩)
  rwa [hcreated]

theorem shadow_free : shadow c₀ h (log ++ [.free h]) = none := by
  have hfreed : (Call.free h).freed? = some h := rfl
  rw [shadow_concat, shadowStep, if_neg nofun, if_pos hfreed]

theorem shadow_free_of_ne {h' : Handle} (ne : h' ≠ h) :
    shadow c₀ h' (log ++ [.free h]) = shadow c₀ h' log :=
  shadow_append_of_ne (List.forall_mem_singleton.mpr
    ⟨nofun, fun hh => ne (Option.some.inj hh).symm⟩)

theorem Mirrors.call (mirrors : Mirrors view c₀ g log) {c : Call} (hc : c.carried? = none) {m : μ}
    (shows : ∀ {h b}, shadow c₀ h (log ++ [c]) = some b → ∃ r, view h m = some r ∧ r.Shows b) :
    Mirrors view c₀ ({ g with memory := m }.note c) (log ++ [c]) where
  recorded := by
    rw [Journal.recordAll_append, ← mirrors.recorded]
    rfl
  shows := shows
  faithful := mirrors.faithful.concat fun h hh => by
    rw [hc] at hh
    cases hh
  levels := by
    refine List.forall_mem_append.mpr ⟨mirrors.levels, List.forall_mem_singleton.mpr ?_⟩
    cases c with
    | setClk => cases hc
    | setRst => cases hc
    | _ => trivial

theorem Mirrors.make (conforms : lib.entries.Conforms view c₀) (mirrors : Mirrors view c₀ g log) :
    (∃ n h, h ≠ .null ∧ (lib.make g).1 = .ok h ∧
      Mirrors view c₀ (lib.make g).2 (log ++ [.new n h]) ∧ shadow c₀ h log = none) ∨
    ∃ n, (lib.make g).1 = .error .nullModel ∧
      Mirrors view c₀ (lib.make g).2 (log ++ [.new n .null]) := by
  by_cases hnull : (lib.entries.new g.memory).1 = .null
  · refine .inr ⟨g.tally.new + 1, if_pos hnull, ?_⟩
    rw [← hnull]
    refine mirrors.call rfl fun {h b} hb => ?_
    rw [hnull, shadow_refused] at hb
    obtain ⟨r, hr, shows⟩ := mirrors.shows hb
    exact ⟨r, (conforms.refuse g.memory hnull h).trans hr, shows⟩
  · obtain ⟨fresh, becomes⟩ := conforms.new g.memory hnull
    refine .inl ⟨g.tally.new + 1, _, hnull, if_neg hnull, ?_, ?_⟩
    · refine mirrors.call rfl fun {h b} hb => ?_
      by_cases ne : h = (lib.entries.new g.memory).1
      · subst ne
        rw [shadow_new _ hnull] at hb
        obtain rfl := Option.some.inj hb
        exact ⟨_, becomes.own, Registers.shows_single c₀⟩
      · rw [shadow_new_of_ne _ ne] at hb
        obtain ⟨r, hr, shows⟩ := mirrors.shows hb
        exact ⟨r, (becomes.others h ne).trans hr, shows⟩
    · cases hshadow : shadow c₀ (lib.entries.new g.memory).1 log with
      | none => rfl
      | some b =>
        obtain ⟨r, hr, -⟩ := mirrors.shows hshadow
        rw [fresh] at hr
        cases hr

theorem Mirrors.free (conforms : lib.entries.Conforms view c₀) (mirrors : Mirrors view c₀ g log)
    (hb : shadow c₀ h log = some b) : Mirrors view c₀ (lib.free h g).2 (log ++ [.free h]) where
  recorded := by
    rw [Journal.recordAll_append, ← mirrors.recorded]
    rfl
  shows := by
    intro h' b' hb'
    obtain ⟨r, hr, -⟩ := mirrors.shows hb
    by_cases ne : h' = h
    · subst ne
      rw [shadow_free] at hb'
      cases hb'
    · rw [shadow_free_of_ne ne] at hb'
      obtain ⟨r', hr', shows'⟩ := mirrors.shows hb'
      exact ⟨r', (conforms.free hr h' ne).trans hr', shows'⟩
  faithful := by
    refine mirrors.faithful.concat fun h' hh' => ?_
    obtain rfl := Option.some.inj hh'
    exact ⟨b, hb, trivial⟩
  levels := List.forall_mem_append.mpr ⟨mirrors.levels, List.forall_mem_singleton.mpr trivial⟩

/-- The arguments of the program are no concern of the instances. -/
def Entries.ParsesApart (e : Entries μ) (view : Handle → μ → Option Registers) : Prop :=
  ∀ parse, e.commandArgs = some parse → ∀ argv m h, view h (parse argv m).2 = view h m

theorem Mirrors.passCounted (apart : lib.entries.ParsesApart view)
    (mirrors : Mirrors view c₀ g log) (arguments : List String) :
    ∃ log', Mirrors view c₀ (lib.passCounted arguments g).2 log' ∧ Spares c₀ log log' := by
  obtain ⟨-, hpassed⟩ | ⟨parse, takes, ⟨-, hpassed⟩ | ⟨f, -, hpassed⟩⟩ :=
    lib.passCounted_cases g arguments
  all_goals rw [hpassed]
  · exact ⟨log, mirrors, fun _ _ hb => hb⟩
  · let argv := arguments.map Arguments.terminated
    have stays : ∀ h, shadow c₀ h (log ++ [.commandArgs argv]) = shadow c₀ h log := fun h =>
      shadow_append_of_ne (List.forall_mem_singleton.mpr ⟨nofun, nofun⟩)
    refine ⟨log ++ [.commandArgs argv], ?_, fun h b hb => (stays h).trans hb⟩
    refine mirrors.call rfl fun {h b} hb => ?_
    rw [stays] at hb
    obtain ⟨r, hr, shows⟩ := mirrors.shows hb
    exact ⟨r, (apart parse takes argv g.memory h).trans hr, shows⟩
  · exact ⟨log, mirrors, fun _ _ hb => hb⟩

end Mirrors

end Model

/-! ## Series of trials -/

open Model

namespace Rig

variable {μ κ τ ω : Type} {lib : Library μ} {view : Handle → μ → Option Registers} {c₀ : UInt32}
  (rig : Rig (Guest μ) Handle (List String) κ τ ω)

theorem mirrors_trial (hrig : rig.workshop = lib.workshop)
    (conforms : lib.entries.Conforms view c₀) (s : Scenario)
    {b : Bench (Guest μ) Handle (List String) κ τ ω} {log : List Call}
    (mirrors : Mirrors view c₀ b.floor log) :
    ∃ log', Mirrors view c₀ (rig.trial s b).2.floor log' ∧ Spares c₀ log log' := by
  rcases rig.trial_cases s b with ⟨f, x, hmake, ht⟩ | ⟨h, x, es, r, out, hmake, -, ht⟩
  · replace hmake : lib.make b.floor = (.error f, x) := by rw [← hmake, hrig]; rfl
    rcases mirrors.make conforms with ⟨n, h, -, hh, -, -⟩ | ⟨n, -, made⟩
    · rw [hmake] at hh
      cases hh
    · rw [hmake] at made
      rw [ht]
      refine ⟨_, made, fun h b hb => ?_⟩
      rwa [shadow_refused]
  · replace hmake : lib.make b.floor = (.ok h, x) := by rw [← hmake, hrig]; rfl
    rcases mirrors.make conforms with ⟨n, h', ne_null, hh, made, fresh⟩ | ⟨n, hh, -⟩
    · rw [hmake] at hh made
      obtain rfl := Except.ok.inj hh
      -- from here on only the new instance is called, and its shadow ends with it
      have start : Reflects view c₀ h (log ++ [.new n h]) x (.single c₀) :=
        ⟨[], nofun, by rwa [List.append_nil], by rw [List.append_nil, shadow_new n ne_null]⟩
      obtain ⟨cs, uses, driven, hb⟩ := (Library.device_follows conforms h _).driven s start
      rw [ht, hrig]
      refine ⟨_, driven.free conforms hb, fun h' b' hb' => ?_⟩
      have ne : h' ≠ h := by
        rintro rfl
        rw [fresh] at hb'
        cases hb'
      rw [shadow_free_of_ne ne, shadow_append_uses ne uses, shadow_new_of_ne n ne, hb']
    · rw [hmake] at hh
      cases hh

/-- **A series of trials spares all instances but its own.** -/
theorem mirrors_series (hrig : rig.workshop = lib.workshop)
    (conforms : lib.entries.Conforms view c₀) (scenarios : List Scenario)
    {b : Bench (Guest μ) Handle (List String) κ τ ω} {log : List Call}
    (mirrors : Mirrors view c₀ b.floor log) :
    ∃ log', Mirrors view c₀ (rig.series scenarios b).2.floor log' ∧ Spares c₀ log log' := by
  induction scenarios generalizing b log with
  | nil =>
    rw [series_nil]
    exact ⟨log, mirrors, fun _ _ hb => hb⟩
  | cons s rest ih =>
    obtain ⟨log₁, mirrors₁, spares₁⟩ := mirrors_trial rig hrig conforms s mirrors
    rcases ht : rig.trial s b with ⟨f | m, b₁⟩
    · rw [rig.series_cons_of_error ht]
      rw [ht] at mirrors₁
      exact ⟨log₁, mirrors₁, spares₁⟩
    · rw [rig.series_cons_of_ok ht]
      rw [ht] at mirrors₁
      obtain ⟨log₂, mirrors₂, spares₂⟩ := ih mirrors₁
      exact ⟨log₂, mirrors₂, fun h b hb => spares₂ h b (spares₁ h b hb)⟩

end Rig

end EdgeMeter
