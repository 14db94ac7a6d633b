import EdgeMeter.Proofs.Circuits
import EdgeMeter.Proofs.Counting

/-!
# What a reset leaves

The reset sequence leaves every bank as a new one, whatever it held and however its pins were driven
before. The same holds for an instance of a counter circuit: it answers as a new bank with one
counter does, whatever is asked of other instances in between.

* `CounterBank.reset_eq_new`, `CounterBank.Cleared`: a bank after its reset;
* `Model.Stands`, `Model.Library.device_stands`: an instance follows a bank, and all others stay as
  they are;
* `Model.Library.performEach`, `Model.Handle.own`: operations on many instances, and those on one;
* `Model.Library.own_performEach`: the replies of one instance are those of its bank;
* `Model.Library.Cleared`: an instance after its reset;
* **`reset_erases`**: two devices are alike once they are reset.
-/

namespace EdgeMeter

/-! ## Banks -/

namespace CounterBank

/-- **A bank after its reset is new.** -/
theorem reset_eq_new (b : CounterBank) : device.reset b = new b.size := by
  obtain ⟨size, clock, reset, lastClock, rises, ahead⟩ := b
  rfl

theorem values_eq_replicate {b : CounterBank} {v : UInt32}
    (h : ∀ i < b.size, b.counter? i = some v) : b.values = List.replicate b.size v := by
  refine List.eq_replicate_iff.mpr ⟨by simp [values], fun w hw => ?_⟩
  obtain ⟨i, hi, rfl⟩ := List.mem_map.mp hw
  have hlt : i < b.size := List.mem_range.mp hi
  have hv := h i hlt
  rw [counter?, if_pos hlt] at hv
  exact Option.some.inj hv

theorem values_edge_new (n : ℕ) : (device.edge (new n)).values = List.replicate n 1 := by
  refine values_eq_replicate (b := device.edge (new n)) fun i hi => ?_
  have hlt : i < n := hi
  have hzero : counter? { new n with clock := true } i = some 0 :=
    (counter?_new n i).trans (if_pos hlt)
  change (settle { new n with clock := true }).counter? i = some 1
  rw [counter?_settle, hzero]
  rfl

/-- **A bank after its reset**: everything is low and zero, and the next edge is a rising one and
counts once. -/
structure Cleared (b : CounterBank) : Prop where
  clock : b.clock = false
  reset : b.reset = false
  lastClock : b.lastClock = false
  values : b.values = List.replicate b.size 0
  risen : (device.edge b).values = List.replicate b.size 1

theorem cleared_new (n : ℕ) : (new n).Cleared where
  clock := rfl
  reset := rfl
  lastClock := rfl
  values := values_eq_replicate (b := new n) fun i hi => (counter?_new n i).trans (if_pos hi)
  risen := values_edge_new n

end CounterBank

namespace Model

variable {μ α : Type}

/-! ## Registers -/

/-- A bank in the state of some registers. -/
def Registers.bank (r : Registers) : CounterBank where
  size := 1
  clock := r.clock != 0
  reset := r.reset != 0
  lastClock := r.lastClock != 0
  rises := r.count

theorem Registers.shows_bank (r : Registers) : r.Shows r.bank where
  clock := rfl
  reset := rfl
  lastClock := rfl
  count := by simp [bank, CounterBank.counter?, CounterBank.valueAt, CounterBank.lookAhead]

theorem Registers.Shows.eq_of_new {r : Registers} (h : r.Shows (.new 1)) : r = { count := 0 } := by
  obtain ⟨clock, reset, lastClock, count⟩ := r
  have hclock : clock = 0 := bne_eq_false_iff_eq.mp h.clock.symm
  have hreset : reset = 0 := bne_eq_false_iff_eq.mp h.reset.symm
  have hlast : lastClock = 0 := bne_eq_false_iff_eq.mp h.lastClock.symm
  have hcount : count = 0 := Option.some.inj h.count.symm
  rw [hclock, hreset, hlast, hcount]

/-! ## Instances -/

/-- An instance stands as a bank does, and all others as they did in memory `m₀`. -/
structure Stands (view : Handle → μ → Option Registers) (m₀ : μ) (h : Handle) (g : Guest μ)
    (b : CounterBank) : Prop where
  shows : ∃ r, view h g.memory = some r ∧ r.Shows b
  others : ∀ h', h' ≠ h → view h' g.memory = view h' m₀

section Conforms

variable {lib : Library μ} {view : Handle → μ → Option Registers} {c₀ : UInt32} {g : Guest μ}
  {m₀ : μ} {h : Handle} {r : Registers} {b : CounterBank}

theorem stands_bank (hr : view h g.memory = some r) : Stands view g.memory h g r.bank :=
  ⟨⟨r, hr, r.shows_bank⟩, fun _ _ => rfl⟩

theorem Stands.use (stands : Stands view m₀ h g b) {c : Call} {m : μ} {b' : CounterBank}
    (becomes : ∀ {r}, view h g.memory = some r → r.Shows b →
      ∃ r', Becomes view h g.memory m r' ∧ r'.Shows b') :
    Stands view m₀ h ({ g with memory := m }.note c) b' := by
  obtain ⟨⟨r, hr, shows⟩, others⟩ := stands
  obtain ⟨r', becomes', shows'⟩ := becomes hr shows
  exact ⟨⟨r', becomes'.own, shows'⟩, fun h' ne => (becomes'.others h' ne).trans (others h' ne)⟩

theorem Library.device_stands (conforms : lib.entries.Conforms view c₀) (m₀ : μ) (h : Handle) :
    (lib.device h).Follows CounterBank.device (Stands view m₀ h) where
  driveClock high {_ _} stands := stands.use fun hr shows =>
    ⟨_, conforms.setClk high hr, shows.driveClock high⟩
  clockLevel {_ _} stands := by
    obtain ⟨r, hr, shows⟩ := stands.shows
    exact ⟨(conforms.getClk hr).1.trans shows.clock.symm,
      stands.use fun hr shows => ⟨_, (conforms.getClk hr).2, shows⟩⟩
  driveReset asserted {_ _} stands := stands.use fun hr shows =>
    ⟨_, conforms.setRst asserted hr, shows.driveReset asserted⟩
  settle {_ _} stands := stands.use fun hr shows => ⟨_, conforms.eval hr, shows.settle⟩
  output {_ _} stands := by
    obtain ⟨r, hr, shows⟩ := stands.shows
    exact ⟨(conforms.readOutput hr).1.trans shows.first.symm,
      stands.use fun hr shows => ⟨_, (conforms.readOutput hr).2, shows⟩⟩

theorem Library.stands_reset (conforms : lib.entries.Conforms view c₀)
    (hr : view h g.memory = some r) :
    Stands view g.memory h ((lib.device h).reset g) (.new 1) := by
  have stands := (lib.device_stands conforms g.memory h).reset (stands_bank hr)
  rwa [CounterBank.reset_eq_new] at stands

end Conforms

/-! ## Operations on many instances -/

/-- The entries of a list that belong to one instance. -/
def Handle.own (h : Handle) (l : List (Handle × α)) : List α := (l.filter (·.1 = h)).map (·.2)

theorem Handle.own_cons_self (h : Handle) (a : α) (l : List (Handle × α)) :
    h.own ((h, a) :: l) = a :: h.own l := by
  simp [own]

theorem Handle.own_cons_of_ne {h k : Handle} (ne : k ≠ h) (a : α) (l : List (Handle × α)) :
    h.own ((k, a) :: l) = h.own l := by
  simp [own, ne]

/-- Operations on instances, in order, each with its reply. -/
def Library.performEach (lib : Library μ) :
    List (Handle × Operation) → Guest μ → List (Handle × Reply) × Guest μ
  | [], g => ([], g)
  | (h, op) :: rest, g =>
    let (reply, g) := (lib.device h).perform op g
    let (replies, g) := lib.performEach rest g
    ((h, reply) :: replies, g)

/-- All operations are on instances that are there. -/
def Served (view : Handle → μ → Option Registers) (g : Guest μ)
    (schedule : List (Handle × Operation)) : Prop :=
  ∀ p ∈ schedule, ∃ r, view p.1 g.memory = some r

section Conforms

variable {lib : Library μ} {view : Handle → μ → Option Registers} {c₀ : UInt32} {g : Guest μ}
  {h k : Handle} {r : Registers} {b : CounterBank}

theorem Library.perform_others (conforms : lib.entries.Conforms view c₀)
    (hr : view k g.memory = some r) (op : Operation) :
    (∃ r', view k ((lib.device k).perform op g).2.memory = some r') ∧
      ∀ h, h ≠ k → view h ((lib.device k).perform op g).2.memory = view h g.memory := by
  obtain ⟨⟨r', hr', -⟩, others⟩ :=
    ((lib.device_stands conforms g.memory k).perform op (stands_bank hr)).2
  exact ⟨⟨r', hr'⟩, others⟩

theorem Served.perform (conforms : lib.entries.Conforms view c₀) {op : Operation}
    {rest : List (Handle × Operation)} (served : Served view g ((k, op) :: rest)) :
    Served view ((lib.device k).perform op g).2 rest := by
  intro p hp
  obtain ⟨r, hr⟩ := served _ List.mem_cons_self
  obtain ⟨own, others⟩ := Library.perform_others conforms hr op
  by_cases hk : p.1 = k
  · rw [hk]
    exact own
  · rw [others _ hk]
    exact served p (List.mem_cons_of_mem _ hp)

/-- **The replies of one instance are those of a bank** that it stands as, whatever is asked of
other instances in between. -/
theorem Library.own_performEach (conforms : lib.entries.Conforms view c₀)
    {schedule : List (Handle × Operation)} (served : Served view g schedule)
    (shows : ∃ r, view h g.memory = some r ∧ r.Shows b) :
    h.own (lib.performEach schedule g).1 =
      (CounterBank.device.performAll (h.own schedule) b).1 := by
  induction schedule generalizing g b with
  | nil => rfl
  | cons p rest ih =>
    obtain ⟨k, op⟩ := p
    have hrest := served.perform conforms
    by_cases hk : k = h
    · subst hk
      have stands : Stands view g.memory k g b := ⟨shows, fun _ _ => rfl⟩
      obtain ⟨hreply, hop⟩ := (lib.device_stands conforms g.memory k).perform op stands
      rw [performEach, Handle.own_cons_self, Handle.own_cons_self, ih hrest hop.shows, hreply]
      rfl
    · obtain ⟨r, hr⟩ := served _ List.mem_cons_self
      obtain ⟨-, others⟩ := perform_others conforms hr op
      rw [performEach, Handle.own_cons_of_ne hk, Handle.own_cons_of_ne hk]
      refine ih hrest ?_
      rwa [others h (Ne.symm hk)]

end Conforms

/-! ## After a reset -/

/-- **An instance after its reset**: everything is low and zero, and the next edge is a rising one
and counts once. -/
structure Library.Cleared (lib : Library μ) (view : Handle → μ → Option Registers) (h : Handle)
    (g : Guest μ) : Prop where
  registers : view h g.memory = some { count := 0 }
  risen : view h ((lib.device h).edge g).memory = some { clock := 1, lastClock := 1, count := 1 }

section Conforms

variable {lib : Library μ} {view : Handle → μ → Option Registers} {c₀ : UInt32} {g : Guest μ}
  {h h' : Handle} {r r' : Registers}

theorem Library.cleared_of_shows (conforms : lib.entries.Conforms view c₀)
    (shows : ∃ r, view h g.memory = some r ∧ r.Shows (.new 1)) : lib.Cleared view h g := by
  obtain ⟨r, hr, shows⟩ := shows
  rw [shows.eq_of_new] at hr
  obtain ⟨hlow, asked⟩ := conforms.getClk hr
  have hlevel : (!((lib.entries.getClk h g.memory).1 != 0)) = true := by rw [hlow]; rfl
  have driven := (conforms.setClk true asked.own).own
  have settled := (conforms.eval driven).own
  refine ⟨hr, ?_⟩
  change view h (lib.entries.eval h (lib.entries.setClk h
    (levelByte !((lib.entries.getClk h g.memory).1 != 0)) _)) = _
  rw [hlevel]
  exact settled

theorem Library.shows_reset_reset (conforms : lib.entries.Conforms view c₀) (ne : h ≠ h')
    (hr : view h g.memory = some r) (hr' : view h' g.memory = some r') :
    let both := (lib.device h').reset ((lib.device h).reset g)
    (∃ r, view h both.memory = some r ∧ r.Shows (.new 1)) ∧
      ∃ r, view h' both.memory = some r ∧ r.Shows (.new 1) := by
  intro both
  have first := stands_reset conforms hr
  have second : Stands view _ h' both (.new 1) :=
    stands_reset conforms ((first.others h' (Ne.symm ne)).trans hr')
  refine ⟨?_, second.shows⟩
  rw [second.others h ne]
  exact first.shows

end Conforms

end Model

open Model

/-- **Reset erases all history** of a bank and of an instance of a counter circuit: both answer as
new ones do, and the next edge counts once. -/
theorem reset_erases :
    (∀ b b' : CounterBank, b.size = b'.size →
      let rested := CounterBank.device.reset b
      let rested' := CounterBank.device.reset b'
      rested = rested' ∧ rested.Cleared ∧
      (∀ ops, (CounterBank.device.performAll ops rested).1 =
        (CounterBank.device.performAll ops rested').1) ∧
      ∀ history, (rested.run history).values = (rested'.run history).values) ∧
    ∀ {μ : Type} (lib : Library μ) (view : Handle → μ → Option Registers) (c₀ : UInt32),
      lib.entries.Conforms view c₀ → ∀ {g g' : Guest μ} {h h' : Handle} {r r' : Registers},
      view h g.memory = some r → view h' g'.memory = some r' →
      (let rested := (lib.device h).reset g
        let rested' := (lib.device h').reset g'
        lib.Cleared view h rested ∧ lib.Cleared view h' rested' ∧
        ∀ schedule schedule', Served view rested schedule → Served view rested' schedule' →
          h.own schedule = h'.own schedule' →
          h.own (lib.performEach schedule rested).1 =
            h'.own (lib.performEach schedule' rested').1) ∧
      (g = g' → h ≠ h' →
        let both := (lib.device h').reset ((lib.device h).reset g)
        lib.Cleared view h both ∧ lib.Cleared view h' both ∧
        ∀ schedule, Served view both schedule → h.own schedule = h'.own schedule →
          h.own (lib.performEach schedule both).1 = h'.own (lib.performEach schedule both).1) := by
  refine ⟨fun b b' hsize => ?_, fun lib view c₀ conforms g g' h h' r r' hr hr' => ⟨?_, ?_⟩⟩
  · intro rested rested'
    have hnew : rested = .new b.size := b.reset_eq_new
    have hsame : rested = rested' := by rw [hnew, hsize]; exact b'.reset_eq_new.symm
    refine ⟨hsame, ?_, ?_, ?_⟩
    · rw [hnew]
      exact CounterBank.cleared_new b.size
    · intro ops
      rw [hsame]
    · intro history
      rw [hsame]
  · intro rested rested'
    have shows := (Library.stands_reset conforms hr).shows
    have shows' := (Library.stands_reset conforms hr').shows
    refine ⟨Library.cleared_of_shows conforms shows, Library.cleared_of_shows conforms shows', ?_⟩
    intro schedule schedule' served served' hown
    rw [Library.own_performEach conforms served shows,
      Library.own_performEach conforms served' shows', hown]
  · rintro rfl ne both
    obtain ⟨shows, shows'⟩ := Library.shows_reset_reset conforms ne hr hr'
    refine ⟨Library.cleared_of_shows conforms shows, Library.cleared_of_shows conforms shows', ?_⟩
    intro schedule served hown
    rw [Library.own_performEach conforms served shows,
      Library.own_performEach conforms served shows', hown]

/-- Banks and instances that were left in the middle of an edge, under reset or with a clock not
seen yet, begin anew. -/
theorem reset_erases_half_driven :
    let v : Circuit.Variant :=
      { start := { count := 7 }, report := fun high => if high then 128 else 0 }
    let b : CounterBank := { size := 2, clock := true, rises := 9, ahead := [(1, 4)] }
    let b' : CounterBank := { size := 2, reset := true, lastClock := true }
    CounterBank.device.reset b = CounterBank.device.reset b' ∧
    ∃ entries, (v.exports "absent").resolve = .ok entries ∧
      let lib : Library Circuit.Memory := ⟨[], entries⟩
      let made := (lib.make (lib.make { memory := {} }).2).2
      let g := (lib.device ⟨2⟩).driveReset true ((lib.device ⟨1⟩).driveClock true made)
      let both := (lib.device ⟨2⟩).reset ((lib.device ⟨1⟩).reset g)
      let schedule : List (Handle × Operation) :=
        [(⟨1⟩, .edges 3), (⟨2⟩, .edges 3), (⟨2⟩, .output), (⟨1⟩, .output)]
      Circuit.Memory.registers? ⟨1⟩ g.memory = some { clock := 1, count := 7 } ∧
      Circuit.Memory.registers? ⟨2⟩ g.memory = some { reset := 1, count := 7 } ∧
      lib.Cleared Circuit.Memory.registers? ⟨1⟩ both ∧
      lib.Cleared Circuit.Memory.registers? ⟨2⟩ both ∧
      Handle.own ⟨1⟩ (lib.performEach schedule both).1 =
        Handle.own ⟨2⟩ (lib.performEach schedule both).1 ∧
      Handle.own ⟨1⟩ (lib.performEach schedule both).1 = [.done, .word 2] := by
  intro v b b'
  have counts : v.Counts 7 := ⟨rfl, rfl, by decide, rfl, rfl, rfl⟩
  rcases (v.exports "absent").resolve_cases with ⟨entries, resolved, provides⟩ | ⟨_, _, missing, -⟩
  case inr => cases missing
  refine ⟨(reset_erases.1 b b' rfl).1, entries, resolved, ?_⟩
  intro lib made g both schedule
  have conforms : lib.entries.Conforms _ 7 := Circuit.Variant.conforms counts provides
  obtain rfl := Except.ok.inj resolved
  have hr : Circuit.Memory.registers? ⟨1⟩ g.memory = some { clock := 1, count := 7 } := rfl
  have hr' : Circuit.Memory.registers? ⟨2⟩ g.memory = some { reset := 1, count := 7 } := rfl
  have ne : (⟨1⟩ : Handle) ≠ ⟨2⟩ := by decide
  obtain ⟨cleared, cleared', replies⟩ := (reset_erases.2 lib _ 7 conforms hr hr').2 rfl ne
  have first : ∃ r, Circuit.Memory.registers? ⟨1⟩ both.memory = some r := ⟨_, cleared.registers⟩
  have second : ∃ r, Circuit.Memory.registers? ⟨2⟩ both.memory = some r :=
    ⟨_, cleared'.registers⟩
  have served : Served Circuit.Memory.registers? both schedule :=
    List.forall_mem_cons.mpr ⟨first, List.forall_mem_cons.mpr ⟨second,
      List.forall_mem_cons.mpr ⟨second, List.forall_mem_singleton.mpr first⟩⟩⟩
  have hown : Handle.own ⟨1⟩ schedule = Handle.own ⟨2⟩ schedule := rfl
  have hwords : Handle.own ⟨1⟩ (lib.performEach schedule both).1 = [.done, .word 2] := by
    decide +kernel
  exact ⟨hr, hr', cleared, cleared', replies schedule served hown, hwords⟩

end EdgeMeter
