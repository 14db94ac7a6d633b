import EdgeMeter.Proofs.Lifetimes
import EdgeMeter.Proofs.Shadow

/-!
# What a trial reads

A counter that is cleared and then driven for `k` edges has counted every other edge, the first one
included. No trial has edges enough for a counter of 32 bits to wrap, so what it reads are these
numbers, whatever state its device was in before reset.

* `EdgeCount`: a count of edges that never runs out of numbers; `EdgeCount.after`: what it is after
  some edges;
* `Device.Counts`: a device shows a count of edges, as long as that fits a word;
* `CounterBank.counts`, `Probe.counts`, `Library.counts`: banks, probes whose clock is not stuck,
  and instances of counter circuits do, even if they cannot count beyond the largest word;
* `Signal.samples`: the reads in some signals, with the settlings before each;
* **`Rig.trial_counted`**: what a trial reads, on any device of these kinds in any state.
-/

namespace EdgeMeter

variable {σ δ ρ κ τ ω μ α β : Type}

/-! ## Counting without a bound -/

/-- **A count of edges** that never runs out of numbers: only those that rise are counted. -/
structure EdgeCount where
  clock : Bool
  reset : Bool
  /-- The clock as it was at the last settling. -/
  lastClock : Bool
  count : Nat

namespace EdgeCount

def settle (c : EdgeCount) : EdgeCount :=
  { c with
    lastClock := c.clock
    count := if c.reset then 0 else if c.clock && !c.lastClock then c.count + 1 else c.count }

/-- **The count after reset and `k` edges**: half of them have risen, the first one included. -/
def after (k : Nat) : EdgeCount where
  clock := k % 2 = 1
  reset := false
  lastClock := k % 2 = 1
  count := (k + 1) / 2

/-- The count that a counter of 32 bits shows. -/
def ofWord (clock reset lastClock : Bool) (count : UInt32) : EdgeCount :=
  ⟨clock, reset, lastClock, count.toNat⟩

theorem settle_after (k : Nat) :
    ({ after k with clock := !(after k).clock } : EdgeCount).settle = after (k + 1) := by
  rcases Nat.mod_two_eq_zero_or_one k with hk | hk
  · have hnext : (k + 1) % 2 = 1 := by omega
    have hcount : (k + 1) / 2 + 1 = (k + 1 + 1) / 2 := by omega
    simp [settle, after, hk, hnext, hcount]
  · have hnext : (k + 1) % 2 = 0 := by omega
    have hcount : (k + 1) / 2 = (k + 1 + 1) / 2 := by omega
    simp [settle, after, hk, hnext, hcount]

/-- A word goes along with a count until it is the largest. -/
theorem settle_ofWord {clock reset lastClock : Bool} {v : UInt32}
    (h : (ofWord clock reset lastClock v).settle.count < UInt32.size) :
    (ofWord clock reset lastClock v).settle = ofWord clock reset clock
      (if reset then 0 else if clock && !lastClock then v + 1 else v) := by
  cases reset
  · by_cases rises : (clock && !lastClock) = true
    · have hcount : v.toNat + 1 < UInt32.size := by
        simpa [settle, ofWord, rises] using h
      have hv : (v + 1).toNat = v.toNat + 1 := by
        rw [UInt32.toNat_add]
        exact Nat.mod_eq_of_lt hcount
      simp [settle, ofWord, rises, hv]
    · simp [settle, ofWord, rises]
  · rfl

end EdgeCount

/-! ## Devices that count -/

/-- **A device shows a count** by the relation `shows`: its pins do what those of a count do, as
long as the count fits a word. What it does at larger counts is left open. -/
structure Device.Counts (dev : Device σ) (shows : σ → EdgeCount → Prop) : Prop where
  driveClock : ∀ high {x c}, shows x c → shows (dev.driveClock high x) { c with clock := high }
  clockLevel : ∀ {x c}, shows x c →
    (dev.clockLevel x).1 = c.clock ∧ shows (dev.clockLevel x).2 c
  driveReset : ∀ asserted {x c}, shows x c →
    shows (dev.driveReset asserted x) { c with reset := asserted }
  settle : ∀ {x c}, shows x c → c.settle.count < UInt32.size → shows (dev.settle x) c.settle
  output : ∀ {x c}, shows x c → (dev.output x).1.toNat = c.count ∧ shows (dev.output x).2 c

namespace Device.Counts

variable {dev : Device σ} {shows : σ → EdgeCount → Prop} {x : σ} {c : EdgeCount} {k : Nat}

theorem reset (counts : dev.Counts shows) (hx : shows x c) :
    shows (dev.reset x) (EdgeCount.after 0) := by
  have fits : 0 < UInt32.size := by decide
  have asserted := counts.settle (counts.driveClock false (counts.driveReset true hx)) fits
  have clocked := counts.settle (counts.driveClock true asserted) fits
  have lowered := counts.settle (counts.driveClock false clocked) fits
  exact counts.settle (counts.driveReset false lowered) fits

theorem edge (counts : dev.Counts shows) (hx : shows x (.after k))
    (hk : k + 2 < 2 * UInt32.size) : shows (dev.edge x) (.after (k + 1)) := by
  obtain ⟨hlevel, hasked⟩ := counts.clockLevel hx
  change shows (dev.settle (dev.driveClock (!(dev.clockLevel x).1) (dev.clockLevel x).2)) _
  have fits : (EdgeCount.after (k + 1)).count < UInt32.size := by
    change (k + 1 + 1) / 2 < _
    omega
  rw [← EdgeCount.settle_after] at fits ⊢
  rw [hlevel]
  exact counts.settle (counts.driveClock _ hasked) fits

theorem timedEdge (counts : dev.Counts shows) (sampled : Bool) (hx : shows x (.after k))
    (hk : k + 2 < 2 * UInt32.size) : shows (dev.timedEdge sampled x) (.after (k + 1)) := by
  unfold Device.timedEdge
  split
  · exact (counts.output (counts.edge hx hk)).2
  · exact counts.edge hx hk

theorem times {f : σ → σ} (hx : shows x (.after k)) (hf : ∀ {x k}, shows x (.after k) →
      k + 2 < 2 * UInt32.size → shows (f x) (.after (k + 1))) (n : Nat)
    (hk : k + n + 1 < 2 * UInt32.size) : shows (times n f x) (.after (k + n)) := by
  induction n generalizing x k with
  | zero => exact hx
  | succ n ih =>
    have hstep : shows (f x) (.after (k + 1)) := hf hx (by omega)
    have hrest := ih hstep (by omega)
    rwa [Nat.add_assoc, Nat.add_comm 1 n] at hrest

theorem output_after (counts : dev.Counts shows) (hx : shows x (.after k)) :
    (dev.output x).1.toNat = (k + 1) / 2 := (counts.output hx).1

theorem of_follows {dev : Device α} {model : Device β} {R : α → β → Prop}
    {shows : β → EdgeCount → Prop} (counts : model.Counts shows) (follows : dev.Follows model R) :
    dev.Counts fun x c => ∃ y, R x y ∧ shows y c where
  driveClock high {_ _} := by
    rintro ⟨y, hxy, hy⟩
    exact ⟨_, follows.driveClock high hxy, counts.driveClock high hy⟩
  clockLevel {_ _} := by
    rintro ⟨y, hxy, hy⟩
    obtain ⟨hlevel, hasked⟩ := follows.clockLevel hxy
    obtain ⟨hlevel', hasked'⟩ := counts.clockLevel hy
    exact ⟨hlevel.trans hlevel', _, hasked, hasked'⟩
  driveReset asserted {_ _} := by
    rintro ⟨y, hxy, hy⟩
    exact ⟨_, follows.driveReset asserted hxy, counts.driveReset asserted hy⟩
  settle {_ _} := by
    rintro ⟨y, hxy, hy⟩ fits
    exact ⟨_, follows.settle hxy, counts.settle hy fits⟩
  output {_ _} := by
    rintro ⟨y, hxy, hy⟩
    obtain ⟨hvalue, hread⟩ := follows.output hxy
    obtain ⟨hvalue', hread'⟩ := counts.output hy
    exact ⟨(congrArg UInt32.toNat hvalue).trans hvalue', _, hread, hread'⟩

end Device.Counts

/-! ## Banks, probes and instances -/

theorem CounterBank.counts : CounterBank.device.Counts fun b c =>
    ∃ v, b.counter? 0 = some v ∧ c = .ofWord b.clock b.reset b.lastClock v where
  driveClock high {_ _} := by
    rintro ⟨v, hv, rfl⟩
    exact ⟨v, hv, rfl⟩
  clockLevel {_ _} := by
    rintro ⟨v, hv, rfl⟩
    exact ⟨rfl, v, hv, rfl⟩
  driveReset asserted {_ _} := by
    rintro ⟨v, hv, rfl⟩
    exact ⟨v, hv, rfl⟩
  settle {b _} := by
    rintro ⟨v, hv, rfl⟩ fits
    have hcounter : b.settle.counter? 0 = some _ := (b.counter?_settle 0).trans (congrArg _ hv)
    refine ⟨_, hcounter, (EdgeCount.settle_ofWord fits).trans ?_⟩
    change _ = EdgeCount.ofWord b.settle.clock b.settle.reset b.settle.lastClock _
    rw [clock_settle, reset_settle, lastClock_settle]
  output {b _} := by
    rintro ⟨v, hv, rfl⟩
    refine ⟨?_, v, hv, rfl⟩
    change ((b.counter? 0).getD 0).toNat = _
    rw [hv]
    rfl

theorem Probe.counts : Probe.device.Counts fun p c =>
    p.stuck = none ∧ c = .ofWord p.clock p.reset p.lastClock p.count where
  driveClock high {_ _} := by
    rintro ⟨truthful, rfl⟩
    exact ⟨truthful, rfl⟩
  clockLevel {p _} := by
    rintro ⟨truthful, rfl⟩
    refine ⟨?_, truthful, rfl⟩
    change p.stuck.getD p.clock = _
    rw [truthful]
    rfl
  driveReset asserted {_ _} := by
    rintro ⟨truthful, rfl⟩
    exact ⟨truthful, rfl⟩
  settle {_ _} := by
    rintro ⟨truthful, rfl⟩ fits
    exact ⟨truthful, EdgeCount.settle_ofWord fits⟩
  output {_ _} := by
    rintro ⟨truthful, rfl⟩
    exact ⟨rfl, truthful, rfl⟩

namespace Model

/-- The count that an instance shows. -/
def Registers.edgeCount (r : Registers) : EdgeCount :=
  .ofWord (r.clock != 0) (r.reset != 0) (r.lastClock != 0) r.count

/-- **An instance serves as a counter** by a `view` of its registers, as long as its count has a
successor. What settling does to the largest count is left open: it may wrap, or be the end of
it. -/
structure Entries.Serves (e : Entries μ) (h : Handle) (view : μ → Option Registers) : Prop where
  setClk : ∀ high {m r}, view m = some r →
    view (e.setClk h (Library.levelByte high) m) =
      some { r with clock := Library.levelByte high }
  getClk : ∀ {m r}, view m = some r →
    ((e.getClk h m).1 != 0) = (r.clock != 0) ∧ view (e.getClk h m).2 = some r
  setRst : ∀ asserted {m r}, view m = some r →
    view (e.setRst h (Library.levelByte asserted) m) =
      some { r with reset := Library.levelByte asserted }
  eval : ∀ {m r}, view m = some r → r.edgeCount.settle.count < UInt32.size →
    view (e.eval h m) = some r.settle
  readOutput : ∀ {m r}, view m = some r →
    (e.readOutput h m).1 = r.count ∧ view (e.readOutput h m).2 = some r

theorem Entries.Conforms.serves {e : Entries μ} {view : Handle → μ → Option Registers}
    {c₀ : UInt32} (conforms : e.Conforms view c₀) (h : Handle) : e.Serves h (view h) where
  setClk high {_ _} hr := (conforms.setClk high hr).own
  getClk {_ _} hr := ⟨(conforms.getClk hr).1, (conforms.getClk hr).2.own⟩
  setRst asserted {_ _} hr := (conforms.setRst asserted hr).own
  eval {_ _} hr _ := (conforms.eval hr).own
  readOutput {_ _} hr := ⟨(conforms.readOutput hr).1, (conforms.readOutput hr).2.own⟩

/-- **An instance that serves as a counter shows its count.** -/
theorem Library.counts {lib : Library μ} {h : Handle} {view : μ → Option Registers}
    (serves : lib.entries.Serves h view) :
    (lib.device h).Counts fun g c => ∃ r, view g.memory = some r ∧ c = r.edgeCount where
  driveClock high {_ _} := by
    rintro ⟨r, hr, rfl⟩
    exact ⟨_, serves.setClk high hr, by cases high <;> rfl⟩
  clockLevel {_ _} := by
    rintro ⟨r, hr, rfl⟩
    exact ⟨(serves.getClk hr).1, r, (serves.getClk hr).2, rfl⟩
  driveReset asserted {_ _} := by
    rintro ⟨r, hr, rfl⟩
    exact ⟨_, serves.setRst asserted hr, by cases asserted <;> rfl⟩
  settle {_ _} := by
    rintro ⟨r, hr, rfl⟩ fits
    refine ⟨_, serves.eval hr fits, (EdgeCount.settle_ofWord fits).trans ?_⟩
    have hlow : (!(r.lastClock != 0)) = (r.lastClock == 0) := by rw [bne, Bool.not_not]
    rw [hlow]
    rfl
  output {_ _} := by
    rintro ⟨r, hr, rfl⟩
    exact ⟨congrArg UInt32.toNat (serves.readOutput hr).1, r, (serves.readOutput hr).2, rfl⟩

end Model

/-- **A device that counts**, in any state: it is, or follows, a bank with a counter, a probe whose
clock is not stuck, or an instance that serves as a counter. -/
inductive Device.Counting (dev : Device σ) (x : σ) : Prop where
  | bank {R : σ → CounterBank → Prop} (follows : dev.Follows CounterBank.device R)
    {b : CounterBank} (hx : R x b) (pos : 0 < b.size)
  | probe {R : σ → Probe → Prop} (follows : dev.Follows Probe.device R) {p : Probe} (hx : R x p)
    (truthful : p.stuck = none)
  | model {μ : Type} {lib : Model.Library μ} {h : Model.Handle}
    {R : σ → Model.Guest μ → Prop} (follows : dev.Follows (lib.device h) R) {g : Model.Guest μ}
    (hx : R x g) {view : μ → Option Model.Registers} (serves : lib.entries.Serves h view)
    {r : Model.Registers} (hr : view g.memory = some r)

theorem Device.Counting.shows {dev : Device σ} {x : σ} (counting : dev.Counting x) :
    ∃ shows c, dev.Counts shows ∧ shows x c := by
  cases counting with
  | bank follows hx pos =>
    exact ⟨_, _, CounterBank.counts.of_follows follows, _, hx, _, if_pos pos, rfl⟩
  | probe follows hx truthful =>
    exact ⟨_, _, Probe.counts.of_follows follows, _, hx, truthful, rfl⟩
  | model follows hx serves hr =>
    exact ⟨_, _, (Model.Library.counts serves).of_follows follows, _, hx, _, hr, rfl⟩

/-! ## Reads -/

namespace Signal

/-- **The reads in some signals**, each with the number of settlings before it, the first `n` of
which came before the signals. -/
def samples : Nat → List Signal → List (Nat × Nat)
  | _, [] => []
  | n, .settled :: l => samples (n + 1) l
  | n, .outputRead v :: l => (n, v.toNat) :: samples n l
  | n, _ :: l => samples n l

theorem samples_append (n : Nat) (l l' : List Signal) :
    samples n (l ++ l') = samples n l ++ samples (n + l.count .settled) l' := by
  induction l generalizing n with
  | nil => rfl
  | cons s l ih =>
    cases s with
    | settled =>
      rw [List.count_cons_self, Nat.add_comm _ 1, ← Nat.add_assoc]
      exact ih (n + 1)
    | outputRead v => exact congrArg _ (ih n)
    | _ => exact ih n

theorem samples_eq_nil {l : List Signal} (h : l.countP Life.isRead = 0) (n : Nat) :
    samples n l = [] := by
  induction l generalizing n with
  | nil => rfl
  | cons s l ih =>
    obtain ⟨hs, hl⟩ : ¬Life.isRead s ∧ l.countP Life.isRead = 0 := by
      rw [List.countP_eq_zero] at h ⊢
      exact ⟨h s List.mem_cons_self, fun a ha => h a (List.mem_cons_of_mem s ha)⟩
    cases s with
    | outputRead v => exact absurd rfl hs
    | _ => exact ih hl _

end Signal

section Edges

variable (dev : Device σ) (x : σ)

theorem countP_isRead_edges (n : Nat) :
    ((List.iterate dev.edge x n).flatMap dev.edgeSignals).countP Life.isRead = 0 := by
  rw [countP_flatMap_iterate Life.isRead 0 dev.edge dev.edgeSignals fun _ => rfl, Nat.zero_mul]

theorem count_settled_edges (n : Nat) :
    ((List.iterate dev.edge x n).flatMap dev.edgeSignals).count .settled = n := by
  rw [List.count, countP_flatMap_iterate _ 1 dev.edge dev.edgeSignals fun _ => rfl, Nat.one_mul]

end Edges

/-- **What is read after each of some edges** of a device that counts: `k` edges came before them,
and `m` settlings. -/
theorem Device.Counts.samples {dev : Device σ} {shows : σ → EdgeCount → Prop}
    (counts : dev.Counts shows) {x : σ} {k : Nat} (hx : shows x (.after k)) (m n : Nat)
    (hk : k + n + 1 < 2 * UInt32.size) :
    Signal.samples m ((List.iterate (dev.timedEdge true) x n).flatMap (dev.timedSignals true)) =
      (List.range' 1 n).map fun j => (m + j, (k + j + 1) / 2) := by
  induction n generalizing x k m with
  | zero => rfl
  | succ n ih =>
    have hvalue : (dev.output (dev.edge x)).1.toNat = (k + 1 + 1) / 2 :=
      counts.output_after (counts.edge hx (by omega))
    have hrest := ih (counts.timedEdge true hx (by omega)) (m + 1) (by omega)
    have hfirst : Signal.samples m (dev.timedSignals true x) = [(m + 1, (k + 1 + 1) / 2)] := by
      rw [← hvalue]
      rfl
    have hsettled : (dev.timedSignals true x).count .settled = 1 := rfl
    rw [List.iterate, List.flatMap_cons, Signal.samples_append, hfirst, hsettled, hrest,
      List.range'_succ, List.map_cons, ← List.map_add_range', List.map_map]
    refine congrArg _ (List.map_congr_left fun j _ => ?_)
    have hm : m + 1 + j = m + (1 + j) := by omega
    have hj : (k + 1 + j + 1) / 2 = (k + (1 + j) + 1) / 2 := by omega
    simp only [Function.comp_apply, hm, hj]

/-! ## Trials -/

/-- **What a trial reads** of a device in state `x`, by its signals. The device is cleared by reset,
the count is half the number of edges from there, rounded up, and so are all numbers read; the last
of them fits a word for any scenario. -/
structure Scenario.Counted (s : Scenario) (dev : Device σ) (x : σ) (signals : List Signal) :
    Prop where
  rested : (dev.output (dev.reset x)).1 = 0
  warmed : ∀ k ≤ s.warmUp.toNat,
    (dev.output (times k dev.edge (dev.reset x))).1.toNat = (k + 1) / 2
  timed : ∀ k ≤ s.timed.toNat,
    (dev.output (times k (dev.timedEdge s.sampled) (s.warmed dev x))).1.toNat =
      (s.warmUp.toNat + k + 1) / 2
  samples : Signal.samples 0 signals =
    if s.sampled then
      (List.range' 1 s.timed.toNat).map fun j =>
        (4 + s.warmUp.toNat + j, (s.warmUp.toNat + j + 1) / 2)
    else []
  settled : signals.count .settled = 4 + s.warmUp.toNat + s.timed.toNat
  driven : (dev.output (s.driven dev x)).1.toNat = (s.warmUp.toNat + s.timed.toNat + 1) / 2
  fits : (s.warmUp.toNat + s.timed.toNat + 1) / 2 ≤ 2 ^ 32 - 1

namespace Scenario

variable (s : Scenario)

theorem edges_lt : s.warmUp.toNat + s.timed.toNat + 1 < 2 * UInt32.size := by
  have hw : s.warmUp.toNat < UInt32.size := s.warmUp.toNat_lt_size
  have ht : s.timed.toNat < UInt32.size := s.timed.toNat_lt_size
  omega

theorem samples_drive {dev : Device σ} {shows : σ → EdgeCount → Prop} (counts : dev.Counts shows)
    {x : σ} (warmed : shows (s.warmed dev x) (.after s.warmUp.toNat)) :
    Signal.samples 0 (Device.resetSignals ++ (s.warmSignals dev x ++ s.drivenSignals dev x)) =
      if s.sampled then
        (List.range' 1 s.timed.toNat).map fun j =>
          (4 + s.warmUp.toNat + j, (s.warmUp.toNat + j + 1) / 2)
      else [] := by
  have hreset : Signal.samples 0 Device.resetSignals = [] := rfl
  have hsettled : Device.resetSignals.count .settled = 4 := rfl
  have hwarm : Signal.samples 4 (s.warmSignals dev x) = [] :=
    Signal.samples_eq_nil (countP_isRead_edges dev (dev.reset x) s.warmUp.toNat) 4
  have hedges : (s.warmSignals dev x).count .settled = s.warmUp.toNat :=
    count_settled_edges dev (dev.reset x) s.warmUp.toNat
  rw [Signal.samples_append, Signal.samples_append, hreset, hsettled, Nat.zero_add, hwarm, hedges,
    List.nil_append, List.nil_append, drivenSignals]
  cases s.sampled with
  | true => exact counts.samples warmed (4 + s.warmUp.toNat) s.timed.toNat s.edges_lt
  | false =>
    have htimed : dev.timedSignals false = dev.edgeSignals := funext fun _ => List.append_nil _
    rw [htimed]
    exact Signal.samples_eq_nil (countP_isRead_edges dev (s.warmed dev x) s.timed.toNat) _

/-- **A device that counts is counted on**, whatever it shows at first. -/
theorem counted {dev : Device σ} {shows : σ → EdgeCount → Prop} (counts : dev.Counts shows) {x : σ}
    {c : EdgeCount} (hx : shows x c) (d : δ) (w : Window τ) :
    s.Counted dev x (Event.signals (s.drive dev d x w : List (Event δ ρ τ))) := by
  have rested := counts.reset hx
  have hlt := s.edges_lt
  have warmed : ∀ k ≤ s.warmUp.toNat, shows (times k dev.edge (dev.reset x)) (.after k) := by
    intro k hk
    have h := Device.Counts.times rested counts.edge k (by omega)
    rwa [Nat.zero_add] at h
  have timed : ∀ k ≤ s.timed.toNat,
      shows (times k (dev.timedEdge s.sampled) (s.warmed dev x)) (.after (s.warmUp.toNat + k)) := by
    intro k hk
    exact Device.Counts.times (warmed _ (Nat.le_refl _)) (counts.timedEdge s.sampled) k (by omega)
  refine ⟨?_, ?_, ?_, ?_, ?_, ?_, ?_⟩
  · exact UInt32.toNat_inj.mp (counts.output_after rested)
  · exact fun k hk => counts.output_after (warmed k hk)
  · exact fun k hk => counts.output_after (timed k hk)
  · rw [signals_drive]
    exact s.samples_drive counts (warmed _ (Nat.le_refl _))
  · have settled := (Life.driven_of_trial s dev d x w [] ()).settled
    change (Event.signals (s.drive dev d x w)).count .settled = _ at settled
    rwa [signals_drive] at settled ⊢
  · exact counts.output_after (timed _ (Nat.le_refl _))
  · change _ ≤ UInt32.size - 1
    omega

end Scenario

/-- **What a trial reads** of a device that counts, in any state that it was made in, and what the
device holds when it is scrapped. -/
theorem Rig.trial_counted (rig : Rig σ δ ρ κ τ ω) (s : Scenario) {floor x : σ} {d : δ}
    (made : rig.workshop.make floor = (.ok d, x))
    (counting : (rig.workshop.device d).Counting x) (time : κ) (out : ω) :
    let dev := rig.workshop.device d
    let o := rig.trial s { floor, time, out }
    ∃ es, o.2.events = es ++ [.scrapped d (rig.workshop.scrap d (s.driven dev x)).1] ∧
      s.Counted dev x (Event.signals es) := by
  intro dev o
  obtain ⟨shows, c, counts, hx⟩ := counting.shows
  let w := (rig.timer.window time).1
  let delivery := (rig.sink.deliver (s.measurement w).printed out).events
  let es : List (Event δ ρ τ) := s.course dev d x w ++ delivery.map .sink
  have ho : o = _ := rig.trial_of_made made
  have hjournal : o.2.journal = ({} : Journal (Event δ ρ τ)).recordAll
      (es ++ [.scrapped d (rig.workshop.scrap d (s.driven dev x)).1]) := by
    rw [ho]
  refine ⟨es, Bench.events_of_fresh (b := { floor, time, out }) rfl hjournal, ?_⟩
  have hsink : Event.signals (delivery.map .sink : List (Event δ ρ τ)) = [] := by
    simp [Event.signals, Event.signal?]
  rw [Event.signals_append, hsink, List.append_nil]
  exact s.counted counts hx d w

/-! ## The longest scenario -/

/-- A workshop in which one device is always at hand. -/
def Workshop.single (dev : Device σ) (x : σ) : Workshop σ Unit σ where
  make _ := (.ok (), x)
  device _ := dev
  scrap _ y := (y, y)

namespace Model

/-- A model with one instance, which is lost when its largest count would grow. -/
def fragile (start : Registers) : Entries (Option Registers) where
  new _ := (⟨1⟩, some start)
  free _ _ := ([], none)
  setClk _ level m := m.map fun r => { r with clock := level }
  getClk _ m := (m.elim 0 (·.clock), m)
  setRst _ level m := m.map fun r => { r with reset := level }
  eval _ m := m.bind fun r =>
    if r.edgeCount.settle.count < UInt32.size then some r.settle else none
  readOutput _ m := (m.elim 0 (·.count), m)
  commandArgs := none

theorem fragile_serves (start : Registers) (h : Handle) : (fragile start).Serves h id where
  setClk high {_ _} := by
    rintro rfl
    rfl
  getClk {_ _} := by
    rintro rfl
    exact ⟨rfl, rfl⟩
  setRst asserted {_ _} := by
    rintro rfl
    rfl
  eval {_ _} := by
    rintro rfl fits
    exact if_pos fits
  readOutput {_ _} := by
    rintro rfl
    exact ⟨rfl, rfl⟩

end Model

/-- A bank, a probe and an instance that is lost by its next rising edge all go through the longest
scenario, and hold the largest word in the end. -/
theorem Rig.trial_counted_longest :
    let last : UInt32 := 4294967295
    let s : Scenario := ⟨"longest", last, last, true, .total⟩
    let b : CounterBank := { size := 2, clock := true, lastClock := true, rises := last }
    let p : Probe := { clock := true, reset := true, count := last }
    let start : Model.Registers := { clock := 1, count := last }
    let lib : Model.Library (Option Model.Registers) := ⟨[], Model.fragile start⟩
    let floor : Model.Guest (Option Model.Registers) := { memory := none }
    let g := (lib.make floor).2
    let trial {σ δ ρ : Type} (workshop : Workshop σ δ ρ) (floor : σ) :=
      (Rig.trial ⟨workshop, Timer.scripted, Sink.bytewise⟩ s { floor, time := {}, out := () }).2
    (∃ es, (trial (.single CounterBank.device b) b).events =
        es ++ [.scrapped () (s.driven CounterBank.device b)] ∧
      s.Counted CounterBank.device b (Event.signals es)) ∧
    (∃ es, (trial (.single Probe.device p) p).events =
        es ++ [.scrapped () (s.driven Probe.device p)] ∧
      s.Counted Probe.device p (Event.signals es)) ∧
    (∃ es, (trial lib.workshop floor).events = es ++ [.scrapped ⟨1⟩ []] ∧
      s.Counted (lib.device ⟨1⟩) g (Event.signals es)) ∧
    (s.warmUp.toNat + s.timed.toNat + 1) / 2 = last.toNat := by
  intro last s b p start lib floor g trial
  have full : (s.warmUp.toNat + s.timed.toNat + 1) / 2 = last.toNat := by decide
  -- the numbers of edges must not be unfolded
  clear_value s
  refine ⟨?_, ?_, ?_, full⟩
  · let rig : Rig CounterBank _ _ _ _ _ :=
      ⟨.single CounterBank.device b, Timer.scripted, Sink.bytewise⟩
    have made : rig.workshop.make b = (.ok (), b) := rfl
    exact Rig.trial_counted rig s made (.bank (.refl _) rfl (by decide)) {} ()
  · let rig : Rig Probe _ _ _ _ _ := ⟨.single Probe.device p, Timer.scripted, Sink.bytewise⟩
    have made : rig.workshop.make p = (.ok (), p) := rfl
    exact Rig.trial_counted rig s made (.probe (.refl _) rfl rfl) {} ()
  · let rig : Rig _ _ _ _ _ _ := ⟨lib.workshop, Timer.scripted, Sink.bytewise⟩
    have made : rig.workshop.make floor = (.ok ⟨1⟩, g) := rfl
    have serves : lib.entries.Serves ⟨1⟩ id := Model.fragile_serves start ⟨1⟩
    have hr : id g.memory = some start := rfl
    exact Rig.trial_counted rig s made (.model (.refl _) rfl serves hr) {} ()

end EdgeMeter
