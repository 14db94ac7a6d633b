import EdgeMeter.Proofs.Series

/-!
# The lifetimes of devices

Every device that a workshop makes for a series lives through one trial: it is driven in full, its
line is delivered as far as the sink allows, and then it is scrapped, before anything else happens.

* `Event.allMade`, `Event.allScrapped`, `Event.signals`: what some events tell of devices;
* `Life`: the life of a device in a trial; `Life.Driven`, `Life.Delivered`, `Life.Undelivered`: what
  it went through;
* `Rig.trial_lived`: every trial is the life of one device, unless none was made;
* **`Chronicle`**: lives one after another, and how they end;
* `Chronicle.made_eq_scrapped`, `Chronicle.alive_prefix`: at most one device is alive at any time;
* **`Rig.series_chronicle`**: every series is such a chronicle.
-/

namespace EdgeMeter

variable {σ δ ρ κ τ ω : Type}

/-! ## What events tell of devices -/

namespace Event

/-- The device that was made in an event, if one was. -/
def made? : Event δ ρ τ → Option δ
  | made d => some d
  | _ => none

/-- The device that was scrapped in an event, if one was. -/
def scrapped? : Event δ ρ τ → Option δ
  | scrapped d _ => some d
  | _ => none

/-- The signal in an event, if there is one. -/
def signal? : Event δ ρ τ → Option Signal
  | signal _ s => some s
  | _ => none

/-- Whether an event is part of driving device `d` in a trial: a signal of it, a reading of the
timer or a record. -/
def Drives (d : δ) : Event δ ρ τ → Prop
  | signal d' _ => d' = d
  | logged _ => True
  | read _ => True
  | span .. => True
  | _ => False

/-- The devices made in some events, in order. -/
def allMade (es : List (Event δ ρ τ)) : List δ := es.filterMap made?

/-- The devices scrapped in some events, in order. -/
def allScrapped (es : List (Event δ ρ τ)) : List δ := es.filterMap scrapped?

/-- The signals in some events, in order. -/
def signals (es : List (Event δ ρ τ)) : List Signal := es.filterMap signal?

@[simp] theorem allMade_append (es es' : List (Event δ ρ τ)) :
    allMade (es ++ es') = allMade es ++ allMade es' := List.filterMap_append

@[simp] theorem allScrapped_append (es es' : List (Event δ ρ τ)) :
    allScrapped (es ++ es') = allScrapped es ++ allScrapped es' := List.filterMap_append

@[simp] theorem signals_append (es es' : List (Event δ ρ τ)) :
    signals (es ++ es') = signals es ++ signals es' := List.filterMap_append

@[simp] theorem signals_map_signal (d : δ) (l : List Signal) :
    signals (l.map (.signal d) : List (Event δ ρ τ)) = l := by
  rw [signals, List.filterMap_map]
  exact List.filterMap_some

theorem allMade_eq_nil {d : δ} {es : List (Event δ ρ τ)}
    (h : ∀ e ∈ es, e.Drives d ∨ ∃ s, e = .sink s) : allMade es = [] ∧ allScrapped es = [] := by
  refine ⟨List.filterMap_eq_nil_iff.mpr ?_, List.filterMap_eq_nil_iff.mpr ?_⟩ <;>
  · intro e he
    obtain hdrives | ⟨s, rfl⟩ := h e he
    · cases e with
      | made => cases hdrives
      | scrapped => cases hdrives
      | _ => rfl
    · rfl

end Event

/-! ## The life of a device -/

/-- **The life of a device** in a trial of a scenario: what happened while it was driven, how its
line was delivered, and what it left behind. -/
structure Life (δ ρ τ : Type) where
  scenario : Scenario
  device : δ
  drive : List (Event δ ρ τ)
  delivery : List Sink.Event
  remains : ρ

namespace Life

variable (l : Life δ ρ τ)

/-- **The events of a life**, from the record that opens the trial. -/
def events : List (Event δ ρ τ) :=
  .logged l.scenario.opening :: .made l.device ::
    (l.drive ++ l.delivery.map .sink ++ [.scrapped l.device l.remains])

def isRead : Signal → Bool
  | .outputRead _ => true
  | _ => false

/-- **A device was driven in full**: it alone was driven, from the reset sequence on; it settled
four times for that and once for every edge of the scenario, and it was read after each timed edge
if the scenario says so. -/
structure Driven : Prop where
  drives : ∀ e ∈ l.drive, e.Drives l.device
  reset : Device.resetSignals <+: Event.signals l.drive
  settled : (Event.signals l.drive).count .settled =
    4 + l.scenario.warmUp.toNat + l.scenario.timed.toNat
  read : (Event.signals l.drive).countP isRead =
    if l.scenario.sampled then l.scenario.timed.toNat else 0

/-- **The line of a measurement was delivered**: all of its bytes were taken, and then a flush
succeeded. -/
def Delivered (m : Measurement) : Prop :=
  m.name = l.scenario.name ∧ ∃ es, (∀ e ∈ es, e.isWilling) ∧ l.delivery = es ++ [.flushed] ∧
    Sink.taken es = m.printed

/-- **The line was not delivered**: the sink failed at a write or at the flush, and was left
alone. -/
def Undelivered (f : Failure) : Prop :=
  ∃ es e, (∀ e ∈ es, e.isWilling) ∧ f = .output e ∧
    (l.delivery = es ++ [.writeFailed e] ∨ l.delivery = es ++ [.flushFailed e])

variable {l}

theorem Driven.inner (driven : l.Driven) :
    Event.allMade (l.drive ++ l.delivery.map .sink) = [] ∧
      Event.allScrapped (l.drive ++ l.delivery.map .sink) = [] := by
  refine Event.allMade_eq_nil (d := l.device) fun e he => ?_
  rcases List.mem_append.mp he with he | he
  · exact .inl (driven.drives e he)
  · obtain ⟨s, -, rfl⟩ := List.mem_map.mp he
    exact .inr ⟨s, rfl⟩

theorem Driven.allMade_events (driven : l.Driven) : Event.allMade l.events = [l.device] := by
  change l.device :: Event.allMade (_ ++ [.scrapped l.device l.remains]) = _
  rw [Event.allMade_append, driven.inner.1]
  rfl

theorem Driven.allScrapped_events (driven : l.Driven) :
    Event.allScrapped l.events = [l.device] := by
  change Event.allScrapped (_ ++ [.scrapped l.device l.remains]) = _
  rw [Event.allScrapped_append, driven.inner.2]
  rfl

theorem Driven.alive_prefix (driven : l.Driven) {p : List (Event δ ρ τ)} (hp : p <+: l.events) :
    ∃ alive : Option δ, Event.allMade p = Event.allScrapped p ++ alive.toList := by
  rcases List.prefix_cons_iff.mp hp with rfl | ⟨p₁, rfl, hp₁⟩
  · exact ⟨none, rfl⟩
  rcases List.prefix_cons_iff.mp hp₁ with rfl | ⟨p₂, rfl, hp₂⟩
  · exact ⟨none, rfl⟩
  rcases List.prefix_concat_iff.mp hp₂ with rfl | hp₃
  · refine ⟨none, ?_⟩
    change Event.allMade l.events = Event.allScrapped l.events ++ []
    rw [List.append_nil, driven.allMade_events, driven.allScrapped_events]
  · -- whatever part of the drive and the delivery is over, the device was made and not scrapped
    obtain ⟨q, hq⟩ := hp₃
    obtain ⟨hmade, hscrapped⟩ := driven.inner
    rw [← hq, Event.allMade_append] at hmade
    rw [← hq, Event.allScrapped_append] at hscrapped
    refine ⟨some l.device, ?_⟩
    change l.device :: Event.allMade p₂ = Event.allScrapped p₂ ++ [l.device]
    rw [(List.append_eq_nil_iff.mp hmade).1, (List.append_eq_nil_iff.mp hscrapped).1]
    rfl

end Life

/-! ## One trial -/

theorem countP_flatMap_iterate {α β : Type} (p : β → Bool) (k : Nat) (f : α → α) (see : α → List β)
    (h : ∀ x, (see x).countP p = k) (n : Nat) (x : α) :
    ((List.iterate f x n).flatMap see).countP p = k * n := by
  induction n generalizing x with
  | zero => rfl
  | succ n ih =>
    rw [List.iterate, List.flatMap_cons, List.countP_append, ih, h]
    exact (Nat.mul_succ k n ▸ Nat.add_comm _ _)

namespace Scenario

variable (s : Scenario) (dev : Device σ) (d : δ) (x : σ) (w : Window τ)

/-- The events of a trial between the making of its device and the delivery of its line. -/
def drive : List (Event δ ρ τ) :=
  Device.resetSignals.map (Event.signal d) ++
  (if s.warmUp = 0 then [] else [Event.logged s.warming]) ++
  (s.warmSignals dev x).map (Event.signal d) ++
  [Event.logged s.timing, Event.read w.start] ++
  (s.drivenSignals dev x).map (Event.signal d) ++
  [Event.read w.finish, Event.span w.start w.finish w.nanos]

theorem signals_drive :
    Event.signals (s.drive dev d x w : List (Event δ ρ τ)) =
      Device.resetSignals ++ (s.warmSignals dev x ++ s.drivenSignals dev x) := by
  have hwarming : Event.signals
      (if s.warmUp = 0 then [] else [.logged s.warming] : List (Event δ ρ τ)) = [] := by
    split <;> rfl
  have htiming : Event.signals
      ([.logged s.timing, .read w.start] : List (Event δ ρ τ)) = [] := rfl
  have hfinish : Event.signals
      ([.read w.finish, .span w.start w.finish w.nanos] : List (Event δ ρ τ)) = [] := rfl
  simp only [drive, Event.signals_append, Event.signals_map_signal, hwarming, htiming, hfinish,
    List.nil_append, List.append_nil, List.append_assoc]

theorem countP_signals_drive {p : Signal → Bool} {m n : Nat}
    (hedge : ∀ y, (dev.edgeSignals y).countP p = m)
    (htimed : ∀ y, (dev.timedSignals s.sampled y).countP p = n) :
    (Event.signals (s.drive dev d x w : List (Event δ ρ τ))).countP p =
      Device.resetSignals.countP p + (m * s.warmUp.toNat + n * s.timed.toNat) := by
  rw [signals_drive, List.countP_append, List.countP_append, warmSignals, drivenSignals,
    countP_flatMap_iterate _ m _ _ hedge, countP_flatMap_iterate _ n _ _ htimed]

theorem drives_drive : ∀ e ∈ (s.drive dev d x w : List (Event δ ρ τ)), e.Drives d := by
  intro e he
  simp only [drive, List.mem_append, List.mem_map, List.mem_cons, List.not_mem_nil, or_false] at he
  obtain ((((⟨_, -, rfl⟩ | he) | ⟨_, -, rfl⟩) | rfl | rfl) | ⟨_, -, rfl⟩) | rfl | rfl := he
  case inl.inl.inl.inl.inr =>
    split at he
    · cases he
    · obtain rfl := List.mem_singleton.mp he
      trivial
  all_goals trivial

end Scenario

theorem Life.driven_of_trial (s : Scenario) (dev : Device σ) (d : δ) (x : σ) (w : Window τ)
    (delivery : List Sink.Event) (remains : ρ) :
    (⟨s, d, s.drive dev d x w, delivery, remains⟩ : Life δ ρ τ).Driven where
  drives := s.drives_drive dev d x w
  reset := by
    rw [Scenario.signals_drive]
    exact List.prefix_append _ _
  settled := by
    have hedge : ∀ y, (dev.edgeSignals y).countP (· == .settled) = 1 := fun _ => rfl
    have htimed : ∀ y, (dev.timedSignals s.sampled y).countP (· == .settled) = 1 := by
      intro y
      rw [Device.timedSignals, List.countP_append, hedge]
      split <;> rfl
    rw [List.count, s.countP_signals_drive dev d x w hedge htimed, Nat.one_mul, Nat.one_mul,
      ← Nat.add_assoc]
    rfl
  read := by
    have hedge : ∀ y, (dev.edgeSignals y).countP isRead = 0 := fun _ => rfl
    have htimed : ∀ y, (dev.timedSignals s.sampled y).countP isRead =
        if s.sampled then 1 else 0 := by
      intro y
      rw [Device.timedSignals, List.countP_append, hedge]
      split <;> rfl
    rw [s.countP_signals_drive dev d x w hedge htimed]
    change 0 + (0 * _ + _) = _
    split <;> simp

namespace Rig

variable (rig : Rig σ δ ρ κ τ ω)

/-- **Every trial is the life of one device**, unless none was made. -/
theorem trial_lived (s : Scenario) (b : Bench σ δ ρ κ τ ω) :
    (∃ f x, rig.trial s b = (.error f, b.worked x [.logged s.opening, .notMade f])) ∨
    ∃ l : Life δ ρ τ, l.scenario = s ∧ l.Driven ∧
      (rig.trial s b).2.journal = b.journal.recordAll l.events ∧
      ((∃ m, (rig.trial s b).1 = .ok m ∧ l.Delivered m) ∨
        ∃ f, (rig.trial s b).1 = .error f ∧ l.Undelivered f) := by
  rcases rig.trial_cases s b with ⟨f, x, -, ht⟩ | ⟨d, x, es, r, out, -, hd, ht⟩
  · exact .inl ⟨f, x, ht⟩
  · rw [ht]
    refine .inr ⟨⟨s, d, s.drive (rig.workshop.device d) d x (rig.timer.window b.time).1, es,
      (rig.workshop.scrap d (s.driven (rig.workshop.device d) x)).1⟩, rfl,
      Life.driven_of_trial .., rfl, ?_⟩
    generalize hbs : (s.measurement (rig.timer.window b.time).1).printed = bs at hd
    cases hd with
    | @done es willing => exact .inl ⟨_, rfl, rfl, es, willing, rfl, hbs.symm⟩
    | @unwritten es e rest willing => exact .inr ⟨_, rfl, es, e, willing, rfl, .inl rfl⟩
    | @unflushed es e willing => exact .inr ⟨_, rfl, es, e, willing, rfl, .inr rfl⟩

end Rig

/-! ## Lives one after another -/

/-- **The chronicle of a series**: one life after another, in the order of the scenarios, until a
device cannot be made or a line cannot be delivered. Nothing comes after that, and there is nothing
between the end of a life and the record that opens the next trial. -/
inductive Chronicle : List Scenario → List (Event δ ρ τ) → Except Failure (List Measurement) → Prop
    where
  | nil : Chronicle [] [] (.ok [])
  | unmade (s : Scenario) (rest : List Scenario) (f : Failure) :
    Chronicle (s :: rest) [.logged s.opening, .notMade f] (.error f)
  | undelivered {l : Life δ ρ τ} {f : Failure} (driven : l.Driven) (undelivered : l.Undelivered f)
    (rest : List Scenario) : Chronicle (l.scenario :: rest) l.events (.error f)
  | delivered {l : Life δ ρ τ} {m : Measurement} {rest : List Scenario}
    {es : List (Event δ ρ τ)} {r : Except Failure (List Measurement)} (driven : l.Driven)
    (delivered : l.Delivered m) (others : Chronicle rest es r) :
    Chronicle (l.scenario :: rest) (l.events ++ es) (r.map (m :: ·))

namespace Chronicle

variable {scenarios : List Scenario} {es : List (Event δ ρ τ)}
  {r : Except Failure (List Measurement)}

theorem made_eq_scrapped (h : Chronicle scenarios es r) :
    Event.allMade es = Event.allScrapped es := by
  induction h with
  | nil => rfl
  | unmade s rest f => rfl
  | undelivered driven _ _ => rw [driven.allMade_events, driven.allScrapped_events]
  | delivered driven _ _ ih =>
    rw [Event.allMade_append, Event.allScrapped_append, driven.allMade_events,
      driven.allScrapped_events, ih]

/-- **At most one device is alive at any time**: the last one made. -/
theorem alive_prefix (h : Chronicle scenarios es r) {p : List (Event δ ρ τ)} (hp : p <+: es) :
    ∃ alive : Option δ, Event.allMade p = Event.allScrapped p ++ alive.toList := by
  induction h generalizing p with
  | nil =>
    obtain rfl := List.prefix_nil.mp hp
    exact ⟨none, rfl⟩
  | unmade s rest f =>
    refine ⟨none, ?_⟩
    have hmade : Event.allMade p <+: [] := hp.filterMap _
    have hscrapped : Event.allScrapped p <+: [] := hp.filterMap _
    rw [List.prefix_nil.mp hmade, List.prefix_nil.mp hscrapped]
    rfl
  | undelivered driven _ _ => exact driven.alive_prefix hp
  | delivered driven _ _ ih =>
    rcases List.prefix_or_prefix_of_prefix hp (List.prefix_append _ _) with hp | ⟨q, rfl⟩
    · exact driven.alive_prefix hp
    · obtain ⟨alive, hq⟩ := ih ((List.prefix_append_right_inj _).mp hp)
      refine ⟨alive, ?_⟩
      rw [Event.allMade_append, Event.allScrapped_append, driven.allMade_events,
        driven.allScrapped_events, hq, List.append_assoc]

end Chronicle

namespace Rig

variable (rig : Rig σ δ ρ κ τ ω)

theorem series_lived (scenarios : List Scenario) (b : Bench σ δ ρ κ τ ω) :
    ∃ es, (rig.series scenarios b).2.journal = b.journal.recordAll es ∧
      Chronicle scenarios es (rig.series scenarios b).1 := by
  induction scenarios generalizing b with
  | nil =>
    rw [series_nil]
    exact ⟨[], rfl, .nil⟩
  | cons s rest ih =>
    rcases rig.trial_lived s b with ⟨f, x, ht⟩ | ⟨l, rfl, driven, hjournal, hend⟩
    · rw [rig.series_cons_of_error ht]
      exact ⟨_, rfl, .unmade s rest f⟩
    · rcases ht : rig.trial l.scenario b with ⟨f | m, b₁⟩
      all_goals rw [ht] at hjournal hend
      · rw [rig.series_cons_of_error ht]
        obtain ⟨m, hm, -⟩ | ⟨f', hf, undelivered⟩ := hend
        · cases hm
        · obtain rfl := Except.error.inj hf
          exact ⟨l.events, hjournal, .undelivered driven undelivered rest⟩
      · rw [rig.series_cons_of_ok ht]
        obtain ⟨m', hm, delivered⟩ | ⟨f, hf, -⟩ := hend
        · obtain rfl := Except.ok.inj hm
          obtain ⟨es, hes, chronicle⟩ := ih b₁
          refine ⟨l.events ++ es, ?_, .delivered driven delivered chronicle⟩
          rw [hes, hjournal, Journal.recordAll_append]
        · cases hf

/-- **The lifetimes of devices bracket scenarios**, however a series ends: all that were made are
scrapped, in order, and never two are alive. -/
theorem series_chronicle (scenarios : List Scenario) (floor : σ) (time : κ) (out : ω) :
    let b : Bench σ δ ρ κ τ ω := { floor, time, out }
    let (result, b') := rig.series scenarios b
    Steps rig.Happens b'.events b b' ∧ Chronicle scenarios b'.events result ∧
      Event.allMade b'.events = Event.allScrapped b'.events ∧
      ∀ p, p <+: b'.events →
        ∃ alive : Option δ, Event.allMade p = Event.allScrapped p ++ alive.toList := by
  intro b
  have happened := (rig.leads_series b scenarios).steps_of_fresh rfl
  obtain ⟨es, hes, chronicle⟩ := rig.series_lived scenarios b
  rw [← Bench.events_of_fresh rfl hes] at chronicle
  exact ⟨happened, chronicle, chronicle.made_eq_scrapped, fun p hp => chronicle.alive_prefix hp⟩

end Rig

end EdgeMeter
