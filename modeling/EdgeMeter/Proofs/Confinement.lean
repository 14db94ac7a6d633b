import EdgeMeter.Proofs.Handles

/-!
# Devices are confined to their pins

Nothing that a device does reaches the results. What is seen of a series from outside, its result,
the readings of the timer and all that the sink is asked and does, is settled by the names, timed
edges and bases of its scenarios, by which calls for a device fail, by the timer and by the sink.

* `Event.outer`: events as seen from outside;
* `Event.answers`, `Event.FailsBy`: the answers of a workshop to the calls for a device;
* `View`, `Scenario.view`, `Scenario.viewAll`: what is seen of a trial and of a series, with no
  device in it;
* `Rig.trial_view`, `Rig.series_view`: this is what is seen;
* **`Rig.series_confined`**: two series on different devices look the same;
* `Workshop.Scheduled`: workshops that fail at given calls, whatever is done to their devices.
-/

namespace EdgeMeter

variable {σ δ ρ κ τ ω : Type}

/-! ## Events from outside -/

namespace Event

/-- An event as seen from outside, if it is seen: a reading of the timer, the time between two, or
something that the sink did. -/
def outer? : Event δ ρ τ → Option (Event Empty Empty τ)
  | read t => some (read t)
  | span start finish nanos => some (span start finish nanos)
  | sink e => some (sink e)
  | _ => none

/-- **Events as seen from outside**, in order. -/
def outer (es : List (Event δ ρ τ)) : List (Event Empty Empty τ) := es.filterMap outer?

/-- The answer to a call for a device, if an event is one: the message of the failure, none if a
device was made. -/
def answer? : Event δ ρ τ → Option (Option String)
  | made _ => some none
  | notMade f => some (some f.message)
  | _ => none

/-- The answers to the calls for a device, in order. -/
def answers (es : List (Event δ ρ τ)) : List (Option String) := es.filterMap answer?

/-- **The calls for a device fail by a schedule**, which tells the message of each call that
fails. -/
def FailsBy (fails : Nat → Option String) (es : List (Event δ ρ τ)) : Prop :=
  ∀ k a, (answers es)[k]? = some a → a = fails k

@[simp] theorem outer_append (es es' : List (Event δ ρ τ)) :
    outer (es ++ es') = outer es ++ outer es' := List.filterMap_append

@[simp] theorem answers_append (es es' : List (Event δ ρ τ)) :
    answers (es ++ es') = answers es ++ answers es' := List.filterMap_append

theorem outer_signals (d : δ) (l : List Signal) :
    outer (l.map (.signal d) : List (Event δ ρ τ)) = [] := by
  simp [outer, outer?]

theorem answers_signals (d : δ) (l : List Signal) :
    answers (l.map (.signal d) : List (Event δ ρ τ)) = [] := by
  simp [answers, answer?]

theorem outer_sink (es : List Sink.Event) :
    outer (es.map .sink : List (Event δ ρ τ)) = es.map .sink := by
  rw [outer, List.filterMap_map]
  exact congrFun List.filterMap_eq_map es

theorem answers_sink (es : List Sink.Event) :
    answers (es.map .sink : List (Event δ ρ τ)) = [] := by
  simp [answers, answer?]

theorem text_outer (es : List (Event δ ρ τ)) : text (outer es) = text es := by
  induction es with
  | nil => rfl
  | cons e es ih =>
    rw [← List.singleton_append, outer_append, text_append, text_append, ih]
    cases e with
    | sink e => cases e <;> rfl
    | _ => rfl

theorem readings_outer (es : List (Event δ ρ τ)) : readings (outer es) = readings es := by
  induction es with
  | nil => rfl
  | cons e es ih =>
    rw [← List.singleton_append, outer_append, readings_append, readings_append, ih]
    cases e <;> rfl

section Course

variable (s : Scenario) (dev : Device σ) (d : δ) (x : σ) (w : Window τ)

theorem outer_course : outer (s.course dev d x w : List (Event δ ρ τ)) =
    [.read w.start, .read w.finish, .span w.start w.finish w.nanos] := by
  simp only [Scenario.course, outer_append, outer_signals]
  split <;> rfl

theorem answers_course : answers (s.course dev d x w : List (Event δ ρ τ)) = [none] := by
  simp only [Scenario.course, answers_append, answers_signals]
  split <;> rfl

end Course

theorem failsBy_append {fails : Nat → Option String} {es es' : List (Event δ ρ τ)}
    {a : Option String} (ha : answers es = [a]) :
    FailsBy fails (es ++ es') ↔ a = fails 0 ∧ FailsBy (fun k => fails (k + 1)) es' := by
  have hall : answers (es ++ es') = a :: answers es' := by rw [answers_append, ha]; rfl
  unfold FailsBy
  rw [hall]
  refine ⟨fun h => ⟨h 0 a rfl, fun k => h (k + 1)⟩, fun ⟨first, others⟩ k a' hk => ?_⟩
  cases k with
  | zero => exact (Option.some.inj hk).symm.trans first
  | succ k => exact others k a' hk

theorem failsBy_singleton {fails : Nat → Option String} {es : List (Event δ ρ τ)}
    {a : Option String} (ha : answers es = [a]) : FailsBy fails es ↔ a = fails 0 := by
  rw [← List.append_nil es, failsBy_append ha]
  exact and_iff_left nofun

end Event

/-! ## Work without devices -/

/-- What is seen of some work from outside: its result, a failure by its message, the events and the
state of the sink after it. -/
structure View (α τ ω : Type) where
  result : Except String α
  events : List (Event Empty Empty τ)
  out : ω

namespace Scenario

variable (sink : Sink ω)

/-- **What is seen of a trial**, by the answer to its call for a device. -/
def view (s : Scenario) (out : ω) (w : Window τ) : Option String → View Measurement τ ω
  | some message => ⟨.error message, [], out⟩
  | none =>
    let m := s.measurement w
    let o := sink.deliver m.printed out
    { result := (o.result.mapError fun e => (Failure.output e).message).map fun _ => m
      events := [.read w.start, .read w.finish, .span w.start w.finish w.nanos] ++
        o.events.map .sink
      out := o.state }

/-- **What is seen of a series**, by the schedule of its calls for devices and the windows of its
timer. -/
def viewAll : List Scenario → (Nat → Option String) → List (Window τ) → ω →
    View (List Measurement) τ ω
  | s :: rest, fails, w :: ws, out =>
    let v := s.view sink out w (fails 0)
    match v.result with
    | .error message => ⟨.error message, v.events, v.out⟩
    | .ok m =>
      let others := viewAll rest (fun k => fails (k + 1)) ws v.out
      ⟨others.result.map (m :: ·), v.events ++ others.events, others.out⟩
  | _, _, _, out => ⟨.ok [], [], out⟩

/-- Two scenarios that report alike. Their untimed edges may differ, and one of them may read the
device. -/
structure ReportsAlike (s t : Scenario) : Prop where
  name : s.name = t.name
  timed : s.timed = t.timed
  basis : s.basis = t.basis

theorem ReportsAlike.measurement {s t : Scenario} (alike : s.ReportsAlike t) (w : Window τ) :
    s.measurement w = t.measurement w := by
  simp only [Scenario.measurement, figure, alike.name, alike.timed, alike.basis]

theorem ReportsAlike.view {s t : Scenario} (alike : s.ReportsAlike t) (out : ω) (w : Window τ)
    (a : Option String) : s.view sink out w a = t.view sink out w a := by
  cases a with
  | none => simp only [Scenario.view, alike.measurement]
  | some message => rfl

theorem viewAll_congr {ss ts : List Scenario} (alike : List.Forall₂ ReportsAlike ss ts)
    (fails : Nat → Option String) (ws : List (Window τ)) (out : ω) :
    viewAll sink ss fails ws out = viewAll sink ts fails ws out := by
  induction alike generalizing fails ws out with
  | nil => rfl
  | cons head _ ih =>
    cases ws with
    | nil => rfl
    | cons w ws => simp only [viewAll, head.view, ih]

end Scenario

/-! ## Work on devices, from outside -/

theorem mapError_map_mapError {ε ε' ε'' α β : Type} (r : Except ε α) (f : ε → ε') (g : α → β)
    (h : ε' → ε'') :
    ((r.mapError f).map g).mapError h = (r.mapError fun e => h (f e)).map g := by
  cases r <;> rfl

namespace Rig

variable (rig : Rig σ δ ρ κ τ ω)

theorem trial_view (s : Scenario) (b : Bench σ δ ρ κ τ ω) :
    let o := rig.trial s b
    let w := rig.timer.window b.time
    ∃ es a, o.2.journal = b.journal.recordAll es ∧ Event.answers es = [a] ∧
      (∀ m, o.1 = .ok m → o.2.time = w.2) ∧
      let v := s.view rig.sink b.out w.1 a
      o.1.mapError Failure.message = v.result ∧ Event.outer es = v.events ∧ o.2.out = v.out := by
  intro o w
  rcases made : rig.workshop.make b.floor with ⟨f | d, x⟩
  · have ho : o = _ := rig.trial_of_not_made made
    rw [ho]
    exact ⟨_, some f.message, rfl, rfl, nofun, rfl, rfl, rfl⟩
  · have ho : o = _ := rig.trial_of_made made
    rw [ho]
    refine ⟨_, none, rfl, ?_, fun _ _ => rfl, mapError_map_mapError .., ?_, rfl⟩
    · rw [Event.answers_append, Event.answers_append, Event.answers_course, Event.answers_sink]
      rfl
    · rw [Event.outer_append, Event.outer_append, Event.outer_course, Event.outer_sink]
      exact List.append_nil _

/-- **What is seen of a series**, by the schedule of its calls for devices. -/
theorem series_view (scenarios : List Scenario) (b : Bench σ δ ρ κ τ ω) :
    let o := rig.series scenarios b
    ∃ es, o.2.journal = b.journal.recordAll es ∧ ∀ fails, Event.FailsBy fails es →
      let ws := rig.timer.windows scenarios.length b.time
      let v := Scenario.viewAll rig.sink scenarios fails ws b.out
      o.1.mapError Failure.message = v.result ∧ Event.outer es = v.events ∧ o.2.out = v.out := by
  induction scenarios generalizing b with
  | nil =>
    simp only [series_nil]
    exact ⟨[], rfl, fun _ _ => ⟨rfl, rfl, rfl⟩⟩
  | cons s rest ih =>
    obtain ⟨es, a, hjournal, ha, htime, hresult, hevents, hout⟩ := rig.trial_view s b
    rcases ht : rig.trial s b with ⟨f | m, b₁⟩
    all_goals rw [ht] at hjournal htime hresult hout
    · rw [rig.series_cons_of_error ht]
      refine ⟨es, hjournal, fun fails h => ?_⟩
      obtain rfl := (Event.failsBy_singleton ha).mp h
      have hv : (s.view rig.sink b.out (rig.timer.window b.time).1 (fails 0)).result =
          .error f.message := hresult.symm
      simp only [List.length_cons, Timer.windows, Scenario.viewAll, hv]
      exact ⟨rfl, hevents, hout⟩
    · rw [rig.series_cons_of_ok ht]
      obtain ⟨es', hjournal', hrest⟩ := ih b₁
      refine ⟨es ++ es', by rw [hjournal', hjournal, Journal.recordAll_append], fun fails h => ?_⟩
      obtain ⟨rfl, h⟩ := (Event.failsBy_append ha).mp h
      have hv : (s.view rig.sink b.out (rig.timer.window b.time).1 (fails 0)).result = .ok m :=
        hresult.symm
      obtain ⟨hresult', hevents', hout'⟩ := hrest _ h
      rw [show b₁.time = _ from htime m rfl, show b₁.out = _ from hout] at hresult' hevents' hout'
      simp only [List.length_cons, Timer.windows, Scenario.viewAll, hv]
      refine ⟨?_, ?_, hout'⟩
      · rw [← hresult']
        cases (rig.series rest b₁).1 <;> rfl
      · rw [Event.outer_append, hevents, hevents']

/-! ## Two series -/

/-- **Results do not depend on devices**: nor do text, records, readings or failures, on any two
workshops whose calls fail alike. -/
theorem series_confined {σ₁ δ₁ ρ₁ κ₁ σ₂ δ₂ ρ₂ κ₂ : Type} (workshop₁ : Workshop σ₁ δ₁ ρ₁)
    (workshop₂ : Workshop σ₂ δ₂ ρ₂) (timer₁ : Timer κ₁ τ) (timer₂ : Timer κ₂ τ) (sink : Sink ω)
    {scenarios₁ scenarios₂ : List Scenario}
    (alike : List.Forall₂ Scenario.ReportsAlike scenarios₁ scenarios₂) (floor₁ : σ₁) (floor₂ : σ₂)
    {time₁ : κ₁} {time₂ : κ₂}
    (windows : timer₁.windows scenarios₁.length time₁ = timer₂.windows scenarios₂.length time₂)
    (out : ω) (fails : Nat → Option String) :
    let (result₁, b₁) := Rig.series ⟨workshop₁, timer₁, sink⟩ scenarios₁
      { floor := floor₁, time := time₁, out }
    let (result₂, b₂) := Rig.series ⟨workshop₂, timer₂, sink⟩ scenarios₂
      { floor := floor₂, time := time₂, out }
    Event.FailsBy fails b₁.events → Event.FailsBy fails b₂.events →
      Event.text b₁.events = Event.text b₂.events ∧
      result₁.mapError Failure.message = result₂.mapError Failure.message ∧
      Event.readings b₁.events = Event.readings b₂.events ∧
      Event.outer b₁.events = Event.outer b₂.events ∧ b₁.out = b₂.out := by
  obtain ⟨es₁, hes₁, view₁⟩ := Rig.series_view ⟨workshop₁, timer₁, sink⟩ scenarios₁
    { floor := floor₁, time := time₁, out }
  obtain ⟨es₂, hes₂, view₂⟩ := Rig.series_view ⟨workshop₂, timer₂, sink⟩ scenarios₂
    { floor := floor₂, time := time₂, out }
  intro fails₁ fails₂
  have hevents₁ := Bench.events_of_fresh rfl hes₁
  have hevents₂ := Bench.events_of_fresh rfl hes₂
  rw [hevents₁] at fails₁
  rw [hevents₂] at fails₂
  obtain ⟨hresult₁, houter₁, hout₁⟩ := view₁ fails fails₁
  obtain ⟨hresult₂, houter₂, hout₂⟩ := view₂ fails fails₂
  -- both series look like the one without devices, in which the scenarios may be exchanged
  have same := Scenario.viewAll_congr sink alike fails
    (timer₁.windows scenarios₁.length time₁) out
  rw [windows] at same
  dsimp only at hresult₁ houter₁ hout₁
  rw [windows, same] at hresult₁ houter₁ hout₁
  have houter : Event.outer es₁ = Event.outer es₂ := houter₁.trans houter₂.symm
  rw [hevents₁, hevents₂]
  refine ⟨?_, hresult₁.trans hresult₂.symm, ?_, houter, hout₁.trans hout₂.symm⟩
  · rw [← Event.text_outer, houter, Event.text_outer]
  · rw [← Event.readings_outer, houter, Event.readings_outer]

end Rig

/-! ## Workshops that fail by a schedule -/

/-- **A workshop fails by a schedule**: the answer to a call depends on its number alone. `reached`
tells the states after so many calls, whatever was done to the devices. -/
structure Workshop.Scheduled (workshop : Workshop σ δ ρ) (fails : Nat → Option String)
    (reached : Nat → σ → Prop) : Prop where
  make : ∀ {k x}, reached k x → reached (k + 1) (workshop.make x).2 ∧
    match (workshop.make x).1 with
    | .ok _ => fails k = none
    | .error f => fails k = some f.message
  pins : ∀ d {k x y}, (workshop.device d).Reach x y → reached k x → reached k y
  scrap : ∀ d {k x}, reached k x → reached k (workshop.scrap d x).2

namespace Rig

variable (rig : Rig σ δ ρ κ τ ω) {fails : Nat → Option String} {reached : Nat → σ → Prop}

theorem trial_scheduled (scheduled : rig.workshop.Scheduled fails reached) {k : Nat} (s : Scenario)
    {b : Bench σ δ ρ κ τ ω} (hb : reached k b.floor) :
    ∃ es, (rig.trial s b).2.journal = b.journal.recordAll es ∧ Event.answers es = [fails k] ∧
      reached (k + 1) (rig.trial s b).2.floor := by
  obtain ⟨hmade, hanswer⟩ := scheduled.make hb
  rcases made : rig.workshop.make b.floor with ⟨f | d, x⟩
  all_goals rw [made] at hmade hanswer
  · rw [rig.trial_of_not_made made]
    exact ⟨_, rfl, by rw [hanswer]; rfl, hmade⟩
  · rw [rig.trial_of_made made]
    refine ⟨_, rfl, ?_, scheduled.scrap d (scheduled.pins d (.driven s .here) hmade)⟩
    rw [Event.answers_append, Event.answers_append, Event.answers_course, Event.answers_sink,
      hanswer]
    rfl

theorem failsBy_series (scheduled : rig.workshop.Scheduled fails reached) {k : Nat}
    (scenarios : List Scenario) {b : Bench σ δ ρ κ τ ω} (hb : reached k b.floor) :
    ∃ es, (rig.series scenarios b).2.journal = b.journal.recordAll es ∧
      Event.FailsBy (fun j => fails (k + j)) es := by
  induction scenarios generalizing b k with
  | nil =>
    rw [series_nil]
    exact ⟨[], rfl, nofun⟩
  | cons s rest ih =>
    obtain ⟨es, hes, hanswers, hreached⟩ := rig.trial_scheduled scheduled s hb
    rcases ht : rig.trial s b with ⟨f | m, b₁⟩
    all_goals rw [ht] at hes hreached
    · rw [rig.series_cons_of_error ht]
      exact ⟨es, hes, (Event.failsBy_singleton hanswers).mpr rfl⟩
    · rw [rig.series_cons_of_ok ht]
      obtain ⟨es', hes', hrest⟩ := ih hreached
      refine ⟨es ++ es', by rw [hes', hes, Journal.recordAll_append], ?_⟩
      refine (Event.failsBy_append hanswers).mpr ⟨rfl, ?_⟩
      have hshift : (fun j => fails (k + (j + 1))) = fun j => fails (k + 1 + j) := by
        funext j
        rw [Nat.add_assoc, Nat.add_comm 1 j]
      rwa [hshift]

end Rig

namespace Assortment

/-- The message of the failure that a plan leads to, if it leads to one. -/
def Plan.failure? : Option Plan → Option String
  | some (.fails text) => some text
  | some _ => none
  | none => some "no plan"

/-- The calls that fail by a list of plans. -/
def fails (plans : List Plan) (k : Nat) : Option String :=
  Plan.failure? plans[k % plans.length]?

/-- An assortment of some plans after so many calls. -/
def Reached (plans : List Plan) (k : Nat) (a : Assortment) : Prop := a.plans = plans ∧ a.calls = k

theorem reached_pins {plans : List Plan} {k : Nat} {a a' : Assortment} {d : Name}
    (reach : (device d).Reach a a') (ha : Reached plans k a) : Reached plans k a' := by
  induction reach with
  | here => exact ha
  | _ => cases d <;> assumption

theorem scheduled (plans : List Plan) :
    workshop.Scheduled (fails plans) (Reached plans) where
  make := by
    rintro k a ⟨rfl, rfl⟩
    simp only [workshop, make, fails]
    rcases a.plans[a.calls % a.plans.length]? with _ | (n | p | text)
    all_goals exact ⟨⟨rfl, rfl⟩, rfl⟩
  pins d _ _ _ reach ha := reached_pins reach ha
  scrap d _ _ ha := by cases d <;> exact ha

theorem failsBy_series (timer : Timer κ τ) (sink : Sink ω) (plans : List Plan)
    (scenarios : List Scenario) (time : κ) (out : ω) :
    Event.FailsBy (fails plans) (Rig.series ⟨workshop, timer, sink⟩ scenarios
      { floor := { plans }, time, out }).2.events := by
  obtain ⟨es, hes, failsBy⟩ := Rig.failsBy_series ⟨workshop, timer, sink⟩ (scheduled plans)
    (k := 0) scenarios (b := { floor := { plans }, time, out }) ⟨rfl, rfl⟩
  rw [Bench.events_of_fresh rfl hes]
  simp only [Nat.zero_add] at failsBy
  exact failsBy

end Assortment

/-! ## A sink that keeps account -/

/-- What a sink is asked. -/
inductive Sink.Call where
  | write (offered : Bytes)
  | flush
deriving DecidableEq

/-- A sink that also keeps account of what it is asked. -/
def Sink.noting (sink : Sink ω) : Sink (ω × List Sink.Call) where
  write bs s := ((sink.write bs s.1).1, (sink.write bs s.1).2, s.2 ++ [.write bs])
  flush s := ((sink.flush s.1).1, (sink.flush s.1).2, s.2 ++ [.flush])
  patience s := sink.patience s.1
  patience_lt bs s := sink.patience_lt bs s.1

/-- A bank and a probe with a stuck clock, driven differently and each followed by a plan that
fails, on timers that agree about two windows. -/
theorem Rig.series_confined_bank_probe :
    let banks : List Assortment.Plan := [.bank 2, .fails "spent"]
    let probes : List Assortment.Plan :=
      [.probe { clock := true, stuck := some true, count := 9 }, .fails "spent"]
    let s₁ : List Scenario := [⟨"a", 3, 2, false, .total⟩, ⟨"b", 0, 1, true, .perEdge⟩]
    let s₂ : List Scenario := [⟨"a", 0, 2, true, .total⟩, ⟨"b", 8, 1, false, .perEdge⟩]
    let time₁ : Timer.Script := { next := 5, step := 7 }
    let time₂ : Timer.Script := { time₁ with spans := some [.ofNat 7, .ofNat 7, .zero true] }
    let rig : Rig _ _ _ _ _ _ := ⟨Assortment.workshop, .scripted, Sink.bytewise.noting⟩
    let out : Unit × List Sink.Call := ((), [])
    let (result₁, b₁) := rig.series s₁ { floor := { plans := banks }, time := time₁, out }
    let (result₂, b₂) := rig.series s₂ { floor := { plans := probes }, time := time₂, out }
    List.Forall₂ Scenario.ReportsAlike s₁ s₂ ∧
      Timer.scripted.windows 2 time₁ = Timer.scripted.windows 2 time₂ ∧
      Event.FailsBy (Assortment.fails banks) b₁.events ∧
      Event.FailsBy (Assortment.fails banks) b₂.events ∧
      Event.text b₁.events = Event.text b₂.events ∧
      result₁.mapError Failure.message = result₂.mapError Failure.message ∧
      Event.readings b₁.events = Event.readings b₂.events ∧
      Event.outer b₁.events = Event.outer b₂.events ∧ b₁.out = b₂.out := by
  intro banks probes s₁ s₂ time₁ time₂ rig out
  have alike : List.Forall₂ Scenario.ReportsAlike s₁ s₂ :=
    .cons ⟨rfl, rfl, rfl⟩ (.cons ⟨rfl, rfl, rfl⟩ .nil)
  have windows : Timer.scripted.windows 2 time₁ = Timer.scripted.windows 2 time₂ := by
    simp [time₁, time₂, Timer.windows, Timer.window, Timer.scripted]
  have same : Assortment.fails probes = Assortment.fails banks := by
    funext k
    obtain hk | hk := Nat.mod_two_eq_zero_or_one k
    all_goals
      rw [Assortment.fails, Assortment.fails]
      simp only [banks, probes, List.length_cons, List.length_nil, hk]
      rfl
  have fails₁ := Assortment.failsBy_series .scripted Sink.bytewise.noting banks s₁ time₁ out
  have fails₂ := Assortment.failsBy_series .scripted Sink.bytewise.noting probes s₂ time₂ out
  rw [same] at fails₂
  exact ⟨alike, windows, fails₁, fails₂, Rig.series_confined Assortment.workshop Assortment.workshop
    .scripted .scripted Sink.bytewise.noting alike { plans := banks } { plans := probes } windows
    out _ fails₁ fails₂⟩

end EdgeMeter
