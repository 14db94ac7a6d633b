import EdgeMeter.Proofs.Happened

/-!
# Series of trials

A series goes on until a trial fails. Its account (the text at the sink, the calls for devices, the
readings of the timer) is the sum of the accounts of its trials, so what is left after a failure at
one scenario is what the scenarios before it left, and what the failing trial did.

* `Event.text`, `Event.makings`, `Event.readings`: the account in some events;
* `Timer.results`: the results of scenarios in the successive windows of a timer;
* `Rig.Completed`: the account of a series that ends well;
* `Rig.Halt`, `Rig.Stopped`: the three ways in which a trial fails, and the account of a series that
  ends there;
* **`Rig.series_completed_or_stopped`**: every series ends in one of these ways.
-/

namespace EdgeMeter

variable {σ δ ρ κ τ ω : Type}

/-! ## Accounts -/

namespace Event

/-- The reading of a timer in an event. -/
def reading? : Event δ ρ τ → Option τ
  | read t => some t
  | _ => none

/-- Whether an event is a call for a new device. -/
def isMaking : Event δ ρ τ → Bool
  | made _ => true
  | notMade _ => true
  | _ => false

/-- The text that some events left at the sink. -/
def text (es : List (Event δ ρ τ)) : Bytes := es.flatMap bytes

/-- The number of calls for new devices. -/
def makings (es : List (Event δ ρ τ)) : Nat := es.countP isMaking

/-- The readings of the timer, in order. -/
def readings (es : List (Event δ ρ τ)) : List τ := es.filterMap reading?

@[simp] theorem text_append (es es' : List (Event δ ρ τ)) :
    text (es ++ es') = text es ++ text es' := List.flatMap_append

@[simp] theorem makings_append (es es' : List (Event δ ρ τ)) :
    makings (es ++ es') = makings es + makings es' := List.countP_append

@[simp] theorem readings_append (es es' : List (Event δ ρ τ)) :
    readings (es ++ es') = readings es ++ readings es' := List.filterMap_append

/-! Signals are no part of the account, and neither are records. -/

theorem text_signals (d : δ) (l : List Signal) :
    text (l.map (.signal d) : List (Event δ ρ τ)) = [] := by
  simp [text, bytes]

theorem makings_signals (d : δ) (l : List Signal) :
    makings (l.map (.signal d) : List (Event δ ρ τ)) = 0 := by
  simp [makings, isMaking]

theorem readings_signals (d : δ) (l : List Signal) :
    readings (l.map (.signal d) : List (Event δ ρ τ)) = [] := by
  simp [readings, reading?]

theorem text_sink (es : List Sink.Event) :
    text (es.map .sink : List (Event δ ρ τ)) = Sink.taken es := by
  induction es with
  | nil => rfl
  | cons e es ih =>
    rw [Sink.taken_cons, ← ih]
    cases e <;> rfl

theorem makings_sink (es : List Sink.Event) :
    makings (es.map .sink : List (Event δ ρ τ)) = 0 := by
  simp [makings, isMaking]

theorem readings_sink (es : List Sink.Event) :
    readings (es.map .sink : List (Event δ ρ τ)) = [] := by
  simp [readings, reading?]

variable (s : Scenario) (dev : Device σ) (d : δ) (x : σ) (w : Window τ)

theorem text_course : text (s.course dev d x w : List (Event δ ρ τ)) = [] := by
  simp only [Scenario.course, text_append, text_signals]
  split <;> rfl

theorem makings_course : makings (s.course dev d x w : List (Event δ ρ τ)) = 1 := by
  simp only [Scenario.course, makings_append, makings_signals]
  split <;> rfl

theorem readings_course : readings (s.course dev d x w : List (Event δ ρ τ)) = w.readings := by
  simp only [Scenario.course, readings_append, readings_signals]
  split <;> rfl

/-- **The account of a trial on a device** is the text that its sink took, one call for a device and
two readings. -/
theorem account_trial (es : List Sink.Event) (remains : ρ) :
    let all := s.course dev d x w ++ es.map .sink ++ [.scrapped d remains]
    text all = Sink.taken es ∧ makings all = 1 ∧ readings all = w.readings := by
  refine ⟨?_, ?_, ?_⟩
  · rw [text_append, text_append, text_course, text_sink]
    exact List.append_nil _
  · rw [makings_append, makings_append, makings_course, makings_sink]
    rfl
  · rw [readings_append, readings_append, readings_course, readings_sink]
    rfl

end Event

/-! ## Successive windows -/

namespace Timer

variable (timer : Timer κ τ)

/-- The state of a timer after some windows. -/
def afterWindows (n : Nat) (c : κ) : κ := times n (fun c => (timer.window c).2) c

theorem windows_add (m n : Nat) (c : κ) :
    timer.windows (m + n) c = timer.windows m c ++ timer.windows n (timer.afterWindows m c) := by
  induction m generalizing c with
  | zero => rw [Nat.zero_add]; rfl
  | succ m ih =>
    rw [Nat.succ_add_eq_add_succ, Nat.add_succ, windows, ih, windows, List.cons_append]
    rfl

theorem length_readings (n : Nat) (c : κ) :
    ((timer.windows n c).flatMap Window.readings).length = 2 * n := by
  induction n generalizing c with
  | zero => rfl
  | succ n ih =>
    rw [windows, List.flatMap_cons, List.length_append, ih]
    exact Nat.add_comm 2 (2 * n)

/-- **The results of scenarios** in the successive windows of a timer. -/
def results (scenarios : List Scenario) (c : κ) : List Measurement :=
  List.zipWith Scenario.measurement scenarios (timer.windows scenarios.length c)

@[simp] theorem length_results (scenarios : List Scenario) (c : κ) :
    (timer.results scenarios c).length = scenarios.length := by
  simp [results]

theorem results_cons (s : Scenario) (scenarios : List Scenario) (c : κ) :
    timer.results (s :: scenarios) c =
      s.measurement (timer.window c).1 :: timer.results scenarios (timer.window c).2 := rfl

theorem results_concat {done : List Scenario} (s : Scenario) {c : κ} {w : Window τ}
    (hw : timer.windows (done.length + 1) c = timer.windows done.length c ++ [w]) :
    timer.results (done ++ [s]) c = timer.results done c ++ [s.measurement w] := by
  have hlength : done.length = (timer.windows done.length c).length :=
    (timer.length_windows done.length c).symm
  rw [results, List.length_append, List.length_singleton, hw, List.zipWith_append hlength]
  rfl

theorem map_name_results (scenarios : List Scenario) (c : κ) :
    (timer.results scenarios c).map (·.name) = scenarios.map (·.name) := by
  induction scenarios generalizing c with
  | nil => rfl
  | cons s scenarios ih =>
    rw [results_cons, List.map_cons, ih, List.map_cons]
    rfl

end Timer

namespace Rig

variable (rig : Rig σ δ ρ κ τ ω)

/-! ## A series that ends well -/

/-- **The account of a series that ends well**, with the timer in state `c` at its beginning. -/
structure Completed (scenarios : List Scenario) (c : κ) (ms : List Measurement)
    (es : List (Event δ ρ τ)) : Prop where
  results : ms = rig.timer.results scenarios c
  text : Event.text es = ms.flatMap Measurement.printed
  makings : Event.makings es = scenarios.length
  readings : Event.readings es = (rig.timer.windows scenarios.length c).flatMap Window.readings

theorem trial_ok {s : Scenario} {b b' : Bench σ δ ρ κ τ ω} {m : Measurement}
    (h : rig.trial s b = (.ok m, b')) :
    b'.time = (rig.timer.window b.time).2 ∧ ∃ es, b'.journal = b.journal.recordAll es ∧
      rig.Completed [s] b.time [m] es := by
  rcases rig.trial_cases s b with ⟨f, x, -, ht⟩ | ⟨d, x, es, r, out, -, hd, ht⟩
  · rw [ht] at h
    cases h
  · rw [ht] at h
    -- the bytes of the line are an index of `hd`, so they must be a variable to take it apart
    generalize hbs : (s.measurement (rig.timer.window b.time).1).printed = bs at hd
    cases hd with
    | unwritten => cases h
    | unflushed => cases h
    | done willing =>
      obtain ⟨hm, rfl⟩ := Prod.mk.inj h
      obtain rfl := Except.ok.inj hm
      obtain ⟨text, makings, readings⟩ := Event.account_trial s (rig.workshop.device d) d x
        (rig.timer.window b.time).1 (_ ++ [.flushed]) (rig.workshop.scrap d _).1
      refine ⟨rfl, _, rfl, rfl, text.trans ?_, makings, readings⟩
      rw [List.flatMap_singleton, hbs, Sink.taken_append]
      exact List.append_nil _

theorem series_cons_of_ok {s : Scenario} {rest : List Scenario} {b b₁ : Bench σ δ ρ κ τ ω}
    {m : Measurement} (h : rig.trial s b = (.ok m, b₁)) :
    rig.series (s :: rest) b =
      ((rig.series rest b₁).1.map (m :: ·), (rig.series rest b₁).2) := by
  rw [series_cons, h]

theorem series_cons_of_error {s : Scenario} {rest : List Scenario} {b b₁ : Bench σ δ ρ κ τ ω}
    {f : Failure} (h : rig.trial s b = (.error f, b₁)) :
    rig.series (s :: rest) b = (.error f, b₁) := by
  rw [series_cons, h]

theorem series_ok {scenarios : List Scenario} {b b' : Bench σ δ ρ κ τ ω} {ms : List Measurement}
    (h : rig.series scenarios b = (.ok ms, b')) :
    b'.time = rig.timer.afterWindows scenarios.length b.time ∧
      ∃ es, b'.journal = b.journal.recordAll es ∧ rig.Completed scenarios b.time ms es := by
  induction scenarios generalizing b ms with
  | nil =>
    rw [series_nil] at h
    obtain ⟨hm, rfl⟩ := Prod.mk.inj h
    obtain rfl := Except.ok.inj hm
    exact ⟨rfl, [], rfl, rfl, rfl, rfl, rfl⟩
  | cons s rest ih =>
    rcases ht : rig.trial s b with ⟨f | m, b₁⟩
    · rw [rig.series_cons_of_error ht] at h
      cases h
    · rw [rig.series_cons_of_ok ht] at h
      rcases hr : rig.series rest b₁ with ⟨f | ms', b₂⟩
      · rw [hr] at h
        cases h
      · rw [hr] at h
        obtain ⟨hm, rfl⟩ := Prod.mk.inj h
        obtain rfl := Except.ok.inj hm
        obtain ⟨htime, es, hes, first⟩ := rig.trial_ok ht
        obtain ⟨htime', es', hes', others⟩ := ih hr
        refine ⟨by rw [htime', htime]; rfl, es ++ es', ?_, ?_, ?_, ?_, ?_⟩
        · rw [hes', hes, Journal.recordAll_append]
        · rw [Timer.results_cons, ← htime, ← others.results]
          exact congrArg (· :: ms') (List.cons.inj first.results).1
        · rw [Event.text_append, first.text, others.text, List.flatMap_singleton,
            List.flatMap_cons]
        · rw [Event.makings_append, first.makings, others.makings, List.length_cons]
          exact Nat.add_comm _ _
        · rw [Event.readings_append, first.readings, others.readings, htime]
          rfl

/-! ## A series that stops -/

/-- The number of windows that a trial opens, by what its workshop answered. -/
def opened : Except Failure δ → Nat
  | .error _ => 0
  | .ok _ => 1

/-- **The three ways in which a trial fails**, by what the workshop answered: no device is made, the
line is refused with some of it still untaken, or the line is taken and the flush fails. Each with
the event at fault, the failure, and what was taken of the line. -/
inductive Halt (line : Bytes) : Except Failure δ → Event δ ρ τ → Failure → Bytes → Prop where
  | unmade (f : Failure) : Halt line (.error f) (.notMade f) f []
  | unwritten (d : δ) (e : IoError) (taken rest : Bytes) (rest_ne : rest ≠ [])
    (line_eq : taken ++ rest = line) :
    Halt line (.ok d) (.sink (.writeFailed e)) (.output e) taken
  | unflushed (d : δ) (e : IoError) :
    Halt line (.ok d) (.sink (.flushFailed e)) (.output e) line

theorem Halt.taken_prefix {line taken : Bytes} {made : Except Failure δ} {e : Event δ ρ τ}
    {f : Failure} (h : Halt line made e f taken) : taken <+: line := by
  cases h with
  | unmade => exact List.nil_prefix
  | unwritten _ _ _ rest _ line_eq => exact ⟨rest, line_eq⟩
  | unflushed => exact List.prefix_rfl

/-- **The account of a series that stops** at scenario `s` after those in `done`, with the timer in
state `c` at its beginning, and `made` the last answer of the workshop. -/
structure Stopped (done : List Scenario) (s : Scenario) (c : κ) (made : Except Failure δ)
    (f : Failure) (es : List (Event δ ρ τ)) : Prop where
  makings : Event.makings es = done.length + 1
  readings :
    Event.readings es = (rig.timer.windows (done.length + opened made) c).flatMap Window.readings
  halt : ∃ w e taken,
    rig.timer.windows (done.length + 1) c = rig.timer.windows done.length c ++ [w] ∧
    e ∈ es ∧ Halt (s.measurement w).printed made e f taken ∧
    Event.text es = (rig.timer.results done c).flatMap Measurement.printed ++ taken

theorem trial_error {s : Scenario} {b b' : Bench σ δ ρ κ τ ω} {f : Failure}
    (h : rig.trial s b = (.error f, b')) :
    ∃ es, b'.journal = b.journal.recordAll es ∧
      rig.Stopped [] s b.time (rig.workshop.make b.floor).1 f es := by
  rcases rig.trial_cases s b with ⟨f', x, made, ht⟩ | ⟨d, x, es, r, out, made, hd, ht⟩
  · rw [made]
    rw [ht] at h
    obtain ⟨hf, rfl⟩ := Prod.mk.inj h
    obtain rfl := Except.error.inj hf
    exact ⟨_, rfl, rfl, rfl, _, _, _, rfl, by simp, .unmade f', rfl⟩
  · rw [made]
    rw [ht] at h
    generalize hbs : (s.measurement (rig.timer.window b.time).1).printed = bs at hd
    cases hd with
    | done => cases h
    | @unwritten es e rest willing rest_ne =>
      obtain ⟨hf, rfl⟩ := Prod.mk.inj h
      obtain rfl := Except.error.inj hf
      obtain ⟨text, makings, readings⟩ := Event.account_trial s (rig.workshop.device d) d x
        (rig.timer.window b.time).1 (es ++ [.writeFailed e]) (rig.workshop.scrap d _).1
      refine ⟨_, rfl, makings, readings, _, _, _, rfl, by simp,
        .unwritten d _ _ _ rest_ne hbs.symm, text.trans ?_⟩
      rw [Sink.taken_append]
      exact List.append_nil _
    | @unflushed es e willing =>
      obtain ⟨hf, rfl⟩ := Prod.mk.inj h
      obtain rfl := Except.error.inj hf
      obtain ⟨text, makings, readings⟩ := Event.account_trial s (rig.workshop.device d) d x
        (rig.timer.window b.time).1 (es ++ [.flushFailed e]) (rig.workshop.scrap d _).1
      refine ⟨_, rfl, makings, readings, _, _, _, rfl, by simp, .unflushed d e, text.trans ?_⟩
      rw [Sink.taken_append, ← hbs]
      exact List.append_nil _

/-- A series that fails has a first trial that fails. -/
theorem series_error {scenarios : List Scenario} {b b' : Bench σ δ ρ κ τ ω} {f : Failure}
    (h : rig.series scenarios b = (.error f, b')) :
    ∃ done s rest ms b₁, scenarios = done ++ s :: rest ∧ rig.series done b = (.ok ms, b₁) ∧
      rig.trial s b₁ = (.error f, b') := by
  induction scenarios generalizing b with
  | nil =>
    rw [series_nil] at h
    cases h
  | cons s rest ih =>
    rcases ht : rig.trial s b with ⟨f' | m, b₁⟩
    · rw [rig.series_cons_of_error ht] at h
      obtain ⟨hf, rfl⟩ := Prod.mk.inj h
      obtain rfl := Except.error.inj hf
      exact ⟨[], s, rest, [], b, rfl, rig.series_nil b, ht⟩
    · rw [rig.series_cons_of_ok ht] at h
      rcases hr : rig.series rest b₁ with ⟨f' | ms, b₂⟩
      · rw [hr] at h
        obtain ⟨hf, rfl⟩ := Prod.mk.inj h
        obtain rfl := Except.error.inj hf
        obtain ⟨done, s', rest', ms, b₃, rfl, hdone, hs'⟩ := ih hr
        refine ⟨s :: done, s', rest', m :: ms, b₃, rfl, ?_, hs'⟩
        rw [rig.series_cons_of_ok ht, hdone]
        rfl
      · rw [hr] at h
        cases h

theorem Completed.stopped {done : List Scenario} {s : Scenario} {c : κ} {ms : List Measurement}
    {made : Except Failure δ} {f : Failure} {es es' : List (Event δ ρ τ)}
    (h : rig.Completed done c ms es)
    (h' : rig.Stopped [] s (rig.timer.afterWindows done.length c) made f es') :
    rig.Stopped done s c made f (es ++ es') where
  makings := by rw [Event.makings_append, h.makings, h'.makings, List.length_nil, Nat.zero_add]
  readings := by
    rw [Event.readings_append, h.readings, h'.readings, List.length_nil, Nat.zero_add,
      Timer.windows_add, List.flatMap_append]
  halt := by
    obtain ⟨w, e, taken, hw, he, halt, text⟩ := h'.halt
    refine ⟨w, e, taken, ?_, List.mem_append_right es he, halt, ?_⟩
    · rw [Timer.windows_add]
      exact congrArg _ hw
    · rw [Event.text_append, h.text, h.results, text]
      rfl

/-- **The account of a series** on any bench: it is completed, or it stops. -/
theorem series_account (scenarios : List Scenario) (b : Bench σ δ ρ κ τ ω) :
    ∃ es, (rig.series scenarios b).2.journal = b.journal.recordAll es ∧
      ((∃ ms, (rig.series scenarios b).1 = .ok ms ∧ rig.Completed scenarios b.time ms es) ∨
        ∃ done s rest made f, scenarios = done ++ s :: rest ∧
          (rig.series scenarios b).1 = .error f ∧ rig.Stopped done s b.time made f es) := by
  rcases h : rig.series scenarios b with ⟨f | ms, b'⟩
  · obtain ⟨done, s, rest, ms, b₁, hscenarios, hdone, ht⟩ := rig.series_error h
    obtain ⟨htime, es, hes, completed⟩ := rig.series_ok hdone
    obtain ⟨es', hes', stopped⟩ := rig.trial_error ht
    rw [htime] at stopped
    have stopped := completed.stopped rig stopped
    refine ⟨es ++ es', ?_, .inr ⟨done, s, rest, _, f, hscenarios, rfl, stopped⟩⟩
    rw [hes', hes, Journal.recordAll_append]
  · obtain ⟨-, es, hes, completed⟩ := rig.series_ok h
    exact ⟨es, hes, .inl ⟨ms, rfl, completed⟩⟩

/-- **Every series is completed or stops at the first trial that fails**, and all that its account
says was done event by event. -/
theorem series_completed_or_stopped (scenarios : List Scenario) (floor : σ) (time : κ) (out : ω) :
    let b : Bench σ δ ρ κ τ ω := { floor, time, out }
    let (result, b') := rig.series scenarios b
    Steps rig.Happens b'.events b b' ∧
    ((∃ ms, result = .ok ms ∧ ms.length = scenarios.length ∧
      (Event.readings b'.events).length = 2 * scenarios.length ∧
      rig.Completed scenarios time ms b'.events) ∨
    ∃ done s rest f b₁, scenarios = done ++ s :: rest ∧ result = .error f ∧
      rig.series done b = (.ok (rig.timer.results done time), b₁) ∧
      rig.trial s b₁ = (.error f, b') ∧
      let made := (rig.workshop.make b₁.floor).1
      rig.Stopped done s time made f b'.events ∧
      (Event.readings b'.events).length = 2 * (done.length + opened made) ∧
      ∀ e, f = .output e → f.message = "I/O failure: " ++ e.message) := by
  intro b
  have happened := (rig.leads_series b scenarios).steps_of_fresh rfl
  rcases h : rig.series scenarios b with ⟨f | ms, b'⟩
  all_goals
    rw [h] at happened
    refine ⟨happened, ?_⟩
  · obtain ⟨done, s, rest, ms, b₁, hsplit, hdone, htrial⟩ := rig.series_error h
    obtain ⟨htime, es, hes, completed⟩ := rig.series_ok hdone
    obtain ⟨es', hes', stopped⟩ := rig.trial_error htrial
    have hevents : b'.events = es ++ es' := by
      rw [Bench.events, hes', hes, ← Journal.recordAll_append]
      exact Journal.toList_recordAll_fresh _
    rw [htime] at stopped
    have stopped := completed.stopped rig stopped
    rw [← hevents] at stopped
    refine .inr ⟨done, s, rest, f, b₁, hsplit, rfl, ?_, htrial, stopped, ?_, ?_⟩
    · rw [hdone, completed.results]
    · rw [stopped.readings, Timer.length_readings]
    · rintro e rfl
      rfl
  · obtain ⟨-, es, hes, completed⟩ := rig.series_ok h
    have hevents : b'.events = es := by
      rw [Bench.events, hes]
      exact Journal.toList_recordAll_fresh _
    rw [← hevents] at completed
    refine .inl ⟨ms, rfl, ?_, ?_, completed⟩
    · rw [completed.results, Timer.length_results]
    · rw [completed.readings, Timer.length_readings]

end Rig

end EdgeMeter
