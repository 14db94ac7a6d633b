import EdgeMeter.Proofs.Numerals
import EdgeMeter.Proofs.Series

/-!
# Reports of a monotonic timer

Whatever two instants a monotonic timer shows, the time between them is a finite number that is not
negative, and so is its share for one edge, if there are edges. Without edges there is no share: no
time by no edges is not a number, and some time by no edges is infinite.

* `Instant.Representable`, `Timer.Shown`: the instants that a timer can show;
* `Measurement.WellFormed`: a finite number that is not negative, and a line that shows it;
* `Scenario.wellFormed_measurement`: two readings give a well-formed measurement;
* `Rig.series_of_accepting`: a series that has to end well;
* **`Rig.series_wellFormed`**: all results of a series are well formed, and all lines of it;
* `Rig.series_edgeless`: not so without edges.
-/

namespace EdgeMeter

variable {σ δ ρ κ τ ω : Type}

/-! ## Instants -/

/-- **An instant that can be shown**: its seconds fit a word, and it has less than a second
besides. -/
structure Instant.Representable (t : Instant) : Prop where
  seconds : t.seconds < 2 ^ 64
  nanos : t.nanos < 1000000000

theorem Instant.Representable.total_lt {t : Instant} (h : t.Representable) : t.total < 2 ^ 94 := by
  obtain ⟨hseconds, hnanos⟩ := h
  unfold Instant.total
  omega

/-- All instants that a monotonic timer shows can be shown. -/
structure Timer.Shown (c : Instant × List Instant) : Prop where
  last : c.1.Representable
  next : ∀ t ∈ c.2, t.Representable

theorem Timer.Shown.read {c : Instant × List Instant} (h : Timer.Shown c) :
    (Timer.monotonic.read c).1.Representable ∧ Timer.Shown (Timer.monotonic.read c).2 := by
  obtain ⟨last, next⟩ := c
  cases next with
  | nil => exact ⟨h.last, h⟩
  | cons t rest =>
    have ht : t.Representable := h.next t List.mem_cons_self
    exact ⟨ht, ht, fun t' ht' => h.next t' (List.mem_cons_of_mem t ht')⟩

theorem Timer.mem_windows_monotonic {n : ℕ} {c : Instant × List Instant} {w : Window Instant}
    (h : Timer.Shown c) (hw : w ∈ Timer.monotonic.windows n c) :
    w.finish.Representable ∧ w.nanos = w.start.nanosTo w.finish := by
  induction n generalizing c with
  | zero => cases hw
  | succ n ih =>
    obtain ⟨-, hstart⟩ := h.read
    obtain ⟨hfinish, hrest⟩ := hstart.read
    rcases List.mem_cons.mp hw with rfl | hw
    · exact ⟨hfinish, rfl⟩
    · exact ih hrest hw

/-! ## Measurements -/

/-- **A well-formed measurement**: its number is finite and not negative, and its line is the word
that lines begin with, the name, a space and the number written out with two places. -/
structure Measurement.WellFormed (m : Measurement) : Prop where
  finite : m.figure.isFinite
  number : m.figure.isNaN = false
  nonneg : 0 ≤ m.figure.value
  line : ∃ t : Numeral, t.negative = false ∧ m.line = "BENCH " ++ m.name ++ " " ++ t.text

theorem Measurement.wellFormed_of_bounds {m : Measurement} (finite : m.figure.isFinite)
    (sign : m.figure.negative = false) : m.WellFormed where
  finite := finite
  number := Binary64.isNaN_of_finite finite
  nonneg := by
    rw [Binary64.value, sign, if_neg Bool.false_ne_true, one_mul]
    positivity
  line := ⟨_, sign, congrArg _ (Binary64.twoPlaces_of_finite finite)⟩

/-- **Two readings give a well-formed measurement**, unless time is to be shared by no edges. -/
theorem Scenario.wellFormed_measurement {s : Scenario}
    (divisible : s.basis = .perEdge → s.timed ≠ 0) {w : Window Instant}
    (representable : w.finish.Representable) (hw : w.nanos = w.start.nanosTo w.finish) :
    (s.measurement w).WellFormed := by
  have hlt : w.finish.total - w.start.total < 2 ^ 94 :=
    Nat.lt_of_le_of_lt (Nat.sub_le _ _) representable.total_lt
  obtain ⟨finite, sign, -, k, hk, fits⟩ := Binary64.ofNat_bounds hlt (by decide)
  have hnanos : w.nanos = .ofNat (w.finish.total - w.start.total) := hw
  rw [← hnanos] at finite sign fits
  suffices h : (s.figure w.nanos).isFinite ∧ (s.figure w.nanos).negative = false from
    Measurement.wellFormed_of_bounds h.1 h.2
  unfold Scenario.figure
  cases hbasis : s.basis with
  | total => exact ⟨finite, sign⟩
  | perEdge =>
    have hedges : s.timed.toNat ≠ 0 := by
      intro hzero
      exact divisible hbasis (UInt32.toNat_inj.mp hzero)
    obtain ⟨finite', sign', one_le, -⟩ := Binary64.ofNat_bounds s.timed.toNat_lt (by decide)
    exact Binary64.div_bounds finite finite' (sign.trans sign'.symm) fits (by omega)
      (one_le hedges)

theorem Binary64.not_isFinite_div_zero (x : Binary64) : ¬(x.div (.ofNat 0)).isFinite := by
  have hzero : Binary64.ofNat 0 = .zero false := by decide +kernel
  have hnan : ¬Binary64.nan.isFinite := by decide
  have hinfinity : ∀ negative, ¬(Binary64.infinity negative).isFinite := by decide
  rw [hzero, div, show (Binary64.zero false).isNaN = false by decide,
    show (Binary64.zero false).isInfinite = false by decide,
    show (Binary64.zero false).isZero = true by decide]
  cases x.isNaN
  · cases x.isInfinite
    · cases x.isZero
      · exact hinfinity _
      · exact hnan
    · exact hinfinity _
  · exact hnan

theorem Scenario.not_wellFormed_measurement {s : Scenario} (basis : s.basis = .perEdge)
    (edgeless : s.timed = 0) (w : Window τ) : ¬(s.measurement w).WellFormed := by
  intro h
  refine w.nanos.not_isFinite_div_zero ?_
  have finite : (s.figure w.nanos).isFinite := h.finite
  rw [figure, basis, edgeless] at finite
  exact finite

theorem Timer.wellFormed_results {scenarios : List Scenario}
    (divisible : ∀ s ∈ scenarios, s.basis = .perEdge → s.timed ≠ 0) {c : Instant × List Instant}
    (shown : Timer.Shown c) {m : Measurement} (hm : m ∈ Timer.monotonic.results scenarios c) :
    m.WellFormed := by
  rw [results, ← List.map_uncurry_zip_eq_zipWith] at hm
  obtain ⟨⟨s, w⟩, hsw, rfl⟩ := List.mem_map.mp hm
  obtain ⟨hs, hw⟩ := List.of_mem_zip hsw
  obtain ⟨representable, hnanos⟩ := Timer.mem_windows_monotonic shown hw
  exact Scenario.wellFormed_measurement (divisible s hs) representable hnanos

/-! ## Series -/

namespace Rig

variable (rig : Rig σ δ ρ κ τ ω)

theorem series_of_accepting (accepting : rig.sink.Accepting)
    (makes : ∀ x, ∃ d x', rig.workshop.make x = (.ok d, x')) (scenarios : List Scenario)
    (b : Bench σ δ ρ κ τ ω) : ∃ ms b', rig.series scenarios b = (.ok ms, b') := by
  induction scenarios generalizing b with
  | nil => exact ⟨[], b, rig.series_nil b⟩
  | cons s rest ih =>
    obtain ⟨d, x, made⟩ := makes b.floor
    have htrial : (rig.trial s b).1 = .ok (s.measurement (rig.timer.window b.time).1) := by
      rw [rig.trial_of_made made]
      change ((rig.sink.deliver (s.measurement (rig.timer.window b.time).1).printed
        b.out).result.mapError Failure.output).map (fun _ => _) = _
      rw [(Sink.deliver_of_accepting accepting _ b.out).1]
      rfl
    obtain ⟨ms, b', hrest⟩ := ih (rig.trial s b).2
    refine ⟨s.measurement (rig.timer.window b.time).1 :: ms, b', ?_⟩
    rw [rig.series_cons_of_ok (Prod.ext htrial rfl), hrest]
    rfl

theorem completed_of_accepting (accepting : rig.sink.Accepting)
    (makes : ∀ x, ∃ d x', rig.workshop.make x = (.ok d, x')) (scenarios : List Scenario) (floor : σ)
    (time : κ) (out : ω) :
    let o := rig.series scenarios { floor, time, out }
    ∃ ms, o.1 = .ok ms ∧ rig.Completed scenarios time ms o.2.events := by
  intro o
  obtain ⟨ms, b, hok⟩ := rig.series_of_accepting accepting makes scenarios { floor, time, out }
  obtain ⟨-, es, hes, completed⟩ := rig.series_ok hok
  refine ⟨ms, congrArg Prod.fst hok, ?_⟩
  rw [show o = (.ok ms, b) from hok, Bench.events_of_fresh rfl hes]
  exact completed

/-- **All results and all lines of a series are well formed** on a monotonic timer, unless a
scenario shares time by no edges. -/
theorem series_wellFormed (rig : Rig σ δ ρ (Instant × List Instant) Instant ω)
    (monotonic : rig.timer = .monotonic) {scenarios : List Scenario}
    (divisible : ∀ s ∈ scenarios, s.basis = .perEdge → s.timed ≠ 0)
    {time : Instant × List Instant} (shown : Timer.Shown time) (floor : σ) (out : ω) :
    let o := rig.series scenarios { floor, time, out }
    ((∃ ms, o.1 = .ok ms ∧ (∀ m ∈ ms, m.WellFormed) ∧ ms.map (·.name) = scenarios.map (·.name) ∧
        Event.text o.2.events = ms.flatMap Measurement.printed) ∨
      ∃ f ms m taken, o.1 = .error f ∧ (∀ m' ∈ ms ++ [m], m'.WellFormed) ∧
        (ms ++ [m]).map (·.name) <+: scenarios.map (·.name) ∧ taken <+: m.printed ∧
        Event.text o.2.events = ms.flatMap Measurement.printed ++ taken) ∧
    (rig.sink.Accepting → (∀ x, ∃ d x', rig.workshop.make x = (.ok d, x')) →
      ∃ ms, o.1 = .ok ms) := by
  intro o
  obtain ⟨es, hes, account⟩ := rig.series_account scenarios { floor, time, out }
  have hevents : o.2.events = es := Bench.events_of_fresh rfl hes
  refine ⟨?_, fun accepting makes => ?_⟩
  · rw [hevents]
    obtain ⟨ms, hresult, completed⟩ | ⟨done, s, rest, made, f, rfl, hresult, stopped⟩ := account
    · have hresults := completed.results
      rw [monotonic] at hresults
      refine .inl ⟨ms, hresult, ?_, ?_, completed.text⟩
      · rw [hresults]
        exact fun m => Timer.wellFormed_results divisible shown
      · rw [hresults, Timer.map_name_results]
    · obtain ⟨w, e, taken, hw, -, halt, text⟩ := stopped.halt
      rw [monotonic] at hw text
      -- the failing trial came as far as its measurement, had a device been made
      have hresults := Timer.monotonic.results_concat s hw
      refine .inr ⟨f, _, _, taken, hresult, ?_, ?_, halt.taken_prefix, text⟩
      · rw [← hresults]
        refine fun m => Timer.wellFormed_results (fun s' hs' => divisible s' ?_) shown
        rw [List.mem_append] at hs' ⊢
        exact hs'.imp_right fun hs' => List.mem_cons.mpr (.inl (List.mem_singleton.mp hs'))
      · rw [← hresults, Timer.map_name_results, List.map_append, List.map_append]
        exact (List.prefix_append_right_inj _).mpr ⟨rest.map (·.name), rfl⟩
  · obtain ⟨ms, hok, -⟩ := rig.completed_of_accepting accepting makes scenarios floor time out
    exact ⟨ms, hok⟩

/-- Two edges across the end of a second, three nanoseconds for each. -/
theorem series_wellFormed_two_edges :
    let rig : Rig CounterBank Unit CounterBank (Instant × List Instant) Instant Unit :=
      ⟨CounterBank.workshop 2, .monotonic, Sink.bytewise⟩
    let s : Scenario := ⟨"two edges", 0, 2, false, .perEdge⟩
    let time : Instant × List Instant := (⟨0, 0⟩, [⟨1, 999999999⟩, ⟨2, 5⟩])
    let m : Measurement := ⟨"two edges", ⟨0x4008000000000000⟩⟩
    let o := rig.series [s] { floor := .new 0, time, out := () }
    (∀ s' ∈ [s], s'.basis = .perEdge → s'.timed ≠ 0) ∧ Timer.Shown time ∧ o.1 = .ok [m] ∧
      m.WellFormed ∧ m.line = "BENCH two edges 3.00" ∧
      Event.text o.2.events = [66, 69, 78, 67, 72, 32, 116, 119, 111, 32, 101, 100, 103, 101, 115,
        32, 51, 46, 48, 48, 10] := by
  intro rig s time m o
  have divisible : ∀ s' ∈ [s], s'.basis = .perEdge → s'.timed ≠ 0 := by decide
  have shown : Timer.Shown time :=
    ⟨⟨by decide, by decide⟩, List.forall_mem_cons.mpr ⟨⟨by decide, by decide⟩,
      List.forall_mem_singleton.mpr ⟨by decide, by decide⟩⟩⟩
  have accepting : rig.sink.Accepting := Sink.accepting_bytewise
  have makes : ∀ x, ∃ d x', rig.workshop.make x = (.ok d, x') := fun _ => ⟨(), .new 2, rfl⟩
  have hm : rig.timer.results [s] time = [m] := by decide +kernel
  obtain ⟨ms, hms, completed⟩ := rig.completed_of_accepting accepting makes [s] (.new 0) time ()
  obtain rfl : ms = [m] := completed.results.trans hm
  refine ⟨divisible, shown, hms, ?_, by decide +kernel, completed.text.trans (by decide +kernel)⟩
  obtain ⟨⟨ms', hms', wellFormed, -⟩ | ⟨f, -, -, -, hf, -⟩, -⟩ :=
    rig.series_wellFormed rfl divisible shown (.new 0) ()
  · obtain rfl : [m] = ms' := Except.ok.inj (hms.symm.trans hms')
    exact wellFormed m (List.mem_singleton_self m)
  · exact nomatch hms.symm.trans hf

/-- No edges have no share of any time: none of it is not a number, and some of it is infinite. -/
theorem series_edgeless :
    let rig : Rig CounterBank Unit CounterBank (Instant × List Instant) Instant Unit :=
      ⟨CounterBank.workshop 2, .monotonic, Sink.bytewise⟩
    let s : Scenario := ⟨"empty", 0, 0, false, .perEdge⟩
    let run (finish : Instant) :=
      rig.series [s] { floor := .new 0, time := (⟨0, 0⟩, [⟨5, 0⟩, finish]), out := () }
    (∃ m, (run ⟨5, 0⟩).1 = .ok [m] ∧ Event.text (run ⟨5, 0⟩).2.events =
        [66, 69, 78, 67, 72, 32, 101, 109, 112, 116, 121, 32, 78, 97, 78, 10] ∧
      m.line = "BENCH empty NaN" ∧ m.figure.isNaN ∧ ¬m.WellFormed) ∧
    ∃ m, (run ⟨5, 1⟩).1 = .ok [m] ∧ Event.text (run ⟨5, 1⟩).2.events =
        [66, 69, 78, 67, 72, 32, 101, 109, 112, 116, 121, 32, 105, 110, 102, 10] ∧
      m.line = "BENCH empty inf" ∧ m.figure.isInfinite ∧ ¬m.WellFormed := by
  intro rig s run
  have accepting : rig.sink.Accepting := Sink.accepting_bytewise
  have makes : ∀ x, ∃ d x', rig.workshop.make x = (.ok d, x') := fun _ => ⟨(), .new 2, rfl⟩
  have hrun (finish : Instant) :
      let m := s.measurement ⟨⟨5, 0⟩, finish, Instant.nanosTo ⟨5, 0⟩ finish⟩
      (run finish).1 = .ok [m] ∧ Event.text (run finish).2.events = m.printed := by
    intro m
    obtain ⟨ms, hms, completed⟩ := rig.completed_of_accepting accepting makes [s] (.new 0)
      (⟨0, 0⟩, [⟨5, 0⟩, finish]) ()
    obtain rfl : ms = [m] := completed.results
    exact ⟨hms, completed.text.trans (List.append_nil _)⟩
  have edgeless := Scenario.not_wellFormed_measurement (s := s) (τ := Instant) rfl rfl
  refine ⟨⟨_, (hrun ⟨5, 0⟩).1, (hrun ⟨5, 0⟩).2.trans ?_, ?_, ?_, edgeless _⟩,
    _, (hrun ⟨5, 1⟩).1, (hrun ⟨5, 1⟩).2.trans ?_, ?_, ?_, edgeless _⟩
  all_goals decide +kernel

end Rig

end EdgeMeter
