import EdgeMeter.Program
import EdgeMeter.Proofs.Decoding
import EdgeMeter.Proofs.Handles
import EdgeMeter.Proofs.Loading

/-!
# The work of the program

The program goes one of four ways. It runs its table on the built-in bank, or it loads a library,
hands over its arguments and runs the table on instances; the library may not load and the arguments
may not be fit for it, and then nothing else is done.

* `Program.Outcome.Succeeded`, `Program.Outcome.Failed`: what is written when all goes well, and
  when something fails;
* `Program.Way`, `Program.Goes`: the four ways;
* `Program.runLoaded_cases`: what is done with a library once it is loaded;
* **`Program.start_goes`**: the program goes one of them, whatever it is given, and says so.
-/

namespace EdgeMeter

variable {σ δ ρ φ μ κ τ ω : Type}

theorem Event.text_filter (es : List (Event δ ρ τ)) :
    text (es.filter fun e => !e.isSignal) = text es := by
  induction es with
  | nil => rfl
  | cons e es ih =>
    have hcons : text (e :: es) = e.bytes ++ text es := List.flatMap_cons
    cases e with
    | signal d s => exact ih
    | _ =>
      rw [hcons, ← ih]
      rfl

namespace Model

theorem Visits.commandArgs_not_mem {cs : List Call} (visits : Visits cs) (argv : List Bytes) :
    .commandArgs argv ∉ cs := by
  induction visits with
  | nil => exact List.not_mem_nil
  | refused n => simp
  | @visit n h used rest ne_null uses _ ih =>
    have not_used : Call.commandArgs argv ∉ used := fun hc =>
      Option.some_ne_none h (uses _ hc).1.symm
    simp [not_used, ih]

end Model

/-! ## The table -/

namespace Program

open Model

variable (setting : Setting φ μ κ τ ω)

/-- **What is written when the table is cut short** at one of its scenarios: the lines of those
before it, and a part of the line that was due. -/
def CutShort (timer : Timer κ τ) (time : κ) (written : Bytes) : Prop :=
  ∃ done s rest m taken, Scenario.table = done ++ s :: rest ∧
    timer.results (done ++ [s]) time = timer.results done time ++ [m] ∧ taken <+: m.printed ∧
    written = (timer.results done time).flatMap Measurement.printed ++ taken

theorem cutShort_nil (timer : Timer κ τ) (time : κ) : CutShort timer time [] :=
  ⟨[], _, _, _, [], rfl, rfl, List.nil_prefix, rfl⟩

theorem text_of_quiet {floor : σ} {time : κ} {out : ω} {b : Bench σ δ ρ κ τ ω}
    {es : List (Event δ ρ τ)} (h : b.journal = (Bench.quiet floor time out).journal.recordAll es) :
    Event.text b.events = Event.text es := by
  rw [← Event.text_filter es, Bench.events, h, Journal.toList_recordAll]
  rfl

/-- **Running the table** succeeds in full, or is cut short. -/
theorem runTable_cases (workshop : Workshop σ δ ρ) (floor : σ) (time : κ) (out : ω) :
    let ran := runTable setting workshop floor time out
    let results := setting.timer.results Scenario.table time
    (ran.1 = .ok results ∧ Event.text ran.2.events = results.flatMap Measurement.printed) ∨
      ∃ f, ran.1 = .error f ∧ CutShort setting.timer time (Event.text ran.2.events) := by
  let rig : Rig σ δ ρ κ τ ω := ⟨workshop, setting.timer, setting.sink⟩
  obtain ⟨es, hes, account⟩ := rig.series_account Scenario.table (.quiet floor time out)
  have htext : Event.text (runTable setting workshop floor time out).2.events = Event.text es :=
    text_of_quiet hes
  dsimp only
  rw [htext]
  obtain ⟨ms, hresult, completed⟩ | ⟨done, s, rest, made, f, htable, hresult, stopped⟩ := account
  · exact .inl ⟨hresult.trans (congrArg _ completed.results),
      completed.text.trans (congrArg _ completed.results)⟩
  · obtain ⟨w, e, taken, hw, -, halt, text⟩ := stopped.halt
    refine .inr ⟨f, hresult, done, s, rest, s.measurement w, taken, htable,
      setting.timer.results_concat s hw, halt.taken_prefix, text⟩

theorem steps_runTable (workshop : Workshop σ δ ρ) (floor : σ) (time : κ) (out : ω) :
    ∃ es, Steps (Rig.Happens ⟨workshop, setting.timer, setting.sink⟩) es (.quiet floor time out)
      (runTable setting workshop floor time out).2 ∧
      Event.text (runTable setting workshop floor time out).2.events = Event.text es := by
  obtain ⟨es, steps⟩ := Rig.leads_series ⟨workshop, setting.timer, setting.sink⟩
    (.quiet floor time out) Scenario.table
  exact ⟨es, steps, text_of_quiet (Rig.journal_of_steps steps)⟩

/-! ## Outcomes -/

/-- A program at its start, with no library loaded. -/
def State.fresh (x : φ) (m : μ) (time : κ) (out : ω) : State φ μ κ ω :=
  { host := { loader := x, guest := { memory := m } }, time, out }

namespace Outcome

/-- **All scenarios succeeded**, and there is a line for each, in order. -/
structure Succeeded (timer : Timer κ τ) (time : κ) (o : Outcome φ μ κ ω) : Prop where
  result : o.result = .ok (timer.results Scenario.table time)
  written : o.written = (timer.results Scenario.table time).flatMap Measurement.printed

/-- **Something failed**: its message comes last on standard error, and standard output ends with
the scenario at which the table was cut short. -/
structure Failed (timer : Timer κ τ) (time : κ) (f : Failure) (o : Outcome φ μ κ ω) : Prop where
  result : o.result = .error f
  told : ∀ shown, ∃ before,
    o.standardError shown = before ++ ("tickbench error: " ++ f.message ++ "\n")
  written : CutShort timer time o.written

/-- **The table was run** in a workshop, and what came of that is the outcome. It was done event by
event, and what was written is what the sink took in them. -/
structure Ran (setting : Setting φ μ κ τ ω) (workshop : Workshop σ δ ρ) (floor : σ)
    (s : State φ μ κ ω) (o : Outcome φ μ κ ω) : Prop where
  result : o.result = (runTable setting workshop floor s.time s.out).1
  written : o.written = Event.text (runTable setting workshop floor s.time s.out).2.events
  time : o.state.time = (runTable setting workshop floor s.time s.out).2.time
  out : o.state.out = (runTable setting workshop floor s.time s.out).2.out
  happened : ∃ es, Steps (Rig.Happens ⟨workshop, setting.timer, setting.sink⟩) es
    (.quiet floor s.time s.out) (runTable setting workshop floor s.time s.out).2 ∧
      o.written = Event.text es

variable {timer : Timer κ τ} {time : κ} {o : Outcome φ μ κ ω}

theorem failed_of_error {f : Failure} (hresult : o.result = .error f)
    (hwritten : CutShort timer time o.written) : o.Failed timer time f where
  result := hresult
  told shown := by
    rw [standardError, hresult]
    exact ⟨_, rfl⟩
  written := hwritten

theorem Ran.cases {setting : Setting φ μ κ τ ω} {workshop : Workshop σ δ ρ} {floor : σ}
    {s : State φ μ κ ω} (ran : o.Ran setting workshop floor s) :
    o.Succeeded setting.timer s.time ∨ ∃ f, o.Failed setting.timer s.time f := by
  obtain ⟨hresult, htext⟩ | ⟨f, hresult, hcut⟩ :=
    runTable_cases setting workshop floor s.time s.out
  · exact .inl ⟨ran.result.trans hresult, ran.written.trans htext⟩
  · rw [← ran.written] at hcut
    exact .inr ⟨f, failed_of_error (ran.result.trans hresult) hcut⟩

theorem status_cases (h : o.Succeeded timer time ∨ ∃ f, o.Failed timer time f) :
    (Ending.finished o).status = 0 ∧ o.Succeeded timer time ∨
      (Ending.finished o).status = 1 ∧ ∃ f, o.Failed timer time f := by
  obtain succeeded | ⟨f, failed⟩ := h
  · refine .inl ⟨?_, succeeded⟩
    rw [Ending.status, succeeded.result]
    rfl
  · refine .inr ⟨?_, f, failed⟩
    rw [Ending.status, failed.result]
    rfl

theorem status_eq_zero_iff (h : o.Succeeded timer time ∨ ∃ f, o.Failed timer time f) :
    (Ending.finished o).status = 0 ↔ o.Succeeded timer time := by
  obtain ⟨hstatus, succeeded⟩ | ⟨hstatus, f, failed⟩ := status_cases h
  · exact ⟨fun _ => succeeded, fun _ => hstatus⟩
  · rw [hstatus]
    refine ⟨nofun, fun succeeded => ?_⟩
    cases succeeded.result.symm.trans failed.result

theorem status_of_ne_zero (h : o.Succeeded timer time ∨ ∃ f, o.Failed timer time f)
    (hstatus : (Ending.finished o).status ≠ 0) :
    (Ending.finished o).status = 1 ∧ ∃ f, o.Failed timer time f :=
  (status_cases h).resolve_left fun succeeded => hstatus succeeded.1

end Outcome

/-! ## Four ways -/

inductive Way where
  /-- The built-in bank. -/
  | builtin
  /-- The library does not load. -/
  | unloaded
  /-- The library loads, but the arguments cannot be passed to it. -/
  | unpassed
  /-- The table is run on instances of the library. -/
  | worked
deriving DecidableEq

/-- The call that hands over the arguments, if a model takes any. -/
def passing (entries : Entries μ) (arguments : List String) : List Call :=
  if entries.commandArgs.isSome then [.commandArgs (arguments.map Arguments.terminated)] else []

/-- **What each way is**: when the program goes it, and what it does then. -/
inductive Goes (setting : Setting φ μ κ τ ω) (arguments : List String) (value : Option Bytes)
    (s : State φ μ κ ω) : Way → Outcome φ μ κ ω → Prop where
  /-- The variable is unset or blank. The host is left as it is, and nothing of the table depends on
  the arguments. -/
  | builtin {o : Outcome φ μ κ ω} (unset : ∀ path, value = some path → Text.isBlank path)
    (host : o.state.host = s.host)
    (ran : o.Ran setting (CounterBank.workshop CounterBank.standardSize) .standard s) :
    Goes setting arguments value s .builtin o
  /-- The loader has no library for the path. The model is not called. -/
  | unloaded {o : Outcome φ μ κ ω} {path : Bytes} {f : Failure} (named : value = some path)
    (filled : Text.isBlank path = false)
    (faulty : Loader.Faulty path (setting.loader.fetch path s.host.loader).1 f)
    (result : o.result = .error f) (written : o.written = [])
    (asked : o.state.host.loader = (setting.loader.fetch path s.host.loader).2)
    (loaded : o.state.host.loaded = none) (guest : o.state.host.guest = s.host.guest) :
    Goes setting arguments value s .unloaded o
  /-- The library takes arguments, and these are not fit for it. The model is not called. -/
  | unpassed {o : Outcome φ μ κ ω} {path : Bytes} {e : Exports μ} {entries : Entries μ}
    {f : Failure} (named : value = some path) (filled : Text.isBlank path = false)
    (found : (setting.loader.fetch path s.host.loader).1 = .ok e) (provides : e.Provides entries)
    (takes : entries.commandArgs.isSome) (unfit : Arguments.Unfit arguments f)
    (result : o.result = .error f) (written : o.written = [])
    (asked : o.state.host.loader = (setting.loader.fetch path s.host.loader).2)
    (loaded : o.state.host.loaded = some ⟨path, entries⟩)
    (guest : o.state.host.guest = s.host.guest) : Goes setting arguments value s .unpassed o
  /-- The library takes no arguments, or all of them can be passed. They are handed over before any
  instance is made, and not again, and the model's memory is the replay of its calls. -/
  | worked {o : Outcome φ μ κ ω} {path : Bytes} {e : Exports μ} {entries : Entries μ}
    {cs : List Call} (named : value = some path) (filled : Text.isBlank path = false)
    (found : (setting.loader.fetch path s.host.loader).1 = .ok e) (provides : e.Provides entries)
    (fit : entries.commandArgs.isSome → Arguments.Fit arguments)
    (asked : o.state.host.loader = (setting.loader.fetch path s.host.loader).2)
    (loaded : o.state.host.loaded = some ⟨path, entries⟩)
    (calls : o.state.host.guest.calls.toList = passing entries arguments ++ cs)
    (replay : Steps entries.Answers (passing entries arguments ++ cs) s.host.guest.memory
      o.state.host.guest.memory)
    (visits : Visits cs) (once : ∀ argv, .commandArgs argv ∉ cs)
    (ran : let lib : Library μ := ⟨path, entries⟩
      o.Ran setting lib.workshop (lib.passCounted arguments s.host.guest).2 s) :
    Goes setting arguments value s .worked o

namespace Goes

variable {setting : Setting φ μ κ τ ω} {arguments : List String} {value : Option Bytes}
  {s : State φ μ κ ω} {way way' : Way} {o o' : Outcome φ μ κ ω}

/-- **However the program goes, it has succeeded or failed** in the end. -/
theorem cases_outcome (goes : Goes setting arguments value s way o) :
    o.Succeeded setting.timer s.time ∨ ∃ f, o.Failed setting.timer s.time f := by
  cases goes with
  | builtin unset host ran => exact ran.cases
  | @unloaded _ _ f named filled faulty result written =>
    refine .inr ⟨f, Outcome.failed_of_error result ?_⟩
    rw [written]
    exact cutShort_nil _ _
  | unpassed named filled found provides takes unfit result written =>
    refine .inr ⟨_, Outcome.failed_of_error result ?_⟩
    rw [written]
    exact cutShort_nil _ _
  | worked named filled found provides fit asked loaded calls replay visits once ran =>
    exact ran.cases

end Goes

/-! ## The way taken -/

/-- The entry points of a complete library, if a reply of a loader is one. -/
def complete? (reply : Except String (Exports μ)) : Option (Entries μ) :=
  reply.toOption.bind fun e => e.resolve.toOption

theorem complete?_of_provides {e : Exports μ} {entries : Entries μ}
    (provides : e.Provides entries) : complete? (.ok e) = some entries := by
  change e.resolve.toOption = _
  rw [Exports.resolve, provides.new, provides.free, provides.setClk, provides.getClk,
    provides.setRst, provides.eval, provides.readOutput, provides.commandArgs]
  rfl

theorem complete?_of_faulty {path : Bytes} {reply : Except String (Exports μ)} {f : Failure}
    (faulty : Loader.Faulty path reply f) : complete? reply = none := by
  cases faulty with
  | refused reason => rfl
  | @incomplete e s reason lacks =>
    obtain ⟨entries, -, provides⟩ | ⟨s, reason, h, -⟩ := e.resolve_cases
    · cases lacks.not_provides entries provides
    · change e.resolve.toOption = none
      rw [h]
      rfl

/-- **The way that the program goes**, by what it is given. -/
def Way.of (loader : Loader φ μ) (arguments : List String) (value : Option Bytes) (x : φ) : Way :=
  match Choice.ofValue value with
  | .builtin => .builtin
  | .library path =>
    match complete? (loader.fetch path x).1 with
    | none => .unloaded
    | some entries =>
      if entries.commandArgs.isSome ∧ ¬Arguments.Fit arguments then .unpassed else .worked

theorem ofValue_of_unset {value : Option Bytes}
    (unset : ∀ path, value = some path → Text.isBlank path) : Choice.ofValue value = .builtin := by
  cases value with
  | none => rfl
  | some path => exact if_pos (unset path rfl)

theorem ofValue_of_filled {path : Bytes} (filled : Text.isBlank path = false) :
    Choice.ofValue (some path) = .library path := by
  rw [Choice.ofValue, filled]
  rfl

/-- **No two ways at once.** -/
theorem Goes.way_eq {setting : Setting φ μ κ τ ω} {arguments : List String}
    {value : Option Bytes} {s : State φ μ κ ω} {way : Way} {o : Outcome φ μ κ ω}
    (goes : Goes setting arguments value s way o) :
    way = .of setting.loader arguments value s.host.loader := by
  cases goes with
  | builtin unset => rw [Way.of, ofValue_of_unset unset]
  | unloaded named filled faulty =>
    simp only [Way.of, named, ofValue_of_filled filled, complete?_of_faulty faulty]
  | unpassed named filled found provides takes unfit =>
    simp only [Way.of, named, ofValue_of_filled filled, found, complete?_of_provides provides]
    rw [if_pos ⟨takes, fun fit => fit.not_unfit unfit⟩]
  | worked named filled found provides fit =>
    simp only [Way.of, named, ofValue_of_filled filled, found, complete?_of_provides provides]
    rw [if_neg fun ⟨takes, unfit⟩ => unfit (fit takes)]

/-! ## One of them is gone -/

theorem passCounted_called (lib : Library μ) (arguments : List String) (g : Guest μ) :
    (∃ f, lib.entries.commandArgs.isSome ∧ Arguments.Unfit arguments f ∧
      lib.passCounted arguments g = (.error f, g)) ∨
    ∃ lines g', (lib.entries.commandArgs.isSome → Arguments.Fit arguments) ∧
      lib.passCounted arguments g = (.ok lines, g') ∧
      lib.Called (passing lib.entries arguments) g g' := by
  obtain ⟨lacks, hpassed⟩ | ⟨parse, takes, ⟨fit, hpassed⟩ | ⟨f, unfit, hpassed⟩⟩ :=
    lib.passCounted_cases g arguments
  · refine .inr ⟨[], g, fun takes => ?_, hpassed, ?_⟩
    · rw [lacks] at takes
      cases takes
    · rw [passing, lacks]
      exact .nil g
  · refine .inr ⟨_, _, fun _ => fit, hpassed, ?_⟩
    rw [passing, takes]
    exact .single (.commandArgs takes _ _)
  · exact .inl ⟨f, by rw [takes]; rfl, unfit, hpassed⟩

theorem goes_runBuiltin (setting : Setting φ μ κ τ ω) (arguments : List String)
    {value : Option Bytes} (unset : ∀ path, value = some path → Text.isBlank path)
    (s : State φ μ κ ω) :
    Goes setting arguments value s .builtin (runBuiltin setting arguments s) :=
  .builtin unset rfl ⟨rfl, rfl, rfl, rfl, steps_runTable setting _ _ s.time s.out⟩

/-- **The work on a loaded library**: the arguments are refused, and nothing is changed, or they
are handed over and the table is run. -/
theorem runLoaded_cases (setting : Setting φ μ κ τ ω) (lib : Library μ) (arguments : List String)
    (s : State φ μ κ ω) :
    (∃ f, lib.entries.commandArgs.isSome ∧ Arguments.Unfit arguments f ∧
      runLoaded setting lib arguments s = ⟨.error f, [], [], s⟩) ∨
    ((lib.entries.commandArgs.isSome → Arguments.Fit arguments) ∧
      ∃ o cs, runLoaded setting lib arguments s = o ∧ Visits cs ∧
        lib.Called (passing lib.entries arguments ++ cs) s.host.guest o.state.host.guest ∧
        o.state.host.loader = s.host.loader ∧ o.state.host.loaded = s.host.loaded ∧
        o.Ran setting lib.workshop (lib.passCounted arguments s.host.guest).2 s) := by
  unfold runLoaded
  obtain ⟨f, takes, unfit, hpassed⟩ | ⟨lines, g, fit, hpassed, passed⟩ :=
    passCounted_called lib arguments s.host.guest
  · simp only [hpassed]
    exact .inl ⟨f, takes, unfit, rfl⟩
  · let rig : Rig (Guest μ) Handle (List String) κ τ ω :=
      ⟨lib.workshop, setting.timer, setting.sink⟩
    have hrig : rig.workshop = lib.workshop := rfl
    obtain ⟨cs, visits, called⟩ :=
      Rig.visits_series lib hrig Scenario.table (.quiet g s.time s.out)
    simp only [hpassed]
    refine .inr ⟨fit, _, cs, rfl, visits, ?_, rfl, rfl, ⟨rfl, rfl, rfl, rfl, ?_⟩⟩
    · exact passed.append called
    · exact steps_runTable setting lib.workshop g s.time s.out

theorem goes_runLibrary (setting : Setting φ μ κ τ ω) (arguments : List String) {path : Bytes}
    (filled : Text.isBlank path = false) (x : φ) (m : μ) (time : κ) (out : ω) :
    let s : State φ μ κ ω := .fresh x m time out
    ∃ way, Goes setting arguments (some path) s way (runLibrary setting path arguments s) := by
  intro s
  obtain ⟨hloader, hload⟩ := Host.load_of_empty setting.loader path (h := s.host) rfl
  have hguest : (s.host.load setting.loader path).2.guest = s.host.guest :=
    Session.guest_load setting.loader path s.host
  rcases hhost : s.host.load setting.loader path with ⟨found, host⟩
  rw [hhost] at hloader hload hguest
  dsimp only at hguest
  unfold runLibrary
  simp only [hhost]
  obtain ⟨f, faulty, hfound, hloaded⟩ | ⟨e, entries, hreply, provides, hfound, hloaded⟩ := hload
  · obtain rfl : found = .error f := hfound
    exact ⟨.unloaded, .unloaded rfl filled faulty rfl rfl hloader hloaded hguest⟩
  obtain rfl : found = .ok ⟨path, entries⟩ := hfound
  obtain ⟨f, takes, unfit, ho⟩ | ⟨fit, o, cs, ho, visits, called, hasked, hkept, ran⟩ :=
    runLoaded_cases setting ⟨path, entries⟩ arguments { s with host := host }
  all_goals simp only [ho]
  · exact ⟨.unpassed, .unpassed rfl filled hreply provides takes unfit rfl rfl hloader hloaded
      hguest⟩
  · rw [hguest] at called ran
    have calls : o.state.host.guest.calls.toList = passing entries arguments ++ cs := by
      rw [called.recorded]
      exact Journal.toList_recordAll_fresh _
    exact ⟨.worked, .worked rfl filled hreply provides fit (hasked.trans hloader)
      (hkept.trans hloaded) calls called.replay visits visits.commandArgs_not_mem
      ⟨ran.result, ran.written, ran.time, ran.out, ran.happened⟩⟩

theorem start_texts (setting : Setting φ μ κ τ ω) (arguments : List String)
    (value : Option Bytes) (s : State φ μ κ ω) :
    start setting (arguments.map Bytes.ofString) value s =
      .finished (run setting (Choice.ofValue value) arguments s) := by
  have htexts : (arguments.map Bytes.ofString).mapM Utf8.decode? =
      some (arguments.map String.toList) := by
    rw [Utf8.mapM_eq_some_iff Utf8.decode?_eq_some_iff, List.map_map]
    rfl
  have hback : (arguments.map String.toList).map String.ofList = arguments := by
    simp
  simp only [start, htexts, hback]

theorem run_goes (setting : Setting φ μ κ τ ω) (arguments : List String) (value : Option Bytes)
    (x : φ) (m : μ) (time : κ) (out : ω) :
    let s : State φ μ κ ω := .fresh x m time out
    ∃ way, Goes setting arguments value s way (run setting (Choice.ofValue value) arguments s) := by
  intro s
  by_cases unset : ∀ path, value = some path → Text.isBlank path
  · rw [ofValue_of_unset unset]
    exact ⟨.builtin, goes_runBuiltin setting arguments unset s⟩
  · push Not at unset
    obtain ⟨path, rfl, filled⟩ := unset
    have filled : Text.isBlank path = false := Bool.eq_false_iff.mpr filled
    rw [ofValue_of_filled filled]
    exact goes_runLibrary setting arguments filled x m time out

/-- A library that lacks an entry point ends the work before it begins. -/
example :
    let setting : Setting Unit Circuit.Memory Timer.Script UInt64 Sink.Script :=
      ⟨Stock.loader "absent", Timer.scripted, Sink.scripted⟩
    (start setting [Bytes.ofString "tickbench"] (some (Bytes.ofString "./libno_eval.so"))
      (.fresh () {} {} {})).status = 1 := by
  decide +kernel

end Program

end EdgeMeter
