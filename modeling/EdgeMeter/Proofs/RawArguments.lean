import EdgeMeter.Model.Stock
import EdgeMeter.Proofs.Work

/-!
# Arguments as bytes

Arguments are bytes, and nothing makes them text. One that is not text stops the program before it
looks at anything else. If all are text, a model receives them as they are, byte for byte, and the
built-in bank takes no notice of them.

* `Readable`: bytes that are text;
* `Program.start_eq_unreadable_iff`: what stops the program at once;
* `Program.Forwards`: what comes of arguments that are text;
* **`Program.start_raw`**: one or the other, for any arguments without zeros inside.
-/

namespace EdgeMeter

variable {φ μ κ τ ω : Type}

/-- Whether bytes are text. -/
def Readable (a : Bytes) : Prop := ∃ text : String, Bytes.ofString text = a

theorem readable_iff {a : Bytes} : Readable a ↔ ∃ cs, Utf8.decode? a = some cs := by
  constructor
  · rintro ⟨text, rfl⟩
    exact ⟨text.toList, Utf8.decode?_eq_some_iff.mpr rfl⟩
  · rintro ⟨cs, hcs⟩
    refine ⟨.ofList cs, ?_⟩
    rw [Bytes.ofString, String.toList_ofList]
    exact Utf8.decode?_eq_some_iff.mp hcs

theorem exists_texts {argv : List Bytes} (readable : ∀ a ∈ argv, Readable a) :
    ∃ texts : List String, texts.map Bytes.ofString = argv := by
  induction argv with
  | nil => exact ⟨[], rfl⟩
  | cons a argv ih =>
    obtain ⟨⟨text, rfl⟩, others⟩ := List.forall_mem_cons.mp readable
    obtain ⟨texts, rfl⟩ := ih others
    exact ⟨text :: texts, rfl⟩

namespace Arguments

theorem zero_mem_of_hasZero {text : String} (h : HasZero text) : 0 ∈ Bytes.ofString text := by
  have hencode : String.utf8EncodeChar '\x00' = [0] := by decide
  refine List.mem_flatMap.mpr ⟨'\x00', h, ?_⟩
  rw [hencode]
  exact List.mem_singleton_self 0

theorem read_terminated {text : String} (h : 0 ∉ Bytes.ofString text) :
    read (terminated text) = Bytes.ofString text := by
  have hne : ∀ b ∈ Bytes.ofString text, (b != 0) = true := by
    rintro b hb
    exact bne_iff_ne.mpr fun hzero => h (hzero ▸ hb)
  rw [read, terminated, List.takeWhile_append_of_pos hne]
  exact List.append_nil _

end Arguments

namespace Program

open Model

variable (setting : Setting φ μ κ τ ω)

/-- **An argument that is not text stops the program** before anything else, and nothing but that
does. -/
theorem start_eq_unreadable_iff (argv : List Bytes) (value : Option Bytes) (s : State φ μ κ ω) :
    start setting argv value s = .unreadableArgument ↔ ∃ a ∈ argv, ¬Readable a := by
  by_cases readable : ∀ a ∈ argv, Readable a
  · obtain ⟨texts, rfl⟩ := exists_texts readable
    rw [start_texts]
    exact ⟨nofun, fun ⟨a, ha, unreadable⟩ => absurd (readable a ha) unreadable⟩
  · have hnone : argv.mapM Utf8.decode? = none := by
      refine Option.eq_none_iff_forall_ne_some.mpr fun texts htexts => readable ?_
      rw [Utf8.mapM_eq_some_iff Utf8.decode?_eq_some_iff] at htexts
      rw [← htexts]
      intro a ha
      obtain ⟨cs, -, hcs⟩ := List.mem_map.mp ha
      exact readable_iff.mpr ⟨cs, Utf8.decode?_eq_some_iff.mpr hcs⟩
    push Not at readable
    have hstart : start setting argv value s = .unreadableArgument := by rw [start, hnone]
    exact ⟨fun _ => readable, fun _ => hstart⟩

/-- **What comes of arguments that are text**: the program succeeds or tells why not; the built-in
bank takes no notice of them; and a model that takes arguments receives just these, once, unless
they are too many to tell it. -/
structure Forwards (argv : List Bytes) (value : Option Bytes) (s : State φ μ κ ω)
    (o : Outcome φ μ κ ω) : Prop where
  ends : (Ending.finished o).status = 0 ∧ o.Succeeded setting.timer s.time ∨
    (Ending.finished o).status = 1 ∧ ∃ f, o.Failed setting.timer s.time f
  ignored : (∀ path, value = some path → Text.isBlank path) →
    ∀ argv', (∀ a ∈ argv', Readable a) →
      ∃ o', start setting argv' value s = .finished o' ∧ o'.result = o.result ∧
        o'.written = o.written
  forwarded : ∀ path e entries, value = some path → Text.isBlank path = false →
    (setting.loader.fetch path s.host.loader).1 = .ok e → e.Provides entries →
    entries.commandArgs.isSome →
      (argv.length < 2 ^ 31 →
        ∃ blocks cs, o.state.host.guest.calls.toList = .commandArgs blocks :: cs ∧
          blocks.map Arguments.read = argv ∧ (∀ argv', .commandArgs argv' ∉ cs) ∧
          Steps entries.Answers (.commandArgs blocks :: cs) s.host.guest.memory
            o.state.host.guest.memory) ∧
      (2 ^ 31 ≤ argv.length →
        o.result = .error (.reported "too many arguments") ∧ o.state.host.guest = s.host.guest)

variable {setting}

theorem Goes.forwarded {texts : List String} {value : Option Bytes} {s : State φ μ κ ω} {way : Way}
    {o : Outcome φ μ κ ω} (goes : Goes setting texts value s way o)
    (zeroless : ∀ text ∈ texts, ¬Arguments.HasZero text) {path : Bytes} {e : Exports μ}
    {entries : Entries μ} (named : value = some path) (filled : Text.isBlank path = false)
    (found : (setting.loader.fetch path s.host.loader).1 = .ok e) (provides : e.Provides entries)
    (takes : entries.commandArgs.isSome) :
    (texts.length < 2 ^ 31 ∧ ∃ cs, let blocks := texts.map Arguments.terminated
      o.state.host.guest.calls.toList = .commandArgs blocks :: cs ∧
        (∀ argv, .commandArgs argv ∉ cs) ∧
        Steps entries.Answers (.commandArgs blocks :: cs) s.host.guest.memory
          o.state.host.guest.memory) ∨
    2 ^ 31 ≤ texts.length ∧ o.result = .error (.reported "too many arguments") ∧
      o.state.host.guest = s.host.guest := by
  subst named
  have complete := complete?_of_provides provides
  cases goes with
  | builtin unset => cases filled.symm.trans (unset path rfl)
  | unloaded named filled faulty =>
    obtain rfl := Option.some.inj named
    have hnone := complete?_of_faulty faulty
    rw [found, complete] at hnone
    cases hnone
  | unpassed _ _ _ _ _ unfit result _ _ _ guest =>
    cases unfit with
    | @zero before after a _ zero => exact absurd zero (zeroless a (by simp))
    | many _ many => exact .inr ⟨many, result, guest⟩
  | @worked _ _ _ _ cs named _ found' provides' fit _ _ calls replay _ once =>
    obtain rfl := Option.some.inj named
    obtain rfl := Except.ok.inj (found.symm.trans found')
    obtain rfl := Option.some.inj (complete.symm.trans (complete?_of_provides provides'))
    rw [passing, if_pos takes] at calls replay
    exact .inl ⟨(fit takes).few, cs, calls, once, replay⟩

theorem Goes.ignored {arguments arguments' : List String} {value : Option Bytes}
    {s : State φ μ κ ω} {way way' : Way} {o o' : Outcome φ μ κ ω}
    (goes : Goes setting arguments value s way o) (goes' : Goes setting arguments' value s way' o')
    (unset : ∀ path, value = some path → Text.isBlank path) :
    o'.result = o.result ∧ o'.written = o.written := by
  have builtin : ∀ arguments, Way.of setting.loader arguments value s.host.loader = .builtin := by
    intro arguments
    rw [Way.of, ofValue_of_unset unset]
  obtain rfl := goes.way_eq.trans (builtin arguments)
  obtain rfl := goes'.way_eq.trans (builtin arguments')
  cases goes with
  | builtin _ _ ran =>
    cases goes' with
    | builtin _ _ ran' =>
      exact ⟨ran'.result.trans ran.result.symm, ran'.written.trans ran.written.symm⟩

/-- **Arguments as bytes.** One that is not text stops the program, with the status of a crash.
Others are taken as they are. -/
theorem start_raw (setting : Setting φ μ κ τ ω) {argv : List Bytes} (zeroless : ∀ a ∈ argv, 0 ∉ a)
    (value : Option Bytes) (x : φ) (m : μ) (time : κ) (out : ω) :
    let s : State φ μ κ ω := .fresh x m time out
    let e := start setting argv value s
    ((∃ a ∈ argv, ¬Readable a) → e = .unreadableArgument ∧ e.status = 101) ∧
      ((∀ a ∈ argv, Readable a) → ∃ o, e = .finished o ∧ Forwards setting argv value s o) := by
  intro s e
  constructor
  · intro unreadable
    have he : e = .unreadableArgument :=
      (start_eq_unreadable_iff setting argv value s).mpr unreadable
    rw [he]
    exact ⟨rfl, rfl⟩
  · intro readable
    obtain ⟨texts, rfl⟩ := exists_texts readable
    obtain ⟨way, goes⟩ := run_goes setting texts value x m time out
    refine ⟨_, start_texts setting texts value s, ?_, ?_, ?_⟩
    · exact Outcome.status_cases goes.cases_outcome
    · intro unset argv' readable'
      obtain ⟨texts', rfl⟩ := exists_texts readable'
      obtain ⟨way', goes'⟩ := run_goes setting texts' value x m time out
      exact ⟨_, start_texts setting texts' value s, goes.ignored goes' unset⟩
    · intro path e entries named filled found provides takes
      have nonzero : ∀ text ∈ texts, 0 ∉ Bytes.ofString text := fun text htext =>
        zeroless _ (List.mem_map_of_mem htext)
      have zeroless : ∀ text ∈ texts, ¬Arguments.HasZero text := fun text htext hzero =>
        nonzero text htext (Arguments.zero_mem_of_hasZero hzero)
      rw [List.length_map]
      obtain ⟨few, cs, calls, once, replay⟩ | ⟨many, refused⟩ :=
        goes.forwarded zeroless named filled found provides takes
      · refine ⟨fun _ => ⟨_, cs, calls, ?_, once, replay⟩, fun many => ?_⟩
        · rw [List.map_map]
          exact List.map_congr_left fun text htext => Arguments.read_terminated (nonzero text htext)
        · exact absurd few (Nat.not_lt.mpr many)
      · exact ⟨fun few => absurd few (Nat.not_lt.mpr many), fun _ => refused⟩

theorem not_readable {a : Bytes} (h : Utf8.decode? a = none) : ¬Readable a := by
  rw [readable_iff, h]
  exact nofun

/-- An accented argument reaches a model that takes arguments; cut off in its middle, it stops the
program. -/
theorem start_raw_accent :
    let setting : Setting Unit Circuit.Memory Timer.Script UInt64 Unit :=
      ⟨Stock.loader "absent", Timer.scripted, Sink.bytewise⟩
    let s : State Unit Circuit.Memory Timer.Script Unit := .fresh () {} {} ()
    let value := some (Bytes.ofString "./libtop.so")
    let accented : List Bytes := [Bytes.ofString "tickbench", [0x2B, 0xC3, 0xA9]]
    let cut : List Bytes := [Bytes.ofString "tickbench", [0x2B, 0xC3]]
    (∃ o, start setting accented value s = .finished o ∧ Forwards setting accented value s o) ∧
      start setting cut value s = .unreadableArgument ∧
        (start setting cut value s).status = 101 := by
  intro setting s value accented cut
  have readable : ∀ a ∈ accented, Readable a := by
    refine List.forall_mem_cons.mpr ⟨⟨_, rfl⟩, List.forall_mem_singleton.mpr ⟨"+é", ?_⟩⟩
    decide
  have unreadable : ∃ a ∈ cut, ¬Readable a := by
    refine ⟨[0x2B, 0xC3], by decide, not_readable ?_⟩
    decide +kernel
  have zeroless : ∀ a ∈ accented, 0 ∉ a := by decide
  have zeroless' : ∀ a ∈ cut, 0 ∉ a := by decide
  exact ⟨(start_raw setting zeroless value () {} {} ()).2 readable,
    (start_raw setting zeroless' value () {} {} ()).1 unreadable⟩

/-- One byte that is no text stops the program, also on the built-in bank. -/
theorem start_lone_byte :
    let setting : Setting Unit Circuit.Memory Timer.Script UInt64 Unit :=
      ⟨Stock.loader "absent", Timer.scripted, Sink.bytewise⟩
    let e := start setting [[0xFF]] none (.fresh () {} {} ())
    0 ∉ ([0xFF] : Bytes) ∧ e = .unreadableArgument ∧ e.status = 101 := by
  intro setting e
  have unreadable : ¬Readable [0xFF] := not_readable (by decide +kernel)
  have he : e = .unreadableArgument :=
    (start_eq_unreadable_iff setting _ none _).mpr ⟨_, List.mem_singleton_self _, unreadable⟩
  rw [he]
  exact ⟨by decide, rfl, rfl⟩

end Program

end EdgeMeter
