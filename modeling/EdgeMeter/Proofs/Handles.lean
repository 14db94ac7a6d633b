import EdgeMeter.Model.Circuit
import EdgeMeter.Proofs.Ledger
import EdgeMeter.Proofs.Passing
import EdgeMeter.Proofs.Series
import EdgeMeter.Session

/-!
# The handles of a session

* `Library.used_of_reach`: an instance is used by calls that carry its handle;
* `Rig.visits_series`: a series of trials visits one instance after another;
* `Session.change_answer`: the calls for a request;
* `Session.Replayed`: the memory of a session is the replay of its calls;
* `Session.Sound`, `Sound.answer`, `Sound.answers`: the invariant of a session;
* **`Session.handle_discipline`**: the discipline of handles over any requests.
-/

namespace EdgeMeter

variable {σ φ μ κ τ ω : Type}

/-! ## Calls of a library -/

namespace Model.Library

variable (lib : Library μ)

/-- One instance at most is used on the way from one state of a model to another. -/
def Used (h : Handle) (g g' : Guest μ) : Prop := ∃ cs, (∀ c ∈ cs, c.Uses h) ∧ lib.Called cs g g'

variable {lib} in
theorem Used.step {h : Handle} {g g₁ g₂ : Guest μ} {c : Call} (used : lib.Used h g g₁)
    (hc : c.Uses h) (called : lib.Called [c] g₁ g₂) : lib.Used h g g₂ := by
  obtain ⟨cs, uses, hcs⟩ := used
  exact ⟨cs ++ [c], List.forall_mem_append.mpr ⟨uses, List.forall_mem_singleton.mpr hc⟩,
    hcs.append called⟩

/-- **An instance is used by calls that carry its handle.** -/
theorem used_of_reach {h : Handle} {g g' : Guest μ} (hg : (lib.device h).Reach g g') :
    lib.Used h g g' := by
  induction hg with
  | here => exact ⟨[], nofun, .nil g⟩
  | driveClock high _ ih => exact ih.step ⟨rfl, rfl⟩ (.single (.setClk h _ _))
  | clockLevel _ ih => exact ih.step ⟨rfl, rfl⟩ (.single (.getClk h _))
  | driveReset asserted _ ih => exact ih.step ⟨rfl, rfl⟩ (.single (.setRst h _ _))
  | settle _ ih => exact ih.step ⟨rfl, rfl⟩ (.single (.eval h _))
  | output _ ih => exact ih.step ⟨rfl, rfl⟩ (.single (.readOutput h _))

theorem make_cases (g : Guest μ) :
    (∃ n h, h ≠ .null ∧ (lib.make g).1 = .ok h ∧ lib.Called [.new n h] g (lib.make g).2) ∨
    ∃ n, (lib.make g).1 = .error .nullModel ∧ lib.Called [.new n .null] g (lib.make g).2 := by
  have called : lib.Called [.new (g.tally.new + 1) (lib.entries.new g.memory).1] g
      (lib.make g).2 := .single (.new _ _)
  by_cases hh : (lib.entries.new g.memory).1 = .null
  · rw [hh] at called
    exact .inr ⟨_, if_pos hh, called⟩
  · exact .inl ⟨_, _, hh, if_neg hh, called⟩

theorem called_free (h : Handle) (g : Guest μ) : lib.Called [.free h] g (lib.free h g).2 :=
  .single (.free h _)

theorem called_passCounted (arguments : List String) (g : Guest μ) :
    lib.Called [] g (lib.passCounted arguments g).2 ∨
    ∃ argv, lib.Called [.commandArgs argv] g (lib.passCounted arguments g).2 := by
  obtain ⟨-, hpassed⟩ | ⟨parse, takes, ⟨-, hpassed⟩ | ⟨f, -, hpassed⟩⟩ :=
    lib.passCounted_cases g arguments
  all_goals rw [hpassed]
  · exact .inl (.nil g)
  · exact .inr ⟨_, .single (.commandArgs takes _ _)⟩
  · exact .inl (.nil g)

end Model.Library

/-! ## Runs -/

open Model

namespace Rig

variable (lib : Library μ) {rig : Rig (Guest μ) Handle (List String) κ τ ω}

theorem called_trial (hrig : rig.workshop = lib.workshop) (s : Scenario)
    (b : Bench (Guest μ) Handle (List String) κ τ ω) :
    (∃ n f b', rig.trial s b = (.error f, b') ∧ lib.Called [.new n .null] b.floor b'.floor) ∨
    ∃ n h cs, h ≠ .null ∧ (∀ c ∈ cs, c.Uses h) ∧
      lib.Called ([.new n h] ++ cs ++ [.free h]) b.floor (rig.trial s b).2.floor := by
  rcases rig.trial_cases s b with ⟨f, x, hmake, ht⟩ | ⟨d, x, es, r, out, hmake, -, ht⟩
  · replace hmake : lib.make b.floor = (.error f, x) := by rw [← hmake, hrig]; rfl
    rcases lib.make_cases b.floor with ⟨n, h, -, hh, -⟩ | ⟨n, -, made⟩
    · rw [hmake] at hh
      cases hh
    · rw [hmake] at made
      exact .inl ⟨n, f, _, ht, made⟩
  · replace hmake : lib.make b.floor = (.ok d, x) := by rw [← hmake, hrig]; rfl
    rcases lib.make_cases b.floor with ⟨n, h, ne_null, hh, made⟩ | ⟨n, hh, -⟩
    · rw [hmake] at hh made
      obtain rfl := Except.ok.inj hh
      obtain ⟨cs, uses, used⟩ := lib.used_of_reach (.driven s (.here (x := x)))
      refine .inr ⟨n, d, cs, ne_null, uses, ?_⟩
      rw [ht, hrig]
      exact (made.append used).append (lib.called_free d _)
    · rw [hmake] at hh
      cases hh

/-- **A series of trials visits one instance after another.** -/
theorem visits_series (hrig : rig.workshop = lib.workshop) (scenarios : List Scenario)
    (b : Bench (Guest μ) Handle (List String) κ τ ω) :
    ∃ cs, Visits cs ∧ lib.Called cs b.floor (rig.series scenarios b).2.floor := by
  induction scenarios generalizing b with
  | nil =>
    rw [series_nil]
    exact ⟨[], .nil, .nil _⟩
  | cons s rest ih =>
    rcases called_trial lib hrig s b with ⟨n, f, b', ht, refused⟩ | ⟨n, h, cs, ne_null, uses, first⟩
    · refine ⟨_, .refused n, ?_⟩
      rw [rig.series_cons_of_error ht]
      exact refused
    · rcases ht : rig.trial s b with ⟨f | m, b'⟩
      all_goals rw [ht] at first
      · refine ⟨_, .visit n ne_null uses .nil, ?_⟩
        rw [rig.series_cons_of_error ht, List.append_nil]
        exact first
      · obtain ⟨cs', visits, others⟩ := ih b'
        refine ⟨_, .visit n ne_null uses visits, ?_⟩
        rw [rig.series_cons_of_ok ht]
        exact first.append others

end Rig

/-! ## Requests -/

namespace Session

variable (loader : Loader φ μ) {s : Session φ μ} {lib : Library μ}

-- an answer is taken apart by its equations, one for each request
attribute [local simp] answer

/-- The calls that the model of a session received, in order. -/
def calls (s : Session φ μ) : List Call := s.host.guest.calls.toList

/-- A session that loaded no library yet. -/
def fresh (x : φ) (m : μ) : Session φ μ := { host := { loader := x, guest := { memory := m } } }

theorem guest_load (path : Bytes) (host : Host φ μ) :
    (host.load loader path).2.guest = host.guest := by
  have hfetch : (host.fetch loader path).2.guest = host.guest := by
    dsimp only [Host.fetch]
    split
    · rfl
    · split <;> rfl
  unfold Host.load
  split
  · rfl
  · split <;> next hf => rw [hf] at hfetch; exact hfetch

theorem answer_of_not_loaded (loaded : s.host.loaded = none) (r : Request κ τ ω) :
    (s.answer loader r).2.devices = s.devices ∧
      (s.answer loader r).2.host.guest = s.host.guest := by
  cases r with
  | load path => exact ⟨rfl, guest_load loader path s.host⟩
  | _ =>
    simp only [answer, loaded]
    exact ⟨trivial, trivial⟩

theorem loaded_answer (loaded : s.host.loaded = some lib) (r : Request κ τ ω) :
    (s.answer loader r).2.host.loaded = some lib := by
  cases r with
  | load path => simp only [answer, Host.load, loaded]
  | make =>
    simp only [answer, loaded]
    split <;> exact loaded
  | operate i operations =>
    simp only [answer, loaded]
    split <;> exact loaded
  | drop i =>
    simp only [answer, loaded]
    split <;> exact loaded
  | passArguments arguments =>
    simp only [answer, loaded]
    exact loaded
  | run scenarios timer time sink out =>
    simp only [answer, loaded]
    exact loaded

section Loaded

variable (κ τ ω) (loaded : s.host.loaded = some lib)
include loaded

theorem answer_passArguments (arguments : List String) :
    let s' := (s.answer loader (.passArguments arguments : Request κ τ ω)).2
    s'.devices = s.devices ∧ (lib.Called [] s.host.guest s'.host.guest ∨
      ∃ argv, lib.Called [.commandArgs argv] s.host.guest s'.host.guest) := by
  simp only [answer, loaded]
  exact ⟨rfl, lib.called_passCounted arguments s.host.guest⟩

theorem answer_make :
    let o := s.answer loader (.make : Request κ τ ω)
    (∃ n h, h ≠ .null ∧ o.1 = .made s.devices.length ∧ o.2.devices = s.devices ++ [some h] ∧
      lib.Called [.new n h] s.host.guest o.2.host.guest) ∨
    ∃ n, o.1 = .failed .nullModel ∧ o.2.devices = s.devices ∧
      lib.Called [.new n .null] s.host.guest o.2.host.guest := by
  simp only [answer, loaded]
  rcases lib.make_cases s.host.guest with ⟨n, h, ne_null, hh, called⟩ | ⟨n, hh, called⟩
  all_goals
    rcases hmake : lib.make s.host.guest with ⟨made, g⟩
    rw [hmake] at hh called
  · obtain rfl : made = .ok h := hh
    exact .inl ⟨n, h, ne_null, rfl, rfl, called⟩
  · obtain rfl : made = .error .nullModel := hh
    exact .inr ⟨n, rfl, rfl, called⟩

theorem answer_operate (i : Nat) (operations : List Operation) :
    let s' := (s.answer loader (.operate i operations : Request κ τ ω)).2
    s'.devices = s.devices ∧ (lib.Called [] s.host.guest s'.host.guest ∨
      ∃ h, s.device? i = some h ∧ lib.Used h s.host.guest s'.host.guest) := by
  simp only [answer, loaded]
  cases hi : s.device? i with
  | none => exact ⟨rfl, .inl (.nil _)⟩
  | some h =>
    exact ⟨rfl, .inr ⟨h, rfl, lib.used_of_reach (.performAll operations .here)⟩⟩

theorem answer_drop {i : Nat} {h : Handle} (hi : s.device? i = some h) :
    let o := s.answer loader (.drop i : Request κ τ ω)
    o.1 = .dropped ∧ o.2.devices = s.devices.set i none ∧
      lib.Called [.free h] s.host.guest o.2.host.guest := by
  simp only [answer, loaded, hi]
  exact ⟨trivial, trivial, lib.called_free h _⟩

theorem answer_run (scenarios : List Scenario) (timer : Timer κ τ) (time : κ) (sink : Sink ω)
    (out : ω) :
    let s' := (s.answer loader (.run scenarios timer time sink out)).2
    s'.devices = s.devices ∧ ∃ cs, Visits cs ∧ lib.Called cs s.host.guest s'.host.guest := by
  simp only [answer, loaded]
  exact ⟨rfl, Rig.visits_series lib rfl scenarios (.quiet s.host.guest time out)⟩

theorem change_answer (r : Request κ τ ω) :
    let s' := (s.answer loader r).2
    ∃ cs, lib.Called cs s.host.guest s'.host.guest ∧ Change s.devices cs s'.devices := by
  intro s'
  cases r with
  | load path =>
    refine ⟨[], ?_, .idle⟩
    rw [show s'.host.guest = s.host.guest from guest_load loader path s.host]
    exact .nil _
  | passArguments arguments =>
    obtain ⟨hdevices, called | ⟨argv, called⟩⟩ := answer_passArguments κ τ ω loader loaded arguments
    · exact ⟨[], called, by rw [hdevices]; exact .idle⟩
    · exact ⟨[.commandArgs argv], called, by rw [hdevices]; exact .passed argv⟩
  | make =>
    rcases answer_make κ τ ω loader loaded with
      ⟨n, h, ne_null, -, hdevices, called⟩ | ⟨n, -, hdevices, called⟩
    · exact ⟨[.new n h], called, by rw [hdevices]; exact .made n ne_null⟩
    · exact ⟨[.new n .null], called, by rw [hdevices]; exact .refused n⟩
  | operate i operations =>
    obtain ⟨hdevices, called | ⟨h, hi, cs, uses, called⟩⟩ :=
      answer_operate κ τ ω loader loaded i operations
    · exact ⟨[], called, by rw [hdevices]; exact .idle⟩
    · exact ⟨cs, called, by rw [hdevices]; exact .used hi uses⟩
  | drop i =>
    cases hi : s.device? i with
    | none =>
      have hs' : s' = s := by simp only [s', answer, loaded, hi]
      rw [hs']
      exact ⟨[], .nil _, .idle⟩
    | some h =>
      obtain ⟨-, hdevices, called⟩ := answer_drop κ τ ω loader loaded hi
      exact ⟨[.free h], called, by rw [hdevices]; exact .dropped hi⟩
  | run scenarios timer time sink out =>
    obtain ⟨hdevices, cs, visits, called⟩ :=
      answer_run κ τ ω loader loaded scenarios timer time sink out
    exact ⟨cs, called, by rw [hdevices]; exact .ran visits⟩

end Loaded

/-! ## The invariant of a session -/

/-- **The memory of a session is the replay of its calls**, on the entry points of the library that
it loaded and from the memory `m` at its beginning. Without a library there are no calls. -/
def Replayed (s : Session φ μ) (m : μ) : Prop :=
  match s.host.loaded with
  | none => s.calls = [] ∧ s.host.guest.memory = m
  | some lib => Steps lib.entries.Answers s.calls m s.host.guest.memory

/-- **A session is sound** after some calls, begun with memory `m`, when its model received just
these, and they and the instances that it keeps make a ledger unless a handle was given out
twice. -/
structure Sound (s : Session φ μ) (m : μ) (log : List Call) : Prop where
  idle : s.host.loaded = none → s.devices = [] ∧ log = [] ∧ s.host.guest.memory = m
  recorded : s.host.guest.calls = ({} : Journal Call).recordAll log
  replay : ∀ lib, s.host.loaded = some lib →
    Steps lib.entries.Answers log m s.host.guest.memory
  ledger : (created log).Nodup → Ledger s.devices log

theorem sound_fresh (x : φ) (m : μ) : (fresh x m).Sound m [] where
  idle _ := ⟨rfl, rfl, rfl⟩
  recorded := rfl
  replay := nofun
  ledger _ := ledger_nil

namespace Sound

variable {m : μ} {log : List Call}

theorem calls_eq (sound : s.Sound m log) : s.calls = log := by
  rw [calls, sound.recorded, Journal.toList_recordAll_fresh]

theorem calls_append (sound : s.Sound m log) {s' : Session φ μ} {cs : List Call}
    (called : lib.Called cs s.host.guest s'.host.guest) : s'.calls = s.calls ++ cs := by
  rw [sound.calls_eq, calls, called.recorded, sound.recorded, ← Journal.recordAll_append,
    Journal.toList_recordAll_fresh]

theorem replayed (sound : s.Sound m log) : s.Replayed m := by
  unfold Replayed
  rw [sound.calls_eq]
  split
  · next loaded => exact (sound.idle loaded).2
  · next lib loaded => exact sound.replay lib loaded

theorem answer (sound : s.Sound m log) (r : Request κ τ ω) :
    ∃ cs, (s.answer loader r).2.Sound m (log ++ cs) := by
  cases loaded : s.host.loaded with
  | none =>
    obtain ⟨hdevices, hguest⟩ := answer_of_not_loaded loader loaded r
    obtain ⟨nobody, rfl, hm⟩ := sound.idle loaded
    refine ⟨[], fun _ => ⟨hdevices.trans nobody, rfl, by rw [hguest, hm]⟩, ?_, fun lib _ => ?_, ?_⟩
    · rw [hguest, sound.recorded, List.append_nil]
    · rw [hguest, hm]
      exact .nil m
    · rw [hdevices]
      exact sound.ledger
  | some lib =>
    obtain ⟨cs, called, change⟩ := change_answer κ τ ω loader loaded r
    have stays := loaded_answer loader loaded r
    refine ⟨cs, fun h => ?_, ?_, fun lib' h => ?_, fun distinct => ?_⟩
    · cases stays.symm.trans h
    · rw [called.recorded, sound.recorded, Journal.recordAll_append]
    · obtain rfl := Option.some.inj (stays.symm.trans h)
      exact (sound.replay lib loaded).append called.replay
    · exact (sound.ledger (nodup_created_of_append distinct)).change change distinct

theorem answers (sound : s.Sound m log) (rs : List (Request κ τ ω)) :
    ∃ cs, (answers loader rs s).2.Sound m (log ++ cs) := by
  induction rs generalizing s log with
  | nil => exact ⟨[], by rwa [List.append_nil]⟩
  | cons r rs ih =>
    obtain ⟨cs, sound⟩ := sound.answer loader r
    obtain ⟨cs', sound⟩ := ih sound
    exact ⟨cs ++ cs', by rwa [← List.append_assoc]⟩

end Sound

theorem Sound.count_freed {m : μ} {log : List Call} (sound : s.Sound m log)
    (distinct : (created log).Nodup)
    {h : Handle} (hh : h ∈ freed log) : (freed s.calls).count h = 1 := by
  rw [sound.calls_eq]
  exact List.count_eq_one_of_mem (sound.ledger distinct).disciplined.nodup_freed hh

theorem answers_append (rs rs' : List (Request κ τ ω)) :
    (answers loader (rs ++ rs') s).2 = (answers loader rs' (answers loader rs s).2).2 := by
  induction rs generalizing s with
  | nil => rfl
  | cons r rs ih => exact ih

/-! ## The discipline of handles -/

/-- **What a request comes to**, with the session before it, after it and in the end. Dropping an
instance frees it, once and for all; an instance that cannot be made costs one call; and a run frees
what it makes, in the same order, with at most one instance alive at any time. -/
def Request.Settled (r : Request κ τ ω) (a : Answer μ τ) (s s' final : Session φ μ) : Prop :=
  match r, a with
  | .drop i, a => ∀ h, s.device? i = some h →
    a = .dropped ∧ (freed s'.calls).count h = 1 ∧ (freed final.calls).count h = 1
  | .make, .failed _ => ∃ n, s'.calls = s.calls ++ [.new n .null]
  | .run .., _ => ∃ cs, s'.calls = s.calls ++ cs ∧ created cs = freed cs ∧
    ∀ p, p <+: cs → ∃ alive : Option Handle, created p = freed p ++ alive.toList
  | _, _ => True

/-- **Every request comes to what it should**, if no handle is given out twice up to the end. -/
theorem Sound.settled {m : μ} {log : List Call} (sound : s.Sound m log) (r : Request κ τ ω)
    (rest : List (Request κ τ ω)) :
    let o := s.answer loader r
    let final := (Session.answers loader rest o.2).2
    (created final.calls).Nodup → r.Settled o.1 s o.2 final := by
  intro o final distinct
  obtain ⟨cs, sound'⟩ := sound.answer loader r
  obtain ⟨cs', sound''⟩ := sound'.answers loader rest
  rw [sound''.calls_eq] at distinct
  cases r with
  | drop i =>
    intro h hi
    cases loaded : s.host.loaded with
    | none =>
      -- without a library no instance was ever made
      rw [device?, (sound.idle loaded).1] at hi
      cases hi
    | some lib =>
      obtain ⟨ha, -, called⟩ := answer_drop κ τ ω loader loaded hi
      have hcs : o.2.calls = s.calls ++ [.free h] := sound.calls_append called
      rw [sound'.calls_eq, sound.calls_eq] at hcs
      obtain rfl := List.append_cancel_left hcs
      have hh : h ∈ freed (log ++ [.free h]) := by
        rw [freed_append]
        exact List.mem_append_right _ (List.mem_singleton_self h)
      refine ⟨ha, sound'.count_freed (nodup_created_of_append distinct) hh,
        sound''.count_freed distinct ?_⟩
      rw [freed_append]
      exact List.mem_append_left _ hh
  | make =>
    cases loaded : s.host.loaded with
    | none =>
      have ha : o.1 = .noLibrary := by simp only [o, Session.answer, loaded]
      rw [ha]
      trivial
    | some lib =>
      rcases answer_make κ τ ω loader loaded with ⟨n, h, -, ha, -⟩ | ⟨n, ha, -, called⟩
      · rw [show o.1 = _ from ha]
        trivial
      · rw [show o.1 = _ from ha]
        exact ⟨n, sound.calls_append called⟩
  | run scenarios timer time sink out =>
    obtain ⟨cs, visits, hcs⟩ : ∃ cs, Visits cs ∧ o.2.calls = s.calls ++ cs := by
      cases loaded : s.host.loaded with
      | none =>
        have hguest := (answer_of_not_loaded loader loaded (.run scenarios timer time sink out)).2
        refine ⟨[], .nil, ?_⟩
        rw [calls, hguest, List.append_nil, calls]
      | some lib =>
        obtain ⟨-, cs, visits, called⟩ :=
          answer_run κ τ ω loader loaded scenarios timer time sink out
        exact ⟨cs, visits, sound.calls_append called⟩
    exact ⟨cs, hcs, visits.created_eq_freed, fun p hp => visits.alive_prefix hp⟩
  | _ => trivial

/-- **The discipline of handles** in a session whose model gives no handle out twice. The calls are
those that made its memory what it is. -/
theorem handle_discipline (x : φ) (m : μ) (rs : List (Request κ τ ω))
    (distinct : (created (answers loader rs (fresh x m)).2.calls).Nodup) :
    let final := (answers loader rs (fresh x m)).2
    final.Replayed m ∧ Disciplined final.calls ∧ (freed final.calls).Nodup ∧
      ∀ before r rest, rs = before ++ r :: rest →
        let s := (answers loader before (fresh x m)).2
        let o := s.answer loader r
        r.Settled o.1 s o.2 final := by
  intro final
  obtain ⟨log, sound⟩ := (sound_fresh x m).answers loader rs
  have disciplined : Disciplined final.calls := by
    rw [sound.calls_eq] at distinct ⊢
    exact (sound.ledger distinct).disciplined
  refine ⟨sound.replayed, disciplined, disciplined.nodup_freed, ?_⟩
  rintro before r rest rfl
  obtain ⟨log, sound⟩ := (sound_fresh x m).answers loader before
  have hfinal : final = (answers loader rest (answer loader r _).2).2 :=
    answers_append loader before (r :: rest)
  rw [hfinal]
  refine sound.settled loader r rest ?_
  rw [← hfinal]
  exact distinct

/-- A loader that finds the plain circuit with room for two instances. -/
def circuitLoader : Loader Unit Circuit.Memory where
  fetch _ x := (.ok (({ exhaustedFrom := some 3 } : Circuit.Variant).exports "absent"), x)

/-- Two instances are made, a run and another instance are refused, and both are dropped. -/
theorem handle_discipline_exhausted :
    let s : Scenario := ⟨"probe", 1, 2, true, .total⟩
    let rs : List (Request Timer.Script UInt64 Unit) :=
      [.load [], .make, .make, .operate 0 [.edges 1], .drop 0,
        .run [s] Timer.scripted {} Sink.bytewise (), .make, .drop 1]
    let final := (answers circuitLoader rs (fresh () {})).2
    final.calls = [.new 1 ⟨1⟩, .new 2 ⟨2⟩, .getClk ⟨1⟩ 0, .setClk ⟨1⟩ 1, .eval ⟨1⟩, .free ⟨1⟩,
      .new 3 .null, .new 4 .null, .free ⟨2⟩] ∧
    (created final.calls).Nodup ∧ final.host.loaded.isSome ∧ final.Replayed {} ∧
    Disciplined final.calls ∧ (freed final.calls).Nodup ∧
      ∀ before r rest, rs = before ++ r :: rest →
        let s := (answers circuitLoader before (fresh () {})).2
        let o := s.answer circuitLoader r
        r.Settled o.1 s o.2 final := by
  intro s rs final
  have hcalls : final.calls = [.new 1 ⟨1⟩, .new 2 ⟨2⟩, .getClk ⟨1⟩ 0, .setClk ⟨1⟩ 1, .eval ⟨1⟩,
      .free ⟨1⟩, .new 3 .null, .new 4 .null, .free ⟨2⟩] := by
    decide +kernel
  have distinct : (created final.calls).Nodup := by
    rw [hcalls]
    decide
  have loaded : final.host.loaded.isSome := by
    decide +kernel
  exact ⟨hcalls, distinct, loaded, handle_discipline circuitLoader () {} rs distinct⟩

end Session

end EdgeMeter
