import EdgeMeter.Proofs.Circuits
import EdgeMeter.Proofs.Handles

/-!
# Devices do not interfere

Requests for many devices may come in any order, with runs between them. If the model is a counter
circuit, each device answers as a bank with one counter does that goes through the operations for
this device and no others.

* `Session.transcript`, `Session.ownAll`: requests with their answers, and the operations in them
  that were for one device;
* `Session.Tracked`: the invariant between a session, its transcript and the calls of its model;
* **`Session.devices_independent`**: every device answers for itself.
-/

namespace EdgeMeter

open Model

variable {φ μ κ τ ω : Type}

/-- The bank with one counter, set to `c₀`, after some operations. -/
def CounterBank.after (c₀ : UInt32) (ops : List Operation) : CounterBank :=
  (CounterBank.device.performAll ops (.single c₀)).2

theorem CounterBank.after_append (c₀ : UInt32) (ops ops' : List Operation) :
    CounterBank.after c₀ (ops ++ ops') =
      (CounterBank.device.performAll ops' (CounterBank.after c₀ ops)).2 :=
  Device.performAll_append _ ops ops' _

theorem Model.kept_eq_none_of_concat {devices : List (Option Handle)} {i : Nat} {h : Handle}
    (hi : kept (devices ++ [some h]) i = none) :
    i < devices.length ∧ kept devices i = none ∨ (devices ++ [some h]).length ≤ i := by
  unfold kept at hi ⊢
  rcases Nat.lt_trichotomy i devices.length with hlt | rfl | hlt
  · rw [List.getElem?_append_left hlt] at hi
    exact .inl ⟨hlt, hi⟩
  · rw [List.getElem?_concat_length] at hi
    cases hi
  · exact .inr (by rwa [List.length_append])

theorem Model.lt_length_of_kept {devices : List (Option Handle)} {i : Nat} {h : Handle}
    (hi : kept devices i = some h) : i < devices.length := by
  by_contra hle
  rw [kept, List.getElem?_eq_none (Nat.not_lt.mp hle)] at hi
  cases hi

theorem mem_of_mem_concat {α : Type} {l : List α} {a b : α} (h : a ∈ l ++ [b]) (ne : a ≠ b) :
    a ∈ l :=
  (List.mem_append.mp h).resolve_right fun hb => ne (List.mem_singleton.mp hb)

namespace Session

/-- Requests with their answers. -/
def transcript (loader : Loader φ μ) (rs : List (Request κ τ ω)) (s : Session φ μ) :
    List (Request κ τ ω × Answer μ τ) := rs.zip (answers loader rs s).1

theorem not_mem_transcript {loader : Loader φ μ} {rs : List (Request κ τ ω)} {s : Session φ μ}
    {r : Request κ τ ω} {a : Answer μ τ} (h : r ∉ rs) : (r, a) ∉ transcript loader rs s :=
  fun hmem => h (List.of_mem_zip hmem).1

/-- The operations for device `i` in a request, if it was met. -/
def own (i : Nat) : Request κ τ ω × Answer μ τ → List Operation
  | (.operate j ops, .replies _) => if j = i then ops else []
  | _ => []

/-- **The operations for device `i`** in a transcript, in order. -/
def ownAll (i : Nat) (t : List (Request κ τ ω × Answer μ τ)) : List Operation := t.flatMap (own i)

theorem ownAll_concat (i : Nat) (t : List (Request κ τ ω × Answer μ τ))
    (e : Request κ τ ω × Answer μ τ) : ownAll i (t ++ [e]) = ownAll i t ++ own i e := by
  rw [ownAll, List.flatMap_append, List.flatMap_singleton]
  rfl

theorem own_operate (i j : Nat) (ops : List Operation) (rs : List Reply) :
    own j ((.operate i ops, .replies rs) : Request κ τ ω × Answer μ τ) =
      if i = j then ops else [] := rfl

/-- **The invariant between a session, its transcript and the calls of its model.** The shadow of
every instance that is kept went through the operations for its device. -/
structure Tracked (lib : Library μ) (view : Handle → μ → Option Registers) (c₀ : UInt32)
    (s : Session φ μ) (t : List (Request κ τ ω × Answer μ τ)) (log : List Call) : Prop where
  loaded : s.host.loaded = some lib
  mirrors : Mirrors view c₀ s.host.guest log
  shadows : ∀ i h, kept s.devices i = some h → shadow c₀ h log = some (.after c₀ (ownAll i t))
  distinct : ∀ i j h, kept s.devices i = some h → kept s.devices j = some h → i = j
  made : ∀ i, (.make, .made i) ∈ t → i < s.devices.length
  dropped : ∀ i, i < s.devices.length → kept s.devices i = none → (.drop i, .dropped) ∈ t
  unused : ∀ i, s.devices.length ≤ i → ownAll i t = []

namespace Tracked

variable {lib : Library μ} {view : Handle → μ → Option Registers} {c₀ : UInt32}
  {s : Session φ μ} {t : List (Request κ τ ω × Answer μ τ)} {log : List Call}

theorem idle (tracked : Tracked lib view c₀ s t log) {s' : Session φ μ} {log' : List Call}
    {e : Request κ τ ω × Answer μ τ} (loaded : s'.host.loaded = some lib)
    (devices : s'.devices = s.devices) (mirrors : Mirrors view c₀ s'.host.guest log')
    (spares : Spares c₀ log log') (own_eq : ∀ i, own i e = [])
    (ne_made : ∀ i, e ≠ (.make, .made i)) :
    Tracked lib view c₀ s' (t ++ [e]) log' where
  loaded := loaded
  mirrors := mirrors
  shadows := by
    intro i h hi
    rw [devices] at hi
    rw [ownAll_concat, own_eq, List.append_nil]
    exact spares h _ (tracked.shadows i h hi)
  distinct := by
    rw [devices]
    exact tracked.distinct
  made := by
    intro i hi
    rw [devices]
    obtain hi | hi := List.mem_append.mp hi
    · exact tracked.made i hi
    · exact absurd (List.mem_singleton.mp hi).symm (ne_made i)
  dropped := by
    intro i hlt hi
    rw [devices] at hlt hi
    exact List.mem_append_left _ (tracked.dropped i hlt hi)
  unused := by
    intro i hi
    rw [devices] at hi
    rw [ownAll_concat, own_eq, List.append_nil, tracked.unused i hi]

section Requests

variable (loader : Loader φ μ) (tracked : Tracked lib view c₀ s t log)
include tracked

theorem make (conforms : lib.entries.Conforms view c₀) :
    let o := s.answer loader (.make : Request κ τ ω)
    ∃ log', Tracked lib view c₀ o.2 (t ++ [(.make, o.1)]) log' := by
  simp only [answer, tracked.loaded]
  rcases tracked.mirrors.make conforms with ⟨n, h, ne_null, hh, mirrors, fresh⟩ | ⟨n, hh, mirrors⟩
  · rcases hmake : lib.make s.host.guest with ⟨made, g⟩
    rw [hmake] at hh mirrors
    obtain rfl : made = .ok h := hh
    have ne : ∀ i h', kept s.devices i = some h' → h' ≠ h := by
      rintro i h' hi rfl
      rw [tracked.shadows i h' hi] at fresh
      cases fresh
    refine ⟨_, tracked.loaded, mirrors, ?_, ?_, ?_, ?_, ?_⟩
    · intro i h' hi
      rw [ownAll_concat, show own i _ = [] from rfl, List.append_nil]
      rcases kept_concat hi with hi | ⟨rfl, rfl⟩
      · rw [shadow_new_of_ne n (ne i h' hi)]
        exact tracked.shadows i h' hi
      · rw [shadow_new n ne_null, tracked.unused _ le_rfl]
        rfl
    · intro i j h' hi hj
      rcases kept_concat hi with hi' | ⟨rfl, rfl⟩
      · rcases kept_concat hj with hj' | ⟨rfl, rfl⟩
        · exact tracked.distinct i j h' hi' hj'
        · cases ne i h' hi' rfl
      · rcases kept_concat hj with hj' | ⟨rfl, -⟩
        · cases ne j h' hj' rfl
        · rfl
    · intro i hi
      change i < (s.devices ++ [some h]).length
      rw [List.length_append]
      obtain hi | hi := List.mem_append.mp hi
      · exact Nat.lt_succ_of_lt (tracked.made i hi)
      · obtain rfl : i = s.devices.length := by
          simpa using List.mem_singleton.mp hi
        exact Nat.lt_succ_self _
    · intro i hlt hi
      rcases kept_eq_none_of_concat hi with hi | hle
      · exact List.mem_append_left _ (tracked.dropped i hi.1 hi.2)
      · exact absurd hlt (Nat.not_lt.mpr hle)
    · intro i hi
      change (s.devices ++ [some h]).length ≤ i at hi
      rw [List.length_append] at hi
      rw [ownAll_concat, tracked.unused i (Nat.le_of_succ_le hi)]
      rfl
  · rcases hmake : lib.make s.host.guest with ⟨made, g⟩
    rw [hmake] at hh mirrors
    obtain rfl : made = .error .nullModel := hh
    refine ⟨_, tracked.idle tracked.loaded rfl mirrors ?_ (fun _ => rfl) (by rintro _ ⟨⟩)⟩
    intro h b hb
    rwa [shadow_refused]

/-- **The operations for a device** are answered as its own bank answers them, and they are no
concern of the others. -/
theorem operate (conforms : lib.entries.Conforms view c₀) (i : Nat) (ops : List Operation) :
    let o := s.answer loader (.operate i ops : Request κ τ ω)
    (∀ h, kept s.devices i = some h →
        o.1 = .replies (CounterBank.device.performAll ops (.after c₀ (ownAll i t))).1) ∧
      ∃ log', Tracked lib view c₀ o.2 (t ++ [(.operate i ops, o.1)]) log' := by
  simp only [answer, tracked.loaded]
  cases hi : s.device? i with
  | none =>
    refine ⟨fun h hh => ?_, log, tracked.idle tracked.loaded rfl tracked.mirrors
      (fun _ _ hb => hb) (fun _ => rfl) (by rintro _ ⟨⟩)⟩
    rw [show kept s.devices i = none from hi] at hh
    cases hh
  | some h =>
    have start : Reflects view c₀ h log s.host.guest (.after c₀ (ownAll i t)) :=
      ⟨[], List.forall_mem_nil _, by rw [List.append_nil]; exact tracked.mirrors,
        by rw [List.append_nil]; exact tracked.shadows i h hi⟩
    obtain ⟨hreplies, cs, uses, mirrors, hb⟩ :=
      (Library.device_follows conforms h log).performAll ops start
    refine ⟨fun _ _ => congrArg Answer.replies hreplies, log ++ cs, tracked.loaded, mirrors, ?_,
      tracked.distinct, ?_, ?_, ?_⟩
    · intro j h' hj
      rw [ownAll_concat, own_operate]
      by_cases ne : i = j
      · subst ne
        obtain rfl := Option.some.inj (hi.symm.trans hj)
        rw [if_pos rfl, CounterBank.after_append]
        exact hb
      · have hne : h' ≠ h := by
          rintro rfl
          exact ne (tracked.distinct i j h' hi hj)
        rw [if_neg ne, List.append_nil, shadow_append_uses hne uses]
        exact tracked.shadows j h' hj
    · exact fun j hj => tracked.made j (mem_of_mem_concat hj (by rintro ⟨⟩))
    · exact fun j hlt hj => List.mem_append_left _ (tracked.dropped j hlt hj)
    · intro j hj
      have ne : i ≠ j := by
        rintro rfl
        exact absurd (lt_length_of_kept hi) (Nat.not_lt.mpr hj)
      rw [ownAll_concat, own_operate, if_neg ne, List.append_nil, tracked.unused j hj]

theorem drop (conforms : lib.entries.Conforms view c₀) (i : Nat) :
    let o := s.answer loader (.drop i : Request κ τ ω)
    ∃ log', Tracked lib view c₀ o.2 (t ++ [(.drop i, o.1)]) log' := by
  simp only [answer, tracked.loaded]
  cases hi : s.device? i with
  | none =>
    exact ⟨log, tracked.idle tracked.loaded rfl tracked.mirrors (fun _ _ hb => hb) (fun _ => rfl)
      (by rintro _ ⟨⟩)⟩
  | some h =>
    have own_drop : ∀ j, own j ((.drop i, .dropped) : Request κ τ ω × Answer μ τ) = [] :=
      fun _ => rfl
    refine ⟨_, tracked.loaded, tracked.mirrors.free conforms (tracked.shadows i h hi), ?_, ?_, ?_,
      ?_, ?_⟩
    · intro j h' hj
      obtain ⟨ne, hkept⟩ := kept_set_none hj
      have hne : h' ≠ h := fun heq => ne (tracked.distinct j i h' hkept (heq ▸ hi))
      rw [ownAll_concat, own_drop, List.append_nil, shadow_free_of_ne hne]
      exact tracked.shadows j h' hkept
    · exact fun j k h' hj hk => tracked.distinct j k h' (kept_set_none hj).2 (kept_set_none hk).2
    · intro j hj
      rw [show _ = (s.devices.set i none).length from rfl, List.length_set]
      exact tracked.made j (mem_of_mem_concat hj (by rintro ⟨⟩))
    · intro j hlt hj
      change j < (s.devices.set i none).length at hlt
      change kept (s.devices.set i none) j = none at hj
      rw [List.length_set] at hlt
      by_cases ne : i = j
      · subst ne
        exact List.mem_append_right _ (List.mem_singleton_self _)
      · rw [kept, List.getElem?_set_ne ne] at hj
        exact List.mem_append_left _ (tracked.dropped j hlt hj)
    · intro j hj
      change (s.devices.set i none).length ≤ j at hj
      rw [List.length_set] at hj
      rw [ownAll_concat, own_drop, List.append_nil, tracked.unused j hj]

theorem answer (conforms : lib.entries.Conforms view c₀) (r : Request κ τ ω)
    (apart : (∃ arguments, r = .passArguments arguments) → lib.entries.ParsesApart view) :
    let o := s.answer loader r
    ∃ log', Tracked lib view c₀ o.2 (t ++ [(r, o.1)]) log' := by
  have loaded := tracked.loaded
  cases r with
  | load path =>
    refine ⟨log, tracked.idle (loaded_answer loader loaded _) rfl ?_ (fun _ _ hb => hb)
      (fun _ => rfl) (by rintro _ ⟨⟩)⟩
    change Mirrors view c₀ (s.host.load loader path).2.guest log
    rw [guest_load]
    exact tracked.mirrors
  | passArguments arguments =>
    obtain ⟨log', mirrors, spares⟩ :=
      tracked.mirrors.passCounted (apart ⟨arguments, rfl⟩) arguments
    simp only [Session.answer, loaded]
    exact ⟨log', tracked.idle loaded rfl mirrors spares (fun _ => rfl) (by rintro _ ⟨⟩)⟩
  | make => exact tracked.make loader conforms
  | operate i ops => exact (tracked.operate loader conforms i ops).2
  | drop i => exact tracked.drop loader conforms i
  | run scenarios timer time sink out =>
    let b : Bench (Guest μ) Handle (List String) κ τ ω := .quiet s.host.guest time out
    have start : Mirrors view c₀ b.floor log := tracked.mirrors
    obtain ⟨log', mirrors, spares⟩ := Rig.mirrors_series ⟨lib.workshop, timer, sink⟩ rfl
      conforms scenarios (b := b) start
    simp only [Session.answer, loaded]
    exact ⟨log', tracked.idle loaded rfl mirrors spares (fun _ => rfl) (by rintro _ ⟨⟩)⟩

end Requests

theorem answers (loader : Loader φ μ) (conforms : lib.entries.Conforms view c₀)
    (rs : List (Request κ τ ω))
    (apart : (∃ arguments, .passArguments arguments ∈ rs) → lib.entries.ParsesApart view)
    (tracked : Tracked lib view c₀ s t log) :
    ∃ log', Tracked lib view c₀ (Session.answers loader rs s).2 (t ++ transcript loader rs s)
      log' := by
  induction rs generalizing s t log with
  | nil => exact ⟨log, by rwa [show transcript loader [] s = [] from rfl, List.append_nil]⟩
  | cons r rs ih =>
    obtain ⟨log₁, tracked₁⟩ := tracked.answer loader conforms r fun ⟨arguments, hr⟩ =>
      apart ⟨arguments, hr ▸ List.mem_cons_self⟩
    obtain ⟨log₂, tracked₂⟩ := ih (fun ⟨arguments, hr⟩ =>
      apart ⟨arguments, List.mem_cons_of_mem _ hr⟩) tracked₁
    rw [List.append_assoc] at tracked₂
    exact ⟨log₂, tracked₂⟩

end Tracked

/-- A session in which a library is loaded and nothing was asked of it yet. -/
def opened (lib : Library μ) (x : φ) (m : μ) : Session φ μ :=
  { host := { loader := x, guest := { memory := m }, loaded := some lib } }

theorem tracked_opened (lib : Library μ) (view : Handle → μ → Option Registers) (c₀ : UInt32)
    (x : φ) (m : μ) :
    Tracked lib view c₀ (opened lib x m) ([] : List (Request κ τ ω × Answer μ τ)) [] where
  loaded := rfl
  mirrors := mirrors_new m
  shadows := nofun
  distinct := nofun
  made := nofun
  dropped := nofun
  unused := fun _ _ => rfl

/-- **Devices do not interfere**: each answers as a bank that went through its own operations alone,
and only the bytes 0 and 1 are ever passed. -/
theorem devices_independent (lib : Library μ) {view : Handle → μ → Option Registers} {c₀ : UInt32}
    (loader : Loader φ μ) (conforms : lib.entries.Conforms view c₀) (x : φ) (m : μ)
    (rs : List (Request κ τ ω))
    (apart : (∃ arguments, .passArguments arguments ∈ rs) → lib.entries.ParsesApart view) :
    let start : Session φ μ := opened lib x m
    (∀ before i ops rest, rs = before ++ .operate i ops :: rest →
      let s := (answers loader before start).2
      let t := transcript loader before start
      (.make, .made i) ∈ t → (.drop i, .dropped) ∉ t →
        (s.answer loader (.operate i ops : Request κ τ ω)).1 =
          .replies (CounterBank.device.performAll ops (.after c₀ (ownAll i t))).1) ∧
    let calls := (answers loader rs start).2.calls
    Faithful c₀ calls ∧ ∀ c ∈ calls, c.PassesLevel := by
  intro start
  have tracked : Tracked lib view c₀ start ([] : List (Request κ τ ω × Answer μ τ)) [] :=
    tracked_opened lib view c₀ x m
  refine ⟨?_, ?_⟩
  · rintro before i ops rest rfl s t made undropped
    obtain ⟨log, tracked⟩ := tracked.answers loader conforms before fun ⟨arguments, h⟩ =>
      apart ⟨arguments, List.mem_append_left _ h⟩
    change Tracked lib view c₀ s t log at tracked
    cases hi : kept s.devices i with
    | none => exact absurd (tracked.dropped i (tracked.made i made) hi) undropped
    | some h => exact (tracked.operate loader conforms i ops).1 h hi
  · obtain ⟨log, tracked⟩ := tracked.answers loader conforms rs apart
    intro calls
    have hcalls : calls = log := by
      change (answers loader rs start).2.host.guest.calls.toList = log
      rw [tracked.mirrors.recorded, Journal.toList_recordAll_fresh]
    rw [hcalls]
    exact ⟨tracked.mirrors.faithful, tracked.mirrors.levels⟩

/-- A loader that is never asked. -/
def idleLoader : Loader Unit Circuit.Memory where
  fetch _ x := (.error "absent", x)

/-- A circuit just before its count wraps, with a clock that reads as 128 when high: devices are
driven in turn, dropped and made. -/
theorem devices_independent_wrapping :
    let v : Circuit.Variant :=
      { start := { count := 0xFFFFFFFF }, report := fun high => if high then 128 else 0 }
    ∃ entries, (v.exports "absent").resolve = .ok entries ∧
      let start : Session Unit Circuit.Memory := opened ⟨[], entries⟩ () {}
      let s : Scenario := ⟨"probe", 1, 2, true, .total⟩
      let before : List (Request Timer.Script UInt64 Unit) :=
        [.passArguments ["probe"], .make, .make, .operate 0 [.edges 3],
          .operate 1 [.reset, .edges 1], .run [s] Timer.scripted {} Sink.bytewise (), .drop 0,
          .make]
      let ops₂ : List Operation := [.edges 2, .output]
      let ops₁ : List Operation := [.output, .clockLevel]
      let s₂ := (answers idleLoader before start).2
      let s₁ := (answers idleLoader (before ++ [.operate 2 ops₂]) start).2
      let calls := (answers idleLoader (before ++ [.operate 2 ops₂, .operate 1 ops₁]) start).2.calls
      (s₂.answer idleLoader (.operate 2 ops₂ : Request Timer.Script UInt64 Unit)).1 =
          .replies [.done, .word 0] ∧
        (s₁.answer idleLoader (.operate 1 ops₁ : Request Timer.Script UInt64 Unit)).1 =
          .replies [.word 1, .level true] ∧
        Faithful 0xFFFFFFFF calls ∧ ∀ c ∈ calls, c.PassesLevel := by
  intro v
  have counts : v.Counts 0xFFFFFFFF := ⟨rfl, rfl, by decide, rfl, rfl, rfl⟩
  rcases (v.exports "absent").resolve_cases with ⟨entries, resolved, provides⟩ | ⟨_, _, missing, -⟩
  case inr => cases missing
  refine ⟨entries, resolved, ?_⟩
  intro start s before ops₂ ops₁ s₂ s₁ calls
  have apart := Circuit.Variant.parsesApart provides
  obtain ⟨replies, faithful, levels⟩ := devices_independent ⟨[], entries⟩ idleLoader
    (Circuit.Variant.conforms counts provides) () {}
    (before ++ [.operate 2 ops₂, .operate 1 ops₁]) fun _ => apart
  have undropped₂ : (.drop 2, .dropped) ∉ transcript idleLoader before start :=
    not_mem_transcript (by simp [before])
  have undropped₁ : (.drop 1, .dropped) ∉
      transcript idleLoader (before ++ [.operate 2 ops₂]) start :=
    not_mem_transcript (by simp [before])
  obtain rfl := Except.ok.inj resolved
  have made₂ : (.make, .made 2) ∈ transcript idleLoader before start :=
    List.mem_of_getElem? (i := 7) rfl
  have made₁ : (.make, .made 1) ∈ transcript idleLoader (before ++ [.operate 2 ops₂]) start :=
    List.mem_of_getElem? (i := 2) rfl
  have reply₂ := replies before 2 ops₂ [.operate 1 ops₁] rfl made₂ undropped₂
  have reply₁ := replies (before ++ [.operate 2 ops₂]) 1 ops₁ [] rfl made₁ undropped₁
  have bank₂ : (CounterBank.device.performAll ops₂
      (.after 0xFFFFFFFF (ownAll 2 (transcript idleLoader before start)))).1 =
        [.done, .word 0] := by decide +kernel
  have bank₁ : (CounterBank.device.performAll ops₁
      (.after 0xFFFFFFFF
        (ownAll 1 (transcript idleLoader (before ++ [.operate 2 ops₂]) start)))).1 =
        [.word 1, .level true] := by decide +kernel
  rw [bank₂] at reply₂
  rw [bank₁] at reply₁
  exact ⟨reply₂, reply₁, faithful, levels⟩

end Session

end EdgeMeter
