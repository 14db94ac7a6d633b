import EdgeMeter.Proofs.Allowance
import EdgeMeter.Proofs.Series

/-!
# Series at sinks that split differently

Two sinks that keep one plan may cut the text of a series at different places and may be interrupted
at different times. The series goes the same way at both, and a limit shows only in where its text
ends.

* `Event.unsplitAll`: the events of a series, the text byte by byte;
* `Rig.trial_kept`: a trial at a sink that keeps a plan;
* `Rig.trial_alike`, `Rig.series_alike`: the same work at two sinks;
* `Rig.trial_limited`, `Rig.series_limited`: work at a limited sink beside one without a limit;
* **`Rig.series_of_keeps`**: the whole, from a fresh bench.
-/

namespace EdgeMeter

variable {σ δ ρ κ τ ω ω₁ ω₂ : Type}

/-! ## Events, byte by byte -/

namespace Event

/-- An event, if it is one of the sink with every byte taken by itself. -/
def unsplit : Event δ ρ τ → List (Event δ ρ τ)
  | sink e => e.unsplit.map sink
  | e => [e]

/-- **Events with the division of the text into writes forgotten.** -/
def unsplitAll (es : List (Event δ ρ τ)) : List (Event δ ρ τ) := es.flatMap unsplit

@[simp] theorem unsplitAll_append (es es' : List (Event δ ρ τ)) :
    unsplitAll (es ++ es') = unsplitAll es ++ unsplitAll es' := List.flatMap_append

theorem unsplitAll_sink (es : List Sink.Event) :
    unsplitAll (es.map .sink : List (Event δ ρ τ)) = (Sink.unsplit es).map .sink := by
  rw [unsplitAll, List.flatMap_map, Sink.unsplit, List.map_flatMap]
  rfl

theorem text_unsplitAll (es : List (Event δ ρ τ)) : text (unsplitAll es) = text es := by
  induction es with
  | nil => rfl
  | cons e es ih =>
    change text (e.unsplit ++ unsplitAll es) = e.bytes ++ text es
    rw [text_append, ih]
    cases e with
    | sink e =>
      rw [unsplit, text_sink, e.taken_unsplit]
      cases e <;> rfl
    | _ => rfl

theorem text_of_unsplitAll {s : Scenario} {dev : Device σ} {d : δ} {x : σ} {w : Window τ}
    {remains : ρ} {es : List (Event δ ρ τ)} {delivered : List Sink.Event}
    (h : unsplitAll es = unsplitAll (s.course dev d x w) ++ delivered.map .sink ++
      [.scrapped d remains]) : text es = Sink.taken delivered := by
  rw [← text_unsplitAll, h, text_append, text_append, text_unsplitAll, text_course, text_sink]
  exact List.append_nil _

end Event

/-! ## One trial -/

namespace Rig

/-- **A trial at a sink that keeps a plan** goes as the plan says. -/
theorem trial_kept (workshop : Workshop σ δ ρ) (timer : Timer κ τ) {sink : Sink ω} {p : Sink.Plan}
    {left : ω → Sink.Allowance → Prop} (keeps : sink.Keeps p left) {s : Scenario}
    {b : Bench σ δ ρ κ τ ω} {d : δ} {x : σ} {a : Sink.Allowance}
    (made : workshop.make b.floor = (.ok d, x)) (hs : left b.out a) :
    let dev := workshop.device d
    let w := timer.window b.time
    let m := s.measurement w.1
    let scrapped := workshop.scrap d (s.driven dev x)
    let delivery := p.delivery a m.printed
    ∃ out es, Rig.trial ⟨workshop, timer, sink⟩ s b =
        ((delivery.2.mapError .output).map fun _ => m,
          { floor := scrapped.2, time := w.2, out, journal := b.journal.recordAll es }) ∧
      Event.unsplitAll es = Event.unsplitAll (s.course dev d x w.1) ++
        delivery.1.map .sink ++ [.scrapped d scrapped.1] ∧
      (delivery.2 = .ok () → left out (a.after m.printed.length)) := by
  intro dev w m scrapped delivery
  obtain ⟨hdelivery, hleft⟩ := keeps.deliver_eq m.printed hs
  have hevents : Sink.unsplit _ = delivery.1 := congrArg Prod.fst hdelivery
  have hresult : _ = delivery.2 := congrArg Prod.snd hdelivery
  rw [← hresult]
  refine ⟨_, s.course dev d x w.1 ++ (sink.deliver m.printed b.out).events.map .sink ++
    [.scrapped d scrapped.1], Rig.trial_of_made _ made, ?_, hleft⟩
  rw [Event.unsplitAll_append, Event.unsplitAll_append, Event.unsplitAll_sink, hevents]
  rfl

end Rig

/-! ## The same work at two sinks -/

/-- **The same work on two benches**, from `b₁` to `b₁'` and from `b₂` to `b₂'`, up to the division
of the text. -/
structure Bench.SameWork (b₁ b₁' : Bench σ δ ρ κ τ ω₁) (b₂ b₂' : Bench σ δ ρ κ τ ω₂) : Prop where
  floor : b₁'.floor = b₂'.floor
  time : b₁'.time = b₂'.time
  journal : ∃ es₁ es₂, b₁'.journal = b₁.journal.recordAll es₁ ∧
    b₂'.journal = b₂.journal.recordAll es₂ ∧ Event.unsplitAll es₁ = Event.unsplitAll es₂

theorem Bench.SameWork.trans {b₁ b₁' b₁'' : Bench σ δ ρ κ τ ω₁} {b₂ b₂' b₂'' : Bench σ δ ρ κ τ ω₂}
    (h : SameWork b₁ b₁' b₂ b₂') (h' : SameWork b₁' b₁'' b₂' b₂'') : SameWork b₁ b₁'' b₂ b₂'' where
  floor := h'.floor
  time := h'.time
  journal := by
    obtain ⟨es₁, es₂, h₁, h₂, hes⟩ := h.journal
    obtain ⟨es₁', es₂', h₁', h₂', hes'⟩ := h'.journal
    refine ⟨es₁ ++ es₁', es₂ ++ es₂', ?_, ?_, ?_⟩
    · rw [h₁', h₁, Journal.recordAll_append]
    · rw [h₂', h₂, Journal.recordAll_append]
    · rw [Event.unsplitAll_append, Event.unsplitAll_append, hes, hes']

namespace Rig

variable (workshop : Workshop σ δ ρ) (timer : Timer κ τ) {sink₁ : Sink ω₁} {sink₂ : Sink ω₂}
  {p : Sink.Plan} {left₁ : ω₁ → Sink.Allowance → Prop} {left₂ : ω₂ → Sink.Allowance → Prop}
  {b₁ : Bench σ δ ρ κ τ ω₁} {b₂ : Bench σ δ ρ κ τ ω₂} {a : Sink.Allowance}

theorem ok_of_delivered {r : Except IoError Unit} {m m' : Measurement}
    (h : ((r.mapError Failure.output).map fun _ => m) = .ok m') : r = .ok () ∧ m = m' := by
  cases r with
  | ok => exact ⟨rfl, Except.ok.inj h⟩
  | error => cases h

theorem trial_alike (keeps₁ : sink₁.Keeps p left₁) (keeps₂ : sink₂.Keeps p left₂) (s : Scenario)
    (floor : b₁.floor = b₂.floor) (time : b₁.time = b₂.time) (h₁ : left₁ b₁.out a)
    (h₂ : left₂ b₂.out a) :
    let o₁ := Rig.trial ⟨workshop, timer, sink₁⟩ s b₁
    let o₂ := Rig.trial ⟨workshop, timer, sink₂⟩ s b₂
    o₁.1 = o₂.1 ∧ Bench.SameWork b₁ o₁.2 b₂ o₂.2 ∧
      ∀ m, o₁.1 = .ok m → ∃ a', left₁ o₁.2.out a' ∧ left₂ o₂.2.out a' := by
  obtain ⟨x₁, c₁, out₁, j₁⟩ := b₁
  obtain ⟨x₂, c₂, out₂, j₂⟩ := b₂
  obtain rfl : x₁ = x₂ := floor
  obtain rfl : c₁ = c₂ := time
  intro o₁ o₂
  rcases made : workshop.make x₁ with ⟨f | d, x⟩
  · have ho₁ : o₁ = _ := Rig.trial_of_not_made _ made
    have ho₂ : o₂ = _ := Rig.trial_of_not_made _ made
    rw [ho₁, ho₂]
    exact ⟨rfl, ⟨rfl, rfl, _, _, rfl, rfl, rfl⟩, nofun⟩
  · obtain ⟨out₁', es₁, ho₁, hes₁, hleft₁⟩ := Rig.trial_kept workshop timer keeps₁ made h₁
    obtain ⟨out₂', es₂, ho₂, hes₂, hleft₂⟩ := Rig.trial_kept workshop timer keeps₂ made h₂
    change o₁ = _ at ho₁
    change o₂ = _ at ho₂
    rw [ho₁, ho₂]
    refine ⟨rfl, ⟨rfl, rfl, es₁, es₂, rfl, rfl, hes₁.trans hes₂.symm⟩, fun m hm => ?_⟩
    have hdelivered := (ok_of_delivered hm).1
    exact ⟨_, hleft₁ hdelivered, hleft₂ hdelivered⟩

/-- **A series is the same** at two sinks that keep one plan. -/
theorem series_alike (keeps₁ : sink₁.Keeps p left₁) (keeps₂ : sink₂.Keeps p left₂)
    (scenarios : List Scenario) (floor : b₁.floor = b₂.floor) (time : b₁.time = b₂.time)
    (h₁ : left₁ b₁.out a) (h₂ : left₂ b₂.out a) :
    let o₁ := Rig.series ⟨workshop, timer, sink₁⟩ scenarios b₁
    let o₂ := Rig.series ⟨workshop, timer, sink₂⟩ scenarios b₂
    o₁.1 = o₂.1 ∧ Bench.SameWork b₁ o₁.2 b₂ o₂.2 := by
  induction scenarios generalizing b₁ b₂ a with
  | nil =>
    simp only [Rig.series_nil]
    exact ⟨trivial, floor, time, [], [], rfl, rfl, rfl⟩
  | cons s rest ih =>
    obtain ⟨hresult, work, hleft⟩ := trial_alike workshop timer keeps₁ keeps₂ s floor time h₁ h₂
    rcases ht₁ : Rig.trial ⟨workshop, timer, sink₁⟩ s b₁ with ⟨r, b₁'⟩
    rcases ht₂ : Rig.trial ⟨workshop, timer, sink₂⟩ s b₂ with ⟨r', b₂'⟩
    rw [ht₁, ht₂] at hresult work hleft
    obtain rfl : r = r' := hresult
    cases r with
    | error f =>
      rw [series_cons_of_error _ ht₁, series_cons_of_error _ ht₂]
      exact ⟨rfl, work⟩
    | ok m =>
      obtain ⟨a', h₁', h₂'⟩ := hleft m rfl
      obtain ⟨hrest, others⟩ := ih work.floor work.time h₁' h₂'
      rw [series_cons_of_ok _ ht₁, series_cons_of_ok _ ht₂]
      exact ⟨congrArg (Except.map (m :: ·)) hrest, work.trans others⟩

/-! ## Beside a sink without a limit -/

theorem trial_limited (keeps₁ : sink₁.Keeps p left₁) (keeps₂ : sink₂.Keeps p left₂) {s : Scenario}
    (floor : b₁.floor = b₂.floor) (time : b₁.time = b₂.time) {L : Nat} (room : a.room = some L)
    (h₁ : left₁ b₁.out a) (h₂ : left₂ b₂.out { a with room := none }) {m : Measurement}
    {b₂' : Bench σ δ ρ κ τ ω₂}
    (unlimited : Rig.trial ⟨workshop, timer, sink₂⟩ s b₂ = (.ok m, b₂')) :
    ∃ r b₁' es, Rig.trial ⟨workshop, timer, sink₁⟩ s b₁ = (r, b₁') ∧
      b₁'.journal = b₁.journal.recordAll es ∧ Event.text es = m.printed.take L ∧
      if m.printed.length ≤ L then
        r = .ok m ∧ b₁'.floor = b₂'.floor ∧ b₁'.time = b₂'.time ∧
          left₁ b₁'.out (a.after m.printed.length) ∧
          left₂ b₂'.out { a.after m.printed.length with room := none }
      else r = .error (.output p.error) := by
  obtain ⟨x₁, c₁, out₁, j₁⟩ := b₁
  obtain ⟨x₂, c₂, out₂, j₂⟩ := b₂
  obtain rfl : x₁ = x₂ := floor
  obtain rfl : c₁ = c₂ := time
  rcases made : workshop.make x₁ with ⟨f | d, x⟩
  · rw [Rig.trial_of_not_made _ made] at unlimited
    cases unlimited
  · obtain ⟨out₁', es₁, ho₁, hes₁, hleft₁⟩ := Rig.trial_kept workshop timer keeps₁ made h₁
    obtain ⟨out₂', es₂, ho₂, hes₂, hleft₂⟩ := Rig.trial_kept workshop timer keeps₂ made h₂
    rw [ho₂] at unlimited
    obtain ⟨hm, rfl⟩ := Prod.mk.inj unlimited
    obtain ⟨hdelivered, rfl⟩ := ok_of_delivered hm
    obtain ⟨htaken, hresult⟩ := Sink.Plan.delivery_limited room hdelivered
    refine ⟨_, _, es₁, ho₁, rfl, ?_, ?_⟩
    · rw [Event.text_of_unsplitAll hes₁, htaken]
    · rw [hresult] at hleft₁ ⊢
      split
      · next hfits =>
        rw [if_pos hfits] at hleft₁
        exact ⟨rfl, rfl, rfl, hleft₁ rfl, hleft₂ hdelivered⟩
      · rfl

/-- **A series at a limited sink**, beside one that ends well without a limit: its text is cut
there, and it fails if anything is cut off. -/
theorem series_limited (keeps₁ : sink₁.Keeps p left₁) (keeps₂ : sink₂.Keeps p left₂)
    {scenarios : List Scenario} (floor : b₁.floor = b₂.floor) (time : b₁.time = b₂.time) {L : Nat}
    (room : a.room = some L) (h₁ : left₁ b₁.out a) (h₂ : left₂ b₂.out { a with room := none })
    {ms : List Measurement} {b₂' : Bench σ δ ρ κ τ ω₂}
    (unlimited : Rig.series ⟨workshop, timer, sink₂⟩ scenarios b₂ = (.ok ms, b₂')) :
    (Rig.series ⟨workshop, timer, sink₁⟩ scenarios b₁).1 =
        (if (ms.flatMap Measurement.printed).length ≤ L then .ok ms
          else .error (.output p.error)) ∧
      ∃ es, (Rig.series ⟨workshop, timer, sink₁⟩ scenarios b₁).2.journal =
          b₁.journal.recordAll es ∧
        Event.text es = (ms.flatMap Measurement.printed).take L := by
  induction scenarios generalizing b₁ b₂ a L ms with
  | nil =>
    rw [series_nil] at unlimited ⊢
    obtain ⟨hms, rfl⟩ := Prod.mk.inj unlimited
    obtain rfl := Except.ok.inj hms
    exact ⟨rfl, [], rfl, List.take_nil.symm⟩
  | cons s rest ih =>
    rcases ht₂ : Rig.trial ⟨workshop, timer, sink₂⟩ s b₂ with ⟨f | m, b⟩
    · rw [series_cons_of_error _ ht₂] at unlimited
      cases unlimited
    rw [series_cons_of_ok _ ht₂] at unlimited
    rcases hr : Rig.series ⟨workshop, timer, sink₂⟩ rest b with ⟨f | ms', b'⟩
    · rw [hr] at unlimited
      cases unlimited
    rw [hr] at unlimited
    obtain ⟨hms, rfl⟩ := Prod.mk.inj unlimited
    obtain rfl := Except.ok.inj hms
    obtain ⟨r, b₁', es, ht₁, hes, htext, hend⟩ :=
      trial_limited workshop timer keeps₁ keeps₂ floor time room h₁ h₂ ht₂
    rw [List.flatMap_cons, List.length_append]
    split at hend
    · next hfits =>
      obtain ⟨rfl, floor', time', h₁', h₂'⟩ := hend
      have room' : (a.after m.printed.length).room = some (L - m.printed.length) := by
        rw [Sink.Allowance.after, Sink.Allowance.spend, room, Option.map_some]
      obtain ⟨hresult, es', hes', htext'⟩ := ih floor' time' room' h₁' h₂' hr
      rw [series_cons_of_ok _ ht₁, hresult]
      refine ⟨?_, es ++ es', ?_, ?_⟩
      · by_cases hrest : (ms'.flatMap Measurement.printed).length ≤ L - m.printed.length
        · rw [if_pos hrest, if_pos (by omega)]
          rfl
        · rw [if_neg hrest, if_neg (by omega)]
          rfl
      · rw [hes', hes, Journal.recordAll_append]
      · rw [Event.text_append, htext, htext', List.take_append]
    · next hfits =>
      obtain rfl := hend
      rw [series_cons_of_error _ ht₁, if_neg (by omega)]
      refine ⟨rfl, es, hes, ?_⟩
      rw [htext, List.take_append_of_le_length (by omega)]

theorem exists_series_ok {sink : Sink ω} {left : ω → Sink.Allowance → Prop}
    (keeps : sink.Keeps p left) (makes : ∀ x, ∃ d, (workshop.make x).1 = .ok d)
    (flushes : ∀ n, p.flush n = .ok ()) (scenarios : List Scenario) {b : Bench σ δ ρ κ τ ω}
    (room : a.room = none) (h : left b.out a) :
    ∃ ms b', Rig.series ⟨workshop, timer, sink⟩ scenarios b = (.ok ms, b') := by
  induction scenarios generalizing b a with
  | nil => exact ⟨[], b, series_nil _ b⟩
  | cons s rest ih =>
    obtain ⟨d, hd⟩ := makes b.floor
    have made : workshop.make b.floor = (.ok d, (workshop.make b.floor).2) := Prod.ext hd rfl
    obtain ⟨out, es, ht, -, hleft⟩ := trial_kept workshop timer keeps made h
    have hdelivered :
        (p.delivery a (s.measurement (timer.window b.time).1).printed).2 = .ok () := by
      rw [Sink.Plan.result_delivery, if_pos (by rw [Sink.Allowance.takes, room]), flushes]
    have room' : (a.after (s.measurement (timer.window b.time).1).printed.length).room = none := by
      rw [Sink.Allowance.after, Sink.Allowance.spend, room, Option.map_none]
    rw [hdelivered] at ht
    obtain ⟨ms, b', hr⟩ := ih (b := ⟨_, _, out, _⟩) room' (hleft hdelivered)
    rw [series_cons_of_ok _ ht, hr]
    exact ⟨_, b', rfl⟩

/-! ## From a fresh bench -/

/-- **A series does not depend on how its sink splits the text**; at a limit the text is cut, and
the series fails just if it is longer. -/
theorem series_of_keeps (keeps₁ : sink₁.Keeps p left₁) (keeps₂ : sink₂.Keeps p left₂)
    (scenarios : List Scenario) (floor : σ) (time : κ) (out₁ : ω₁) (out₂ : ω₂)
    (start₁ : left₁ out₁ a) :
    let (result₁, b₁) :=
      Rig.series ⟨workshop, timer, sink₁⟩ scenarios { floor, time, out := out₁ }
    let (result₂, b₂) :=
      Rig.series ⟨workshop, timer, sink₂⟩ scenarios { floor, time, out := out₂ }
    (left₂ out₂ a → result₁ = result₂ ∧ Event.text b₁.events = Event.text b₂.events ∧
      Event.unsplitAll b₁.events = Event.unsplitAll b₂.events ∧
      b₁.floor = b₂.floor ∧ b₁.time = b₂.time) ∧
    (left₂ out₂ { a with room := none } → ∀ ms, result₂ = .ok ms → ∀ L, a.room = some L →
      let full := Event.text b₂.events
      result₁ = (if full.length ≤ L then .ok ms else .error (.output p.error)) ∧
        Event.text b₁.events = full.take L) ∧
    ((∀ x, ∃ d, (workshop.make x).1 = .ok d) → (∀ n, p.flush n = .ok ()) →
      let ms := timer.results scenarios time
      let full := ms.flatMap Measurement.printed
      (a.room = none → result₁ = .ok ms ∧ Event.text b₁.events = full) ∧
      ∀ L, a.room = some L →
        result₁ = (if full.length ≤ L then .ok ms else .error (.output p.error)) ∧
          Event.text b₁.events = full.take L) := by
  let b₁ : Bench σ δ ρ κ τ ω₁ := { floor, time, out := out₁ }
  let b₂ : Bench σ δ ρ κ τ ω₂ := { floor, time, out := out₂ }
  have h₁ : left₁ b₁.out a := start₁
  have floor_eq : b₁.floor = b₂.floor := rfl
  have time_eq : b₁.time = b₂.time := rfl
  refine ⟨fun h₂ => ?_, fun h₂ ms unlimited L room => ?_, fun makes flushes => ⟨?_, ?_⟩⟩
  · obtain ⟨hresult, work⟩ :=
      series_alike workshop timer keeps₁ keeps₂ scenarios floor_eq time_eq h₁ h₂
    obtain ⟨es₁, es₂, hes₁, hes₂, hes⟩ := work.journal
    rw [← Bench.events_of_fresh rfl hes₁, ← Bench.events_of_fresh rfl hes₂] at hes
    refine ⟨hresult, ?_, hes, work.floor, work.time⟩
    rw [← Event.text_unsplitAll, hes, Event.text_unsplitAll]
  · have hok : Rig.series ⟨workshop, timer, sink₂⟩ scenarios b₂ = (.ok ms, _) :=
      Prod.ext unlimited rfl
    obtain ⟨hresult, es₁, hes₁, htext⟩ :=
      series_limited workshop timer keeps₁ keeps₂ floor_eq time_eq room h₁ h₂ hok
    obtain ⟨-, es₂, hes₂, completed⟩ := Rig.series_ok _ hok
    rw [Bench.events_of_fresh rfl hes₁, Bench.events_of_fresh rfl hes₂, completed.text]
    exact ⟨hresult, htext⟩
  · intro room
    obtain ⟨ms, b', hok⟩ := exists_series_ok workshop timer keeps₁ makes flushes scenarios room h₁
    obtain ⟨-, es, hes, completed⟩ := Rig.series_ok _ hok
    change Rig.series ⟨workshop, timer, sink₁⟩ scenarios { floor, time, out := out₁ } = _ at hok
    rw [hok, Bench.events_of_fresh rfl hes, completed.text, completed.results]
    exact ⟨rfl, rfl⟩
  · intro L room
    -- the series that is not cut off, at a sink for the same plan that has room for everything
    let b₃ : Bench σ δ ρ κ τ Nat := { floor, time, out := a.flushes }
    obtain ⟨ms, b', hok⟩ := exists_series_ok workshop timer p.keeps_roomy makes flushes scenarios
      (a := { a with room := none }) (b := b₃) rfl rfl
    obtain ⟨-, _, -, completed⟩ := Rig.series_ok _ hok
    have floor_eq : b₁.floor = b₃.floor := rfl
    have time_eq : b₁.time = b₃.time := rfl
    obtain ⟨hresult, es, hes, htext⟩ :=
      series_limited workshop timer keeps₁ p.keeps_roomy floor_eq time_eq room h₁ rfl hok
    rw [Bench.events_of_fresh rfl hes, ← completed.results]
    exact ⟨hresult, htext⟩

/-- Two sinks with room for 21 bytes, the last of them inside a character. One takes pieces of words
and is interrupted before each write. -/
theorem series_of_keeps_inside_character :
    let workshop := CounterBank.workshop 1
    let words := Sink.scripted.offering (·.findIdx (· == 32))
    let scenarios : List Scenario := [⟨"µ", 0, 1, false, .total⟩, ⟨"µ", 1, 2, true, .total⟩]
    let script : Sink.Script := { limit := some 21, fault := .takesNothing }
    let broken : Sink.Script := { script with chunk := some 3 }
    let endless : Sink.Script := { script with limit := none }
    let time : Timer.Script := {}
    let floor : CounterBank := .new 0
    let run₁ := Rig.series ⟨workshop, Timer.scripted, words.interrupting 2⟩ scenarios
      { floor, time, out := (broken, 1) }
    let run₂ := Rig.series ⟨workshop, Timer.scripted, Sink.scripted⟩ scenarios
      { floor, time, out := script }
    let run₃ := Rig.series ⟨workshop, Timer.scripted, Sink.scripted⟩ scenarios
      { floor, time, out := endless }
    let full := Event.text run₃.2.events
    script.plan.error = .wroteNothing ∧ full.length = 28 ∧
      run₁.1 = run₂.1 ∧ Event.text run₁.2.events = Event.text run₂.2.events ∧
      Event.unsplitAll run₁.2.events = Event.unsplitAll run₂.2.events ∧
      run₁.1 = .error (.output .wroteNothing) ∧ Event.text run₁.2.events = full.take 21 := by
  intro workshop words scenarios script broken endless time floor run₁ run₂ run₃ full
  have keeps₂ := Sink.Script.keeps script.plan
  have keeps₁ := (keeps₂.offering (·.findIdx (· == 32))).interrupting 2
  have start₁ : broken.chunk ≠ some 0 ∧ broken.plan = script.plan ∧
      broken.allowance = ⟨some 21, 0⟩ := ⟨by decide, rfl, rfl⟩
  have start₂ : script.chunk ≠ some 0 ∧ script.plan = script.plan ∧
      script.allowance = ⟨some 21, 0⟩ := ⟨by decide, rfl, rfl⟩
  have start₃ : endless.chunk ≠ some 0 ∧ endless.plan = script.plan ∧
      endless.allowance = ⟨none, 0⟩ := ⟨by decide, rfl, rfl⟩
  obtain ⟨alike, -, -⟩ := series_of_keeps workshop Timer.scripted keeps₁ keeps₂ scenarios floor time
    (broken, 1) script start₁
  obtain ⟨-, limited, -⟩ := series_of_keeps workshop Timer.scripted keeps₁ keeps₂ scenarios floor
    time (broken, 1) endless start₁
  obtain ⟨-, -, free⟩ := series_of_keeps workshop Timer.scripted keeps₂ keeps₂ scenarios floor time
    endless endless start₃
  obtain ⟨hresult, htext, hevents, -, -⟩ := alike start₂
  obtain ⟨hok, hfull⟩ := (free (fun _ => ⟨(), rfl⟩) fun _ => rfl).1 rfl
  obtain ⟨herror, htake⟩ := limited start₃ _ hok 21 rfl
  have hlength : full.length = 28 := by
    rw [show full = _ from hfull]
    decide +kernel
  have hlong : ¬ full.length ≤ 21 := by omega
  exact ⟨rfl, hlength, hresult, htext, hevents, herror.trans (if_neg hlong), htake⟩

end Rig

end EdgeMeter
