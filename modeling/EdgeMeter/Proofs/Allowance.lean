import EdgeMeter.Proofs.Delivery

/-!
# What a sink allows

A sink may cut the bytes of a line as it likes, and it may be interrupted now and then. Apart from
that it keeps a plan: how many bytes it takes in all, how it refuses the next one, and which of its
flushes fail. The plan alone settles how a delivery goes, seen byte by byte.

* `Sink.Plan`, `Sink.Allowance`: a plan, and what is left of it;
* `Sink.Keeps`: a sink keeps a plan, however it cuts and is interrupted;
* `Sink.unsplit`: what a sink did, with the division into writes forgotten;
* **`Sink.Keeps.deliver_eq`**: a delivery goes as the plan says, `Sink.Plan.delivery`;
* `Sink.Script.keeps`, `Sink.Keeps.offering`, `Sink.Keeps.interrupting`: scripted sinks keep a plan,
  and so does a sink that is offered bytes in pieces, or interrupted again and again;
* `Sink.Plan.keeps_roomy`: a sink for any plan without a limit.
-/

namespace EdgeMeter.Sink

/-! ## Plans -/

/-- **The plan of a sink**: the error with which it refuses a byte too many, none if it just takes
nothing then, and the answers to its flushes, numbered from zero. -/
structure Plan where
  refusal : Option IoError
  flush : Nat → Except IoError Unit

/-- The error of bytes that find no room. -/
def Plan.error (p : Plan) : IoError := p.refusal.getD .wroteNothing

/-- What is left of a plan: the room for bytes, if it is limited, and the number of the next
flush. -/
structure Allowance where
  room : Option Nat
  flushes : Nat

namespace Allowance

variable (a : Allowance)

/-- How many of `n` bytes find room. -/
def takes (n : Nat) : Nat :=
  match a.room with
  | none => n
  | some k => min n k

/-- The allowance after `n` bytes. -/
def spend (n : Nat) : Allowance := { a with room := a.room.map (· - n) }

/-- The allowance after `n` bytes and a flush. -/
def after (n : Nat) : Allowance := { a.spend n with flushes := a.flushes + 1 }

theorem takes_le (n : Nat) : a.takes n ≤ n := by
  unfold takes
  split
  · exact Nat.le_refl n
  · exact Nat.min_le_left n _

theorem takes_mono {m n : Nat} (h : m ≤ n) : a.takes m ≤ a.takes n := by
  unfold takes
  split
  · exact h
  · exact Nat.le_min_of_le_of_le (Nat.le_trans (Nat.min_le_left m _) h) (Nat.min_le_right m _)

theorem takes_eq_zero {m : Nat} (hm : m ≠ 0) (h : a.takes m = 0) (n : Nat) : a.takes n = 0 := by
  unfold takes at h ⊢
  split at h
  · exact absurd h hm
  · obtain h | rfl := Nat.min_eq_zero_iff.mp h
    · exact absurd h hm
    · exact Nat.min_zero n

theorem takes_spend (m n : Nat) : (a.spend m).takes (n - m) = a.takes n - m := by
  obtain ⟨room, flushes⟩ := a
  cases room with
  | none => rfl
  | some k => exact (Nat.sub_min_sub_right n k m)

theorem spend_spend (m n : Nat) : (a.spend m).spend n = a.spend (m + n) := by
  obtain ⟨room, flushes⟩ := a
  cases room with
  | none => rfl
  | some k => simp only [spend, Option.map_some, Nat.sub_sub]

end Allowance

/-! ## Keeping a plan -/

variable {ω : Type}

/-- **An answer to an offer of `n` bytes that keeps the plan**: some are taken for which there is
room, or none for now, or there is no room. `left` tells the states in which an allowance is
left. -/
inductive Plan.Answer (p : Plan) (left : ω → Allowance → Prop) (n : Nat) (a : Allowance) :
    Uptake × ω → Prop where
  | took {m : Nat} {s : ω} (room : m + 1 ≤ a.takes n) (rest : left s (a.spend (m + 1))) :
    Answer p left n a (.took (m + 1), s)
  | interrupted {s : ω} (rest : left s a) : Answer p left n a (.interrupted, s)
  | refused {e : IoError} (s : ω) (full : a.takes n = 0) (refusal : p.refusal = some e) :
    Answer p left n a (.refused e, s)
  | tookNone (s : ω) (full : a.takes n = 0) (refusal : p.refusal = none) :
    Answer p left n a (.took 0, s)

/-- **A sink keeps a plan.** What it does after a failure does not matter. -/
structure Keeps (sink : Sink ω) (p : Plan) (left : ω → Allowance → Prop) : Prop where
  write : ∀ {bs s a}, bs ≠ [] → left s a → p.Answer left bs.length a (sink.write bs s)
  flush : ∀ {s a}, left s a → (sink.flush s).1 = p.flush a.flushes
  flushed : ∀ {s a}, left s a → p.flush a.flushes = .ok () →
    left (sink.flush s).2 { a with flushes := a.flushes + 1 }

/-! ## Events, byte by byte -/

/-- Bytes that are taken one at a time. -/
def byByte (bs : Bytes) : List Event := bs.map fun b => .wrote [b]

/-- An event with every byte taken by itself. Interruptions leave nothing. -/
def Event.unsplit : Event → List Event
  | .wrote bs => byByte bs
  | .interrupted => []
  | e => [e]

/-- **Events with the division into writes forgotten.** -/
def unsplit (es : List Event) : List Event := es.flatMap Event.unsplit

@[simp] theorem byByte_append (bs bs' : Bytes) : byByte (bs ++ bs') = byByte bs ++ byByte bs' :=
  List.map_append

@[simp] theorem unsplit_cons (e : Event) (es : List Event) :
    unsplit (e :: es) = e.unsplit ++ unsplit es := List.flatMap_cons

@[simp] theorem unsplit_append (es es' : List Event) :
    unsplit (es ++ es') = unsplit es ++ unsplit es' := List.flatMap_append

theorem taken_byByte (bs : Bytes) : taken (byByte bs) = bs := by
  rw [taken, byByte, List.flatMap_map]
  exact List.flatMap_singleton' bs

theorem Event.taken_unsplit (e : Event) : Sink.taken e.unsplit = e.taken := by
  cases e with
  | wrote bs => exact taken_byByte bs
  | _ => rfl

/-! ## Writing -/

/-- **How an offer of bytes goes by a plan**: all find room, or those are taken that do. -/
inductive Plan.Written (p : Plan) (left : ω → Allowance → Prop) (a : Allowance) (bs : Bytes) :
    Outcome ω → Prop where
  | all {es : List Event} {s : ω} (room : a.takes bs.length = bs.length)
    (seen : unsplit es = byByte bs) (rest : left s (a.spend bs.length)) :
    Written p left a bs ⟨es, .ok (), s⟩
  | part {es : List Event} {s : ω} (short : a.takes bs.length < bs.length)
    (seen : unsplit es = byByte (bs.take (a.takes bs.length)) ++ [.writeFailed p.error]) :
    Written p left a bs ⟨es, .error p.error, s⟩

variable {p : Plan} {left : ω → Allowance → Prop} {a : Allowance} {bs : Bytes}

theorem Plan.Written.wrote {m : Nat} {o : Outcome ω} (room : m ≤ a.takes bs.length)
    (h : p.Written left (a.spend m) (bs.drop m) o) :
    p.Written left a bs (o.after (.wrote (bs.take m))) := by
  have hm : m ≤ bs.length := Nat.le_trans room (a.takes_le _)
  have htakes : (a.spend m).takes (bs.drop m).length = a.takes bs.length - m := by
    rw [List.length_drop, Allowance.takes_spend]
  have hlength : (bs.drop m).length = bs.length - m := List.length_drop
  cases h with
  | @all es s room' seen rest =>
    refine .all (by omega) ?_ ?_
    · rw [unsplit_cons, seen, Event.unsplit, ← byByte_append, List.take_append_drop]
    · rwa [Allowance.spend_spend, hlength, Nat.add_sub_cancel' hm] at rest
  | @part es s short seen =>
    refine .part (by omega) ?_
    rw [unsplit_cons, seen, htakes, Event.unsplit, ← List.append_assoc, ← byByte_append,
      ← List.take_add, Nat.add_sub_cancel' room]

theorem Plan.Written.interrupted {o : Outcome ω} (h : p.Written left a bs o) :
    p.Written left a bs (o.after .interrupted) := by
  cases h with
  | all room seen rest => exact .all room seen rest
  | part short seen => exact .part short seen

theorem Plan.Written.none (s : ω) (hne : bs ≠ []) (full : a.takes bs.length = 0) :
    p.Written left a bs ⟨[.writeFailed p.error], .error p.error, s⟩ := by
  refine .part ?_ ?_
  · rw [full]
    exact List.length_pos_iff.mpr hne
  · rw [full]
    rfl

variable {sink : Sink ω}

theorem Keeps.answer (h : sink.Keeps p left) {s s' : ω} {u : Uptake} (hne : bs ≠ [])
    (hs : left s a) (hw : sink.write bs s = (u, s')) : p.Answer left bs.length a (u, s') :=
  hw ▸ h.write hne hs

theorem Keeps.written_writeAll (h : sink.Keeps p left) {s : ω} (hs : left s a) :
    p.Written left a bs (sink.writeAll bs s) := by
  fun_induction sink.writeAll bs s generalizing a with
  | case1 s =>
    refine .all (Nat.le_zero.mp (a.takes_le 0)) rfl ?_
    obtain ⟨_ | _, _⟩ := a <;> exact hs
  | case2 bs s hne s' hw =>
    cases h.answer hne hs hw with
    | tookNone _ full refusal =>
      have herror : p.error = .wroteNothing := by rw [Plan.error, refusal, Option.getD_none]
      exact herror ▸ .none s' hne full
  | case3 bs s hne n s' hw ih =>
    cases h.answer hne hs hw with
    | took room rest => exact .wrote room (ih rest)
  | case4 bs s hne s' hw ih =>
    cases h.answer hne hs hw with
    | interrupted rest => exact .interrupted (ih rest)
  | case5 bs s hne e s' hw =>
    cases h.answer hne hs hw with
    | refused _ full refusal =>
      have herror : p.error = e := by rw [Plan.error, refusal, Option.getD_some]
      exact herror ▸ .none s' hne full

/-! ## Writing and flushing -/

/-- The event of a flush with a given answer. -/
def Event.ofFlush : Except IoError Unit → Event
  | .ok () => .flushed
  | .error e => .flushFailed e

/-- **How a delivery of bytes goes by a plan**: what is seen of it byte by byte, and the result. -/
def Plan.delivery (p : Plan) (a : Allowance) (bs : Bytes) : List Event × Except IoError Unit :=
  if a.takes bs.length = bs.length then
    (byByte bs ++ [.ofFlush (p.flush a.flushes)], p.flush a.flushes)
  else
    (byByte (bs.take (a.takes bs.length)) ++ [.writeFailed p.error], .error p.error)

theorem Plan.result_delivery (p : Plan) (a : Allowance) (bs : Bytes) :
    (p.delivery a bs).2 =
      if a.takes bs.length = bs.length then p.flush a.flushes else .error p.error := by
  unfold delivery
  split <;> rfl

theorem Plan.taken_delivery (p : Plan) (a : Allowance) (bs : Bytes) :
    taken (p.delivery a bs).1 = bs.take (a.takes bs.length) := by
  have taken_ofFlush : ∀ r, taken [.ofFlush r] = [] := by
    rintro (e | _) <;> rfl
  unfold delivery
  split
  · next h => rw [taken_append, taken_byByte, taken_ofFlush, List.append_nil, h, List.take_length]
  · rw [taken_append, taken_byByte]
    exact List.append_nil _

/-- **A delivery with room for `L` bytes**, if only room can be wanting: the bytes that find room
are taken, and it ends well if that is all of them. -/
theorem Plan.delivery_limited {p : Plan} {a : Allowance} {L : Nat} (room : a.room = some L)
    {bs : Bytes} (unlimited : (p.delivery { a with room := none } bs).2 = .ok ()) :
    taken (p.delivery a bs).1 = bs.take L ∧
      (p.delivery a bs).2 = if bs.length ≤ L then .ok () else .error p.error := by
  have htakes : a.takes bs.length = min bs.length L := by rw [Allowance.takes, room]
  have hflush : p.flush a.flushes = .ok () := by
    have hroom : ({ a with room := none } : Allowance).takes bs.length = bs.length := rfl
    rwa [Plan.result_delivery, if_pos hroom] at unlimited
  rw [Plan.taken_delivery, Plan.result_delivery, htakes, hflush]
  refine ⟨by rw [Nat.min_comm, ← List.take_eq_take_min], ?_⟩
  by_cases h : bs.length ≤ L
  · rw [if_pos (Nat.min_eq_left h), if_pos h]
  · rw [if_neg (by omega), if_neg h]

/-- **A delivery goes as the plan says.** -/
theorem Keeps.deliver_eq (h : sink.Keeps p left) (bs : Bytes) {s : ω} (hs : left s a) :
    let o := sink.deliver bs s
    (unsplit o.events, o.result) = p.delivery a bs ∧
      (o.result = .ok () → left o.state (a.after bs.length)) := by
  have written : p.Written left a bs _ := h.written_writeAll hs
  unfold deliver
  generalize sink.writeAll bs s = o at written ⊢
  cases written with
  | @all es s' room seen rest =>
    have answer : (sink.flush s').1 = p.flush a.flushes := h.flush (a := a.spend bs.length) rest
    rw [Plan.delivery, if_pos room, ← answer]
    simp only [flushOnce]
    split
    · next s₂ hf =>
      rw [hf] at answer ⊢
      have hrest := h.flushed rest answer.symm
      rw [hf] at hrest
      refine ⟨?_, fun _ => hrest⟩
      rw [unsplit_append, seen]
      rfl
    · next e s₂ hf =>
      rw [hf]
      refine ⟨?_, fun h => by cases h⟩
      rw [unsplit_append, seen]
      rfl
  | part short seen =>
    rw [Plan.delivery, if_neg (Nat.ne_of_lt short), ← seen]
    exact ⟨rfl, fun h => by cases h⟩

/-! ## Sinks that keep a plan -/

namespace Script

/-- What a script plans. An interruption refuses nothing. -/
def plan (s : Script) : Plan where
  refusal :=
    match s.fault with
    | .fails e => some e
    | _ => none
  flush n := if s.failingFlush = some (n + 1) then .error s.fault.error else .ok ()

/-- What is left of the plan. There is no limit if all that comes is an interruption. -/
def allowance (s : Script) : Allowance where
  room := if s.fault = .interrupts then none else s.limit
  flushes := s.flushes

theorem write_of_room (bs : Bytes) {s : Script} (room : s.limit ≠ some 0) :
    let n := min (s.chunk.getD bs.length) (min (s.limit.getD bs.length) bs.length)
    s.write bs = (.took n, { s with limit := s.limit.map (· - n) }) := by
  unfold write
  split <;> simp_all

theorem allowance_spend (s : Script) (n : Nat) :
    ({ s with limit := s.limit.map (· - n) } : Script).allowance = s.allowance.spend n := by
  unfold allowance Allowance.spend
  split <;> rfl

theorem le_takes_allowance (s : Script) (n : Nat) :
    min (s.chunk.getD n) (min (s.limit.getD n) n) ≤ s.allowance.takes n := by
  obtain ⟨chunk, _ | k, fault, failingFlush, flushes⟩ := s
  all_goals simp only [Allowance.takes, allowance, Option.getD_none, Option.getD_some]
  all_goals split <;> grind

/-- **A scripted sink keeps its plan**, unless it is to take no bytes at once. -/
theorem keeps (p : Plan) :
    scripted.Keeps p fun s a => s.chunk ≠ some 0 ∧ s.plan = p ∧ s.allowance = a where
  write := by
    rintro bs s a hne ⟨hchunk, rfl, rfl⟩
    by_cases hlimit : s.limit = some 0
    · have hfull : s.fault ≠ .interrupts → s.allowance.takes bs.length = 0 := by
        intro hfault
        simp only [Allowance.takes, allowance, if_neg hfault, hlimit, Nat.min_zero]
      obtain ⟨chunk, limit, fault, failingFlush, flushes⟩ := s
      obtain rfl : limit = some 0 := hlimit
      cases fault with
      | takesNothing => exact .tookNone _ (hfull nofun) rfl
      | interrupts => exact .interrupted ⟨hchunk, rfl, rfl⟩
      | fails e => exact .refused _ (hfull nofun) rfl
    · have hpos {o : Option Nat} (ho : o ≠ some 0) : 0 < o.getD bs.length := by
        cases o with
        | none => exact List.length_pos_iff.mpr hne
        | some k => exact Nat.pos_of_ne_zero fun hk => ho (hk ▸ rfl)
      have hchunk' := hpos hchunk
      have hlimit' := hpos hlimit
      change s.plan.Answer _ bs.length s.allowance (s.write bs)
      rw [write_of_room bs hlimit]
      generalize hn : min (s.chunk.getD bs.length) (min (s.limit.getD bs.length) bs.length) = n
      cases n with
      | zero =>
        have := List.length_pos_iff.mpr hne
        omega
      | succ m =>
        refine .took (hn ▸ s.le_takes_allowance bs.length) ⟨hchunk, rfl, s.allowance_spend (m + 1)⟩
  flush := by
    rintro s a ⟨-, rfl, rfl⟩
    rfl
  flushed := by
    rintro s a ⟨hchunk, rfl, rfl⟩ -
    exact ⟨hchunk, rfl, rfl⟩

end Script

/-- A sink with room for everything. Its state is the number of the next flush. -/
def Plan.roomy (p : Plan) : Sink Nat where
  write bs n := (.took bs.length, n)
  flush n := (p.flush n, n + 1)
  patience _ := 0
  patience_lt := nofun

theorem Plan.keeps_roomy (p : Plan) : p.roomy.Keeps p fun n a => a = ⟨none, n⟩ where
  write := by
    rintro bs n a hne rfl
    obtain ⟨b, bs, rfl⟩ := List.exists_cons_of_ne_nil hne
    exact .took (Nat.le_refl _) rfl
  flush := by
    rintro n a rfl
    rfl
  flushed := by
    rintro n a rfl -
    rfl

/-- A sink that is offered only a piece at a time, one byte and as many more as `cut` says. -/
def offering (cut : Bytes → Nat) (sink : Sink ω) : Sink ω where
  write bs s := sink.write (bs.take (cut bs + 1)) s
  flush := sink.flush
  patience := sink.patience
  patience_lt bs := sink.patience_lt (bs.take (cut bs + 1))

theorem Keeps.offering (h : sink.Keeps p left) (cut : Bytes → Nat) :
    (sink.offering cut).Keeps p left where
  write := by
    intro bs s a hne hs
    have hpiece : bs.take (cut bs + 1) ≠ [] := by simpa using hne
    have hle : (bs.take (cut bs + 1)).length ≤ bs.length := List.length_take_le' _ _
    have hpos : (bs.take (cut bs + 1)).length ≠ 0 := by simpa using hne
    have answer := h.write hpiece hs
    change p.Answer left bs.length a (sink.write (bs.take (cut bs + 1)) s)
    generalize sink.write (bs.take (cut bs + 1)) s = out at answer
    cases answer with
    | took room rest => exact .took (Nat.le_trans room (a.takes_mono hle)) rest
    | interrupted rest => exact .interrupted rest
    | refused s' full refusal => exact .refused s' (a.takes_eq_zero hpos full _) refusal
    | tookNone s' full refusal => exact .tookNone s' (a.takes_eq_zero hpos full _) refusal
  flush := h.flush
  flushed := h.flushed

/-- A sink that is interrupted so many times before each write; the state counts down. -/
def interrupting (k : Nat) (sink : Sink ω) : Sink (ω × Nat) where
  write bs
    | (s, n + 1) => (.interrupted, (s, n))
    | (s, 0) => ((sink.write bs s).1, ((sink.write bs s).2, k))
  flush s := ((sink.flush s.1).1, ((sink.flush s.1).2, s.2))
  patience s := sink.patience s.1 * (k + 1) + s.2
  patience_lt := by
    rintro bs ⟨s, _ | n⟩ h
    · have hlt := sink.patience_lt bs s h
      have := Nat.mul_le_mul_right (k + 1) hlt
      simp only [Nat.succ_mul] at this
      simp only
      omega
    · exact Nat.lt_succ_self _

theorem Keeps.interrupting (h : sink.Keeps p left) (k : Nat) :
    (sink.interrupting k).Keeps p fun s a => left s.1 a where
  write := by
    rintro bs ⟨s, _ | n⟩ a hne hs
    · have answer := h.write hne hs
      change p.Answer _ bs.length a ((sink.write bs s).1, ((sink.write bs s).2, k))
      generalize sink.write bs s = out at answer
      cases answer with
      | took room rest => exact .took room rest
      | interrupted rest => exact .interrupted rest
      | refused s' full refusal => exact .refused _ full refusal
      | tookNone s' full refusal => exact .tookNone _ full refusal
    · exact .interrupted hs
  flush := h.flush
  flushed := h.flushed

end EdgeMeter.Sink
