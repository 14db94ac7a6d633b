import EdgeMeter.Proofs.Steps
import EdgeMeter.Sink

/-!
# How a delivery goes

A delivery offers the bytes of a line until all are taken and then flushes. Whatever the sink does,
a delivery ends in one of three ways.

* `Sink.taken`: the bytes that a sink took in some events;
* **`Sink.Delivery`**: the three ways, by the events and the result: all bytes taken and flushed, a
  refusal with some bytes still untaken, or all bytes taken and a flush that failed;
* `Sink.delivery_deliver`: every delivery goes in one of them;
* `Sink.Does`, `Sink.steps_deliver`: the events of a delivery are what the sink did, step by step;
* `Sink.Accepting`, `Sink.deliver_of_accepting`: a sink that never fails takes the line in pieces.
-/

namespace EdgeMeter.Sink

namespace Event

/-- The bytes that a sink took in an event. -/
def taken : Event → Bytes
  | .wrote bs => bs
  | _ => []

/-- Whether a sink is still willing after an event. -/
def isWilling : Event → Bool
  | .wrote _ => true
  | .interrupted => true
  | _ => false

end Event

/-- The bytes that a sink took in some events. -/
def taken (es : List Event) : Bytes := es.flatMap Event.taken

@[simp] theorem taken_cons (e : Event) (es : List Event) : taken (e :: es) = e.taken ++ taken es :=
  List.flatMap_cons

@[simp] theorem taken_append (es es' : List Event) : taken (es ++ es') = taken es ++ taken es' :=
  List.flatMap_append

/-! ## Writing -/

/-- **How an offer of bytes goes**: all are taken, or some are and the rest is refused. -/
inductive Uptakes : Bytes → List Event → Except IoError Unit → Prop where
  | all (es : List Event) (willing : ∀ e ∈ es, e.isWilling) : Uptakes (taken es) es (.ok ())
  | part (es : List Event) {e : IoError} {rest : Bytes} (willing : ∀ e ∈ es, e.isWilling)
    (rest_ne : rest ≠ []) : Uptakes (taken es ++ rest) (es ++ [.writeFailed e]) (.error e)

theorem Uptakes.after {bs : Bytes} {es : List Event} {r : Except IoError Unit}
    (h : Uptakes bs es r) (e : Event) (he : e.isWilling) :
    Uptakes (e.taken ++ bs) (e :: es) r := by
  have willing_cons : ∀ {l : List Event}, (∀ x ∈ l, x.isWilling) → ∀ x ∈ e :: l, x.isWilling :=
    fun hl => List.forall_mem_cons.mpr ⟨he, hl⟩
  cases h with
  | all es willing => exact .all _ (willing_cons willing)
  | part es willing rest_ne =>
    rw [← List.append_assoc]
    exact .part _ (willing_cons willing) rest_ne

variable {ω : Type} (sink : Sink ω)

theorem uptakes_writeAll (bs : Bytes) (s : ω) :
    Uptakes bs (sink.writeAll bs s).events (sink.writeAll bs s).result := by
  fun_induction sink.writeAll bs s with
  | case1 => exact .all [] (by simp)
  | case2 bs s hne s' h => exact .part [] (by simp) hne
  | case3 bs s hne n s' h ih =>
    have := ih.after (.wrote (bs.take (n + 1))) rfl
    rwa [Event.taken, List.take_append_drop] at this
  | case4 bs s hne s' h ih => exact ih.after .interrupted rfl
  | case5 bs s hne e s' h => exact .part [] (by simp) hne

/-! ## Writing and flushing -/

/-- **How a delivery of bytes goes**, by what the sink does and the result. -/
inductive Delivery : Bytes → List Event → Except IoError Unit → Prop where
  | done {es : List Event} (willing : ∀ e ∈ es, e.isWilling) :
    Delivery (taken es) (es ++ [.flushed]) (.ok ())
  | unwritten {es : List Event} {e : IoError} {rest : Bytes} (willing : ∀ e ∈ es, e.isWilling)
    (rest_ne : rest ≠ []) : Delivery (taken es ++ rest) (es ++ [.writeFailed e]) (.error e)
  | unflushed {es : List Event} {e : IoError} (willing : ∀ e ∈ es, e.isWilling) :
    Delivery (taken es) (es ++ [.flushFailed e]) (.error e)

/-- **Every delivery goes in one of the three ways.** -/
theorem delivery_deliver (bs : Bytes) (s : ω) :
    Delivery bs (sink.deliver bs s).events (sink.deliver bs s).result := by
  have h := sink.uptakes_writeAll bs s
  unfold deliver
  generalize sink.writeAll bs s = o at h ⊢
  obtain ⟨es, r, s'⟩ := o
  cases h with
  | all _ willing =>
    simp only [flushOnce]
    split
    · exact .done willing
    · exact .unflushed willing
  | part _ willing rest_ne => exact .unwritten willing rest_ne

/-! ## Step by step -/

/-- **What a sink does in an event**, with its state before and after. -/
inductive Does : Event → ω → ω → Prop where
  | wrote {bs : Bytes} {n : Nat} {s s' : ω} (offered : bs ≠ [])
    (took : sink.write bs s = (.took (n + 1), s')) : Does (.wrote (bs.take (n + 1))) s s'
  | interrupted {bs : Bytes} {s s' : ω} (offered : bs ≠ [])
    (none : sink.write bs s = (.interrupted, s')) : Does .interrupted s s'
  | wroteNothing {bs : Bytes} {s s' : ω} (offered : bs ≠ [])
    (none : sink.write bs s = (.took 0, s')) : Does (.writeFailed .wroteNothing) s s'
  | refused {bs : Bytes} {e : IoError} {s s' : ω} (offered : bs ≠ [])
    (refused : sink.write bs s = (.refused e, s')) : Does (.writeFailed e) s s'
  | flushed {s s' : ω} (ok : sink.flush s = (.ok (), s')) : Does .flushed s s'
  | flushFailed {e : IoError} {s s' : ω} (failed : sink.flush s = (.error e, s')) :
    Does (.flushFailed e) s s'

theorem steps_writeAll (bs : Bytes) (s : ω) :
    Steps sink.Does (sink.writeAll bs s).events s (sink.writeAll bs s).state := by
  fun_induction sink.writeAll bs s with
  | case1 s => exact .nil s
  | case2 bs s hne s' h => exact .single (.wroteNothing hne h)
  | case3 bs s hne n s' h ih => exact .cons (.wrote hne h) ih
  | case4 bs s hne s' h ih => exact .cons (.interrupted hne h) ih
  | case5 bs s hne e s' h => exact .single (.refused hne h)

/-- **The events of a delivery are what the sink did**, from its state before to its state after. -/
theorem steps_deliver (bs : Bytes) (s : ω) :
    Steps sink.Does (sink.deliver bs s).events s (sink.deliver bs s).state := by
  have h := sink.steps_writeAll bs s
  unfold deliver
  generalize sink.writeAll bs s = o at h ⊢
  obtain ⟨es, _ | _, s'⟩ := o
  · exact h
  · simp only [flushOnce]
    split
    · next hflush => exact h.concat (.flushed hflush)
    · next hflush => exact h.concat (.flushFailed hflush)

/-! ## Sinks that never fail -/

/-- A sink that takes some bytes of every offer, and all flushes of which succeed. -/
structure Accepting : Prop where
  takes : ∀ bs s, bs ≠ [] → ∃ n, (sink.write bs s).1 = .took (n + 1)
  flushes : ∀ s, (sink.flush s).1 = .ok ()

variable {sink}

theorem Accepting.took (h : sink.Accepting) {bs : Bytes} {s s' : ω} {u : Uptake} (hne : bs ≠ [])
    (hw : sink.write bs s = (u, s')) : ∃ n, u = .took (n + 1) := by
  have := h.takes bs s hne
  rwa [hw] at this

theorem writeAll_of_accepting (h : sink.Accepting) (bs : Bytes) (s : ω) :
    (sink.writeAll bs s).result = .ok () ∧ ∃ chunks : List Bytes, chunks.flatten = bs ∧
      (∀ c ∈ chunks, c ≠ []) ∧ (sink.writeAll bs s).events = chunks.map .wrote := by
  fun_induction sink.writeAll bs s with
  | case1 => exact ⟨rfl, [], rfl, by simp, rfl⟩
  | case2 bs s hne s' hw => obtain ⟨n, ⟨⟩⟩ := h.took hne hw
  | case3 bs s hne n s' hw ih =>
    obtain ⟨hr, cs, hcs, hne', hes⟩ := ih
    refine ⟨hr, bs.take (n + 1) :: cs, ?_, ?_, ?_⟩
    · rw [List.flatten_cons, hcs, List.take_append_drop]
    · exact List.forall_mem_cons.mpr ⟨by simpa using hne, hne'⟩
    · rw [Outcome.after, hes, List.map_cons]
  | case4 bs s hne s' hw => obtain ⟨n, ⟨⟩⟩ := h.took hne hw
  | case5 bs s hne e s' hw => obtain ⟨n, ⟨⟩⟩ := h.took hne hw

/-- **A sink that never fails takes the bytes in pieces**, none of them empty, and flushes once. -/
theorem deliver_of_accepting (h : sink.Accepting) (bs : Bytes) (s : ω) :
    (sink.deliver bs s).result = .ok () ∧ ∃ chunks : List Bytes, chunks.flatten = bs ∧
      (∀ c ∈ chunks, c ≠ []) ∧
      (sink.deliver bs s).events = chunks.map .wrote ++ [.flushed] := by
  obtain ⟨hr, cs, hcs, hne, hes⟩ := writeAll_of_accepting h bs s
  have hf := h.flushes (sink.writeAll bs s).state
  simp only [deliver, hr, flushOnce]
  split
  · next hfl => exact ⟨rfl, cs, hcs, hne, by rw [hes]⟩
  · next e s' hfl =>
    rw [hfl] at hf
    cases hf

/-- A sink that takes one byte at a time. -/
def bytewise : Sink Unit where
  write _ _ := (.took 1, ())
  flush _ := (.ok (), ())
  patience _ := 0
  patience_lt := by intro bs s h; cases h

theorem accepting_bytewise : bytewise.Accepting := ⟨fun _ _ _ => ⟨0, rfl⟩, fun _ => rfl⟩

end EdgeMeter.Sink
