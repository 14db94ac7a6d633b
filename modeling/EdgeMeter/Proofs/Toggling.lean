import EdgeMeter.Device.CounterBank

/-!
# Edges from any state

A bank may be caught half driven: its clock was taken to a level that no settling has seen, and the
level that it remembers is another one. Every other edge is a rising one all the same, but a low
clock that was never seen hides the first rise.

* `holding`: a bank with given levels and counters; any there can be;
* `risen`: the rising edges among the next ones, by the level of the clock and the one remembered;
* `counter?_edge`: one edge;
* **`counter?_times_edge`**: any number of edges, from any state.
-/

namespace EdgeMeter.CounterBank

/-! ## Banks with given counters -/

/-- A bank with given levels and counters. -/
def holding (clock reset lastClock : Bool) (vs : List UInt32) : CounterBank where
  size := vs.length
  clock := clock
  reset := reset
  lastClock := lastClock
  ahead := (List.range vs.length).map fun i => (i, vs[i]?.getD 0)

theorem lookAhead_map {l : List Nat} {i : Nat} (h : i ∈ l) (f : Nat → UInt32) :
    lookAhead i (l.map fun j => (j, f j)) = f i := by
  induction l with
  | nil => cases h
  | cons j l ih =>
    rw [List.map_cons, lookAhead]
    split
    · next hij => rw [hij]
    · next hij => exact ih ((List.mem_cons.mp h).resolve_left hij)

theorem valueAt_holding (clock reset lastClock : Bool) {vs : List UInt32} {i : Nat}
    (h : i < vs.length) : (holding clock reset lastClock vs).valueAt i = vs[i] := by
  have hahead := lookAhead_map (List.mem_range.mpr h) fun j => vs[j]?.getD 0
  rw [List.getElem?_eq_getElem h] at hahead
  exact (UInt32.add_zero _).trans hahead

theorem values_holding (clock reset lastClock : Bool) (vs : List UInt32) :
    (holding clock reset lastClock vs).values = vs := by
  refine List.ext_getElem (by simp [values, holding]) fun i _ hi => ?_
  rw [← valueAt_holding clock reset lastClock hi]
  simp [values]

/-! ## One edge -/

section

variable (b : CounterBank)

theorem clock_edge : (device.edge b).clock = !b.clock := clock_settle _

theorem reset_edge : (device.edge b).reset = b.reset := reset_settle _

theorem lastClock_edge : (device.edge b).lastClock = !b.clock := lastClock_settle _

theorem size_edge : (device.edge b).size = b.size := size_settle _

/-- **One edge**: it is seen to rise if the clock is low and is remembered as low. -/
theorem counter?_edge (i : Nat) :
    (device.edge b).counter? i = (b.counter? i).map fun v =>
      if b.reset then 0 else if !b.clock && !b.lastClock then v + 1 else v :=
  counter?_settle { b with clock := !b.clock } i

end

/-! ## Many edges -/

/-- **The rising edges among the next `k`**: half of them, rounded up if the clock is low; a low
clock that is remembered as high hides the first. -/
def risen (clock lastClock : Bool) (k : Nat) : Nat :=
  if clock then k / 2 else if lastClock then (k + 1) / 2 - 1 else (k + 1) / 2

theorem risen_zero (clock lastClock : Bool) : risen clock lastClock 0 = 0 := by
  cases clock <;> cases lastClock <;> rfl

theorem risen_succ (clock lastClock : Bool) (k : Nat) :
    risen clock lastClock (k + 1) =
      (if !clock && !lastClock then 1 else 0) + risen (!clock) (!clock) k := by
  cases clock <;> cases lastClock <;> simp [risen] <;> omega

/-- A counter after `k` edges. -/
def afterEdges (reset clock lastClock : Bool) (k : Nat) (v : UInt32) : UInt32 :=
  .ofNat (if reset ∧ 0 < k then 0 else v.toNat + risen clock lastClock k)

theorem afterEdges_zero (reset clock lastClock : Bool) :
    afterEdges reset clock lastClock 0 = id := by
  funext v
  simp [afterEdges, risen_zero]

theorem afterEdges_succ (reset clock lastClock : Bool) (k : Nat) (v : UInt32) :
    afterEdges reset clock lastClock (k + 1) v =
      afterEdges reset (!clock) (!clock) k
        (if reset then 0 else if !clock && !lastClock then v + 1 else v) := by
  cases reset
  · simp only [afterEdges, Bool.false_eq_true, false_and, if_false, risen_succ]
    split
    · apply UInt32.toNat_inj.mp
      simp only [UInt32.toNat_ofNat', UInt32.toNat_add, UInt32.reduceToNat]
      omega
    · rw [Nat.zero_add]
  · cases k with
    | zero => simp [afterEdges, risen_zero]
    | succ k => simp [afterEdges]

theorem pins_times_edge (k : Nat) (b : CounterBank) :
    (times k device.edge b).clock = times k not b.clock ∧
      (times k device.edge b).reset = b.reset ∧ (times k device.edge b).size = b.size := by
  induction k generalizing b with
  | zero => exact ⟨rfl, rfl, rfl⟩
  | succ k ih =>
    obtain ⟨clock, reset, size⟩ := ih (device.edge b)
    rw [clock_edge] at clock
    exact ⟨clock, reset.trans (reset_edge b), size.trans (size_edge b)⟩

theorem lastClock_times_edge (k : Nat) (b : CounterBank) :
    (times k device.edge b).lastClock =
      if 0 < k then (times k device.edge b).clock else b.lastClock := by
  cases k with
  | zero => rfl
  | succ k =>
    rw [if_pos k.succ_pos, times_succ, lastClock_edge, clock_edge]

/-- **The counters after any number of edges.** -/
theorem counter?_edges (k : Nat) (b : CounterBank) (i : Nat) :
    (times k device.edge b).counter? i =
      (b.counter? i).map (afterEdges b.reset b.clock b.lastClock k) := by
  induction k generalizing b with
  | zero => rw [times, afterEdges_zero, Option.map_id_fun, id]
  | succ k ih =>
    have hafter : afterEdges b.reset b.clock b.lastClock (k + 1) = fun v =>
        afterEdges b.reset (!b.clock) (!b.clock) k
          (if b.reset then 0 else if !b.clock && !b.lastClock then v + 1 else v) :=
      funext fun v => afterEdges_succ b.reset b.clock b.lastClock k v
    rw [times, ih, clock_edge, reset_edge, lastClock_edge, counter?_edge, Option.map_map, hafter]
    rfl

/-- **Any number of edges from any state**: each flips the clock, and every counter goes up by the
rising edges among them. -/
theorem counter?_times_edge :
    (∀ clock reset lastClock vs, ∃ b : CounterBank, b.clock = clock ∧ b.reset = reset ∧
      b.lastClock = lastClock ∧ b.values = vs) ∧
    ∀ (b : CounterBank) (k : Nat),
      let b' := times k device.edge b
      b'.clock = times k not b.clock ∧
      b'.lastClock = (if 0 < k then b'.clock else b.lastClock) ∧
      b'.reset = b.reset ∧ b'.size = b.size ∧
      ∀ i, b'.counter? i = (b.counter? i).map fun v =>
        .ofNat (if b.reset ∧ 0 < k then 0 else v.toNat +
          if b.clock then k / 2 else if b.lastClock then (k + 1) / 2 - 1 else (k + 1) / 2) := by
  refine ⟨fun clock reset lastClock vs => ?_, fun b k => ?_⟩
  · exact ⟨holding clock reset lastClock vs, rfl, rfl, rfl, values_holding clock reset lastClock vs⟩
  · obtain ⟨clock, reset, size⟩ := pins_times_edge k b
    exact ⟨clock, lastClock_times_edge k b, reset, size, counter?_edges k b⟩

/-- From the middle of an edge: the low clock was not seen, so that two of five edges count. -/
example :
    let b := holding false false true [0xFFFFFFFF, 7]
    (times 5 device.edge b).values = [1, 9] := by decide

end EdgeMeter.CounterBank
