import EdgeMeter.Model.Circuit
import EdgeMeter.Proofs.Loading
import EdgeMeter.Proofs.Shadow

/-!
# Circuits that are counters

Of the family of circuits, those conform to what is asked of a counter circuit that start with their
pins low, report a low clock by zero and a high one by another byte, clear under reset, count rising
edges only and make instances without end.

* `Circuit.Memory.registers?`: the registers of an instance, as its cell holds them;
* `Circuit.Memory.becomes_update`: a change of one cell;
* `Circuit.Variant.Counts`, **`Circuit.Variant.conforms`**.
-/

namespace EdgeMeter.Model.Circuit

/-! ## Cells in memory -/

/-- The registers that a cell holds. -/
def Cell.registers (c : Cell) : Registers where
  clock := Library.levelByte c.clock
  reset := Library.levelByte c.reset
  lastClock := Library.levelByte c.lastClock
  count := c.count

namespace Memory

variable {h h' : Handle} {m : Memory}

theorem find?_update (f : Cell → Cell) : (m.update h f).find? h = (m.find? h).map f := by
  obtain ⟨attempts, cells⟩ := m
  unfold find? update
  induction cells with
  | nil => rfl
  | cons p cells ih =>
    obtain ⟨k, c⟩ := p
    by_cases hk : k = h
    · subst hk
      simp only [List.map_cons, if_pos, List.lookup_cons_self, Option.map_some]
    · have hne : (h == k) = false := beq_eq_false_iff_ne.mpr (Ne.symm hk)
      simp only [List.map_cons, if_neg hk, List.lookup_cons, hne]
      exact ih

theorem find?_update_of_ne (ne : h' ≠ h) (f : Cell → Cell) :
    (m.update h f).find? h' = m.find? h' := by
  obtain ⟨attempts, cells⟩ := m
  unfold find? update
  induction cells with
  | nil => rfl
  | cons p cells ih =>
    obtain ⟨k, c⟩ := p
    by_cases hk : k = h
    · subst hk
      have hne : (h' == k) = false := beq_eq_false_iff_ne.mpr ne
      simp only [List.map_cons, if_pos, List.lookup_cons, hne]
      exact ih
    · simp only [List.map_cons, if_neg hk, List.lookup_cons]
      split
      · rfl
      · exact ih

theorem find?_free_of_ne (ne : h' ≠ h) : (Variant.free h m).2.find? h' = m.find? h' := by
  obtain ⟨attempts, cells⟩ := m
  unfold find? Variant.free
  induction cells with
  | nil => rfl
  | cons p cells ih =>
    obtain ⟨k, c⟩ := p
    by_cases hk : k = h
    · subst hk
      have hne : (h' == k) = false := beq_eq_false_iff_ne.mpr ne
      simp only [List.filter_cons, bne_self_eq_false, Bool.false_eq_true, if_false,
        List.lookup_cons, hne]
      exact ih
    · have hkeep : (k != h) = true := bne_iff_ne.mpr hk
      simp only [List.filter_cons, hkeep, if_true, List.lookup_cons]
      split
      · rfl
      · exact ih

/-- **The registers of an instance.** Handles are given out in order, so those beyond the number of
calls belong to none. -/
def registers? (h : Handle) (m : Memory) : Option Registers :=
  if h.address ≤ m.attempts then (m.find? h).map Cell.registers else none

theorem registers?_eq_some {r : Registers} (hr : registers? h m = some r) :
    h.address ≤ m.attempts ∧ ∃ c, m.find? h = some c ∧ c.registers = r := by
  unfold registers? at hr
  split at hr
  · next hle => exact ⟨hle, Option.map_eq_some_iff.mp hr⟩
  · cases hr

theorem becomes_update {f : Cell → Cell} {c : Cell} (hle : h.address ≤ m.attempts)
    (hc : m.find? h = some c) : Becomes registers? h m (m.update h f) (f c).registers where
  own := by
    have hle' : h.address ≤ (m.update h f).attempts := hle
    rw [registers?, if_pos hle', find?_update, hc]
    rfl
  others := by
    intro h' ne
    rw [registers?, find?_update_of_ne ne]
    rfl

theorem becomes_new {start : Cell} {r : Registers} (hstart : start.registers = r) (m : Memory) :
    let h : Handle := ⟨m.attempts + 1⟩
    registers? h m = none ∧
      Becomes registers? h m { attempts := m.attempts + 1, cells := (h, start) :: m.cells } r := by
  intro h
  refine ⟨if_neg (Nat.not_succ_le_self m.attempts), ?_, ?_⟩
  · rw [registers?, if_pos (Nat.le_refl _), find?, List.lookup_cons_self, Option.map_some, hstart]
  · intro h' ne
    have hne : (h' == h) = false := beq_eq_false_iff_ne.mpr ne
    have hfind : find? h' { attempts := m.attempts + 1, cells := (h, start) :: m.cells } =
        find? h' m := by
      simp only [find?, List.lookup_cons, hne]
    by_cases hle : h'.address ≤ m.attempts
    · rw [registers?, registers?, hfind, if_pos hle, if_pos (Nat.le_succ_of_le hle)]
    · have hlt : ¬h'.address ≤ m.attempts + 1 := by
        intro hle'
        refine ne ?_
        obtain ⟨address⟩ := h'
        exact congrArg Handle.mk (by simp only at hle hle'; omega)
      rw [registers?, registers?, if_neg hle, if_neg hlt]

end Memory

/-! ## Counters -/

namespace Variant

/-- **A circuit is a counter** that starts at `c₀`. -/
structure Counts (v : Variant) (c₀ : UInt32) : Prop where
  start : v.start.registers = { count := c₀ }
  low : v.report false = 0
  high : v.report true ≠ 0
  clears : v.clears = true
  rising : v.bothEdges = false
  endless : v.exhaustedFrom = none

variable {v : Variant} {c₀ : UInt32}

theorem eq_of_export? {α : Type} {reason : String} {s : Symbol} {entry entry' : α}
    (h : v.export? reason s entry = .ok entry') : entry' = entry := by
  unfold export? at h
  split at h
  · cases h
  · exact (Except.ok.inj h).symm

theorem Counts.report_bne (counts : v.Counts c₀) (high : Bool) :
    (v.report high != 0) = (Library.levelByte high != 0) := by
  cases high with
  | false =>
    rw [counts.low]
    rfl
  | true => exact bne_iff_ne.mpr counts.high

theorem Counts.registers_settle (counts : v.Counts c₀) (c : Cell) :
    (v.settle c).registers = c.registers.settle := by
  obtain ⟨clock, reset, lastClock, count, settlings, reads⟩ := c
  simp only [settle, Variant.counts, counts.clears, counts.rising]
  cases clock <;> cases reset <;> cases lastClock <;> rfl

theorem Counts.new_eq (counts : v.Counts c₀) (m : Memory) :
    v.new m = (⟨m.attempts + 1⟩,
      { attempts := m.attempts + 1, cells := (⟨m.attempts + 1⟩, v.start) :: m.cells }) := by
  rw [new, counts.endless]
  rfl

/-- **A circuit that is a counter conforms** to what is asked of one. -/
theorem conforms (counts : v.Counts c₀) {reason : String} {e : Entries Memory}
    (provides : (v.exports reason).Provides e) : e.Conforms Memory.registers? c₀ := by
  have hnew := eq_of_export? provides.new
  have hfree := eq_of_export? provides.free
  have hsetClk := eq_of_export? provides.setClk
  have hgetClk := eq_of_export? provides.getClk
  have hsetRst := eq_of_export? provides.setRst
  have heval := eq_of_export? provides.eval
  have hreadOutput := eq_of_export? provides.readOutput
  constructor
  case new =>
    intro m _
    rw [hnew, counts.new_eq]
    exact Memory.becomes_new counts.start m
  case refuse =>
    intro m hnull
    rw [hnew, counts.new_eq] at hnull
    cases hnull
  case free =>
    intro h m r _ h' ne
    rw [hfree, Memory.registers?, Memory.find?_free_of_ne ne]
    rfl
  case setClk =>
    intro high h m r hr
    obtain ⟨hle, c, hc, rfl⟩ := Memory.registers?_eq_some hr
    rw [hsetClk]
    cases high <;> exact Memory.becomes_update hle hc
  case getClk =>
    intro h m r hr
    obtain ⟨hle, c, hc, rfl⟩ := Memory.registers?_eq_some hr
    rw [hgetClk]
    refine ⟨?_, hr, fun _ _ => rfl⟩
    rw [getClk, hc, Option.any_some]
    exact counts.report_bne c.clock
  case setRst =>
    intro asserted h m r hr
    obtain ⟨hle, c, hc, rfl⟩ := Memory.registers?_eq_some hr
    rw [hsetRst]
    cases asserted <;> exact Memory.becomes_update hle hc
  case eval =>
    intro h m r hr
    obtain ⟨hle, c, hc, rfl⟩ := Memory.registers?_eq_some hr
    rw [heval, ← counts.registers_settle]
    exact Memory.becomes_update hle hc
  case readOutput =>
    intro h m r hr
    obtain ⟨hle, c, hc, rfl⟩ := Memory.registers?_eq_some hr
    rw [hreadOutput]
    refine ⟨?_, Memory.becomes_update (f := fun c => { c with reads := c.reads + 1 }) hle hc⟩
    rw [readOutput, hc]
    rfl

theorem parsesApart {reason : String} {e : Entries Memory}
    (provides : (v.exports reason).Provides e) : e.ParsesApart Memory.registers? := by
  intro parse hparse argv m h
  rw [← provides.commandArgs] at hparse
  change (v.export? reason .commandArgs Variant.parse).toOption = some parse at hparse
  unfold export? at hparse
  split at hparse
  · cases hparse
  · obtain rfl := Option.some.inj hparse
    rfl

end Variant

end EdgeMeter.Model.Circuit
