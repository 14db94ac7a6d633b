import EdgeMeter.Model.Library
import EdgeMeter.Proofs.Steps
import Mathlib.Data.List.Induction
import Mathlib.Data.List.Nodup

/-!
# The calls of a model and the handles in them

* `Entries.Answers`, `Library.Called`: what a call does to the memory of a model, and a model that
  was called for all that its log tells, and for nothing else;
* `created`, `freed`: the handles that some calls gave out, and those they took back;
* `Alive`, `Disciplined`: a handle that may be carried, and calls that carry no other;
* `Visits`: calls in which every instance is freed before the next is made;
* `Change`: the calls for one request, and what they do to the instances kept;
* `Ledger`: the invariant between the instances kept and all calls so far;
* **`Ledger.change`**: one request keeps it, as long as no handle is given out twice.
-/

namespace EdgeMeter.Model

/-! ## Calls and the memory of a model -/

section Called

variable {μ : Type}

/-- **What a call does to the memory of a model**: its entry point is called with what the call
carries, and gives the answer that the call tells. -/
inductive Entries.Answers (e : Entries μ) : Call → μ → μ → Prop where
  | new (n : Nat) (m : μ) : Answers e (.new n (e.new m).1) m (e.new m).2
  | free (h : Handle) (m : μ) : Answers e (.free h) m (e.free h m).2
  | setClk (h : Handle) (level : UInt8) (m : μ) :
    Answers e (.setClk h level) m (e.setClk h level m)
  | getClk (h : Handle) (m : μ) : Answers e (.getClk h (e.getClk h m).1) m (e.getClk h m).2
  | setRst (h : Handle) (level : UInt8) (m : μ) :
    Answers e (.setRst h level) m (e.setRst h level m)
  | eval (h : Handle) (m : μ) : Answers e (.eval h) m (e.eval h m)
  | readOutput (h : Handle) (m : μ) :
    Answers e (.readOutput h (e.readOutput h m).1) m (e.readOutput h m).2
  | commandArgs {parse : Parser μ} (takes : e.commandArgs = some parse) (argv : List Bytes)
    (m : μ) : Answers e (.commandArgs argv) m (parse argv m).2

/-- **A library was called** between two states of its model: the calls are in the log, and the
memory is what its entry points made of it, called for these and nothing else. -/
structure Library.Called (lib : Library μ) (cs : List Call) (g g' : Guest μ) : Prop where
  recorded : g'.calls = g.calls.recordAll cs
  replay : Steps lib.entries.Answers cs g.memory g'.memory

namespace Library.Called

variable {lib : Library μ} {cs cs' : List Call} {g g₁ g₂ : Guest μ}

theorem nil (g : Guest μ) : lib.Called [] g g := ⟨rfl, .nil _⟩

theorem append (h : lib.Called cs g g₁) (h' : lib.Called cs' g₁ g₂) :
    lib.Called (cs ++ cs') g g₂ where
  recorded := by rw [h'.recorded, h.recorded, Journal.recordAll_append]
  replay := h.replay.append h'.replay

theorem single {c : Call} {m : μ} (answers : lib.entries.Answers c g.memory m) :
    lib.Called [c] g ({ g with memory := m }.note c) := ⟨rfl, .single answers⟩

end Library.Called

end Called

/-! ## Handles in calls -/

namespace Call

/-- The handle of the instance that a call made, if it made one. -/
def created? : Call → Option Handle
  | new _ h => if h = .null then none else some h
  | _ => none

/-- The handle of the instance that a call freed, if it freed one. -/
def freed? : Call → Option Handle
  | free h => some h
  | _ => none

/-- The handle that a call carries, if it carries one. -/
def carried? : Call → Option Handle
  | new .. => none
  | free h => some h
  | setClk h _ => some h
  | getClk h _ => some h
  | setRst h _ => some h
  | eval h => some h
  | readOutput h _ => some h
  | commandArgs _ => none

/-- Whether a call drives or reads an instance. -/
def Uses (h : Handle) (c : Call) : Prop := c.carried? = some h ∧ c.freed? = none

theorem Uses.created? {h : Handle} {c : Call} (hc : c.Uses h) : c.created? = none := by
  cases c with
  | new => cases hc.1
  | _ => rfl

end Call

/-- The handles of the instances made, in order. -/
def created (log : List Call) : List Handle := log.filterMap Call.created?

/-- The handles of the instances freed, in order. -/
def freed (log : List Call) : List Handle := log.filterMap Call.freed?

@[simp] theorem created_append (log cs : List Call) :
    created (log ++ cs) = created log ++ created cs := List.filterMap_append

@[simp] theorem freed_append (log cs : List Call) :
    freed (log ++ cs) = freed log ++ freed cs := List.filterMap_append

theorem nodup_created_of_append {log cs : List Call} (h : (created (log ++ cs)).Nodup) :
    (created log).Nodup := by
  rw [created_append] at h
  exact h.of_append_left

theorem created_new (n : Nat) {h : Handle} (ne_null : h ≠ .null) :
    created [.new n h] = [h] := by
  simp [created, Call.created?, ne_null]

theorem not_mem_created_of_new {log : List Call} {n : Nat} {h : Handle} (ne_null : h ≠ .null)
    (distinct : (created (log ++ [.new n h])).Nodup) : h ∉ created log := by
  rw [created_append, created_new n ne_null] at distinct
  exact fun hh => List.disjoint_of_nodup_append distinct hh (List.mem_singleton_self h)

section Uses

variable {h : Handle} {cs : List Call}

theorem created_of_uses (uses : ∀ c ∈ cs, c.Uses h) : created cs = [] :=
  List.filterMap_eq_nil_iff.mpr fun c hc => (uses c hc).created?

theorem freed_of_uses (uses : ∀ c ∈ cs, c.Uses h) : freed cs = [] :=
  List.filterMap_eq_nil_iff.mpr fun c hc => (uses c hc).2

end Uses

/-! ## Discipline -/

/-- Whether a handle may be carried after some calls: one of them gave it out and none took it
back. -/
structure Alive (log : List Call) (h : Handle) : Prop where
  ne_null : h ≠ .null
  created : h ∈ created log
  unfreed : h ∉ freed log

/-- **Disciplined calls** carry a handle only while it is alive, and the last to carry it frees
it. -/
def Disciplined (log : List Call) : Prop :=
  ∀ before c, before ++ [c] <+: log → ∀ h, c.carried? = some h → Alive before h

theorem Alive.append {log cs : List Call} {h : Handle} (alive : Alive log h) (hcs : h ∉ freed cs) :
    Alive (log ++ cs) h where
  ne_null := alive.ne_null
  created := by
    rw [created_append]
    exact List.mem_append_left _ alive.created
  unfreed := by
    rw [freed_append, List.mem_append]
    exact not_or.mpr ⟨alive.unfreed, hcs⟩

theorem disciplined_nil : Disciplined [] := by
  intro before c hp
  cases List.append_ne_nil_of_right_ne_nil before (List.cons_ne_nil c []) (List.prefix_nil.mp hp)

namespace Disciplined

variable {log cs : List Call} {h : Handle}

theorem of_append (hlog : Disciplined (log ++ cs)) : Disciplined log := fun before c hp =>
  hlog before c (hp.trans (List.prefix_append log cs))

theorem concat (hlog : Disciplined log) {c : Call} (hc : ∀ h, c.carried? = some h → Alive log h) :
    Disciplined (log ++ [c]) := by
  intro before c' hp
  rcases List.prefix_concat_iff.mp hp with heq | hp
  · obtain ⟨rfl, hc'⟩ := List.append_inj' heq rfl
    obtain rfl := (List.cons.inj hc').1
    exact hc
  · exact hlog before c' hp

theorem append_uses (hlog : Disciplined log) (alive : Alive log h) (uses : ∀ c ∈ cs, c.Uses h) :
    Disciplined (log ++ cs) := by
  induction cs generalizing log with
  | nil => rwa [List.append_nil]
  | cons c cs ih =>
    obtain ⟨hc, uses⟩ := List.forall_mem_cons.mp uses
    rw [List.append_cons]
    refine ih (hlog.concat ?_) (alive.append ?_) uses
    · intro h' hh'
      obtain rfl := Option.some.inj (hc.1.symm.trans hh')
      exact alive
    · rw [freed_of_uses (List.forall_mem_singleton.mpr hc)]
      exact List.not_mem_nil

theorem mem_created (hlog : Disciplined log) (hh : h ∈ freed log) : h ∈ created log := by
  obtain ⟨c, hc, hfreed⟩ := List.mem_filterMap.mp hh
  obtain ⟨before, rest, rfl⟩ := List.append_of_mem hc
  have hcarried : c.carried? = some h := by
    cases c with
    | free => exact hfreed
    | _ => cases hfreed
  have alive := hlog before c ⟨rest, by rw [List.append_assoc]; rfl⟩ h hcarried
  rw [created_append]
  exact List.mem_append_left _ alive.created

theorem nodup_freed (hlog : Disciplined log) : (freed log).Nodup := by
  induction log using List.reverseRecOn with
  | nil => exact List.nodup_nil
  | append_singleton log c ih =>
    have ih := ih hlog.of_append
    rw [freed_append]
    cases c with
    | free h =>
      have alive := hlog log (.free h) List.prefix_rfl h rfl
      exact List.nodup_append_comm.mp (List.nodup_cons.mpr ⟨alive.unfreed, ih⟩)
    | _ => rwa [show freed [_] = [] from rfl, List.append_nil]

theorem alive_new (hlog : Disciplined log) {n : Nat} (ne_null : h ≠ .null)
    (distinct : (created (log ++ [.new n h])).Nodup) : Alive (log ++ [.new n h]) h where
  ne_null := ne_null
  created := by
    rw [created_append, created_new n ne_null]
    exact List.mem_append_right _ (List.mem_singleton_self h)
  unfreed := by
    rw [freed_append, show freed [.new n h] = [] from rfl, List.append_nil]
    exact fun hh => not_mem_created_of_new ne_null distinct (hlog.mem_created hh)

end Disciplined

/-! ## One instance at a time -/

/-- **Calls in which every instance is freed before the next is made.** Once no instance is made
there are no calls any more. -/
inductive Visits : List Call → Prop where
  | nil : Visits []
  | refused (n : Nat) : Visits [.new n .null]
  | visit (n : Nat) {h : Handle} {cs rest : List Call} (ne_null : h ≠ .null)
    (uses : ∀ c ∈ cs, c.Uses h) (others : Visits rest) :
    Visits ([.new n h] ++ cs ++ [.free h] ++ rest)

section Visit

variable {n : Nat} {h : Handle} {cs : List Call} (ne_null : h ≠ .null) (uses : ∀ c ∈ cs, c.Uses h)
include ne_null uses

theorem created_visit : created ([.new n h] ++ cs ++ [.free h]) = [h] := by
  rw [created_append, created_append, created_new n ne_null, created_of_uses uses]
  rfl

omit ne_null in
theorem freed_visit : freed ([.new n h] ++ cs ++ [.free h]) = [h] := by
  rw [freed_append, freed_append, freed_of_uses uses]
  rfl

theorem disciplined_visit {log : List Call} (hlog : Disciplined log)
    (distinct : (created (log ++ ([.new n h] ++ cs ++ [.free h]))).Nodup) :
    Disciplined (log ++ ([.new n h] ++ cs ++ [.free h])) := by
  rw [← List.append_assoc, ← List.append_assoc] at distinct ⊢
  -- the handle is alive as soon as it is given out, and nothing but the last call frees it
  have made : Disciplined (log ++ [.new n h]) := hlog.concat nofun
  have alive : Alive (log ++ [.new n h]) h :=
    hlog.alive_new ne_null (nodup_created_of_append (nodup_created_of_append distinct))
  refine (made.append_uses alive uses).concat ?_
  rintro _ ⟨⟩
  refine alive.append ?_
  rw [freed_of_uses uses]
  exact List.not_mem_nil

theorem alive_visit {p : List Call} (hp : p <+: [.new n h] ++ cs ++ [.free h]) :
    ∃ alive : Option Handle, created p = freed p ++ alive.toList := by
  rcases List.prefix_concat_iff.mp hp with rfl | hp
  · exact ⟨none, by rw [created_visit ne_null uses, freed_visit uses]; rfl⟩
  · rcases List.prefix_cons_iff.mp hp with rfl | ⟨q, rfl, hq⟩
    · exact ⟨none, rfl⟩
    · have uses : ∀ c ∈ q, c.Uses h := fun c hc => uses c (hq.subset hc)
      refine ⟨some h, ?_⟩
      rw [← List.singleton_append, created_append, freed_append, created_new n ne_null,
        created_of_uses uses, freed_of_uses uses]
      rfl

end Visit

namespace Visits

variable {log cs : List Call}

theorem created_eq_freed (hcs : Visits cs) : created cs = freed cs := by
  induction hcs with
  | nil => rfl
  | refused n => rfl
  | visit n ne_null uses _ ih =>
    rw [created_append, freed_append, created_visit ne_null uses, freed_visit uses, ih]

theorem alive_prefix (hcs : Visits cs) {p : List Call} (hp : p <+: cs) :
    ∃ alive : Option Handle, created p = freed p ++ alive.toList := by
  induction hcs generalizing p with
  | nil =>
    obtain rfl := List.prefix_nil.mp hp
    exact ⟨none, rfl⟩
  | refused n =>
    rcases List.prefix_cons_iff.mp hp with rfl | ⟨q, rfl, hq⟩
    · exact ⟨none, rfl⟩
    · obtain rfl := List.prefix_nil.mp hq
      exact ⟨none, rfl⟩
  | visit n ne_null uses others ih =>
    rcases List.prefix_or_prefix_of_prefix hp (List.prefix_append _ _) with hp | ⟨q, rfl⟩
    · exact alive_visit ne_null uses hp
    · obtain ⟨alive, hq⟩ := ih ((List.prefix_append_right_inj _).mp hp)
      refine ⟨alive, ?_⟩
      rw [created_append, freed_append, created_visit ne_null uses, freed_visit uses, hq,
        List.append_assoc]

/-- **Visits are disciplined**, whatever was called before, if no handle is given out twice. -/
theorem disciplined (hcs : Visits cs) (hlog : Disciplined log)
    (distinct : (created (log ++ cs)).Nodup) : Disciplined (log ++ cs) := by
  induction hcs generalizing log with
  | nil => rwa [List.append_nil]
  | refused n => exact hlog.concat nofun
  | @visit n h cs rest ne_null uses _ ih =>
    rw [← List.append_assoc] at distinct ⊢
    exact ih (disciplined_visit ne_null uses hlog (nodup_created_of_append distinct)) distinct

theorem alive (hcs : Visits cs) (distinct : (created (log ++ cs)).Nodup) {h : Handle}
    (alive : Alive log h) : Alive (log ++ cs) h := by
  refine alive.append ?_
  rw [← hcs.created_eq_freed]
  rw [created_append] at distinct
  exact List.disjoint_of_nodup_append distinct alive.created

end Visits

/-! ## Instances kept -/

/-- The instance in a place, if it is kept. -/
def kept (devices : List (Option Handle)) (i : Nat) : Option Handle := devices[i]?.join

theorem kept_concat {devices : List (Option Handle)} {i : Nat} {h h' : Handle}
    (hk : kept (devices ++ [some h]) i = some h') :
    kept devices i = some h' ∨ i = devices.length ∧ h' = h := by
  unfold kept at hk ⊢
  rcases Nat.lt_trichotomy i devices.length with hi | rfl | hi
  · rw [List.getElem?_append_left hi] at hk
    exact .inl hk
  · rw [List.getElem?_concat_length] at hk
    exact .inr ⟨rfl, (Option.some.inj hk).symm⟩
  · rw [List.getElem?_eq_none (by rw [List.length_append]; exact hi)] at hk
    cases hk

theorem kept_set_none {devices : List (Option Handle)} {i j : Nat} {h : Handle}
    (hk : kept (devices.set i none) j = some h) : j ≠ i ∧ kept devices j = some h := by
  unfold kept at hk ⊢
  rcases eq_or_ne j i with rfl | hj
  · rw [List.getElem?_set_self'] at hk
    cases hd : devices[j]? <;> rw [hd] at hk <;> cases hk
  · rw [List.getElem?_set_ne hj.symm] at hk
    exact ⟨hj, hk⟩

/-- **The calls for one request**, with the instances kept before and after it. -/
inductive Change (devices : List (Option Handle)) : List Call → List (Option Handle) → Prop where
  | idle : Change devices [] devices
  | passed (argv : List Bytes) : Change devices [.commandArgs argv] devices
  | made (n : Nat) {h : Handle} (ne_null : h ≠ .null) :
    Change devices [.new n h] (devices ++ [some h])
  | refused (n : Nat) : Change devices [.new n .null] devices
  | used {i : Nat} {h : Handle} {cs : List Call} (hi : kept devices i = some h)
    (uses : ∀ c ∈ cs, c.Uses h) : Change devices cs devices
  | dropped {i : Nat} {h : Handle} (hi : kept devices i = some h) :
    Change devices [.free h] (devices.set i none)
  | ran {cs : List Call} (visits : Visits cs) : Change devices cs devices

/-- **The invariant between the instances kept and all calls so far.** -/
structure Ledger (devices : List (Option Handle)) (log : List Call) : Prop where
  disciplined : Disciplined log
  alive : ∀ i h, kept devices i = some h → Alive log h
  distinct : ∀ i j h, kept devices i = some h → kept devices j = some h → i = j

theorem ledger_nil : Ledger [] [] := ⟨disciplined_nil, nofun, nofun⟩

namespace Ledger

variable {devices devices' : List (Option Handle)} {log cs : List Call} {h : Handle}

theorem made (ledger : Ledger devices log) {n : Nat} (ne_null : h ≠ .null)
    (distinct : (created (log ++ [.new n h])).Nodup) :
    Ledger (devices ++ [some h]) (log ++ [.new n h]) := by
  have fresh := ledger.disciplined.alive_new ne_null distinct
  have other : ∀ i, kept devices i ≠ some h := by
    intro i hi
    exact not_mem_created_of_new ne_null distinct (ledger.alive i h hi).created
  refine ⟨ledger.disciplined.concat nofun, ?_, ?_⟩
  · intro i h' hi
    rcases kept_concat hi with hi | ⟨-, rfl⟩
    · exact (ledger.alive i h' hi).append List.not_mem_nil
    · exact fresh
  · intro i j h' hi hj
    rcases kept_concat hi with hi' | ⟨rfl, rfl⟩
    · rcases kept_concat hj with hj' | ⟨rfl, rfl⟩
      · exact ledger.distinct i j h' hi' hj'
      · cases other i hi'
    · rcases kept_concat hj with hj' | ⟨rfl, -⟩
      · cases other j hj'
      · rfl

theorem dropped (ledger : Ledger devices log) {i : Nat} (hi : kept devices i = some h) :
    Ledger (devices.set i none) (log ++ [.free h]) := by
  have alive := ledger.alive i h hi
  refine ⟨ledger.disciplined.concat ?_, ?_, ?_⟩
  · rintro _ ⟨⟩
    exact alive
  · intro j h' hj
    obtain ⟨hne, hj⟩ := kept_set_none hj
    refine (ledger.alive j h' hj).append ?_
    intro hh
    obtain rfl := List.mem_singleton.mp hh
    exact hne (ledger.distinct j i h' hj hi)
  · intro j k h' hj hk
    exact ledger.distinct j k h' (kept_set_none hj).2 (kept_set_none hk).2

/-- **One request keeps the ledger**, as long as no handle is given out twice. -/
theorem change (ledger : Ledger devices log) (hcs : Change devices cs devices')
    (distinct : (created (log ++ cs)).Nodup) : Ledger devices' (log ++ cs) := by
  cases hcs with
  | idle => rwa [List.append_nil]
  | passed argv =>
    exact ⟨ledger.disciplined.concat nofun,
      fun i h hi => (ledger.alive i h hi).append List.not_mem_nil, ledger.distinct⟩
  | made n ne_null => exact ledger.made ne_null distinct
  | refused n =>
    exact ⟨ledger.disciplined.concat nofun,
      fun i h hi => (ledger.alive i h hi).append List.not_mem_nil, ledger.distinct⟩
  | used hi uses =>
    refine ⟨ledger.disciplined.append_uses (ledger.alive _ _ hi) uses, ?_, ledger.distinct⟩
    intro j h hj
    refine (ledger.alive j h hj).append ?_
    rw [freed_of_uses uses]
    exact List.not_mem_nil
  | dropped hi => exact ledger.dropped hi
  | ran visits =>
    exact ⟨visits.disciplined ledger.disciplined distinct,
      fun i h hi => visits.alive distinct (ledger.alive i h hi), ledger.distinct⟩

end Ledger

end EdgeMeter.Model
