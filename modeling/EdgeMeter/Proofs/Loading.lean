import EdgeMeter.Model.Stock
import EdgeMeter.Proofs.Spelling

/-!
# Loading a library once

A host asks its loader until a library opens with all required symbols, and never again.

* `Symbol.required`, `Exports.LacksFirst`, `Exports.Provides`: what a library must have, the first
  thing that it lacks, and the entry points that it has;
* `Exports.resolve_cases`: looking up the symbols gives one or the other;
* `Loader.Faulty`, `Loader.Refusals`: replies that are no library, and a stretch of them;
* `Host.loadAll`: requests in order;
* `Host.loadAll_of_empty`, `Host.loadAll_of_loaded`: before and after the library is there;
* **`Host.load_once`**: any requests of a new host.
-/

namespace EdgeMeter.Model

variable {φ μ : Type}

/-! ## Symbols of a library -/

/-- The symbols that a library must have, in the order in which they are looked up. -/
def Symbol.required : List Symbol :=
  [.new, .free, .setClk, .getClk, .setRst, .eval, .readOutput]

namespace Exports

/-- The reason why something was not found, if it was not. -/
def failure? {α : Type} : Except String α → Option String
  | .ok _ => none
  | .error reason => some reason

/-- The reason why a symbol was not found, if it was not. -/
def reason? (e : Exports μ) : Symbol → Option String
  | .new => failure? e.new
  | .free => failure? e.free
  | .setClk => failure? e.setClk
  | .getClk => failure? e.getClk
  | .setRst => failure? e.setRst
  | .eval => failure? e.eval
  | .readOutput => failure? e.readOutput
  | .commandArgs => failure? e.commandArgs

/-- **The first required symbol that is missing**, with the reason. -/
def LacksFirst (e : Exports μ) (s : Symbol) (reason : String) : Prop :=
  ∃ before after, Symbol.required = before ++ s :: after ∧ (∀ t ∈ before, e.reason? t = none) ∧
    e.reason? s = some reason

/-- **All required symbols are there**, with these entry points. A parser of arguments may be
missing. -/
structure Provides (e : Exports μ) (entries : Entries μ) : Prop where
  new : e.new = .ok entries.new
  free : e.free = .ok entries.free
  setClk : e.setClk = .ok entries.setClk
  getClk : e.getClk = .ok entries.getClk
  setRst : e.setRst = .ok entries.setRst
  eval : e.eval = .ok entries.eval
  readOutput : e.readOutput = .ok entries.readOutput
  commandArgs : e.commandArgs.toOption = entries.commandArgs

/-- **Looking up the symbols** gives all entry points, or the first symbol that is missing. -/
theorem resolve_cases (e : Exports μ) :
    (∃ entries, e.resolve = .ok entries ∧ e.Provides entries) ∨
    ∃ s reason, e.resolve = .error (.noSymbol s.name reason) ∧ e.LacksFirst s reason := by
  obtain ⟨new, free, setClk, getClk, setRst, eval, readOutput, commandArgs⟩ := e
  -- the lookups follow each other, so a missing symbol is met after those before it were found
  cases new with
  | error r => exact .inr ⟨.new, r, rfl, [], _, rfl, nofun, rfl⟩
  | ok new =>
  cases free with
  | error r => exact .inr ⟨.free, r, rfl, [.new], _, rfl, by simp [reason?, failure?], rfl⟩
  | ok free =>
  cases setClk with
  | error r =>
    exact .inr ⟨.setClk, r, rfl, [.new, .free], _, rfl, by simp [reason?, failure?], rfl⟩
  | ok setClk =>
  cases getClk with
  | error r =>
    exact .inr ⟨.getClk, r, rfl, [.new, .free, .setClk], _, rfl, by simp [reason?, failure?], rfl⟩
  | ok getClk =>
  cases setRst with
  | error r =>
    exact .inr ⟨.setRst, r, rfl, [.new, .free, .setClk, .getClk], _, rfl,
      by simp [reason?, failure?], rfl⟩
  | ok setRst =>
  cases eval with
  | error r =>
    exact .inr ⟨.eval, r, rfl, [.new, .free, .setClk, .getClk, .setRst], _, rfl,
      by simp [reason?, failure?], rfl⟩
  | ok eval =>
  cases readOutput with
  | error r =>
    exact .inr ⟨.readOutput, r, rfl, [.new, .free, .setClk, .getClk, .setRst, .eval], _, rfl,
      by simp [reason?, failure?], rfl⟩
  | ok readOutput => exact .inl ⟨_, rfl, rfl, rfl, rfl, rfl, rfl, rfl, rfl, rfl⟩

theorem LacksFirst.not_provides {e : Exports μ} {s : Symbol} {reason : String}
    (lacks : e.LacksFirst s reason) (entries : Entries μ) : ¬e.Provides entries := by
  intro provides
  obtain ⟨before, after, hs, -, hreason⟩ := lacks
  have found : ∀ t ∈ Symbol.required, e.reason? t = none := by
    simp [Symbol.required, reason?, failure?, provides.new, provides.free, provides.setClk,
      provides.getClk, provides.setRst, provides.eval, provides.readOutput]
  rw [found s (by rw [hs]; exact List.mem_append_right _ List.mem_cons_self)] at hreason
  cases hreason

end Exports

/-! ## Replies of a loader -/

namespace Loader

/-- **A reply that is no library**, and the failure that tells of it. -/
inductive Faulty (path : Bytes) : Except String (Exports μ) → Failure → Prop where
  | refused (reason : String) : Faulty path (.error reason) (.notOpened path reason)
  | incomplete {e : Exports μ} {s : Symbol} {reason : String} (lacks : e.LacksFirst s reason) :
    Faulty path (.ok e) (.noSymbol s.name reason)

variable (loader : Loader φ μ)

/-- The state of a loader after it was asked for paths one after another. -/
def after (paths : List Bytes) (x : φ) : φ := paths.foldl (fun x p => (loader.fetch p x).2) x

/-- **Nothing but refusals**: asked for paths one after another from state `x` on, a loader has no
library for any of them. The failures are in order. -/
inductive Refusals : φ → List Bytes → List Failure → Prop where
  | nil (x : φ) : Refusals x [] []
  | cons {x : φ} {p : Bytes} {ps : List Bytes} {f : Failure} {fs : List Failure}
    (faulty : Faulty p (loader.fetch p x).1 f) (rest : Refusals (loader.fetch p x).2 ps fs) :
    Refusals x (p :: ps) (f :: fs)

end Loader

/-- What a loaded library answers to a request for a path: it is granted under every spelling of the
path under which it was loaded first. -/
def Library.grant (lib : Library μ) (path : Bytes) : Except Failure (Library μ) :=
  if Path.components path = Path.components lib.path then .ok lib
  else .error (.occupied lib.path path)

namespace Host

variable (loader : Loader φ μ)

/-- Requests in order. -/
def loadAll : List Bytes → Host φ μ → List (Except Failure (Library μ)) × Host φ μ
  | [], h => ([], h)
  | p :: ps, h =>
    let (a, h) := h.load loader p
    let (as, h) := loadAll ps h
    (a :: as, h)

/-! ## One request -/

theorem fetch_cases (path : Bytes) (h : Host φ μ) :
    let reply := loader.fetch path h.loader
    let o := h.fetch loader path
    (o.2.loader = reply.2 ∧ o.2.loaded = h.loaded) ∧
    ((∃ f, Loader.Faulty path reply.1 f ∧ o.1 = .error f) ∨
      ∃ e entries, reply.1 = .ok e ∧ e.Provides entries ∧ o.1 = .ok ⟨path, entries⟩) := by
  have hrecord : (h.record (opening path)).loader = h.loader := rfl
  rcases hreply : loader.fetch path h.loader with ⟨reason | e, x⟩
  · simp only [fetch, hrecord, hreply]
    exact ⟨⟨trivial, rfl⟩, .inl ⟨_, .refused reason, rfl⟩⟩
  · simp only [fetch, hrecord, hreply]
    refine ⟨by split <;> exact ⟨rfl, rfl⟩, ?_⟩
    rcases e.resolve_cases with ⟨entries, hresolve, provides⟩ | ⟨s, reason, hresolve, lacks⟩
    · exact .inr ⟨e, entries, rfl, provides, by rw [hresolve]; rfl⟩
    · exact .inl ⟨_, .incomplete lacks, by rw [hresolve]; rfl⟩

theorem load_of_empty (path : Bytes) {h : Host φ μ} (empty : h.loaded = none) :
    let reply := loader.fetch path h.loader
    let o := h.load loader path
    o.2.loader = reply.2 ∧
    ((∃ f, Loader.Faulty path reply.1 f ∧ o.1 = .error f ∧ o.2.loaded = none) ∨
      ∃ e entries, reply.1 = .ok e ∧ e.Provides entries ∧ o.1 = .ok ⟨path, entries⟩ ∧
        o.2.loaded = some ⟨path, entries⟩) := by
  obtain ⟨⟨hloader, hloaded⟩, hcases⟩ := fetch_cases loader path h
  unfold load
  rw [empty]
  rcases hfetch : h.fetch loader path with ⟨f | lib, h'⟩
  all_goals rw [hfetch] at hloader hloaded hcases
  · refine ⟨hloader, .inl ?_⟩
    obtain ⟨f', faulty, hf⟩ | ⟨e, entries, -, -, hlib⟩ := hcases
    · exact ⟨f', faulty, hf, hloaded.trans empty⟩
    · cases hlib
  · refine ⟨hloader, .inr ?_⟩
    obtain ⟨f', -, hf⟩ | ⟨e, entries, hreply, provides, hlib⟩ := hcases
    · cases hf
    · obtain rfl := Except.ok.inj hlib
      exact ⟨e, entries, hreply, provides, rfl, rfl⟩

theorem load_of_loaded (path : Bytes) {h : Host φ μ} {lib : Library μ}
    (loaded : h.loaded = some lib) : h.load loader path = (lib.grant path, h) := by
  have hsame :
      Path.same lib.path path = true ↔ Path.components path = Path.components lib.path := by
    rw [Path.same, beq_iff_eq, eq_comm]
  unfold load Library.grant
  rw [loaded]
  simp only [hsame]

/-! ## Requests in order -/

theorem loadAll_of_loaded (paths : List Bytes) {h : Host φ μ} {lib : Library μ}
    (loaded : h.loaded = some lib) : h.loadAll loader paths = (paths.map lib.grant, h) := by
  induction paths with
  | nil => rfl
  | cons p ps ih =>
    rw [loadAll, load_of_loaded loader p loaded]
    dsimp only
    rw [ih]
    rfl

theorem loaded_loadAll_eq_none_iff (paths : List Bytes) {h : Host φ μ} (empty : h.loaded = none) :
    (h.loadAll loader paths).2.loaded = none ↔ ∃ fs, loader.Refusals h.loader paths fs := by
  induction paths generalizing h with
  | nil => exact ⟨fun _ => ⟨[], .nil _⟩, fun _ => empty⟩
  | cons p ps ih =>
    obtain ⟨hloader, ⟨f, faulty, -, hloaded⟩ | ⟨e, entries, hreply, provides, -, hloaded⟩⟩ :=
      load_of_empty loader p empty
    · refine (ih hloaded).trans ?_
      rw [hloader]
      constructor
      · rintro ⟨fs, refusals⟩
        exact ⟨f :: fs, .cons faulty refusals⟩
      · rintro ⟨fs, refusals⟩
        cases refusals with
        | cons _ rest => exact ⟨_, rest⟩
    · -- a complete library is there to stay, and its reply is no refusal
      have hall : (h.loadAll loader (p :: ps)).2.loaded = some ⟨p, entries⟩ := by
        rw [loadAll]
        dsimp only
        rw [loadAll_of_loaded loader ps hloaded]
        exact hloaded
      rw [hall]
      refine ⟨nofun, ?_⟩
      rintro ⟨fs, refusals⟩
      cases refusals with
      | cons faulty _ =>
        rw [hreply] at faulty
        cases faulty with
        | incomplete lacks => cases lacks.not_provides entries provides

/-- **Any requests of a host without a library**: all are refused, or the first that is not gives
the library for all that follow. -/
theorem loadAll_of_empty (paths : List Bytes) {h : Host φ μ} (empty : h.loaded = none) :
    let o := h.loadAll loader paths
    (∃ fs, loader.Refusals h.loader paths fs ∧ o.1 = fs.map .error ∧
      o.2.loader = loader.after paths h.loader) ∨
    ∃ before p rest fs e entries, paths = before ++ p :: rest ∧
      loader.Refusals h.loader before fs ∧
      (loader.fetch p (loader.after before h.loader)).1 = .ok e ∧ e.Provides entries ∧
      let lib : Library μ := ⟨p, entries⟩
      o.1 = fs.map .error ++ .ok lib :: rest.map lib.grant ∧ o.2.loaded = some lib ∧
      o.2.loader = loader.after (before ++ [p]) h.loader := by
  induction paths generalizing h with
  | nil => exact .inl ⟨[], .nil _, rfl, rfl⟩
  | cons p ps ih =>
    obtain ⟨hloader, ⟨f, faulty, ho, hloaded⟩ | ⟨e, entries, hreply, provides, ho, hloaded⟩⟩ :=
      load_of_empty loader p empty
    · have ih := ih hloaded
      rw [hloader] at ih
      obtain ⟨fs, refusals, hanswers, hstate⟩ |
        ⟨before, q, rest, fs, e, entries, rfl, refusals, hreply, provides, hanswers, hrest⟩ := ih
      · refine .inl ⟨f :: fs, .cons faulty refusals, ?_, hstate⟩
        rw [loadAll]
        dsimp only
        rw [ho, hanswers]
        rfl
      · refine .inr ⟨p :: before, q, rest, f :: fs, e, entries, rfl, .cons faulty refusals, hreply,
          provides, ?_, hrest⟩
        rw [loadAll]
        dsimp only
        rw [ho, hanswers]
        rfl
    · refine .inr ⟨[], p, ps, [], e, entries, rfl, .nil _, hreply, provides, ?_⟩
      rw [loadAll]
      dsimp only
      rw [loadAll_of_loaded loader ps hloaded, ho]
      exact ⟨rfl, hloaded, hloader⟩

example :
    let paths := ["./libno_eval.so", "./libtop.so", ".//libtop.so/.", "libtop.so"]
    let host : Host Unit Circuit.Memory := { loader := (), guest := { memory := {} } }
    ((host.loadAll (Stock.loader "absent") (paths.map Bytes.ofString)).1.map Except.isOk) =
      [false, true, true, false] := by
  decide +kernel

end Host

end EdgeMeter.Model
