import EdgeMeter.Model.Library
import Mathlib.Algebra.Group.Nat.Defs

/-!
# Arguments that can be passed

Arguments are passed all together or not at all: none of them may have a zero inside, and a parser
can only be told so many.

* `Arguments.marshal_cases`: all arguments can be passed, or one is the first that cannot;
* `Arguments.Fit`, `Arguments.Unfit`: arguments for a parser, and why others are none;
* `Arguments.counted_cases`: any arguments are one or the other;
* **`Model.Library.passCounted_cases`**: what comes of handing over arguments.
-/

namespace EdgeMeter

namespace Arguments

/-! ## With terminators -/

/-- Whether a text has a zero inside. -/
def HasZero (text : String) : Prop := '\x00' ∈ text.toList

instance (text : String) : Decidable (HasZero text) := inferInstanceAs (Decidable (_ ∈ _))

theorem marshal_cases (arguments : List String) :
    ((∀ a ∈ arguments, ¬HasZero a) ∧ marshal arguments = .ok (arguments.map terminated)) ∨
    ∃ before a after, arguments = before ++ a :: after ∧ (∀ t ∈ before, ¬HasZero t) ∧
      HasZero a ∧ marshal arguments = .error (.interiorNul a) := by
  induction arguments with
  | nil => exact .inl ⟨nofun, rfl⟩
  | cons text rest ih =>
    by_cases hzero : HasZero text
    · refine .inr ⟨[], text, rest, rfl, nofun, hzero, ?_⟩
      rw [marshal, if_pos (List.contains_iff_mem.mpr hzero)]
    · have hmarshal : marshal (text :: rest) = (marshal rest).map (terminated text :: ·) := by
        rw [marshal, if_neg fun h => hzero (List.contains_iff_mem.mp h)]
      rw [hmarshal]
      obtain ⟨hrest, hok⟩ | ⟨before, a, after, rfl, hbefore, ha, herror⟩ := ih
      · refine .inl ⟨List.forall_mem_cons.mpr ⟨hzero, hrest⟩, ?_⟩
        rw [hok]
        rfl
      · refine .inr ⟨text :: before, a, after, rfl, List.forall_mem_cons.mpr ⟨hzero, hbefore⟩, ha,
          ?_⟩
        rw [herror]
        rfl

variable {texts : List String} {blocks : List Bytes} {f : Failure}

theorem marshal_eq_ok_iff :
    marshal texts = .ok blocks ↔
      (∀ text ∈ texts, ¬HasZero text) ∧ blocks = texts.map terminated := by
  obtain ⟨fit, hok⟩ | ⟨before, a, after, rfl, -, unfit, herror⟩ := marshal_cases texts
  · rw [hok, Except.ok.injEq]
    exact ⟨fun h => ⟨fit, h.symm⟩, fun h => h.2.symm⟩
  · rw [herror]
    exact ⟨nofun, fun h => absurd unfit (h.1 a (by simp))⟩

/-- **The first text with a zero inside is refused**, whatever comes after it. -/
theorem marshal_eq_error_iff :
    marshal texts = .error f ↔ ∃ a, texts.find? (HasZero ·) = some a ∧ f = .interiorNul a := by
  obtain ⟨fit, hok⟩ | ⟨before, a, after, rfl, fit, unfit, herror⟩ := marshal_cases texts
  · have hnone : texts.find? (HasZero ·) = none :=
      List.find?_eq_none.mpr fun text htext => by simpa using fit text htext
    rw [hok, hnone]
    exact ⟨nofun, fun ⟨_, h, _⟩ => nomatch h⟩
  · have hfirst : (before ++ a :: after).find? (HasZero ·) = some a := by
      refine List.find?_eq_some_iff_append.mpr ⟨by simpa using unfit, before, after, rfl, ?_⟩
      exact fun text htext => by simpa using fit text htext
    rw [herror, hfirst, Except.error.injEq]
    exact ⟨fun h => ⟨a, rfl, h.symm⟩, fun ⟨_, h, hf⟩ => hf ▸ congrArg _ (Option.some.inj h)⟩

theorem counted_of_ok (h : marshal texts = .ok blocks) (few : texts.length < 2 ^ 31) :
    ∃ argc : Int32, argc.toInt = texts.length ∧ counted texts = .ok (argc, blocks) := by
  have hlength : blocks.length = texts.length := by
    rw [(marshal_eq_ok_iff.mp h).2, List.length_map]
  refine ⟨_, Int32.toInt_ofNat_of_lt few, ?_⟩
  rw [counted, h, ← hlength]
  exact if_pos (hlength ▸ few)

theorem counted_of_many (h : marshal texts = .ok blocks) (many : 2 ^ 31 ≤ texts.length) :
    counted texts = .error (.reported "too many arguments") := by
  have hlength : blocks.length = texts.length := by
    rw [(marshal_eq_ok_iff.mp h).2, List.length_map]
  rw [counted, h]
  exact if_neg (Nat.not_lt.mpr (hlength ▸ many))

theorem counted_of_error (h : marshal texts = .error f) : counted texts = .error f := by
  rw [counted, h]
  rfl

theorem marshal_of_counted {argc : Int32} (h : counted texts = .ok (argc, blocks)) :
    marshal texts = .ok blocks := by
  cases hmarshal : marshal texts with
  | error f => cases (counted_of_error hmarshal).symm.trans h
  | ok blocks' =>
    rcases Nat.lt_or_ge texts.length (2 ^ 31) with few | many
    · obtain ⟨argc', -, hok⟩ := counted_of_ok hmarshal few
      cases hok.symm.trans h
      rfl
    · cases (counted_of_many hmarshal many).symm.trans h

/-! ## Fit for a parser -/

/-- Arguments that a parser can take: none has a zero inside, and they are not too many. -/
structure Fit (texts : List String) : Prop where
  zeroless : ∀ text ∈ texts, ¬HasZero text
  few : texts.length < 2 ^ 31

instance (texts : List String) : Decidable (Fit texts) :=
  decidable_of_iff ((∀ text ∈ texts, ¬HasZero text) ∧ texts.length < 2 ^ 31)
    ⟨fun h => ⟨h.1, h.2⟩, fun h => ⟨h.zeroless, h.few⟩⟩

/-- **Why arguments are refused**: the first with a zero inside is quoted; without one, they are too
many. -/
inductive Unfit : List String → Failure → Prop where
  | zero {before after : List String} {a : String} (zeroless : ∀ text ∈ before, ¬HasZero text)
    (zero : HasZero a) : Unfit (before ++ a :: after) (.interiorNul a)
  | many {texts : List String} (zeroless : ∀ text ∈ texts, ¬HasZero text)
    (many : 2 ^ 31 ≤ texts.length) : Unfit texts (.reported "too many arguments")

theorem Fit.not_unfit (fit : Fit texts) : ¬Unfit texts f := by
  intro unfit
  cases unfit with
  | @zero before after a _ zero => exact fit.zeroless a (by simp) zero
  | many _ many => exact absurd fit.few (Nat.not_lt.mpr many)

/-- **Any arguments are fit for a parser, or refused.** -/
theorem counted_cases (texts : List String) :
    (Fit texts ∧ ∃ argc : Int32, argc.toInt = texts.length ∧
      counted texts = .ok (argc, texts.map terminated)) ∨
    ∃ f, Unfit texts f ∧ counted texts = .error f := by
  obtain ⟨zeroless, hok⟩ | ⟨before, a, after, rfl, zeroless, zero, herror⟩ := marshal_cases texts
  · rcases Nat.lt_or_ge texts.length (2 ^ 31) with few | many
    · exact .inl ⟨⟨zeroless, few⟩, counted_of_ok hok few⟩
    · exact .inr ⟨_, .many zeroless many, counted_of_many hok many⟩
  · exact .inr ⟨_, .zero zeroless zero, counted_of_error herror⟩

end Arguments

/-! ## Handing over -/

namespace Model.Library

open Arguments

variable {μ : Type} (lib : Library μ) {texts : List String} {argv : List Bytes} {f : Failure}
  (g : Guest μ)

theorem passArguments_of_ok {parse : Parser μ} (takes : lib.entries.commandArgs = some parse)
    (h : marshal texts = .ok argv) :
    lib.passArguments texts g = (.ok (parse argv g.memory).1,
      { g with memory := (parse argv g.memory).2 }.note (.commandArgs argv)) := by
  rw [passArguments, takes]
  simp only [h]

theorem passCounted_of_none (lacks : lib.entries.commandArgs = none) :
    lib.passCounted texts g = (.ok [], g) := by
  rw [passCounted, passArguments, lacks]

theorem passCounted_of_error {parse : Parser μ} (takes : lib.entries.commandArgs = some parse)
    (h : counted texts = .error f) : lib.passCounted texts g = (.error f, g) := by
  rw [passCounted, takes, h]

theorem passCounted_of_ok {argc : Int32} (h : counted texts = .ok (argc, argv)) :
    lib.passCounted texts g = lib.passArguments texts g := by
  rw [passCounted, h]
  cases lib.entries.commandArgs <;> rfl

/-- The number of texts makes no difference, unless a parser cannot be told it. -/
theorem passCounted_of_few (few : texts.length < 2 ^ 31) :
    lib.passCounted texts g = lib.passArguments texts g := by
  cases hmarshal : marshal texts with
  | ok blocks =>
    obtain ⟨argc, -, hok⟩ := counted_of_ok hmarshal few
    exact lib.passCounted_of_ok g hok
  | error f =>
    rw [passCounted, passArguments, counted_of_error hmarshal, hmarshal]
    cases lib.entries.commandArgs <;> rfl

/-- **What comes of handing over arguments**: a parser is called once, with all of them, or not at
all since they are refused. -/
theorem passCounted_cases (texts : List String) :
    (lib.entries.commandArgs = none ∧ lib.passCounted texts g = (.ok [], g)) ∨
    ∃ parse, lib.entries.commandArgs = some parse ∧
      ((Fit texts ∧ let argv := texts.map terminated
        lib.passCounted texts g = (.ok (parse argv g.memory).1,
          { g with memory := (parse argv g.memory).2 }.note (.commandArgs argv))) ∨
      ∃ f, Unfit texts f ∧ lib.passCounted texts g = (.error f, g)) := by
  cases takes : lib.entries.commandArgs with
  | none => exact .inl ⟨rfl, lib.passCounted_of_none g takes⟩
  | some parse =>
    refine .inr ⟨parse, rfl, ?_⟩
    obtain ⟨fit, argc, -, hok⟩ | ⟨f, unfit, herror⟩ := counted_cases texts
    · refine .inl ⟨fit, (lib.passCounted_of_ok g hok).trans ?_⟩
      exact lib.passArguments_of_ok g takes (marshal_of_counted hok)
    · exact .inr ⟨f, unfit, lib.passCounted_of_error g takes herror⟩

end Model.Library

end EdgeMeter
