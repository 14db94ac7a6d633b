import EdgeMeter.Model.Choice
import EdgeMeter.Proofs.RawArguments

/-!
# Which model is chosen

The variable that names the library is looked up once, and nothing else is. The built-in bank is
chosen if it is unset or holds the encoding of white space; anything else is a path, byte for byte,
be it text or not.

* `Text.whiteSpace`: the code points with the property White_Space;
* `Blank`, `Text.isBlank_iff`: encodings of white space;
* `Environment.only`: the entries for one name;
* `Model.Choice.noting`: a way to look up variables that takes down what it is asked for;
* **`Model.Choice.read_selects`**: the choice by any way to look up variables.
-/

namespace EdgeMeter

/-! ## White space -/

namespace Text

/-- **The code points with the property White_Space.** -/
def whiteSpace : List ℕ :=
  [0x9, 0xA, 0xB, 0xC, 0xD, 0x20, 0x85, 0xA0, 0x1680, 0x2000, 0x2001, 0x2002, 0x2003, 0x2004,
   0x2005, 0x2006, 0x2007, 0x2008, 0x2009, 0x200A, 0x2028, 0x2029, 0x202F, 0x205F, 0x3000]

theorem isWhite_iff {c : Char} : isWhite c ↔ c.toNat ∈ whiteSpace := by
  simp only [isWhite, inRanges, whiteRanges, whiteSpace, List.any_cons, List.any_nil,
    Bool.or_eq_true, Bool.and_eq_true, decide_eq_true_eq, Bool.false_eq_true, List.mem_cons,
    List.not_mem_nil, or_false]
  omega

end Text

/-- **Bytes that encode white space**, or nothing at all. -/
def Blank (bs : Bytes) : Prop :=
  ∃ cs : List Char, (∀ c ∈ cs, c.toNat ∈ Text.whiteSpace) ∧ Utf8.encode cs = bs

theorem Text.isBlank_iff {bs : Bytes} : isBlank bs ↔ Blank bs := by
  unfold isBlank
  cases hdecode : Utf8.decode? bs with
  | none =>
    refine ⟨nofun, fun ⟨cs, _, hcs⟩ => ?_⟩
    rw [Utf8.decode?_eq_some_iff.mpr hcs] at hdecode
    cases hdecode
  | some cs =>
    have hcs := Utf8.decode?_eq_some_iff.mp hdecode
    constructor
    · intro white
      exact ⟨cs, fun c hc => isWhite_iff.mp (List.all_eq_true.mp white c hc), hcs⟩
    · rintro ⟨cs', white, hcs'⟩
      -- a string of bytes encodes one text at most
      rw [Utf8.decode?_eq_some_iff.mpr hcs'] at hdecode
      obtain rfl := Option.some.inj hdecode
      exact List.all_eq_true.mpr fun c hc => isWhite_iff.mpr (white c hc)

instance : DecidablePred Blank := fun _ => decidable_of_iff _ Text.isBlank_iff

/-! ## What is not blank -/

theorem Blank.readable {bs : Bytes} (blank : Blank bs) : Readable bs := by
  obtain ⟨cs, -, hcs⟩ := blank
  exact readable_iff.mpr ⟨cs, Utf8.decode?_eq_some_iff.mpr hcs⟩

theorem Blank.zero_not_mem {bs : Bytes} (blank : Blank bs) : 0 ∉ bs := by
  have hwhite : ∀ v ∈ Text.whiteSpace, 0 ∉ String.utf8EncodeChar (.ofNat v) := by decide
  obtain ⟨cs, white, rfl⟩ := blank
  intro hzero
  obtain ⟨c, hc, hmem⟩ := List.mem_flatMap.mp hzero
  have hnot := hwhite c.toNat (white c hc)
  rw [c.ofNat_toNat] at hnot
  exact hnot hmem

theorem Blank.mem_whiteSpace {cs : List Char} (blank : Blank (Utf8.encode cs)) {c : Char}
    (hc : c ∈ cs) : c.toNat ∈ Text.whiteSpace := by
  obtain ⟨cs', white, hcs'⟩ := blank
  have heq := (Utf8.decode?_eq_some_iff.mpr hcs').symm.trans (Utf8.decode?_eq_some_iff.mpr rfl)
  exact white c (Option.some.inj heq ▸ hc)

/-! ## Variables of the environment -/

/-- The entries of an environment that are for one name. -/
def Environment.only (name : String) (env : Environment) : Environment :=
  ⟨env.entries.filter (heading name).isPrefixOf⟩

/-- **A variable is told by its own entries.** -/
theorem Environment.value?_only (name : String) (env : Environment) :
    (env.only name).value? name = env.value? name := by
  unfold value? values only
  rw [List.filterMap_filter]
  congr 2
  funext entry
  split
  · rfl
  · next other =>
    rw [← List.isSome_isPrefixOf?_eq_isPrefixOf] at other
    exact (Option.not_isSome_iff_eq_none.mp other).symm

/-! ## The choice -/

namespace Model.Choice

theorem ofValue_some (bs : Bytes) :
    ofValue (some bs) = if Blank bs then .builtin else .library bs :=
  if_congr Text.isBlank_iff rfl rfl

theorem ofValue_eq_builtin_iff {value : Option Bytes} :
    ofValue value = .builtin ↔ value = none ∨ ∃ bs, value = some bs ∧ Blank bs := by
  cases value with
  | none => exact ⟨fun _ => .inl rfl, fun _ => rfl⟩
  | some bs =>
    rw [ofValue_some]
    split <;> simp_all

theorem ofValue_eq_library_iff {value : Option Bytes} {path : Bytes} :
    ofValue value = .library path ↔ value = some path ∧ ¬Blank path := by
  cases value with
  | none => exact ⟨nofun, nofun⟩
  | some bs =>
    rw [ofValue_some]
    split
    · next blank =>
      refine ⟨nofun, ?_⟩
      rintro ⟨hbs, filled⟩
      exact absurd (Option.some.inj hbs ▸ blank) filled
    · next filled =>
      rw [library.injEq, Option.some.injEq, iff_self_and]
      rintro rfl
      exact filled

variable {σ : Type}

/-- A way to look up variables that takes down what it is asked for. -/
def noting (lookup : String → StateM σ (Option Bytes)) (name : String) :
    StateT (List String) (StateM σ) (Option Bytes) := do
  modify (· ++ [name])
  lookup name

theorem run_read (lookup : String → StateM σ (Option Bytes)) (s : σ) :
    (read lookup).run s =
      (ofValue ((lookup variableName).run s).1, ((lookup variableName).run s).2) := rfl

theorem run_read_noting (lookup : String → StateM σ (Option Bytes)) (s : σ) :
    ((read (noting lookup)).run []).run s =
      ((((read lookup).run s).1, [variableName]), ((read lookup).run s).2) :=
  rfl

/-- **The choice by any way to look up variables**: one is looked up, once, and the built-in bank is
chosen if it is unset or blank. -/
theorem read_selects (lookup : String → StateM σ (Option Bytes)) (s : σ) :
    let (answer, s') := (lookup "TICKBENCH_MODEL_DSO").run s
    let ((choice, asked), s'') := ((read (noting lookup)).run []).run s
    asked = ["TICKBENCH_MODEL_DSO"] ∧ s'' = s' ∧
    (choice = .builtin ↔ answer = none ∨ ∃ bs, answer = some bs ∧ Blank bs) ∧
    (∀ path, choice = .library path ↔ answer = some path ∧ ¬Blank path) ∧
    (∀ bs, answer = some bs →
      (¬Readable bs ∨ 0 ∈ bs ∨ ∃ cs, Utf8.encode cs = bs ∧ ∃ c ∈ cs, c.toNat ∉ Text.whiteSpace) →
      choice = .library bs) ∧
    (∀ {ρ : Type} (other : String → StateM ρ (Option Bytes)) (t : ρ),
      ((other "TICKBENCH_MODEL_DSO").run t).1 = answer → ((read other).run t).1 = choice) ∧
    ∀ env : Environment, ofEnvironment env = read (m := Id) env.value? ∧
      ofEnvironment env = ofEnvironment (env.only "TICKBENCH_MODEL_DSO") ∧
      (env.value? "TICKBENCH_MODEL_DSO" = answer → ofEnvironment env = choice) := by
  rw [run_read_noting, run_read]
  refine ⟨rfl, rfl, ofValue_eq_builtin_iff, fun path => ofValue_eq_library_iff, ?_, ?_, ?_⟩
  · intro bs hbs odd
    refine ofValue_eq_library_iff.mpr ⟨hbs, fun blank => ?_⟩
    rcases odd with unreadable | zero | ⟨cs, rfl, c, hc, hother⟩
    · exact unreadable blank.readable
    · exact blank.zero_not_mem zero
    · exact hother (blank.mem_whiteSpace hc)
  · intro ρ other t hsame
    rw [run_read]
    exact congrArg ofValue hsame
  · intro env
    exact ⟨rfl, congrArg ofValue (env.value?_only variableName).symm, congrArg ofValue⟩

/-- Wide spaces leave the built-in bank; with a stray byte after them, or around a path, they are
part of a path, and so are spaces without width. -/
theorem read_selects_spaces :
    let lookup (value : Bytes) (name : String) : StateM ℕ (Option Bytes) := do
      modify (· + 1)
      return if name = "TICKBENCH_MODEL_DSO" then some value else none
    let run (value : Bytes) := ((read (noting (lookup value))).run []).run 0
    let wide := Bytes.ofString "\u3000\u2003"
    let stray := wide ++ [0xE2, 0x80]
    let padded := Bytes.ofString "\u3000./libtop.so "
    let narrow := Bytes.ofString "\u200B"
    run wide = ((.builtin, ["TICKBENCH_MODEL_DSO"]), 1) ∧
      run stray = ((.library stray, ["TICKBENCH_MODEL_DSO"]), 1) ∧
      run padded = ((.library padded, ["TICKBENCH_MODEL_DSO"]), 1) ∧
      run narrow = ((.library narrow, ["TICKBENCH_MODEL_DSO"]), 1) := by
  intro lookup run wide stray padded narrow
  have blank : Blank wide := by decide +kernel
  have filled : ¬Blank stray ∧ ¬Blank padded ∧ ¬Blank narrow := by decide +kernel
  have selects (value : Bytes) := read_selects (lookup value) 0
  have library {value : Bytes} (filled : ¬Blank value) :
      run value = ((.library value, ["TICKBENCH_MODEL_DSO"]), 1) := by
    obtain ⟨hasked, hstate, -, hlibrary, -⟩ := selects value
    exact Prod.ext (Prod.ext ((hlibrary value).mpr ⟨rfl, filled⟩) hasked) hstate
  obtain ⟨hasked, hstate, hbuiltin, -⟩ := selects wide
  refine ⟨?_, library filled.1, library filled.2.1, library filled.2.2⟩
  exact Prod.ext (Prod.ext (hbuiltin.mpr (.inr ⟨wide, rfl, blank⟩)) hasked) hstate

end Model.Choice

end EdgeMeter
