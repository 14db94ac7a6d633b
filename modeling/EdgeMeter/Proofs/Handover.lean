import EdgeMeter.Proofs.Decoding
import EdgeMeter.Proofs.Passing
import EdgeMeter.Text.Utf8.Lemmas

/-!
# Arguments as a parser reads them

A parser finds the arguments in memory: it is told how many there are and where each begins, and
reads each byte by byte up to the first zero. It reads the texts that were passed, all of them and
nothing else, since no text with a zero inside is passed at all.

* `Memory.Has`, `Memory.Reads`, `Memory.ReadsAll`: bytes in memory, and what a reader makes of them;
* `Arguments.Conveys`: blocks from which some texts are read back;
* `Arguments.conveys_terminated`: texts without zeros inside are conveyed by what is passed;
* **`Model.Library.passCounted_conveys`**: what a parser is called with, if it is called.
-/

namespace EdgeMeter

/-! ## Memory -/

/-- The byte at an address, if there is one. -/
abbrev Memory : Type := Nat → Option UInt8

namespace Memory

variable {mem : Memory} {p argc : Nat} {b : UInt8} {bs bs' : Bytes}

/-- Some bytes lie in memory, from an address on. -/
def Has (mem : Memory) (p : Nat) (bs : Bytes) : Prop := ∀ i < bs.length, mem (p + i) = bs[i]?

/-- **A terminated string is read** byte by byte, up to the first zero. -/
inductive Reads (mem : Memory) : Nat → Bytes → Prop where
  | stop {p : Nat} : mem p = some 0 → Reads mem p []
  | next {p : Nat} {b : UInt8} {bs : Bytes} :
    mem p = some b → b ≠ 0 → Reads mem (p + 1) bs → Reads mem p (b :: bs)

/-- **So many strings are read**, each from an address of its own. -/
structure ReadsAll (mem : Memory) (argc : Nat) (argv : Nat → Nat) (strings : List Bytes) :
    Prop where
  length : strings.length = argc
  reads : ∀ i s, strings[i]? = some s → mem.Reads (argv i) s

theorem Has.head (h : mem.Has p (b :: bs)) : mem p = some b := h 0 (Nat.succ_pos _)

theorem Has.tail (h : mem.Has p (b :: bs)) : mem.Has (p + 1) bs := by
  intro i hi
  have hnext : mem (p + (i + 1)) = bs[i]? := h (i + 1) (Nat.succ_lt_succ hi)
  rwa [Nat.add_comm i 1, ← Nat.add_assoc] at hnext

theorem Has.reads (h : mem.Has p (bs ++ [0])) (nonzero : 0 ∉ bs) : mem.Reads p bs := by
  induction bs generalizing p with
  | nil => exact .stop h.head
  | cons b bs ih =>
    rw [List.mem_cons, not_or] at nonzero
    exact .next h.head (Ne.symm nonzero.1) (ih h.tail nonzero.2)

theorem Reads.unique (h : mem.Reads p bs) (h' : mem.Reads p bs') : bs = bs' := by
  induction h generalizing bs' with
  | stop hzero =>
    cases h' with
    | stop => rfl
    | next hb ne => exact absurd (Option.some.inj (hb.symm.trans hzero)) ne
  | next hb ne _ ih =>
    cases h' with
    | stop hzero => exact absurd (Option.some.inj (hb.symm.trans hzero)) ne
    | next hb' _ rest =>
      obtain rfl := Option.some.inj (hb.symm.trans hb')
      rw [ih rest]

theorem ReadsAll.unique {argv : Nat → Nat} {strings strings' : List Bytes}
    (h : mem.ReadsAll argc argv strings) (h' : mem.ReadsAll argc argv strings') :
    strings = strings' := by
  refine List.ext_getElem (h.length.trans h'.length.symm) fun i hi hi' => ?_
  exact (h.reads i _ (List.getElem?_eq_getElem hi)).unique
    (h'.reads i _ (List.getElem?_eq_getElem hi'))

theorem exists_has (blocks : List Bytes) :
    ∃ (mem : Memory) (argv : Nat → Nat), ∀ i b, blocks[i]? = some b → mem.Has (argv i) b := by
  refine ⟨fun p => blocks.flatten[p]?, fun i => (blocks.take i).flatten.length, ?_⟩
  intro i b hb j hj
  obtain ⟨hi, rfl⟩ := List.getElem?_eq_some_iff.mp hb
  -- a block begins where those before it end
  have hsplit : blocks.flatten =
      (blocks.take i).flatten ++ (blocks[i] ++ (blocks.drop (i + 1)).flatten) := by
    rw [← List.flatten_cons, ← List.drop_eq_getElem_cons hi, ← List.flatten_append,
      List.take_append_drop]
  rw [hsplit]
  dsimp only
  rw [List.getElem?_append_right (Nat.le_add_right _ _), Nat.add_sub_cancel_left,
    List.getElem?_append_left hj]

end Memory

/-! ## Bytes of texts -/

/-- No byte of a character is zero, unless the character is. -/
theorem Utf8.eq_of_zero_mem {c : Char} (h : 0 ∈ String.utf8EncodeChar c) : c = '\x00' := by
  have hzero : ∀ n, 0 = UInt8.ofNat n → n % 256 = 0 := fun n hn => (UInt8.toNat_inj.mpr hn).symm
  obtain ⟨v, hvalid, rfl⟩ : ∃ v, v.isValidChar ∧ .ofNat v = c := ⟨c.toNat, c.valid, c.ofNat_toNat⟩
  have hv : v < 0xD800 ∨ 0xDFFF < v ∧ v < 0x110000 := hvalid
  rcases Nat.lt_or_ge v 0x80 with h1 | h1
  · rw [encodeChar_one h1, List.mem_singleton] at h
    have := hzero v h
    obtain rfl : v = 0 := by omega
    rfl
  exfalso
  rcases Nat.lt_or_ge v 0x800 with h2 | h2
  · rw [encodeChar_two h1 h2] at h
    simp only [List.mem_cons, List.not_mem_nil, or_false] at h
    have := h.imp (hzero _) (hzero _)
    omega
  rcases Nat.lt_or_ge v 0x10000 with h3 | h3
  · rw [encodeChar_three h2 h3 hvalid] at h
    simp only [List.mem_cons, List.not_mem_nil, or_false] at h
    have := h.imp (hzero _) (Or.imp (hzero _) (hzero _))
    omega
  · rw [encodeChar_four h3 (by omega)] at h
    simp only [List.mem_cons, List.not_mem_nil, or_false] at h
    have := h.imp (hzero _) (Or.imp (hzero _) (Or.imp (hzero _) (hzero _)))
    omega

namespace Arguments

theorem zero_not_mem {text : String} (h : ¬HasZero text) : 0 ∉ Bytes.ofString text := by
  intro hzero
  obtain ⟨c, hc, hmem⟩ := List.mem_flatMap.mp hzero
  rw [Utf8.eq_of_zero_mem hmem] at hc
  exact h hc

/-! ## What is conveyed -/

/-- **Blocks convey texts**: there is one for each, of the bytes of the text and one more; and
wherever the blocks lie in memory, a reader who is told how many there are reads the bytes of the
texts, and nothing else. -/
structure Conveys (texts : List String) (blocks : List Bytes) : Prop where
  length : blocks.length = texts.length
  sizes : blocks.map List.length = texts.map fun text => text.utf8ByteSize + 1
  lies : ∃ (mem : Memory) (argv : Nat → Nat), ∀ i b, blocks[i]? = some b → mem.Has (argv i) b
  reads : ∀ (mem : Memory) (argv : Nat → Nat), (∀ i b, blocks[i]? = some b → mem.Has (argv i) b) →
    ∀ strings, mem.ReadsAll blocks.length argv strings ↔
      strings = texts.map fun text => text.toUTF8.data.toList

theorem conveys_terminated {texts : List String} (fit : ∀ text ∈ texts, ¬HasZero text) :
    Conveys texts (texts.map terminated) where
  length := List.length_map _
  sizes := by
    rw [List.map_map]
    refine List.map_congr_left fun text _ => ?_
    simp [terminated, Bytes.length_ofString]
  lies := Memory.exists_has _
  reads mem argv lies strings := by
    have hreads : mem.ReadsAll (texts.map terminated).length argv (texts.map Bytes.ofString) := by
      refine ⟨by simp, fun i s hs => ?_⟩
      rw [List.getElem?_map] at hs
      obtain ⟨text, htext, rfl⟩ := Option.map_eq_some_iff.mp hs
      refine Memory.Has.reads (lies i (terminated text) ?_)
        (zero_not_mem (fit text (List.mem_of_getElem? htext)))
      rw [List.getElem?_map, htext]
      rfl
    rw [← List.map_congr_left fun text _ => Bytes.ofString_eq text]
    exact ⟨fun h => h.unique hreads, fun h => h ▸ hreads⟩

end Arguments

namespace Model.Library

open Arguments

/-- **What a parser is called with**: texts without zeros inside, as blocks from which they are read
back, and their number. -/
theorem passCounted_conveys :
    (∀ texts, ((∃ blocks, marshal texts = .ok blocks) ↔ ∀ text ∈ texts, ¬HasZero text) ∧
      ∀ blocks, marshal texts = .ok blocks → Conveys texts blocks) ∧
    (∀ before a after, (∀ text ∈ before, ¬HasZero text) → HasZero a →
      ∃ f, marshal (before ++ a :: after) = .error f ∧
        f.message = "argument contains an interior NUL byte: " ++ Text.quote a) ∧
    (∀ texts, (∀ f, marshal texts = .error f → counted texts = .error f) ∧
      ∀ blocks, marshal texts = .ok blocks →
        (texts.length < 2 ^ 31 →
          ∃ argc : Int32, argc.toInt = texts.length ∧ counted texts = .ok (argc, blocks)) ∧
        (2 ^ 31 ≤ texts.length → counted texts = .error (.reported "too many arguments"))) ∧
    ∀ {μ : Type} (lib : Library μ) (texts : List String) (g : Guest μ),
      (lib.entries.commandArgs = none → lib.passCounted texts g = (.ok [], g)) ∧
      (∀ parse, lib.entries.commandArgs = some parse →
        (∀ argc argv, counted texts = .ok (argc, argv) →
          lib.passCounted texts g = (.ok (parse argv g.memory).1,
            { g with memory := (parse argv g.memory).2 }.note (.commandArgs argv))) ∧
        ∀ f, counted texts = .error f → lib.passCounted texts g = (.error f, g)) ∧
      (texts.length < 2 ^ 31 → lib.passCounted texts g = lib.passArguments texts g) := by
  refine ⟨fun texts => ⟨⟨?_, fun fit => ?_⟩, fun blocks hok => ?_⟩,
    fun before a after fit unfit => ?_,
    fun texts => ⟨fun f => counted_of_error, fun blocks hok => ?_⟩, fun lib texts g => ?_⟩
  · rintro ⟨blocks, hok⟩
    exact (marshal_eq_ok_iff.mp hok).1
  · exact ⟨_, marshal_eq_ok_iff.mpr ⟨fit, rfl⟩⟩
  · obtain ⟨fit, rfl⟩ := marshal_eq_ok_iff.mp hok
    exact conveys_terminated fit
  · refine ⟨_, marshal_eq_error_iff.mpr ⟨a, ?_, rfl⟩, rfl⟩
    refine List.find?_eq_some_iff_append.mpr ⟨decide_eq_true unfit, before, after, rfl, ?_⟩
    exact fun text htext => by simpa using fit text htext
  · exact ⟨counted_of_ok hok, counted_of_many hok⟩
  · refine ⟨lib.passCounted_of_none g, fun parse takes => ⟨?_, ?_⟩, lib.passCounted_of_few g⟩
    · intro argc argv hcounted
      rw [lib.passCounted_of_ok g hcounted]
      exact lib.passArguments_of_ok g takes (marshal_of_counted hcounted)
    · exact fun f herror => lib.passCounted_of_error g takes herror

end Model.Library

end EdgeMeter
