import EdgeMeter.Measurement
import EdgeMeter.Proofs.Nearest

/-!
# Numbers and lines read back

A number with two places is written out in full: a sign or none, digits, a point and two digits.
Since it has no space, the line of a measurement falls apart again into the name and the number,
whatever characters the name has.

* `Numeral`: a number written out, and the hundredths that it denotes;
* `Binary64.twoPlaces_of_finite`: finite numbers are shown by a numeral;
* `cutLast?`, `Measurement.read?`: a line cut at its last space;
* **`Measurement.read?_line`**: a line tells the name and the number, and the number is the nearest
  with two places.
-/

namespace EdgeMeter

/-! ## Numerals -/

/-- **A number written out with two places**: a sign or none, digits of which the first is a zero
only if it is the only one, a point, and two more digits. -/
structure Numeral where
  negative : Bool
  whole : List Char
  places : List Char
  whole_ne_nil : whole ≠ []
  isDigit : ∀ c ∈ whole ++ places, c.isDigit
  eq_of_head : whole.head? = some '0' → whole = ['0']
  length_places : places.length = 2

namespace Numeral

/-- The sign of a number, if it is shown. -/
def sign (negative : Bool) : List Char := if negative then ['-'] else []

def text (t : Numeral) : String := .ofList (sign t.negative ++ t.whole ++ '.' :: t.places)

/-- **The hundredths that a numeral denotes.** -/
def hundredths (t : Numeral) : ℤ :=
  let h := Nat.ofDigitChars 10 (t.whole ++ t.places) 0
  if t.negative then -h else h

theorem toList_text (t : Numeral) :
    t.text.toList = sign t.negative ++ t.whole ++ '.' :: t.places := by
  rw [text, String.toList_ofList]

theorem sign_append_inj {negative negative' : Bool} {ds ds' : List Char}
    (digits : ∀ c ∈ ds, c.isDigit) (digits' : ∀ c ∈ ds', c.isDigit)
    (h : sign negative ++ ds = sign negative' ++ ds') : negative = negative' ∧ ds = ds' := by
  have hminus : ¬('-'.isDigit = true) := by decide
  cases negative <;> cases negative' <;> simp only [sign] at h
  · exact ⟨rfl, h⟩
  · subst h
    exact absurd (digits _ List.mem_cons_self) hminus
  · subst h
    exact absurd (digits' _ List.mem_cons_self) hminus
  · exact ⟨rfl, (List.cons.inj h).2⟩

theorem text_injective {t t' : Numeral} (h : t.text = t'.text) : t = t' := by
  have hchars := congrArg String.toList h
  rw [toList_text, toList_text] at hchars
  have hlength : ('.' :: t.places).length = ('.' :: t'.places).length := by
    rw [List.length_cons, List.length_cons, t.length_places, t'.length_places]
  obtain ⟨hfront, hback⟩ := List.append_inj' hchars hlength
  obtain ⟨negative, whole⟩ := sign_append_inj
    (fun c hc => t.isDigit c (List.mem_append_left _ hc))
    (fun c hc => t'.isDigit c (List.mem_append_left _ hc)) hfront
  obtain ⟨-, places⟩ := List.cons.inj hback
  cases t
  cases t'
  simp_all only

theorem space_not_mem_text (t : Numeral) : ' ' ∉ t.text.toList := by
  have hdigits : ' ' ∉ t.whole ++ t.places := fun hc => absurd (t.isDigit ' ' hc) (by decide)
  have hsign : ' ' ∉ sign t.negative := by
    cases t.negative <;> decide
  rw [toList_text]
  simp_all

theorem head_toDigits {n : ℕ} (h : (Nat.toDigits 10 n).head? = some '0') :
    Nat.toDigits 10 n = ['0'] := by
  induction n using Nat.strongRecOn with
  | ind n ih =>
    by_cases hn : n < 10
    · rw [Nat.toDigits_of_lt_base hn] at h ⊢
      simpa using h
    · -- the first digit is that of a smaller number, which would be zero
      have hlt : n / 10 < n := by omega
      rw [Nat.toDigits_of_base_le (by decide) (by omega), List.head?_append_of_ne_nil _
        Nat.toDigits_ne_nil] at h
      have hzero : n / 10 = 0 := by
        rw [← Nat.ofDigitChars_ten_toDigits (n := n / 10), ih (n / 10) hlt h]
        rfl
      omega

/-- The numeral of some hundredths. -/
def ofHundredths (negative : Bool) (h : ℕ) : Numeral where
  negative := negative
  whole := Nat.toDigits 10 (h / 100)
  places := [Nat.digitChar (h / 10 % 10), Nat.digitChar (h % 10)]
  whole_ne_nil := Nat.toDigits_ne_nil
  isDigit c hc := by
    rcases List.mem_append.mp hc with hc | hc
    · exact Nat.isDigit_of_mem_toDigits (by decide) (by decide) hc
    · rcases List.mem_pair.mp hc with rfl | rfl
      · rw [Nat.isDigit_digitChar]
        simp
        omega
      · rw [Nat.isDigit_digitChar]
        simp
        omega
  eq_of_head := head_toDigits
  length_places := rfl

theorem hundredths_ofHundredths (negative : Bool) (h : ℕ) :
    (ofHundredths negative h).hundredths = if negative then -(h : ℤ) else h := by
  have hvalue : Nat.ofDigitChars 10
      (Nat.toDigits 10 (h / 100) ++ [Nat.digitChar (h / 10 % 10), Nat.digitChar (h % 10)]) 0 =
      h := by
    rw [Nat.ofDigitChars_append, Nat.ofDigitChars_ten_toDigits,
      Nat.ofDigitChars_cons_digitChar_of_lt_ten (by omega),
      Nat.ofDigitChars_cons_digitChar_of_lt_ten (by omega), Nat.ofDigitChars_nil]
    omega
  simp only [hundredths, ofHundredths, hvalue]

end Numeral

namespace Binary64

theorem showHundredths_eq (h : ℕ) :
    showHundredths h = .ofList (Nat.toDigits 10 (h / 100) ++
      '.' :: [Nat.digitChar (h / 10 % 10), Nat.digitChar (h % 10)]) := by
  apply String.toList_injective
  have htens : h / 10 % 10 < 10 := by omega
  have hones : h % 10 < 10 := by omega
  simp [showHundredths, Nat.repr_eq_ofList_toDigits, Nat.toDigits_of_lt_base htens,
    Nat.toDigits_of_lt_base hones]

/-- **Finite numbers are shown by a numeral** with their sign and their hundredths. -/
theorem twoPlaces_of_finite {x : Binary64} (finite : x.isFinite) :
    x.twoPlaces = (Numeral.ofHundredths x.negative x.hundredths).text := by
  apply String.toList_injective
  rw [twoPlaces, isNaN_of_finite finite, isInfinite_of_finite finite, Numeral.toList_text,
    if_neg Bool.false_ne_true, if_neg Bool.false_ne_true, String.toList_append,
    showHundredths_eq, String.toList_ofList]
  cases x.negative <;> rfl

/-- **The numeral of a finite number denotes the nearest hundredths.** -/
theorem nearestMultiple_of_text {x : Binary64} (finite : x.isFinite) {t : Numeral}
    (h : x.twoPlaces = t.text) :
    t.negative = x.negative ∧ NearestMultiple (1 / 100) x.value t.hundredths := by
  rw [twoPlaces_of_finite finite] at h
  obtain rfl := Numeral.text_injective h
  refine ⟨rfl, ?_⟩
  rw [Numeral.hundredths_ofHundredths]
  exact x.nearestMultiple_signedHundredths

theorem twoPlaces_of_not_finite {x : Binary64} (h : x.isFinite = false) :
    x.twoPlaces = if x.isNaN then "NaN" else if x.negative then "-inf" else "inf" := by
  have hge : infinityMagnitude ≤ x.magnitude := by simpa [isFinite] using h
  unfold twoPlaces
  split
  · rfl
  · next hnan =>
    have hinfinite : x.isInfinite = true := by
      simp only [isNaN, decide_eq_true_eq] at hnan
      simp only [isInfinite, beq_iff_eq]
      omega
    rw [if_pos hinfinite]
    cases x.negative <;> rfl

theorem space_not_mem_twoPlaces (x : Binary64) : ' ' ∉ x.twoPlaces.toList := by
  cases finite : x.isFinite with
  | true =>
    rw [twoPlaces_of_finite finite]
    exact Numeral.space_not_mem_text _
  | false =>
    rw [twoPlaces_of_not_finite finite]
    split
    · decide
    · cases x.negative <;> decide

end Binary64

/-! ## Lines -/

/-- A list cut at the last `c` in it. -/
def cutLast? (c : Char) : List Char → Option (List Char × List Char)
  | [] => none
  | a :: rest =>
    match cutLast? c rest with
    | some (before, after) => some (a :: before, after)
    | none => if a = c then some ([], rest) else none

theorem cutLast?_eq_none {c : Char} {l : List Char} (h : c ∉ l) : cutLast? c l = none := by
  induction l with
  | nil => rfl
  | cons a l ih =>
    rw [List.mem_cons, not_or] at h
    rw [cutLast?, ih h.2, if_neg (Ne.symm h.1)]

theorem cutLast?_append {c : Char} (before : List Char) {after : List Char} (h : c ∉ after) :
    cutLast? c (before ++ c :: after) = some (before, after) := by
  induction before with
  | nil =>
    rw [List.nil_append, cutLast?, cutLast?_eq_none h]
    exact if_pos rfl
  | cons a before ih => rw [List.cons_append, cutLast?, ih]

namespace Measurement

/-- **The name and the number that a line tells**: what stands between the word it begins with and
its last space, and what stands after that. -/
def read? (line : String) : Option (String × String) := do
  let rest ← "BENCH ".toList.isPrefixOf? line.toList
  let (name, number) ← cutLast? ' ' rest
  return (.ofList name, .ofList number)

/-- **A line tells the name and the number**, whatever characters the name has; the number is told
to the nearest hundredth. -/
theorem read?_line (name : String) (x : Binary64) :
    let m : Measurement := ⟨name, x⟩
    m.line = "BENCH " ++ name ++ " " ++ x.twoPlaces ∧ ' ' ∉ x.twoPlaces.toList ∧
    read? m.line = some (name, x.twoPlaces) ∧
    (if x.isFinite then
      ∃ t : Numeral, x.twoPlaces = t.text ∧ t.negative = x.negative ∧
        NearestMultiple (1 / 100) x.value t.hundredths ∧
        ∀ y : Binary64, y.isFinite → x.value ≤ y.value →
          ∀ t' : Numeral, y.twoPlaces = t'.text → t.hundredths ≤ t'.hundredths
    else x.twoPlaces = if x.isNaN then "NaN" else if x.negative then "-inf" else "inf") := by
  intro m
  refine ⟨rfl, x.space_not_mem_twoPlaces, ?_, ?_⟩
  · have hline : m.line.toList = "BENCH ".toList ++ (name.toList ++ ' ' :: x.twoPlaces.toList) := by
      simp [m, line]
    rw [read?, hline, List.isPrefixOf?_eq_some_iff_append_eq.mpr rfl, Option.bind_eq_bind,
      Option.bind_some, cutLast?_append name.toList x.space_not_mem_twoPlaces]
    simp
  split
  · next finite =>
    have htext := Binary64.twoPlaces_of_finite finite
    obtain ⟨hsign, hnearest⟩ := Binary64.nearestMultiple_of_text finite htext
    refine ⟨_, htext, hsign, hnearest, fun y finite' hxy t' htext' => ?_⟩
    exact hnearest.mono (Binary64.nearestMultiple_of_text finite' htext').2 (by norm_num) hxy
  · next finite => exact Binary64.twoPlaces_of_not_finite (Bool.eq_false_iff.mpr finite)

/-- Ties go to the even hundredth, under a name of two words and an end of line; a sign is shown
also of what rounds to zero. -/
theorem read?_line_ties :
    let name := "two words\n"
    let low : Binary64 := ⟨0x3FC0000000000000⟩
    let high : Binary64 := ⟨0x3FD8000000000000⟩
    let tiny : Binary64 := ⟨0xBF50624DD2F1A9FC⟩
    read? (line ⟨name, low⟩) = some (name, "0.12") ∧
      read? (line ⟨name, high⟩) = some (name, "0.38") ∧
      read? (line ⟨name, tiny⟩) = some (name, "-0.00") ∧
      high.isFinite ∧ low.value ≤ high.value ∧
      ∃ t t' : Numeral, t.text = "0.12" ∧ t'.text = "0.38" ∧ t.hundredths ≤ t'.hundredths := by
  intro name low high tiny
  have hlow : low.twoPlaces = "0.12" := by decide +kernel
  have hhigh : high.twoPlaces = "0.38" := by decide +kernel
  have htiny : tiny.twoPlaces = "-0.00" := by decide +kernel
  have finite : high.isFinite := by decide +kernel
  have hle : low.value ≤ high.value := by decide +kernel
  have readLow := read?_line name low
  have readHigh := read?_line name high
  have readTiny := read?_line name tiny
  rw [hlow] at readLow
  rw [hhigh] at readHigh
  rw [htiny] at readTiny
  obtain ⟨-, -, hreadLow, t, ht, -, -, mono⟩ := readLow
  obtain ⟨-, -, hreadHigh, t', ht', -, -, -⟩ := readHigh
  exact ⟨hreadLow, hreadHigh, readTiny.2.2.1, finite, hle, t, t', ht.symm, ht'.symm,
    mono high finite hle t' (hhigh.trans ht')⟩

end Measurement

end EdgeMeter
