import EdgeMeter.Proofs.Handover
import EdgeMeter.Proofs.Selection

/-!
# Quoted text read back

What stands between quotes is read back character by character: an escape is told by its backslash,
and how far it goes is told by what comes next, whatever follows. Bytes that are no text come back
as bytes, so that neither a text nor a path is ever shown like another.

* `Atom`, `Place`, `readFrom`: a reader of quoted text;
* `unquote?`, `unquoteBytes?`: a text and a string of bytes read back;
* `escape_cases`: what is written for a character;
* `readFrom_escape`, `readFrom_escapeByte`: what is written for a character or a byte is read as it;
* `unquote?_quote`, `unquoteBytes?_quoteBytes`: what is quoted is read back;
* `IsControl`, `shown_quote`: what is never shown as it is;
* **`diagnostics_unambiguous`**: messages and descriptions tell the text or path that they quote.
-/

namespace EdgeMeter

namespace Text

/-! ## A reader -/

/-- What can stand between quotes: characters, and bytes that are no text. -/
inductive Atom where
  | char (c : Char)
  | byte (b : UInt8)
deriving DecidableEq

def Atom.bytes : Atom → Bytes
  | .char c => String.utf8EncodeChar c
  | .byte b => [b]

def Atom.char? : Atom → Option Char
  | .char c => some c
  | .byte _ => none

theorem Atom.char?_eq_some_iff {a : Atom} {c : Char} : a.char? = some c ↔ .char c = a := by
  cases a with
  | char c' => rw [char?, Option.some.injEq, char.injEq, eq_comm]
  | byte b => exact ⟨nofun, nofun⟩

/-- Where a reader stands. -/
inductive Place where
  | plain
  /-- After a backslash. -/
  | escape
  /-- Before the brace that opens a code point. -/
  | brace
  /-- Among the digits of a code point, after some that amount to `v`. -/
  | code (v : Nat)
  /-- Before the first digit of a byte. -/
  | high
  /-- Before the second digit of a byte. -/
  | low (v : Nat)

def hexDigit? (c : Char) : Option Nat :=
  if '0' ≤ c ∧ c ≤ '9' then some (c.toNat - 48)
  else if 'a' ≤ c ∧ c ≤ 'f' then some (c.toNat - 87)
  else if 'A' ≤ c ∧ c ≤ 'F' then some (c.toNat - 55)
  else none

/-- The character that one letter after a backslash stands for. -/
def short? (c : Char) : Option Char :=
  if c = '0' then some '\x00'
  else if c = 't' then some '\t'
  else if c = 'n' then some '\n'
  else if c = 'r' then some '\r'
  else if c = '"' ∨ c = '\\' then some c
  else none

/-- Atoms that come before those still to be read. -/
def emit (as : List Atom) (read : Option (List Atom × List Char)) :
    Option (List Atom × List Char) :=
  read.map fun (bs, rest) => (as ++ bs, rest)

/-- **Read quoted text** up to its closing quote: its atoms, and what comes after it. -/
def readFrom : Place → List Char → Option (List Atom × List Char)
  | _, [] => none
  | .plain, c :: cs =>
    if c = '"' then some ([], cs)
    else if c = '\\' then readFrom .escape cs
    else emit [.char c] (readFrom .plain cs)
  | .escape, c :: cs =>
    if c = 'u' then readFrom .brace cs
    else if c = 'x' then readFrom .high cs
    else (short? c).bind fun c' => emit [.char c'] (readFrom .plain cs)
  | .brace, c :: cs => if c = '{' then readFrom (.code 0) cs else none
  | .code v, c :: cs =>
    if c = '}' then emit [.char (.ofNat v)] (readFrom .plain cs)
    else (hexDigit? c).bind fun d => readFrom (.code (16 * v + d)) cs
  | .high, c :: cs => (hexDigit? c).bind fun d => readFrom (.low d) cs
  | .low v, c :: cs =>
    (hexDigit? c).bind fun d => emit [.byte (.ofNat (16 * v + d))] (readFrom .plain cs)

/-- The atoms of a text that is quoted from its beginning to its end. -/
def atoms? (quoted : String) : Option (List Atom) :=
  match quoted.toList with
  | '"' :: cs =>
    match readFrom .plain cs with
    | some (as, []) => some as
    | _ => none
  | _ => none

/-- **The text that is quoted.** -/
def unquote? (quoted : String) : Option String :=
  (atoms? quoted).bind fun as => (as.mapM Atom.char?).map String.ofList

/-- **The bytes that are quoted**, text or not. -/
def unquoteBytes? (quoted : String) : Option Bytes :=
  (atoms? quoted).map fun as => as.flatMap Atom.bytes

/-- The characters that have escapes of their own, each with its letter. -/
def letters : List (Char × Char) :=
  [('\x00', '0'), ('\t', 't'), ('\n', 'n'), ('\r', 'r'), ('"', '"'), ('\\', '\\')]

theorem short?_of_mem_letters {c x : Char} (h : (c, x) ∈ letters) :
    short? x = some c ∧ x ≠ 'u' ∧ x ≠ 'x' := by
  have hall : letters.all fun p => short? p.2 = some p.1 ∧ p.2 ≠ 'u' ∧ p.2 ≠ 'x' := by decide
  exact of_decide_eq_true (List.all_eq_true.mp hall _ h)

/-! ## What is written is read -/

variable {rest : List Char}

theorem emit_emit (as bs : List Atom) (read : Option (List Atom × List Char)) :
    emit as (emit bs read) = emit (as ++ bs) read := by
  cases read <;> simp [emit]

theorem hexDigit?_digitChar {d : Nat} (h : d < 16) :
    hexDigit? (Nat.digitChar d) = some d ∧ hexDigit? (Nat.digitChar d).toUpper = some d ∧
      Nat.digitChar d ≠ '}' := by
  have hall : ∀ d < 16, hexDigit? (Nat.digitChar d) = some d ∧
      hexDigit? (Nat.digitChar d).toUpper = some d ∧ Nat.digitChar d ≠ '}' := by decide
  exact hall d h

theorem readFrom_code_digit (v : Nat) {d : Nat} (h : d < 16) :
    readFrom (.code v) (Nat.digitChar d :: rest) = readFrom (.code (16 * v + d)) rest := by
  obtain ⟨hd, -, hne⟩ := hexDigit?_digitChar h
  rw [readFrom, if_neg hne, hd]
  rfl

theorem readFrom_code_digits (n : Nat) (rest : List Char) :
    readFrom (.code 0) (Nat.toDigits 16 n ++ rest) = readFrom (.code n) rest := by
  -- the digits of `n` are those of `n / 16`, by which the reader has got to `n / 16`, and one more
  induction n using Nat.strongRecOn generalizing rest with
  | ind n ih =>
    by_cases hn : n < 16
    · rw [Nat.toDigits_of_lt_base hn, List.singleton_append, readFrom_code_digit 0 hn]
      congr 2
      omega
    · rw [Nat.toDigits_of_base_le (by decide) (by omega), List.append_assoc, List.singleton_append,
        ih (n / 16) (by omega), readFrom_code_digit _ (Nat.mod_lt n (by decide)), Nat.div_add_mod]

/-- **What is written for a character**: a backslash and a letter, its code point, or itself. -/
theorem escape_cases (c : Char) :
    (∃ x, (c, x) ∈ letters ∧ escape c = ['\\', x]) ∨ escape c = escapeCode c ∨
      c ≠ '"' ∧ c ≠ '\\' ∧ ¬isHidden c ∧ escape c = [c] := by
  unfold escape
  split
  · next h =>
    subst h
    exact .inl ⟨'0', by decide, rfl⟩
  split
  · next h =>
    subst h
    exact .inl ⟨'t', by decide, rfl⟩
  split
  · next h =>
    subst h
    exact .inl ⟨'n', by decide, rfl⟩
  split
  · next h =>
    subst h
    exact .inl ⟨'r', by decide, rfl⟩
  split
  · next h =>
    subst h
    exact .inl ⟨'"', by decide, rfl⟩
  split
  · next h =>
    subst h
    exact .inl ⟨'\\', by decide, rfl⟩
  split
  · exact .inr (.inl rfl)
  · next quote backslash open_ =>
    refine .inr (.inr ⟨quote, backslash, fun hidden => open_ ?_, rfl⟩)
    rw [hidden, Bool.or_true]

theorem readFrom_escape (c : Char) (rest : List Char) :
    readFrom .plain (escape c ++ rest) = emit [.char c] (readFrom .plain rest) := by
  rcases escape_cases c with ⟨x, hx, h⟩ | h | ⟨quote, backslash, -, h⟩
  · obtain ⟨hshort, hcode, hbyte⟩ := short?_of_mem_letters hx
    rw [h]
    -- the backslash is read
    change readFrom .escape (x :: rest) = _
    rw [readFrom, if_neg hcode, if_neg hbyte, hshort, Option.bind_some]
  · rw [h]
    -- the backslash, the letter and the opening brace are read
    change readFrom (.code 0) (Nat.toDigits 16 c.toNat ++ ['}'] ++ rest) = _
    rw [List.append_assoc, readFrom_code_digits, List.singleton_append, readFrom, if_pos rfl,
      c.ofNat_toNat]
  · rw [h, List.singleton_append, readFrom, if_neg quote, if_neg backslash]

theorem readFrom_escapeByte (b : UInt8) (rest : List Char) :
    readFrom .plain (escapeByte b ++ rest) = emit [.byte b] (readFrom .plain rest) := by
  have hhigh : b.toNat / 16 < 16 := by
    have := b.toNat_lt
    omega
  have hlow : b.toNat % 16 < 16 := Nat.mod_lt _ (by decide)
  obtain ⟨-, hh, -⟩ := hexDigit?_digitChar hhigh
  obtain ⟨-, hl, -⟩ := hexDigit?_digitChar hlow
  rw [escapeByte, Nat.toDigits_of_lt_base hhigh, Nat.toDigits_of_lt_base hlow]
  change readFrom .high
    ((Nat.digitChar (b.toNat / 16)).toUpper :: (Nat.digitChar (b.toNat % 16)).toUpper :: rest) = _
  rw [readFrom, hh, Option.bind_some, readFrom, hl, Option.bind_some, Nat.div_add_mod,
    UInt8.ofNat_toNat]

theorem readFrom_flatMap {α : Type} {write : α → List Char} {as : α → List Atom}
    (h : ∀ a rest, readFrom .plain (write a ++ rest) = emit (as a) (readFrom .plain rest))
    (l : List α) (rest : List Char) :
    readFrom .plain (l.flatMap write ++ rest) = emit (l.flatMap as) (readFrom .plain rest) := by
  induction l with
  | nil => cases hrest : readFrom .plain rest <;> simp [emit, hrest]
  | cons a l ih => rw [List.flatMap_cons, List.append_assoc, h, ih, emit_emit, List.flatMap_cons]

theorem atoms?_of_readFrom {cs : List Char} {as : List Atom}
    (h : readFrom .plain (cs ++ ['"']) = emit as (some ([], []))) :
    atoms? (.ofList ('"' :: cs ++ ['"'])) = some as := by
  rw [atoms?, String.toList_ofList, List.cons_append]
  simp only [h, emit, Option.map_some, List.append_nil]

/-- **A text is read back.** -/
theorem unquote?_quote (s : String) : unquote? (quote s) = some s := by
  have hread := readFrom_flatMap readFrom_escape s.toList ['"']
  rw [← List.map_eq_flatMap] at hread
  have hchars : (s.toList.map Atom.char).mapM Atom.char? = some s.toList :=
    (Utf8.mapM_eq_some_iff Atom.char?_eq_some_iff).mpr rfl
  rw [unquote?, quote, atoms?_of_readFrom hread, Option.bind_some, hchars, Option.map_some,
    String.ofList_toList]

/-! ## Bytes -/

/-- The atoms that a segment is shown by. -/
def segmentAtoms : Utf8.Segment → List Atom
  | .char c => [.char c]
  | .broken bs => bs.map .byte

theorem readFrom_escapeSegment (s : Utf8.Segment) (rest : List Char) :
    readFrom .plain (escapeSegment s ++ rest) = emit (segmentAtoms s) (readFrom .plain rest) := by
  cases s with
  | char c => exact readFrom_escape c rest
  | broken bs =>
    rw [escapeSegment, readFrom_flatMap readFrom_escapeByte, ← List.map_eq_flatMap, segmentAtoms]

theorem bytes_segmentAtoms (s : Utf8.Segment) :
    (segmentAtoms s).flatMap Atom.bytes = s.bytes := by
  cases s with
  | char c => exact List.append_nil _
  | broken bs =>
    induction bs with
    | nil => rfl
    | cons b bs ih => exact congrArg (b :: ·) ih

/-- **A string of bytes is read back**, be it text or not. -/
theorem unquoteBytes?_quoteBytes (bs : Bytes) : unquoteBytes? (quoteBytes bs) = some bs := by
  have hread := readFrom_flatMap readFrom_escapeSegment (Utf8.segments bs) ['"']
  rw [unquoteBytes?, quoteBytes, atoms?_of_readFrom hread, Option.map_some, List.flatMap_assoc,
    funext bytes_segmentAtoms, Utf8.bytes_segments]

/-! ## What is shown -/

/-- **The controls**: the characters of general category Cc. -/
def IsControl (c : Char) : Prop := c.toNat < 0x20 ∨ 0x7F ≤ c.toNat ∧ c.toNat ≤ 0x9F

instance : DecidablePred IsControl := fun _ => inferInstanceAs (Decidable (_ ∨ _))

/-- Whether a character can be shown in a line as it is: it is no control and ends no line. -/
def Shown (c : Char) : Prop := ¬IsControl c ∧ c ≠ '\u2028' ∧ c ≠ '\u2029'

instance : DecidablePred Shown := fun _ => inferInstanceAs (Decidable (_ ∧ _))

theorem shown_of_all {cs : List Char} (h : cs.all (Shown ·)) : ∀ c ∈ cs, Shown c :=
  fun c hc => of_decide_eq_true (List.all_eq_true.mp h c hc)

theorem isHidden_of_control {c : Char} (h : IsControl c) : isHidden c := by
  refine List.any_eq_true.mpr ?_
  rcases h with h | h
  · refine ⟨(0x0, 0x1F), List.mem_cons_self, ?_⟩
    simp
    omega
  · refine ⟨(0x7F, 0xA0), List.mem_cons_of_mem _ List.mem_cons_self, ?_⟩
    simp
    omega

theorem shown_of_not_hidden {c : Char} (h : ¬isHidden c) : Shown c := by
  have hseparators : isHidden '\u2028' ∧ isHidden '\u2029' := by decide +kernel
  refine ⟨fun control => h (isHidden_of_control control), ?_, ?_⟩
  · rintro rfl
    exact h hseparators.1
  · rintro rfl
    exact h hseparators.2

theorem shown_of_mem_toDigits {n : Nat} {c : Char} (h : c ∈ Nat.toDigits 16 n) : Shown c := by
  have hall : ∀ d < 16, Shown (Nat.digitChar d) := by decide
  induction n using Nat.strongRecOn with
  | ind n ih =>
    by_cases hn : n < 16
    · rw [Nat.toDigits_of_lt_base hn, List.mem_singleton] at h
      exact h ▸ hall n hn
    · rw [Nat.toDigits_of_base_le (by decide) (by omega), List.mem_append, List.mem_singleton] at h
      rcases h with h | rfl
      · exact ih (n / 16) (by omega) h
      · exact hall _ (Nat.mod_lt n (by decide))

/-- **Nothing is shown that could end a line.** -/
theorem shown_escape {c d : Char} (h : d ∈ escape c) : Shown d := by
  rcases escape_cases c with ⟨x, hx, hescape⟩ | hescape | ⟨-, -, open_, hescape⟩
  · have hletters : letters.all fun p => Shown p.2 := by decide
    have hshown : Shown x := of_decide_eq_true (List.all_eq_true.mp hletters _ hx)
    rw [hescape] at h
    rcases List.mem_pair.mp h with rfl | rfl
    · decide
    · exact hshown
  · have hmarks : ∀ c ∈ ['\\', 'u', '{'] ++ ['}'], Shown c := shown_of_all (by decide)
    rw [hescape, escapeCode, List.append_assoc, List.mem_append, List.mem_append] at h
    rcases h with h | h | h
    · exact hmarks d (List.mem_append_left _ h)
    · exact shown_of_mem_toDigits h
    · exact hmarks d (List.mem_append_right _ h)
  · rw [hescape, List.mem_singleton] at h
    exact h ▸ shown_of_not_hidden open_

theorem shown_quote {s : String} {c : Char} (h : c ∈ (quote s).toList) : Shown c := by
  rw [quote, String.toList_ofList, List.mem_append, List.mem_cons, List.mem_singleton] at h
  rcases h with (rfl | h) | rfl
  · decide
  · obtain ⟨d, -, hd⟩ := List.mem_flatMap.mp h
    exact shown_escape hd
  · decide

end Text

/-! ## Diagnostics -/

theorem Arguments.message_of_marshal {texts : List String} {f : Failure}
    (h : marshal texts = .error f) :
    ∃ a, texts.find? (HasZero ·) = some a ∧
      f.message = "argument contains an interior NUL byte: " ++ Text.quote a := by
  obtain ⟨a, hfirst, rfl⟩ := marshal_eq_error_iff.mp h
  exact ⟨a, hfirst, rfl⟩

theorem Model.Choice.describe_library (path : Bytes) :
    (Choice.library path).describe =
      "Config \x7b model: SharedLibrary(" ++ Text.quoteBytes path ++ ") \x7d" := by
  calc (Choice.library path).describe
      = "Config \x7b model: " ++ ("SharedLibrary(" ++ Text.quoteBytes path ++ ")") ++ " \x7d" := rfl
    _ = ("Config \x7b model: " ++ "SharedLibrary(") ++ Text.quoteBytes path ++
          (")" ++ " \x7d") := by
      simp only [String.append_assoc]
    _ = "Config \x7b model: SharedLibrary(" ++ Text.quoteBytes path ++ ") \x7d" := rfl

theorem Model.Choice.eq_library {path : Bytes} (h : ofValue (some path) ≠ .builtin) :
    ofValue (some path) = .library path := by
  rw [ofValue_some] at h ⊢
  split at h
  · exact absurd rfl h
  · next filled => rw [if_neg filled]

open Model in
/-- **Diagnostics are unambiguous**: what a message quotes is read back, and nothing in it could end
the line. -/
theorem diagnostics_unambiguous :
    (∀ texts f, Arguments.marshal texts = .error f →
      (∀ c ∈ f.message.toList, Text.Shown c) ∧
      ∃ a quoted, texts.find? (Arguments.HasZero ·) = some a ∧
        f.message = "argument contains an interior NUL byte: " ++ quoted ∧
        Text.unquote? quoted = some a) ∧
    (∀ texts texts' f f', Arguments.marshal texts = .error f →
      Arguments.marshal texts' = .error f' → f.message = f'.message →
      texts.find? (Arguments.HasZero ·) = texts'.find? (Arguments.HasZero ·)) ∧
    (∀ path, Choice.ofValue (some path) ≠ .builtin →
      ∃ quoted, (Choice.ofValue (some path)).describe =
          "Config \x7b model: SharedLibrary(" ++ quoted ++ ") \x7d" ∧
        Text.unquoteBytes? quoted = some path) ∧
    ∀ path path', Choice.ofValue (some path) ≠ .builtin → Choice.ofValue (some path') ≠ .builtin →
      (Choice.ofValue (some path)).describe = (Choice.ofValue (some path')).describe →
      path = path' := by
  refine ⟨fun texts f h => ⟨?_, ?_⟩, fun texts texts' f f' h h' hmessage => ?_,
    fun path chosen => ?_, fun path path' chosen chosen' hdescribe => ?_⟩
  · obtain ⟨a, -, hmessage⟩ := Arguments.message_of_marshal h
    have hwords : ∀ c ∈ "argument contains an interior NUL byte: ".toList, Text.Shown c :=
      Text.shown_of_all (by decide)
    rw [hmessage, String.toList_append]
    intro c hc
    exact (List.mem_append.mp hc).elim (hwords c) Text.shown_quote
  · obtain ⟨a, hfirst, hmessage⟩ := Arguments.message_of_marshal h
    exact ⟨a, _, hfirst, hmessage, Text.unquote?_quote a⟩
  · obtain ⟨a, hfirst, ha⟩ := Arguments.message_of_marshal h
    obtain ⟨a', hfirst', ha'⟩ := Arguments.message_of_marshal h'
    have hquote : Text.quote a = Text.quote a' :=
      (String.append_right_inj _).mp (ha.symm.trans (hmessage.trans ha'))
    have hsame := congrArg Text.unquote? hquote
    rw [Text.unquote?_quote, Text.unquote?_quote] at hsame
    exact hfirst.trans (hsame.trans hfirst'.symm)
  · rw [Choice.eq_library chosen]
    exact ⟨_, Choice.describe_library path, Text.unquoteBytes?_quoteBytes path⟩
  · rw [Choice.eq_library chosen, Choice.eq_library chosen', Choice.describe_library,
      Choice.describe_library, String.append_left_inj, String.append_right_inj] at hdescribe
    have hsame := congrArg Text.unquoteBytes? hdescribe
    rw [Text.unquoteBytes?_quoteBytes, Text.unquoteBytes?_quoteBytes] at hsame
    exact Option.some.inj hsame

/-- A byte that is no text and the characters that it is shown by. -/
example : Text.quoteBytes [0xFF] = "\"\\xFF\"" ∧
    Text.quoteBytes (Bytes.ofString "\\xFF") = "\"\\\\xFF\"" := by decide +kernel

end EdgeMeter
