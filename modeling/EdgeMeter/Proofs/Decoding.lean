import EdgeMeter.Text.Utf8.Lemmas

/-!
# Text read back from its bytes

Reading the encoding of a text gives the text, and nothing else is read as text.

* `lead?_two` to `lead?_four`: what the first byte of an encoding announces;
* `segmentAt_encodeChar`: the encoding of a character is read as one segment;
* **`decode?_eq_some_iff`**: a string of bytes is read as a text just if it is its encoding.
-/

namespace EdgeMeter.Utf8

/-! ## First bytes -/

theorem lead?_one {v : Nat} (h : v < 0x80) :
    lead? (UInt8.ofNat v) = some ⟨v, 0, 0x80, 0xBF⟩ := by
  have hb : (UInt8.ofNat v).toNat = v := UInt8.toNat_ofNat_of_lt' (by change v < 256; omega)
  simp only [lead?, UInt8.lt_iff_toNat_lt, hb, UInt8.reduceToNat]
  rw [if_pos h]

theorem lead?_two {v : Nat} (h : 0x80 ≤ v) (h' : v < 0x800) :
    lead? (UInt8.ofNat (v / 64 + 192)) = some ⟨v / 64, 1, 0x80, 0xBF⟩ := by
  have hb : (UInt8.ofNat (v / 64 + 192)).toNat = v / 64 + 192 :=
    UInt8.toNat_ofNat_of_lt' (by change _ < 256; omega)
  simp only [lead?, UInt8.lt_iff_toNat_lt, hb, UInt8.reduceToNat]
  rw [if_neg (by omega), if_neg (by omega), if_pos (by omega), Nat.add_sub_cancel]

theorem lead?_three {v : Nat} (h : 0x800 ≤ v) (h' : v < 0x10000) :
    lead? (UInt8.ofNat (v / 4096 + 224)) = some ⟨v / 4096, 2,
      if v / 4096 = 0 then 0xA0 else 0x80, if v / 4096 = 13 then 0x9F else 0xBF⟩ := by
  have hb : (UInt8.ofNat (v / 4096 + 224)).toNat = v / 4096 + 224 :=
    UInt8.toNat_ofNat_of_lt' (by change _ < 256; omega)
  have hlow : v / 4096 + 224 = 224 ↔ v / 4096 = 0 := by omega
  have hhigh : v / 4096 + 224 = 237 ↔ v / 4096 = 13 := by omega
  simp only [lead?, UInt8.lt_iff_toNat_lt, ← UInt8.toNat_inj, hb, UInt8.reduceToNat, hlow, hhigh]
  rw [if_neg (by omega), if_neg (by omega), if_neg (by omega), if_pos (by omega),
    Nat.add_sub_cancel]

theorem lead?_four {v : Nat} (h : 0x10000 ≤ v) (h' : v < 0x110000) :
    lead? (UInt8.ofNat (v / 262144 + 240)) = some ⟨v / 262144, 3,
      if v / 262144 = 0 then 0x90 else 0x80, if v / 262144 = 4 then 0x8F else 0xBF⟩ := by
  have hb : (UInt8.ofNat (v / 262144 + 240)).toNat = v / 262144 + 240 :=
    UInt8.toNat_ofNat_of_lt' (by change _ < 256; omega)
  have hlow : v / 262144 + 240 = 240 ↔ v / 262144 = 0 := by omega
  have hhigh : v / 262144 + 240 = 244 ↔ v / 262144 = 4 := by omega
  simp only [lead?, UInt8.lt_iff_toNat_lt, ← UInt8.toNat_inj, hb, UInt8.reduceToNat, hlow, hhigh]
  rw [if_neg (by omega), if_neg (by omega), if_neg (by omega), if_neg (by omega),
    if_pos (by omega), Nat.add_sub_cancel]

/-! ## Continuations -/

theorem following_cons {n : Nat} {low high t : UInt8} (h : low ≤ t ∧ t ≤ high) (rest : Bytes) :
    following (n + 1) low high (t :: rest) = t :: following n 0x80 0xBF rest := by
  have hmem : (decide (low ≤ t) && decide (t ≤ high)) = true := by simp [h]
  rw [following, if_pos hmem]

theorem following_zero (low high : UInt8) (bs : Bytes) : following 0 low high bs = [] := by
  cases bs <;> rfl

theorem tail_bounds {w : Nat} (h : w < 64) :
    (UInt8.ofNat (w + 128)).toNat = w + 128 ∧
      0x80 ≤ UInt8.ofNat (w + 128) ∧ UInt8.ofNat (w + 128) ≤ 0xBF := by
  have ht : (UInt8.ofNat (w + 128)).toNat = w + 128 :=
    UInt8.toNat_ofNat_of_lt' (by change _ < 256; omega)
  refine ⟨ht, ?_, ?_⟩
  · rw [UInt8.le_iff_toNat_le, ht]
    exact Nat.le_add_left 128 w
  · rw [UInt8.le_iff_toNat_le, ht]
    change w + 128 ≤ 191
    omega

theorem second_bounds {q w m : Nat} (low high : UInt8) (hw : w < 64)
    (hlow : q = 0 → low.toNat ≤ w + 128) (hhigh : q = m → w + 128 ≤ high.toNat) :
    (if q = 0 then low else 0x80) ≤ UInt8.ofNat (w + 128) ∧
      UInt8.ofNat (w + 128) ≤ (if q = m then high else 0xBF) := by
  obtain ⟨ht, hl, hh⟩ := tail_bounds hw
  constructor
  · split
    · rw [UInt8.le_iff_toNat_le, ht]
      exact hlow ‹_›
    · exact hl
  · split
    · rw [UInt8.le_iff_toNat_le, ht]
      exact hhigh ‹_›
    · exact hh

/-! ## Characters -/

theorem segmentAt_of_following {b : UInt8} {lead : Lead} {rest taken : Bytes}
    (hl : lead? b = some lead) (hf : following lead.follow lead.low lead.high rest = taken)
    (hlen : taken.length = lead.follow) :
    segmentAt b rest =
      (.char (.ofNat (taken.foldl (fun v t => 64 * v + (t.toNat - 0x80)) lead.bits)),
        taken.length) := by
  simp only [segmentAt, hl, hf]
  rw [if_pos hlen]

theorem segmentAt_encodeChar (c : Char) : ∃ b taken, String.utf8EncodeChar c = b :: taken ∧
    ∀ rest, segmentAt b (taken ++ rest) = (.char c, taken.length) := by
  obtain ⟨v, hvalid, rfl⟩ : ∃ v, v.isValidChar ∧ .ofNat v = c := ⟨c.toNat, c.valid, c.ofNat_toNat⟩
  have hv : v < 0xD800 ∨ 0xDFFF < v ∧ v < 0x110000 := hvalid
  rcases Nat.lt_or_ge v 0x80 with h1 | h1
  · refine ⟨_, _, encodeChar_one h1, fun rest => ?_⟩
    exact segmentAt_of_following (lead?_one h1) (following_zero ..) rfl
  rcases Nat.lt_or_ge v 0x800 with h2 | h2
  · refine ⟨_, _, encodeChar_two h1 h2, fun rest => ?_⟩
    obtain ⟨ht, hbounds⟩ := tail_bounds (Nat.mod_lt v (by decide : 0 < 64))
    have hf := following_cons (n := 0) hbounds rest
    rw [following_zero] at hf
    have hvalue : 64 * (v / 64) + (v % 64 + 128 - 0x80) = v := by omega
    rw [List.singleton_append, segmentAt_of_following (lead?_two h1 h2) hf rfl, List.foldl_cons,
      List.foldl_nil, ht, hvalue]
  have below : ∀ w, w % 64 < 64 := fun w => Nat.mod_lt w (by decide)
  rcases Nat.lt_or_ge v 0x10000 with h3 | h3
  · refine ⟨_, _, encodeChar_three h2 h3 hvalid, fun rest => ?_⟩
    obtain ⟨ht, -⟩ := tail_bounds (below (v / 64))
    obtain ⟨hu, hubounds⟩ := tail_bounds (below v)
    have hlow : v / 4096 = 0 → 160 ≤ v / 64 % 64 + 128 := by omega
    have hhigh : v / 4096 = 13 → v / 64 % 64 + 128 ≤ 159 := by omega
    have hf := following_cons (n := 1) (second_bounds 0xA0 0x9F (below (v / 64)) hlow hhigh)
      (UInt8.ofNat (v % 64 + 128) :: rest)
    rw [following_cons (n := 0) hubounds, following_zero] at hf
    have hvalue : 64 * (64 * (v / 4096) + (v / 64 % 64 + 128 - 0x80)) + (v % 64 + 128 - 0x80) =
        v := by omega
    refine (segmentAt_of_following (lead?_three h2 h3) hf rfl).trans ?_
    simp only [List.foldl_cons, List.foldl_nil, ht, hu, hvalue]
  · have h4 : v < 0x110000 := by omega
    refine ⟨_, _, encodeChar_four h3 h4, fun rest => ?_⟩
    obtain ⟨ht, -⟩ := tail_bounds (below (v / 4096))
    obtain ⟨hu, hubounds⟩ := tail_bounds (below (v / 64))
    obtain ⟨hw, hwbounds⟩ := tail_bounds (below v)
    have hlow : v / 262144 = 0 → 144 ≤ v / 4096 % 64 + 128 := by omega
    have hhigh : v / 262144 = 4 → v / 4096 % 64 + 128 ≤ 143 := by omega
    have hf := following_cons (n := 2) (second_bounds 0x90 0x8F (below (v / 4096)) hlow hhigh)
      (UInt8.ofNat (v / 64 % 64 + 128) :: UInt8.ofNat (v % 64 + 128) :: rest)
    rw [following_cons (n := 1) hubounds, following_cons (n := 0) hwbounds, following_zero] at hf
    have hvalue : 64 * (64 * (64 * (v / 262144) + (v / 4096 % 64 + 128 - 0x80)) +
        (v / 64 % 64 + 128 - 0x80)) + (v % 64 + 128 - 0x80) = v := by omega
    refine (segmentAt_of_following (lead?_four h3 h4) hf rfl).trans ?_
    simp only [List.foldl_cons, List.foldl_nil, ht, hu, hw, hvalue]

/-! ## Texts -/

theorem segments_encode (cs : List Char) : segments (encode cs) = cs.map .char := by
  induction cs with
  | nil =>
    rw [encode, List.flatMap_nil, segments]
    rfl
  | cons c cs ih =>
    obtain ⟨b, taken, hc, hsegment⟩ := segmentAt_encodeChar c
    have hencode : encode (c :: cs) = b :: (taken ++ encode cs) := by
      rw [encode, List.flatMap_cons, hc]
      rfl
    rw [hencode, segments, hsegment, List.drop_left, ih, List.map_cons]

/-- Reading items one by one, when each is read just from what it is written as. -/
theorem mapM_eq_some_iff {α β : Type} {read : α → Option β} {write : β → α}
    (h : ∀ {a b}, read a = some b ↔ write b = a) {as : List α} {bs : List β} :
    as.mapM read = some bs ↔ bs.map write = as := by
  induction as generalizing bs with
  | nil =>
    rw [List.mapM_nil, List.map_eq_nil_iff]
    exact ⟨fun h => (Option.some.inj h).symm, fun h => congrArg _ h.symm⟩
  | cons a as ih =>
    rw [List.mapM_cons, List.map_eq_cons_iff]
    constructor
    · intro hread
      obtain ⟨b, hb, hread⟩ := Option.bind_eq_some_iff.mp hread
      obtain ⟨bs', hbs', hread⟩ := Option.bind_eq_some_iff.mp hread
      exact ⟨b, bs', (Option.some.inj hread).symm, h.mp hb, ih.mp hbs'⟩
    · rintro ⟨b, bs', rfl, hb, hbs'⟩
      rw [h.mpr hb, ih.mpr hbs']
      rfl

theorem char?_eq_some_iff {s : Segment} {c : Char} : s.char? = some c ↔ .char c = s := by
  cases s with
  | char c' => exact ⟨fun h => congrArg _ (Option.some.inj h).symm,
      fun h => congrArg _ (Segment.char.inj h).symm⟩
  | broken bs => exact ⟨nofun, nofun⟩

/-- **A string of bytes is read as a text just if it is its encoding.** -/
theorem decode?_eq_some_iff {bs : Bytes} {cs : List Char} :
    decode? bs = some cs ↔ encode cs = bs := by
  rw [decode?, mapM_eq_some_iff char?_eq_some_iff]
  constructor
  · intro hsegments
    have hbs := bytes_segments bs
    rw [← hsegments, List.flatMap_map] at hbs
    exact hbs
  · rintro rfl
    exact (segments_encode cs).symm

end EdgeMeter.Utf8
