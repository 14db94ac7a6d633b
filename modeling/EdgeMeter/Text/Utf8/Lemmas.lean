import EdgeMeter.Text.Utf8

/-!
# Segments give back the bytes

* `encodeChar_one` to `encodeChar_four`: the bytes of a code point, by its size;
* `following_eq_take`, `mem_following`, `head_following`: the continuations taken;
* `encode_complete`: a first byte and its continuations are the encoding of their character;
* **`bytes_segments`**: the segments of a string of bytes are that string, cut up;
* `Bytes.ofString_eq`, `Bytes.length_ofString`: the bytes of a text are those of its encoding.
-/

namespace EdgeMeter

namespace Utf8

/-! ## Encodings by size -/

theorem toNat_charOfNat {v : Nat} (h : v.isValidChar) : (Char.ofNat v).toNat = v := by
  rw [Char.ofNat, dif_pos h]
  rfl

theorem encodeChar_one {v : Nat} (h : v < 0x80) :
    String.utf8EncodeChar (.ofNat v) = [UInt8.ofNat v] := by
  have hv : (Char.ofNat v).val.toNat = v := toNat_charOfNat (.inl (by omega))
  simp only [String.utf8EncodeChar, hv]
  rw [if_pos (by omega)]

theorem encodeChar_two {v : Nat} (h : 0x80 ≤ v) (h' : v < 0x800) :
    String.utf8EncodeChar (.ofNat v) =
      [UInt8.ofNat (v / 64 + 192), UInt8.ofNat (v % 64 + 128)] := by
  have hv : (Char.ofNat v).val.toNat = v := toNat_charOfNat (.inl (by omega))
  simp only [String.utf8EncodeChar, hv]
  rw [if_neg (by omega), if_pos (by omega), Nat.mod_eq_of_lt (by omega : v / 64 < 32)]

theorem encodeChar_three {v : Nat} (h : 0x800 ≤ v) (h' : v < 0x10000) (hv : v.isValidChar) :
    String.utf8EncodeChar (.ofNat v) =
      [UInt8.ofNat (v / 4096 + 224), UInt8.ofNat (v / 64 % 64 + 128),
        UInt8.ofNat (v % 64 + 128)] := by
  have hv : (Char.ofNat v).val.toNat = v := toNat_charOfNat hv
  simp only [String.utf8EncodeChar, hv]
  rw [if_neg (by omega), if_neg (by omega), if_pos (by omega),
    Nat.mod_eq_of_lt (by omega : v / 4096 < 16)]

theorem encodeChar_four {v : Nat} (h : 0x10000 ≤ v) (h' : v < 0x110000) :
    String.utf8EncodeChar (.ofNat v) =
      [UInt8.ofNat (v / 262144 + 240), UInt8.ofNat (v / 4096 % 64 + 128),
        UInt8.ofNat (v / 64 % 64 + 128), UInt8.ofNat (v % 64 + 128)] := by
  have hv : (Char.ofNat v).val.toNat = v := toNat_charOfNat (.inr ⟨by omega, by omega⟩)
  simp only [String.utf8EncodeChar, hv]
  rw [if_neg (by omega), if_neg (by omega), if_neg (by omega),
    Nat.mod_eq_of_lt (by omega : v / 262144 < 8)]

/-! ## Continuations -/

theorem following_eq_take (n : Nat) (low high : UInt8) (bs : Bytes) :
    following n low high bs = bs.take (following n low high bs).length := by
  fun_induction following n low high bs with
  | case1 n low high b rest h ih => rw [List.length_cons, List.take_succ_cons, ← ih]
  | case2 => rfl
  | case3 => rfl

theorem mem_following {n : Nat} {low high : UInt8} {bs : Bytes} {t : UInt8} (hl : 0x80 ≤ low)
    (hh : high ≤ 0xBF) (h : t ∈ following n low high bs) : 0x80 ≤ t ∧ t ≤ 0xBF := by
  fun_induction following n low high bs with
  | case1 n low high b rest hb ih =>
    simp only [List.mem_cons, Bool.and_eq_true, decide_eq_true_eq] at h hb
    rcases h with rfl | h
    · exact ⟨UInt8.le_trans hl hb.1, UInt8.le_trans hb.2 hh⟩
    · exact ih (by decide) (by decide) h
  | case2 => simp at h
  | case3 => simp at h

theorem head_following {n : Nat} {low high : UInt8} {bs : Bytes} {t : UInt8} {ts : Bytes}
    (h : following n low high bs = t :: ts) : low ≤ t ∧ t ≤ high := by
  match n, bs with
  | 0, _ => simp [following] at h
  | _ + 1, [] => simp [following] at h
  | n + 1, b :: bs =>
    rw [following] at h
    split at h
    · simp_all
    · simp at h

theorem lead_bounds {b : UInt8} {lead : Lead} (hl : lead? b = some lead) :
    0x80 ≤ lead.low ∧ lead.high ≤ 0xBF := by
  unfold lead? at hl
  split at hl
  · obtain rfl := Option.some.inj hl; dsimp only; decide
  split at hl
  · cases hl
  split at hl
  · obtain rfl := Option.some.inj hl; dsimp only; decide
  split at hl
  · obtain rfl := Option.some.inj hl; dsimp only; constructor <;> split <;> decide
  split at hl
  · obtain rfl := Option.some.inj hl; dsimp only; constructor <;> split <;> decide
  · cases hl

/-! ## Characters -/

/-- The bits of a continuation. -/
theorem tail_toNat {t : UInt8} (h : 0x80 ≤ t ∧ t ≤ 0xBF) :
    ∃ v, v < 64 ∧ t.toNat - 0x80 = v ∧ t.toNat = v + 128 := by
  have h' := UInt8.le_iff_toNat_le.1 h.1
  have h'' := UInt8.le_iff_toNat_le.1 h.2
  simp only [UInt8.reduceToNat] at h' h''
  exact ⟨t.toNat - 128, by omega, rfl, by omega⟩

theorem ofNat_of_toNat {b : UInt8} {n : Nat} (h : b.toNat = n) : UInt8.ofNat n = b := by
  rw [← h, UInt8.ofNat_toNat]

theorem toNat_le_of_le {t u : UInt8} (h : t ≤ u) : t.toNat ≤ u.toNat := UInt8.le_iff_toNat_le.1 h

/-- A first byte and the continuations that it asks for are the encoding of their character. -/
theorem encode_complete {b : UInt8} {lead : Lead} (hl : lead? b = some lead) {taken : Bytes}
    (hlen : taken.length = lead.follow) (hmem : ∀ t ∈ taken, 0x80 ≤ t ∧ t ≤ 0xBF)
    (hhead : ∀ t ts, taken = t :: ts → lead.low ≤ t ∧ t ≤ lead.high) :
    String.utf8EncodeChar
      (.ofNat (taken.foldl (fun v t => 64 * v + (t.toNat - 0x80)) lead.bits)) = b :: taken := by
  unfold lead? at hl
  have h1 := @UInt8.lt_iff_toNat_lt b 0x80
  have h2 := @UInt8.lt_iff_toNat_lt b 0xC2
  have h3 := @UInt8.lt_iff_toNat_lt b 0xE0
  have h4 := @UInt8.lt_iff_toNat_lt b 0xF0
  have h5 := @UInt8.lt_iff_toNat_lt b 0xF5
  simp only [UInt8.reduceToNat] at h1 h2 h3 h4 h5
  simp only [h1, h2, h3, h4, h5] at hl
  split at hl
  · obtain rfl := Option.some.inj hl
    obtain rfl := List.length_eq_zero_iff.1 hlen
    dsimp only at *
    rw [List.foldl_nil, encodeChar_one (by omega), ofNat_of_toNat rfl]
  split at hl
  · cases hl
  split at hl
  · obtain rfl := Option.some.inj hl
    obtain ⟨t, rfl⟩ := List.length_eq_one_iff.1 hlen
    dsimp only at *
    obtain ⟨v, hv, hv', hn⟩ := tail_toNat (hmem t (by simp))
    simp only [List.foldl_cons, List.foldl_nil, hv']
    rw [encodeChar_two (by omega) (by omega), ofNat_of_toNat (b := b) (by omega),
      ofNat_of_toNat (b := t) (by omega)]
  split at hl
  · obtain rfl := Option.some.inj hl
    obtain ⟨t, u, rfl⟩ : ∃ t u, taken = [t, u] := by
      match taken, hlen with
      | [t, u], _ => exact ⟨t, u, rfl⟩
    dsimp only at *
    obtain ⟨v, hv, hv', hn⟩ := tail_toNat (hmem t (by simp))
    obtain ⟨w, hw, hw', hm⟩ := tail_toNat (hmem u (by simp))
    have hh := hhead t [u] rfl
    have hE0 : b.toNat = 0xE0 → 32 ≤ v := fun h => by
      rw [if_pos (UInt8.toNat_inj.1 h : b = 0xE0)] at hh
      have := toNat_le_of_le hh.1
      simp only [UInt8.reduceToNat] at this
      omega
    have hED : b.toNat = 0xED → v < 32 := fun h => by
      rw [if_pos (UInt8.toNat_inj.1 h : b = 0xED)] at hh
      have := toNat_le_of_le hh.2
      simp only [UInt8.reduceToNat] at this
      omega
    simp only [List.foldl_cons, List.foldl_nil, hv', hw']
    rw [encodeChar_three (by omega) (by omega) (by unfold Nat.isValidChar; omega),
      ofNat_of_toNat (b := b) (by omega), ofNat_of_toNat (b := t) (by omega),
      ofNat_of_toNat (b := u) (by omega)]
  split at hl
  · obtain rfl := Option.some.inj hl
    obtain ⟨t, u, x, rfl⟩ : ∃ t u x, taken = [t, u, x] := by
      match taken, hlen with
      | [t, u, x], _ => exact ⟨t, u, x, rfl⟩
    dsimp only at *
    obtain ⟨v, hv, hv', hn⟩ := tail_toNat (hmem t (by simp))
    obtain ⟨w, hw, hw', hm⟩ := tail_toNat (hmem u (by simp))
    obtain ⟨y, hy, hy', hk⟩ := tail_toNat (hmem x (by simp))
    have hh := hhead t [u, x] rfl
    have hF0 : b.toNat = 0xF0 → 16 ≤ v := fun h => by
      rw [if_pos (UInt8.toNat_inj.1 h : b = 0xF0)] at hh
      have := toNat_le_of_le hh.1
      simp only [UInt8.reduceToNat] at this
      omega
    have hF4 : b.toNat = 0xF4 → v < 16 := fun h => by
      rw [if_pos (UInt8.toNat_inj.1 h : b = 0xF4)] at hh
      have := toNat_le_of_le hh.2
      simp only [UInt8.reduceToNat] at this
      omega
    simp only [List.foldl_cons, List.foldl_nil, hv', hw', hy']
    rw [encodeChar_four (by omega) (by omega),
      ofNat_of_toNat (b := b) (by omega), ofNat_of_toNat (b := t) (by omega),
      ofNat_of_toNat (b := u) (by omega), ofNat_of_toNat (b := x) (by omega)]
  · cases hl

/-! ## Segments -/

theorem bytes_segmentAt (b : UInt8) (rest : Bytes) :
    (segmentAt b rest).1.bytes = b :: rest.take (segmentAt b rest).2 := by
  unfold segmentAt
  split
  · rfl
  · rename_i lead hl
    have hb := lead_bounds hl
    dsimp only
    split
    · rename_i hlen
      rw [← following_eq_take]
      exact encode_complete hl hlen (fun t ht => mem_following hb.1 hb.2 ht)
        (fun t ts h => head_following h)
    · rw [← following_eq_take]; rfl

/-- **Nothing is lost**: the segments are the bytes, cut up. -/
theorem bytes_segments (bs : Bytes) : (segments bs).flatMap Segment.bytes = bs := by
  fun_induction segments bs with
  | case1 => rfl
  | case2 b rest ih =>
    rw [List.flatMap_cons, ih, bytes_segmentAt, List.cons_append, List.take_append_drop]

end Utf8

/-! ## Texts -/

/-- The bytes of a text are its bytes as a text. -/
theorem Bytes.ofString_eq (s : String) : ofString s = s.toUTF8.data.toList := by
  have hbytes : s.toUTF8 = s.toList.utf8Encode := String.utf8Encode_toList.symm
  rw [hbytes, List.utf8Encode, List.data_toByteArray]
  exact List.toList_toArray.symm

theorem Bytes.length_ofString (s : String) : (ofString s).length = s.utf8ByteSize := by
  rw [ofString_eq, Array.length_toList]
  rfl

end EdgeMeter
