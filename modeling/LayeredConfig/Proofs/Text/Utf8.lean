import Mathlib.Tactic.SplitIfs
import LayeredConfig.Text.Utf8

/-!
# Bytes of a text

The UTF-8 bytes of a text are decoded to the text, and a text without carriage returns has its line
ends as they are unified to.
-/

namespace LayeredConfig.Text

theorem byteArray_loop (bs : ByteArray) (i : Nat) (read : List UInt8) :
    ByteArray.toList.loop bs i read = read.reverse ++ bs.data.toList.drop i := by
  fun_induction ByteArray.toList.loop bs i read with
  | case1 i read hi ih =>
    have hlt : i < bs.data.toList.length := by simpa using hi
    rw [ih, List.drop_eq_getElem_cons hlt]
    simp [ByteArray.get!, hi]
  | case2 i read hi =>
    have hlen : bs.data.toList.length ≤ i := by simpa using Nat.le_of_not_lt hi
    rw [List.drop_eq_nil_of_le hlen, List.append_nil]

theorem toList_toUTF8 (s : String) :
    s.toUTF8.toList = s.toList.flatMap String.utf8EncodeChar := by
  have hbytes : s.toUTF8 = (s.toList.flatMap String.utf8EncodeChar).toByteArray :=
    String.utf8Encode_toList.symm
  rw [hbytes, ByteArray.toList, byteArray_loop]
  simp

/-! ## Decoding -/

theorem toNat_ofNat {v : Nat} (h : v < 256) : (UInt8.ofNat v).toNat = v := Nat.mod_eq_of_lt h

theorem decodePrefix_cons {b n bits v : Nat} {bs rest : List UInt8} (hb : b < 256)
    (hlead : leadByte? b = some (n, bits))
    (hread : readContinuation (secondRange b) bits n bs = .ok (v, rest)) :
    decodePrefix (UInt8.ofNat b :: bs) =
      (Char.ofNat v :: (decodePrefix rest).1, (decodePrefix rest).2) := by
  rw [← toNat_ofNat hb] at hlead hread
  rw [decodePrefix]
  split
  · simp_all
  · rename_i heq
    obtain ⟨rfl, rfl⟩ := Prod.mk.inj (Option.some.inj (hlead.symm.trans heq))
    split
    · simp_all
    · rename_i heq'
      obtain ⟨rfl, rfl⟩ := Prod.mk.inj (Except.ok.inj (hread.symm.trans heq'))
      rfl

theorem readContinuation_cons {range : Nat × Nat} {bits n v : Nat} {bs : List UInt8}
    (hlow : range.1 ≤ v) (hhigh : v ≤ range.2) (hbyte : v < 256) :
    readContinuation range bits (n + 1) (UInt8.ofNat v :: bs) =
      readContinuation (0x80, 0xbf) (bits * 64 + (v - 0x80)) n bs := by
  simp [readContinuation, toNat_ofNat hbyte, hlow, hhigh]

theorem secondRange_of_cases (lead v : Nat) (hlow : 0x80 ≤ v) (hhigh : v ≤ 0xbf)
    (he0 : lead = 0xe0 → 0xa0 ≤ v) (hed : lead = 0xed → v ≤ 0x9f) (hf0 : lead = 0xf0 → 0x90 ≤ v)
    (hf4 : lead = 0xf4 → v ≤ 0x8f) : (secondRange lead).1 ≤ v ∧ v ≤ (secondRange lead).2 := by
  unfold secondRange
  simp only [beq_iff_eq]
  split_ifs with h1 h2 h3 h4
  · exact ⟨he0 h1, hhigh⟩
  · exact ⟨hlow, hed h2⟩
  · exact ⟨hf0 h3, hhigh⟩
  · exact ⟨hlow, hf4 h4⟩
  · exact ⟨hlow, hhigh⟩

theorem leadByte?_two {b : Nat} (hlow : 0xc2 ≤ b) (hhigh : b < 0xe0) :
    leadByte? b = some (1, b - 0xc0) := by
  rw [leadByte?, if_neg (by omega), if_neg (by omega), if_pos hhigh]

theorem leadByte?_three {b : Nat} (hlow : 0xe0 ≤ b) (hhigh : b < 0xf0) :
    leadByte? b = some (2, b - 0xe0) := by
  rw [leadByte?, if_neg (by omega), if_neg (by omega), if_neg (by omega), if_pos hhigh]

theorem leadByte?_four {b : Nat} (hlow : 0xf0 ≤ b) (hhigh : b < 0xf5) :
    leadByte? b = some (3, b - 0xf0) := by
  rw [leadByte?, if_neg (by omega), if_neg (by omega), if_neg (by omega), if_neg (by omega),
    if_pos hhigh]

theorem decodePrefix_codePoint {v : Nat} (hvalid : v < 0xd800 ∨ 0xdfff < v ∧ v < 0x110000)
    (rest : List UInt8) :
    decodePrefix ((if v ≤ 0x7f then [UInt8.ofNat v]
      else if v ≤ 0x7ff then [UInt8.ofNat (v / 64 % 32 + 192), UInt8.ofNat (v % 64 + 128)]
      else if v ≤ 0xffff then
        [UInt8.ofNat (v / 4096 % 16 + 224), UInt8.ofNat (v / 64 % 64 + 128),
          UInt8.ofNat (v % 64 + 128)]
      else
        [UInt8.ofNat (v / 262144 % 8 + 240), UInt8.ofNat (v / 4096 % 64 + 128),
          UInt8.ofNat (v / 64 % 64 + 128), UInt8.ofNat (v % 64 + 128)]) ++ rest) =
      (Char.ofNat v :: (decodePrefix rest).1, (decodePrefix rest).2) := by
  split_ifs
  · have hlead : leadByte? v = some (0, v) := by rw [leadByte?, if_pos (by omega)]
    exact decodePrefix_cons (by omega) hlead rfl
  · obtain ⟨hlow, hhigh⟩ := secondRange_of_cases (v / 64 % 32 + 192) (v % 64 + 128)
      (by omega) (by omega) (by omega) (by omega) (by omega) (by omega)
    have hlead := leadByte?_two (b := v / 64 % 32 + 192) (by omega) (by omega)
    refine decodePrefix_cons (by omega) hlead ?_
    refine (readContinuation_cons hlow hhigh (by omega)).trans ?_
    have hv : (v / 64 % 32 + 192 - 192) * 64 + (v % 64 + 128 - 128) = v := by omega
    rw [readContinuation, hv]
    rfl
  · obtain ⟨hlow, hhigh⟩ := secondRange_of_cases (v / 4096 % 16 + 224)
      (v / 64 % 64 + 128) (by omega) (by omega) (by omega) (by omega) (by omega) (by omega)
    have hlead := leadByte?_three (b := v / 4096 % 16 + 224) (by omega) (by omega)
    refine decodePrefix_cons (by omega) hlead ?_
    refine (readContinuation_cons hlow hhigh (by omega)).trans ?_
    refine (readContinuation_cons (by omega) (by omega) (by omega)).trans ?_
    have hv : ((v / 4096 % 16 + 224 - 224) * 64 + (v / 64 % 64 + 128 - 128)) * 64 +
        (v % 64 + 128 - 128) = v := by omega
    rw [readContinuation, hv]
    rfl
  · obtain ⟨hlow, hhigh⟩ := secondRange_of_cases (v / 262144 % 8 + 240)
      (v / 4096 % 64 + 128) (by omega) (by omega) (by omega) (by omega) (by omega) (by omega)
    have hlead := leadByte?_four (b := v / 262144 % 8 + 240) (by omega) (by omega)
    refine decodePrefix_cons (by omega) hlead ?_
    refine (readContinuation_cons hlow hhigh (by omega)).trans ?_
    refine (readContinuation_cons (by omega) (by omega) (by omega)).trans ?_
    refine (readContinuation_cons (by omega) (by omega) (by omega)).trans ?_
    have hv : (((v / 262144 % 8 + 240 - 240) * 64 + (v / 4096 % 64 + 128 - 128)) * 64 +
        (v / 64 % 64 + 128 - 128)) * 64 + (v % 64 + 128 - 128) = v := by omega
    rw [readContinuation, hv]
    rfl

theorem decodePrefix_encodeChar (c : Char) (rest : List UInt8) :
    decodePrefix (String.utf8EncodeChar c ++ rest) =
      (c :: (decodePrefix rest).1, (decodePrefix rest).2) := by
  have h := decodePrefix_codePoint (v := c.toNat) c.valid rest
  rwa [Char.ofNat_toNat] at h

theorem decodeUtf8_toUTF8 (s : String) : decodeUtf8 s.toUTF8.toList = .ok s.toList := by
  have hprefix : ∀ cs : List Char,
      decodePrefix (cs.flatMap String.utf8EncodeChar) = (cs, none) := by
    intro cs
    induction cs with
    | nil => rw [List.flatMap_nil, decodePrefix]
    | cons c cs ih => rw [List.flatMap_cons, decodePrefix_encodeChar, ih]
  rw [decodeUtf8, toList_toUTF8, hprefix]

theorem unifyLineEnds_of_not_mem {cs : List Char} (h : '\r' ∉ cs) : unifyLineEnds cs = cs := by
  fun_induction unifyLineEnds cs with
  | case1 => exact absurd List.mem_cons_self h
  | case2 => exact absurd List.mem_cons_self h
  | case3 c cs _ _ ih => rw [ih fun hr => h (List.mem_cons_of_mem _ hr)]
  | case4 => rfl

theorem not_mem_unifyLineEnds (cs : List Char) : '\r' ∉ unifyLineEnds cs := by
  fun_induction unifyLineEnds cs with
  | case1 cs ih => simpa using ih
  | case2 cs _ ih => simpa using ih
  | case3 c cs _ hreturn ih =>
    rw [List.mem_cons, not_or]
    exact ⟨fun hc => hreturn hc.symm, ih⟩
  | case4 => simp

end LayeredConfig.Text
