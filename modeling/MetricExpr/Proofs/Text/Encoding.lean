import Mathlib.Tactic.SplitIfs
import MetricExpr.Proofs.Except
import MetricExpr.Text.Encoding
/-!
# Decoding is the inverse of encoding

Bytes are a text's iff they are the ones that the text is written with (`decode_eq_ok_iff`): neither is a text lost, nor
are there bytes beside the shortest ones of a character.
-/
namespace MetricExpr.Text

/-! ## One character -/

theorem followers?_eq_some_iff {b : UInt8} {n : Nat} :
    followers? b = some n ↔
      (n = 0 ∧ b.toNat < 128) ∨ (n = 1 ∧ 194 ≤ b.toNat ∧ b.toNat < 224) ∨ (n = 2 ∧ 224 ≤ b.toNat ∧ b.toNat < 240) ∨
        (n = 3 ∧ 240 ≤ b.toNat ∧ b.toNat < 245) := by
  simp only [followers?, UInt8.lt_iff_toNat_lt, UInt8.le_iff_toNat_le, Bool.and_eq_true, decide_eq_true_eq,
    UInt8.reduceToNat]
  split_ifs <;> simp <;> omega

/-- Which second bytes a first one takes. -/
theorem secondRange_iff {b x : UInt8} :
    ((secondRange b).1.toNat ≤ x.toNat ∧ x.toNat ≤ (secondRange b).2.toNat) ↔
      (128 ≤ x.toNat ∧ x.toNat ≤ 191) ∧ (b.toNat = 224 → 160 ≤ x.toNat) ∧ (b.toNat = 237 → x.toNat ≤ 159) ∧
        (b.toNat = 240 → 144 ≤ x.toNat) ∧ (b.toNat = 244 → x.toNat ≤ 143) := by
  simp only [secondRange, beq_iff_eq, ← UInt8.toNat_inj, UInt8.reduceToNat]
  split_ifs <;> simp only [UInt8.reduceToNat] <;> omega

theorem decodeRest_succ_eq_ok_iff {taken : List UInt8} {code place n : Nat} {low high : UInt8} {bytes : List UInt8}
    {result : Nat × List UInt8} :
    decodeRest taken code low high place (n + 1) bytes = .ok result ↔
      ∃ b rest, bytes = b :: rest ∧ (low.toNat ≤ b.toNat ∧ b.toNat ≤ high.toNat) ∧
        decodeRest (b :: taken) (code * 64 + b.toNat % 64) 0x80 0xBF place n rest = .ok result := by
  cases bytes with
  | nil => simp [decodeRest]
  | cons b rest =>
    simp only [decodeRest, ← UInt8.le_iff_toNat_le, List.cons.injEq, Bool.and_eq_true, decide_eq_true_eq]
    split
    · rename_i h
      constructor
      · exact fun hrest => ⟨b, rest, ⟨rfl, rfl⟩, h, hrest⟩
      · rintro ⟨_, _, ⟨rfl, rfl⟩, -, hrest⟩
        exact hrest
    · rename_i h
      constructor
      · intro herror
        cases herror
      · rintro ⟨_, _, ⟨rfl, rfl⟩, hin, -⟩
        exact absurd hin h

theorem decodeRest_zero_eq_ok_iff {taken : List UInt8} {code c place : Nat} {low high : UInt8} {bytes rest : List UInt8} :
    decodeRest taken code low high place 0 bytes = .ok (c, rest) ↔ code = c ∧ bytes = rest := by
  simp [decodeRest]

theorem byte_eq_ofNat_iff {b : UInt8} {n : Nat} (h : n < 256) : b = UInt8.ofNat n ↔ b.toNat = n := by
  rw [← UInt8.toNat_inj, UInt8.toNat_ofNat', Nat.mod_eq_of_lt h]

theorem exists_char {n : Nat} (h : n < 0xD800 ∨ 0xDFFF < n ∧ n < 0x110000) : ∃ c : Char, c.toNat = n :=
  ⟨⟨UInt32.ofNatLT n (by simp only [UInt32.size]; omega), by simpa [UInt32.isValidChar, Nat.isValidChar] using h⟩, rfl⟩

/-- The bytes of a character by its number. -/
theorem encode_eq (c : Char) :
    String.utf8EncodeChar c =
      if c.toNat ≤ 127 then [.ofNat c.toNat]
      else if c.toNat ≤ 2047 then [.ofNat (c.toNat / 64 % 32 + 192), .ofNat (c.toNat % 64 + 128)]
      else if c.toNat ≤ 65535 then
        [.ofNat (c.toNat / 4096 % 16 + 224), .ofNat (c.toNat / 64 % 64 + 128), .ofNat (c.toNat % 64 + 128)]
      else
        [.ofNat (c.toNat / 262144 % 8 + 240), .ofNat (c.toNat / 4096 % 64 + 128), .ofNat (c.toNat / 64 % 64 + 128),
          .ofNat (c.toNat % 64 + 128)] :=
  rfl

/-- A first byte is read with its followers iff they are the bytes that a character is written with. -/
theorem sequence_iff (place : Nat) {b : UInt8} {bytes rest : List UInt8} {code : Nat} :
    (∃ n, followers? b = some n ∧
      decodeRest [b] (firstBits b n) (secondRange b).1 (secondRange b).2 place n bytes = .ok (code, rest)) ↔
    ∃ c : Char, c.toNat = code ∧ b :: bytes = String.utf8EncodeChar c ++ rest := by
  constructor
  · rintro ⟨n, hn, hrest⟩
    obtain ⟨rfl, hb⟩ | ⟨rfl, hb⟩ | ⟨rfl, hb⟩ | ⟨rfl, hb⟩ := followers?_eq_some_iff.1 hn <;>
      simp only [decodeRest_succ_eq_ok_iff, decodeRest_zero_eq_ok_iff, secondRange_iff, firstBits, UInt8.reduceToNat] at hrest
    · obtain ⟨rfl, rfl⟩ := hrest
      obtain ⟨c, hc⟩ := exists_char (n := b.toNat) (by omega)
      refine ⟨c, hc, ?_⟩
      rw [encode_eq, hc, if_pos (by omega), List.singleton_append, List.cons.injEq, byte_eq_ofNat_iff (by omega)]
      exact ⟨rfl, rfl⟩
    · obtain ⟨b₁, _, rfl, h₁, rfl, rfl⟩ := hrest
      obtain ⟨c, hc⟩ := exists_char (n := b.toNat % 32 * 64 + b₁.toNat % 64) (by omega)
      refine ⟨c, hc, ?_⟩
      rw [encode_eq, hc, if_neg (by omega), if_pos (by omega)]
      simp only [List.cons_append, List.nil_append, List.cons.injEq, and_true]
      refine ⟨(byte_eq_ofNat_iff (by omega)).2 ?_, (byte_eq_ofNat_iff (by omega)).2 ?_⟩ <;> omega
    · obtain ⟨b₁, _, rfl, h₁, b₂, _, rfl, h₂, rfl, rfl⟩ := hrest
      obtain ⟨c, hc⟩ := exists_char (n := (b.toNat % 16 * 64 + b₁.toNat % 64) * 64 + b₂.toNat % 64) (by omega)
      refine ⟨c, hc, ?_⟩
      rw [encode_eq, hc, if_neg (by omega), if_neg (by omega), if_pos (by omega)]
      simp only [List.cons_append, List.nil_append, List.cons.injEq, and_true]
      refine ⟨(byte_eq_ofNat_iff (by omega)).2 ?_, (byte_eq_ofNat_iff (by omega)).2 ?_,
        (byte_eq_ofNat_iff (by omega)).2 ?_⟩ <;> omega
    · obtain ⟨b₁, _, rfl, h₁, b₂, _, rfl, h₂, b₃, _, rfl, h₃, rfl, rfl⟩ := hrest
      obtain ⟨c, hc⟩ := exists_char
        (n := ((b.toNat % 8 * 64 + b₁.toNat % 64) * 64 + b₂.toNat % 64) * 64 + b₃.toNat % 64) (by omega)
      refine ⟨c, hc, ?_⟩
      rw [encode_eq, hc, if_neg (by omega), if_neg (by omega), if_neg (by omega)]
      simp only [List.cons_append, List.nil_append, List.cons.injEq, and_true]
      refine ⟨(byte_eq_ofNat_iff (by omega)).2 ?_, (byte_eq_ofNat_iff (by omega)).2 ?_,
        (byte_eq_ofNat_iff (by omega)).2 ?_, (byte_eq_ofNat_iff (by omega)).2 ?_⟩ <;> omega
  · rintro ⟨c, rfl, hc⟩
    have hvalid : c.toNat < 0xD800 ∨ 0xDFFF < c.toNat ∧ c.toNat < 0x110000 := c.valid
    rw [encode_eq] at hc
    split_ifs at hc with h1 h2 h3 <;> simp only [List.cons_append, List.nil_append, List.cons.injEq] at hc
    · obtain ⟨hb, rfl⟩ := hc
      rw [byte_eq_ofNat_iff (by omega)] at hb
      refine ⟨0, followers?_eq_some_iff.2 (by omega), ?_⟩
      simp only [decodeRest_zero_eq_ok_iff, firstBits, hb, and_self]
    · obtain ⟨hb, rfl⟩ := hc
      rw [byte_eq_ofNat_iff (by omega)] at hb
      refine ⟨1, followers?_eq_some_iff.2 (by omega), ?_⟩
      simp only [decodeRest_succ_eq_ok_iff, decodeRest_zero_eq_ok_iff, secondRange_iff, firstBits]
      refine ⟨_, _, rfl, ?_, ?_, rfl⟩ <;> rw [UInt8.toNat_ofNat'] <;> omega
    · obtain ⟨hb, rfl⟩ := hc
      rw [byte_eq_ofNat_iff (by omega)] at hb
      refine ⟨2, followers?_eq_some_iff.2 (by omega), ?_⟩
      simp only [decodeRest_succ_eq_ok_iff, decodeRest_zero_eq_ok_iff, secondRange_iff, firstBits]
      refine ⟨_, _, rfl, ?_, _, _, rfl, ?_, ?_, rfl⟩ <;> simp only [UInt8.toNat_ofNat', UInt8.reduceToNat] <;> omega
    · obtain ⟨hb, rfl⟩ := hc
      rw [byte_eq_ofNat_iff (by omega)] at hb
      refine ⟨3, followers?_eq_some_iff.2 (by omega), ?_⟩
      simp only [decodeRest_succ_eq_ok_iff, decodeRest_zero_eq_ok_iff, secondRange_iff, firstBits]
      refine ⟨_, _, rfl, ?_, _, _, rfl, ?_, _, _, rfl, ?_, ?_, rfl⟩ <;>
        simp only [UInt8.toNat_ofNat', UInt8.reduceToNat] <;> omega

/-! ## Texts -/

theorem decodeFrom_cons_eq_ok_iff {place : Nat} {b : UInt8} {bytes : List UInt8} {cs : List Char} :
    decodeFrom place (b :: bytes) = .ok cs ↔
      ∃ n code rest cs', followers? b = some n ∧
        decodeRest [b] (firstBits b n) (secondRange b).1 (secondRange b).2 place n bytes = .ok (code, rest) ∧
        decodeFrom (place + 1 + n) rest = .ok cs' ∧ Char.ofNat code :: cs' = cs := by
  rw [decodeFrom]
  cases followers? b with
  | none => simp
  | some n =>
    dsimp only
    split
    · rename_i fault h
      constructor
      · intro herror
        cases herror
      · rintro ⟨_, _, _, _, ⟨rfl⟩, hrest, -⟩
        cases h.symm.trans hrest
    · rename_i code rest h
      rw [map_eq_ok_iff]
      constructor
      · rintro ⟨cs', hcs, rfl⟩
        exact ⟨n, code, rest, cs', rfl, h, hcs, rfl⟩
      · rintro ⟨_, _, _, cs', ⟨rfl⟩, hrest, hcs, rfl⟩
        obtain ⟨rfl, rfl⟩ := Prod.mk.inj (Except.ok.inj (h.symm.trans hrest))
        exact ⟨cs', hcs, rfl⟩

theorem decodeFrom_eq_ok_iff {place : Nat} {bytes : List UInt8} {cs : List Char} :
    decodeFrom place bytes = .ok cs ↔ cs.flatMap String.utf8EncodeChar = bytes := by
  induction cs generalizing place bytes with
  | nil =>
    cases bytes with
    | nil => simp [decodeFrom]
    | cons b bytes => simp [decodeFrom_cons_eq_ok_iff]
  | cons c cs ih =>
    rw [List.flatMap_cons]
    cases bytes with
    | nil => simp [decodeFrom]
    | cons b bytes =>
      rw [decodeFrom_cons_eq_ok_iff]
      constructor
      · rintro ⟨n, code, rest, cs', hn, hrest, hcs, hc⟩
        obtain ⟨c', rfl, hbytes⟩ := (sequence_iff place).1 ⟨n, hn, hrest⟩
        obtain ⟨rfl, rfl⟩ := List.cons.inj hc
        rw [Char.ofNat_toNat, hbytes, ih.1 hcs]
      · intro hbytes
        obtain ⟨n, hn, hrest⟩ := (sequence_iff place).2 ⟨c, rfl, hbytes.symm⟩
        exact ⟨n, c.toNat, _, cs, hn, hrest, ih.2 rfl, by rw [Char.ofNat_toNat]⟩

/-- The bytes still to come stand behind those listed so far. -/
theorem toList_loop_eq (bytes : ByteArray) (i : Nat) (listed : List UInt8) :
    ByteArray.toList.loop bytes i listed = listed.reverse ++ bytes.data.toList.drop i := by
  fun_induction ByteArray.toList.loop bytes i listed with
  | case1 i listed h ih =>
    have hi : i < bytes.data.toList.length := by simpa using h
    have hget : bytes.get! i = bytes.data.toList[i] := by simp [ByteArray.get!, h]
    rw [ih, List.drop_eq_getElem_cons hi, hget, List.reverse_cons, List.append_assoc, List.singleton_append]
  | case2 i listed h =>
    have hi : bytes.data.toList.length ≤ i := by simpa using h
    rw [List.drop_eq_nil_of_le hi, List.append_nil]

theorem toUTF8_toList (s : String) : s.toUTF8.toList = s.toList.flatMap String.utf8EncodeChar := by
  have hbytes : s.toUTF8 = (s.toList.flatMap String.utf8EncodeChar).toByteArray := String.utf8Encode_toList.symm
  rw [ByteArray.toList, toList_loop_eq, hbytes, List.toList_data_toByteArray, List.drop_zero, List.reverse_nil, List.nil_append]

/-- **Decoding undoes encoding**, and does so for no other bytes. -/
theorem decode_eq_ok_iff {bytes : List UInt8} {s : String} : decode bytes = .ok s ↔ s.toUTF8.toList = bytes := by
  rw [decode, map_eq_ok_iff, toUTF8_toList]
  constructor
  · rintro ⟨cs, hcs, rfl⟩
    rw [String.toList_ofList, decodeFrom_eq_ok_iff.1 hcs]
  · intro h
    exact ⟨s.toList, decodeFrom_eq_ok_iff.2 h, String.ofList_toList⟩

theorem toUTF8_injective : Function.Injective fun s : String => s.toUTF8.toList := fun _ _ h =>
  Except.ok.inj ((decode_eq_ok_iff.2 h).symm.trans (decode_eq_ok_iff.2 rfl))

end MetricExpr.Text
