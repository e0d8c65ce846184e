import BearerGate.Proofs.Text.Utf8

/-!
# Encoded text is decoded to itself

The bytes of a character are read as this character, whatever follows them: the first byte tells how
many there are, and the bounds that the reader sets for the second one are those that the number of
a character keeps (`decodeFrom_encodeChar`). So every text is what its bytes stand for.
-/

namespace BearerGate.Text.Utf8

theorem toNat_toUInt8 {n : Nat} (small : n < 256) : n.toUInt8.toNat = n :=
  UInt8.toNat_ofNat_of_lt small

theorem decodeFrom_lead {b : Nat} (small : b < 256) (rest : List UInt8) :
    decodeFrom none (b.toUInt8 :: rest) = (lead b).1 ++ decodeFrom (lead b).2 rest := by
  rw [decodeFrom, step]
  simp only [toNat_toUInt8 small]

/-- A byte with six more bits that is not the last. -/
theorem decodeFrom_further {value bits further low high : Nat} (six : bits < 64)
    (above : low ≤ 0x80 + bits) (below : 0x80 + bits ≤ high) (rest : List UInt8) :
    decodeFrom (some ⟨value, further + 1, low, high⟩) ((0x80 + bits).toUInt8 :: rest) =
      decodeFrom (some ⟨value * 64 + bits, further, 0x80, 0xBF⟩) rest := by
  have small : 0x80 + bits < 256 := by omega
  rw [decodeFrom, step]
  simp only [toNat_toUInt8 small, above, below, and_self, if_true, Nat.add_sub_cancel_left]
  rfl

/-- The byte with the last six bits. -/
theorem decodeFrom_last {value bits : Nat} (six : bits < 64) (rest : List UInt8) :
    decodeFrom (some ⟨value, 0, 0x80, 0xBF⟩) ((0x80 + bits).toUInt8 :: rest) =
      some (Char.ofNat (value * 64 + bits)) :: decodeFrom none rest := by
  have small : 0x80 + bits < 256 := by omega
  have above : 0x80 ≤ 0x80 + bits := Nat.le_add_right _ _
  have below : 0x80 + bits ≤ 0xBF := by omega
  rw [decodeFrom, step]
  simp only [toNat_toUInt8 small, above, below, and_self, if_true, Nat.add_sub_cancel_left]
  rfl

/-- The number of a character is none of those set aside for halves of a pair. -/
theorem toNat_valid (c : Char) : c.toNat < 0xD800 ∨ 0xDFFF < c.toNat ∧ c.toNat < 0x110000 :=
  c.valid

theorem decodeFrom_two {n : Nat} (low : 0x80 ≤ n) (high : n < 0x800) (rest : List UInt8) :
    decodeFrom none ((0xC0 + n / 64).toUInt8 :: (0x80 + n % 64).toUInt8 :: rest) =
      some (Char.ofNat n) :: decodeFrom none rest := by
  have first : lead (0xC0 + n / 64) = ([], some ⟨n / 64, 0, 0x80, 0xBF⟩) := by
    rw [lead, if_neg (by omega), if_neg (by omega), if_pos (by omega), Nat.add_sub_cancel_left]
  have value : n / 64 * 64 + n % 64 = n := by omega
  rw [decodeFrom_lead (by omega), first, List.nil_append, decodeFrom_last (by omega), value]

theorem decodeFrom_three {n : Nat} (low : 0x800 ≤ n) (high : n < 0x10000)
    (valid : n < 0xD800 ∨ 0xDFFF < n) (rest : List UInt8) :
    decodeFrom none ((0xE0 + n / 4096).toUInt8 :: (0x80 + n / 64 % 64).toUInt8 ::
        (0x80 + n % 64).toUInt8 :: rest) =
      some (Char.ofNat n) :: decodeFrom none rest := by
  have first : lead (0xE0 + n / 4096) = ([], some ⟨n / 4096, 1,
      if n / 4096 = 0 then 0xA0 else 0x80, if n / 4096 = 13 then 0x9F else 0xBF⟩) := by
    have least : 0xE0 + n / 4096 = 0xE0 ↔ n / 4096 = 0 := by omega
    have halves : 0xE0 + n / 4096 = 0xED ↔ n / 4096 = 13 := by omega
    rw [lead, if_neg (by omega), if_neg (by omega), if_neg (by omega), if_pos (by omega),
      Nat.add_sub_cancel_left]
    simp only [least, halves]
  have above : (if n / 4096 = 0 then 0xA0 else 0x80) ≤ 0x80 + n / 64 % 64 := by
    split
    · omega
    · omega
  have below : 0x80 + n / 64 % 64 ≤ if n / 4096 = 13 then 0x9F else 0xBF := by
    split
    · omega
    · omega
  have value : (n / 4096 * 64 + n / 64 % 64) * 64 + n % 64 = n := by omega
  rw [decodeFrom_lead (by omega), first, List.nil_append,
    decodeFrom_further (by omega) above below, decodeFrom_last (by omega), value]

theorem decodeFrom_four {n : Nat} (low : 0x10000 ≤ n) (high : n < 0x110000) (rest : List UInt8) :
    decodeFrom none ((0xF0 + n / 262144).toUInt8 :: (0x80 + n / 4096 % 64).toUInt8 ::
        (0x80 + n / 64 % 64).toUInt8 :: (0x80 + n % 64).toUInt8 :: rest) =
      some (Char.ofNat n) :: decodeFrom none rest := by
  have first : lead (0xF0 + n / 262144) = ([], some ⟨n / 262144, 2,
      if n / 262144 = 0 then 0x90 else 0x80, if n / 262144 = 4 then 0x8F else 0xBF⟩) := by
    have least : 0xF0 + n / 262144 = 0xF0 ↔ n / 262144 = 0 := by omega
    have greatest : 0xF0 + n / 262144 = 0xF4 ↔ n / 262144 = 4 := by omega
    rw [lead, if_neg (by omega), if_neg (by omega), if_neg (by omega), if_neg (by omega),
      if_pos (by omega), Nat.add_sub_cancel_left]
    simp only [least, greatest]
  have above : (if n / 262144 = 0 then 0x90 else 0x80) ≤ 0x80 + n / 4096 % 64 := by
    split
    · omega
    · omega
  have below : 0x80 + n / 4096 % 64 ≤ if n / 262144 = 4 then 0x8F else 0xBF := by
    split
    · omega
    · omega
  have value : ((n / 262144 * 64 + n / 4096 % 64) * 64 + n / 64 % 64) * 64 + n % 64 = n := by
    omega
  rw [decodeFrom_lead (by omega), first, List.nil_append,
    decodeFrom_further (by omega) above below,
    decodeFrom_further (by omega) (by omega) (by omega), decodeFrom_last (by omega), value]

/-- The bytes of a character are read as this character. -/
theorem decodeFrom_encodeChar (c : Char) (rest : List UInt8) :
    decodeFrom none (encodeChar c ++ rest) = some c :: decodeFrom none rest := by
  have valid := toNat_valid c
  have same : Char.ofNat c.toNat = c := Char.ofNat_toNat c
  rw [encodeChar]
  split
  · next one =>
    have first : lead c.toNat = ([some (Char.ofNat c.toNat)], none) := if_pos one
    rw [List.singleton_append, decodeFrom_lead (by omega), first, same]
    rfl
  split
  · next two =>
    have read := decodeFrom_two (by omega) two rest
    rwa [same] at read
  split
  · next three =>
    have read := decodeFrom_three (by omega) three (by omega) rest
    rwa [same] at read
  · have four : 0x10000 ≤ c.toNat := by omega
    have read := decodeFrom_four four (by omega) rest
    rwa [same] at read

/-- A text is what its bytes stand for. -/
theorem decode_encode (text : String) : decode (encode text) = text.toList.map some := by
  unfold decode encode
  induction text.toList with
  | nil => rfl
  | cons c rest ih => rw [List.flatMap_cons, decodeFrom_encodeChar, ih, List.map_cons]

end BearerGate.Text.Utf8
