import BearerGate.Text.Utf8

/-!
# The bytes of plain text

A text whose bytes are all below 128 has one character for each of them, so the bytes determine
the text.
-/

namespace BearerGate.Text.Utf8

/-- The character that a byte below 128 stands for. -/
def charOfByte (byte : UInt8) : Char := Char.ofNat byte.toNat

theorem toNat_charOfByte {byte : UInt8} (plain : byte.toNat < 128) :
    (charOfByte byte).toNat = byte.toNat := by
  have valid : Nat.isValidChar byte.toNat := .inl (by omega)
  unfold charOfByte Char.ofNat
  rw [dif_pos valid]
  rfl

theorem encodeChar_charOfByte {byte : UInt8} (plain : byte.toNat < 128) :
    encodeChar (charOfByte byte) = [byte] := by
  unfold encodeChar
  rw [toNat_charOfByte plain, if_pos plain]
  exact congrArg (fun b => [b]) UInt8.ofNat_toNat

/-- A character whose bytes are all below 128 has only one. -/
theorem eq_charOfByte_of_encodeChar {c : Char} (plain : ∀ byte ∈ encodeChar c, byte.toNat < 128) :
    ∃ byte, encodeChar c = [byte] ∧ c = charOfByte byte := by
  by_cases small : c.toNat < 128
  · have value : c.toNat.toUInt8.toNat = c.toNat := UInt8.toNat_ofNat_of_lt (by show _ < 256; omega)
    refine ⟨c.toNat.toUInt8, by rw [encodeChar, if_pos small], ?_⟩
    rw [charOfByte, value, Char.ofNat_toNat]
  · exfalso
    have valid : c.toNat < 0x110000 := by
      have := c.valid
      rcases this with low | ⟨_, high⟩
      · exact Nat.lt_trans low (by decide)
      · exact high
    rw [encodeChar, if_neg small] at plain
    split at plain
    · have high := plain _ List.mem_cons_self
      simp only [Nat.toUInt8, UInt8.toNat_ofNat'] at high
      omega
    split at plain
    · have high := plain _ List.mem_cons_self
      simp only [Nat.toUInt8, UInt8.toNat_ofNat'] at high
      omega
    · have high := plain _ List.mem_cons_self
      simp only [Nat.toUInt8, UInt8.toNat_ofNat'] at high
      omega

theorem flatMap_encodeChar_map_charOfByte {bytes : List UInt8}
    (plain : ∀ byte ∈ bytes, byte.toNat < 128) :
    (bytes.map charOfByte).flatMap encodeChar = bytes := by
  induction bytes with
  | nil => rfl
  | cons byte bytes ih =>
    rw [List.map_cons, List.flatMap_cons, encodeChar_charOfByte (plain byte List.mem_cons_self),
      ih fun b mem => plain b (List.mem_cons_of_mem byte mem)]
    rfl

/-- Bytes below 128 are those of one text. -/
theorem flatMap_encodeChar_eq_iff {text : List Char} {bytes : List UInt8}
    (plain : ∀ byte ∈ bytes, byte.toNat < 128) :
    text.flatMap encodeChar = bytes ↔ text = bytes.map charOfByte := by
  constructor
  · rintro rfl
    induction text with
    | nil => rfl
    | cons c rest ih =>
      rw [List.flatMap_cons] at plain
      obtain ⟨byte, encoded, same⟩ :=
        eq_charOfByte_of_encodeChar fun b mem => plain b (List.mem_append_left _ mem)
      have later := ih fun b mem => plain b (List.mem_append_right _ mem)
      rw [List.flatMap_cons, encoded, List.singleton_append, List.map_cons, ← later, ← same]
  · rintro rfl
    exact flatMap_encodeChar_map_charOfByte plain

end BearerGate.Text.Utf8
