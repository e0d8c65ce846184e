import BearerGate.Net.Percent
import BearerGate.Proofs.Text.Encoding
import Mathlib.Data.Bool.AllAny

/-!
# Encoded parts of addresses

A byte is encoded in a percent sign and two digits, and no part of an address encodes these
(`Percent.Spares`). So in an encoded text nothing is left to encode, and encoding it again leaves it
as it is (`Percent.encode_encode`).
-/

namespace BearerGate.Percent

/-- The characters in which bytes are encoded. -/
def byteChars : List Char :=
  ['%', '0', '1', '2', '3', '4', '5', '6', '7', '8', '9', 'A', 'B', 'C', 'D', 'E', 'F']

/-- The set has none of the characters in which bytes are encoded. -/
def Spares (set : Char → Bool) : Prop :=
  ∀ c ∈ byteChars, set c = false

theorem isControl_spares : Spares isControl :=
  List.all_iff_forall_prop.mp (by decide)

theorem inPath_spares : Spares inPath :=
  List.all_iff_forall_prop.mp (by decide)

theorem inUserInfo_spares : Spares inUserInfo :=
  List.all_iff_forall_prop.mp (by decide)

theorem toUpper_digitChar_mem : ∀ {n : Nat}, n < 16 → (Nat.digitChar n).toUpper ∈ byteChars := by
  decide

theorem mem_encodeByte {b : UInt8} {c : Char} (found : c ∈ encodeByte b) : c ∈ byteChars := by
  have high : b.toNat / 16 < 16 := by
    have := b.toNat_lt
    omega
  have low : b.toNat % 16 < 16 := Nat.mod_lt _ (by decide)
  unfold encodeByte at found
  rcases List.mem_cons.mp found with rfl | digit
  · exact List.mem_cons_self
  rcases List.mem_cons.mp digit with rfl | digit
  · exact toUpper_digitChar_mem high
  · rw [List.mem_singleton.mp digit]
    exact toUpper_digitChar_mem low

section Encode

variable {set : Char → Bool} {text : List Char}

/-- A character of an encoded text is one that may stand there, or belongs to an encoded byte. -/
theorem mem_encode {c : Char} (found : c ∈ encode set text) :
    (c ∈ text ∧ set c = false) ∨ c ∈ byteChars := by
  obtain ⟨d, member, found⟩ := List.mem_flatMap.mp found
  split at found
  · obtain ⟨b, -, found⟩ := List.mem_flatMap.mp found
    exact .inr (mem_encodeByte found)
  · next free =>
    obtain rfl := List.mem_singleton.mp found
    exact .inl ⟨member, Bool.eq_false_iff.mpr free⟩

/-- Nothing is left to encode in an encoded text. -/
theorem set_of_mem_encode (spares : Spares set) {c : Char} (found : c ∈ encode set text) :
    set c = false := by
  rcases mem_encode found with ⟨-, free⟩ | byte
  · exact free
  · exact spares c byte

theorem encode_eq_self (free : ∀ c ∈ text, set c = false) : encode set text = text := by
  induction text with
  | nil => rfl
  | cons c text ih =>
    have here := free c List.mem_cons_self
    have there := ih fun d member => free d (List.mem_cons_of_mem c member)
    unfold encode at there ⊢
    rw [List.flatMap_cons, there, if_neg (Bool.eq_false_iff.mp here), List.singleton_append]

theorem encode_encode (spares : Spares set) (text : List Char) :
    encode set (encode set text) = encode set text :=
  encode_eq_self fun _ found => set_of_mem_encode spares found

/-- No byte of a character outside of ASCII is one of ASCII. -/
theorem le_of_mem_encodeChar {c : Char} (wide : 0x80 ≤ c.toNat) {b : UInt8}
    (found : b ∈ Text.Utf8.encodeChar c) : 0x80 ≤ b.toNat := by
  have bound : c.toNat < 0x110000 := by
    rcases Text.Utf8.toNat_valid c with low | ⟨-, high⟩
    · omega
    · exact high
  rw [Text.Utf8.encodeChar, if_neg (by omega)] at found
  split at found
  · simp only [List.mem_cons, List.not_mem_nil, or_false] at found
    rcases found with rfl | rfl <;> rw [Text.Utf8.toNat_toUInt8 (by omega)] <;> omega
  split at found
  · simp only [List.mem_cons, List.not_mem_nil, or_false] at found
    rcases found with rfl | rfl | rfl <;> rw [Text.Utf8.toNat_toUInt8 (by omega)] <;> omega
  · simp only [List.mem_cons, List.not_mem_nil, or_false] at found
    rcases found with rfl | rfl | rfl | rfl <;> rw [Text.Utf8.toNat_toUInt8 (by omega)] <;> omega

/-- A byte of ASCII is a character of its own. -/
theorem eq_of_mem_encodeChar {c : Char} {b : UInt8} (found : b ∈ Text.Utf8.encodeChar c)
    (plain : b.toNat < 0x80) : c = Char.ofNat b.toNat := by
  by_cases small : c.toNat < 0x80
  · rw [Text.Utf8.encodeChar, if_pos small, List.mem_singleton] at found
    rw [found, Text.Utf8.toNat_toUInt8 (by omega), Char.ofNat_toNat]
  · exact absurd plain (Nat.not_lt.mpr (le_of_mem_encodeChar (Nat.not_lt.mp small) found))

theorem encodeChar_ne_nil (c : Char) : Text.Utf8.encodeChar c ≠ [] := by
  unfold Text.Utf8.encodeChar
  dsimp only
  split
  · exact List.cons_ne_nil _ _
  split
  · exact List.cons_ne_nil _ _
  split
  · exact List.cons_ne_nil _ _
  · exact List.cons_ne_nil _ _

theorem encode_eq_nil_iff : encode set text = [] ↔ text = [] := by
  constructor
  · intro nothing
    cases text with
    | nil => rfl
    | cons c text =>
      have here := List.flatMap_eq_nil_iff.mp nothing c List.mem_cons_self
      split at here
      · obtain ⟨b, bytes, split⟩ := List.exists_cons_of_ne_nil (encodeChar_ne_nil c)
        rw [split] at here
        cases here
      · cases here
  · rintro rfl
    rfl

/-- An encoded text begins as the text does, or with a percent sign. -/
theorem head?_encode {c : Char} (first : (encode set text).head? = some c) :
    text.head? = some c ∨ c = '%' := by
  cases text with
  | nil => cases first
  | cons d text =>
    unfold encode at first
    rw [List.flatMap_cons] at first
    split at first
    · obtain ⟨b, bytes, split⟩ := List.exists_cons_of_ne_nil (encodeChar_ne_nil d)
      rw [split] at first
      exact .inr (Option.some.inj first).symm
    · exact .inl first

/-- Where something is encoded, there is a byte that was a part of a character of the set. -/
theorem exists_of_encode_ne (changed : encode set text ≠ text) :
    ∃ c ∈ text, set c = true ∧ ∃ b ∈ Text.Utf8.encodeChar c,
      ∃ front back, encode set text = front ++ encodeByte b ++ back := by
  have member : ∃ c ∈ text, set c = true := by
    refine Decidable.byContradiction fun none => changed (encode_eq_self fun c found => ?_)
    exact Bool.eq_false_iff.mpr fun inSet => none ⟨c, found, inSet⟩
  obtain ⟨c, found, inSet⟩ := member
  obtain ⟨before, behind, rfl⟩ := List.append_of_mem found
  obtain ⟨b, bytes, split⟩ := List.exists_cons_of_ne_nil (encodeChar_ne_nil c)
  refine ⟨c, found, inSet, b, split ▸ List.mem_cons_self,
    encode set before, bytes.flatMap encodeByte ++ encode set behind, ?_⟩
  unfold encode
  rw [List.flatMap_append, List.flatMap_cons, if_pos inSet, split, List.flatMap_cons]
  simp only [List.append_assoc]

end Encode

/-- Bytes without a percent sign stand for themselves. -/
theorem decode_eq_self {bytes : List UInt8} (free : ∀ b ∈ bytes, b ≠ 0x25) :
    decode bytes = bytes := by
  induction bytes with
  | nil => rfl
  | cons b bytes ih =>
    have there := ih fun d member => free d (List.mem_cons_of_mem b member)
    rw [decode]
    · rw [there]
    · intro c d rest sign
      exact (free b List.mem_cons_self sign).elim

end BearerGate.Percent
