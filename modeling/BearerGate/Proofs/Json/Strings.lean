import BearerGate.Json.Basic
import BearerGate.Json.Lexer

/-!
# Strings are read as they are written

A character of a written string is one piece when it is read: itself, the short name of a control
character, or its number (`exists_piece_of_escapeChar`). No number that is written is half a pair,
so each piece stands for its character by itself.
-/

namespace BearerGate.Json

open BearerGate.Text (Glyph)

/-- What a piece stands for, if it stands for it whatever follows. -/
def Piece.StandsFor (piece : Piece) (c : Char) : Prop :=
  ∀ rest, assemble (piece :: rest) = (assemble rest).map (c :: ·)

theorem standsFor_char (c : Char) : (Piece.char c).StandsFor c :=
  fun _ => rfl

/-- A unit stands for a character by itself if it is not half a pair. -/
theorem standsFor_unit {n : Nat} (high : isHighHalf n = false) (low : isLowHalf n = false) :
    (Piece.unit n).StandsFor (Char.ofNat n) := by
  intro rest
  match rest with
  | [] => simp [assemble, high, low, Except.map]
  | .char c :: rest => simp [assemble, high, low]
  | .unit m :: rest => simp [assemble, high, low]
  | .stray :: rest => simp [assemble, high, low]

theorem hexUnit?_control : ∀ {n : Nat}, n < 0x20 →
    hexUnit? (some '0') (some '0') (some (Nat.digitChar (n / 16))) (some (Nat.digitChar (n % 16))) =
      some n := by
  decide

/-- A backslash and a letter are read as the character that they stand for. -/
theorem scanString_escaped {e c : Char} (known : escaped? e = some c) (other : e ≠ 'u')
    (text : List Glyph) : scanString (some '\\' :: some e :: text) =
      (scanString text).map fun r => (.char c :: r.1, r.2) := by
  rw [scanString]
  · rw [known]
  · exact fun _ _ _ _ _ _ same => other same

theorem scanString_unit {n : Nat} {a b c d : Glyph} (digits : hexUnit? a b c d = some n)
    (text : List Glyph) : scanString (some '\\' :: some 'u' :: a :: b :: c :: d :: text) =
      (scanString text).map fun r => (.unit n :: r.1, r.2) := by
  rw [scanString, digits]

theorem scanString_plain {c : Char} (quote : c ≠ '"') (slash : c ≠ '\\')
    (printed : ¬ c.toNat < 0x20) (text : List Glyph) : scanString (some c :: text) =
      (scanString text).map fun r => (.char c :: r.1, r.2) := by
  rw [scanString]
  · rw [if_neg printed]
  · exact fun same => quote same
  · exact fun _ _ _ _ _ _ same => slash same
  · exact fun _ _ _ same => slash same
  · exact fun same => slash same

/-- A character is one piece when it is read again. -/
theorem exists_piece_of_escapeChar (c : Char) :
    ∃ piece : Piece, piece.StandsFor c ∧ ∀ text, scanString ((escapeChar c).map some ++ text) =
      (scanString text).map fun r => (piece :: r.1, r.2) := by
  unfold escapeChar
  split
  · next quote =>
    subst quote
    exact ⟨_, standsFor_char _, scanString_escaped rfl (by decide)⟩
  split
  · next slash =>
    subst slash
    exact ⟨_, standsFor_char _, scanString_escaped rfl (by decide)⟩
  split
  · next control =>
    have same : c = Char.ofNat c.toNat := (Char.ofNat_toNat c).symm
    split
    · next backspace =>
      rw [same, backspace]
      exact ⟨_, standsFor_char _, scanString_escaped rfl (by decide)⟩
    · next tab =>
      rw [same, tab]
      exact ⟨_, standsFor_char _, scanString_escaped rfl (by decide)⟩
    · next newline =>
      rw [same, newline]
      exact ⟨_, standsFor_char _, scanString_escaped rfl (by decide)⟩
    · next feed =>
      rw [same, feed]
      exact ⟨_, standsFor_char _, scanString_escaped rfl (by decide)⟩
    · next carriage =>
      rw [same, carriage]
      exact ⟨_, standsFor_char _, scanString_escaped rfl (by decide)⟩
    · have high : isHighHalf c.toNat = false := by
        simp [isHighHalf]
        omega
      have low : isLowHalf c.toNat = false := by
        simp [isLowHalf]
        omega
      have stands := standsFor_unit high low
      rw [← same] at stands
      exact ⟨_, stands, scanString_unit (hexUnit?_control control)⟩
  · next quote slash printed =>
    exact ⟨_, standsFor_char _, scanString_plain quote slash printed⟩

/-- A written string is read up to its closing quotation mark. -/
theorem scanString_flatMap_escapeChar (chars : List Char) (rest : List Glyph) :
    ∃ pieces, scanString ((chars.flatMap escapeChar).map some ++ some '"' :: rest) =
      some (pieces, rest) ∧ assemble pieces = .ok chars := by
  induction chars with
  | nil => exact ⟨[], by simp [scanString], rfl⟩
  | cons c chars ih =>
    obtain ⟨pieces, scanned, assembled⟩ := ih
    obtain ⟨piece, stands, read⟩ := exists_piece_of_escapeChar c
    refine ⟨piece :: pieces, ?_, ?_⟩
    · rw [List.flatMap_cons, List.map_append, List.append_assoc, read, scanned]
      rfl
    · rw [stands, assembled]
      rfl

/-- A written string is one token, whatever follows. -/
theorem scanToken_stringChars (s : String) (rest : List Glyph) :
    scanToken '"' ((s.toList.flatMap escapeChar ++ ['"']).map some ++ rest) =
      some (.string (.text s), rest) := by
  obtain ⟨pieces, scanned, assembled⟩ := scanString_flatMap_escapeChar s.toList rest
  have content : contentOf pieces = .text s := by
    rw [contentOf, assembled]
    exact congrArg StringContent.text String.ofList_toList
  rw [List.map_append, List.append_assoc]
  change (scanString (_ ++ some '"' :: rest)).map _ = _
  rw [scanned, Option.map_some, content]

end BearerGate.Json
