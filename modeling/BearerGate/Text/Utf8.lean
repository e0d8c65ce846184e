/-!
# UTF-8

UTF-8 read leniently: a list of bytes becomes a list of characters in which bytes that belong to
no character are marked. Text is well formed if nothing is marked.

Reading goes byte by byte. Between characters the reader holds nothing; inside one it holds what
the bytes so far amount to, how many are still to come, and the bounds of the next one.
-/

namespace BearerGate.Text

/-- A character, or `none` for bytes that belong to no character. -/
abbrev Glyph := Option Char

namespace Utf8

/-- A character of which some bytes are still to come. -/
structure Pending where
  /-- The bits read so far. -/
  value : Nat
  /-- How many bytes come after the next one. -/
  further : Nat
  /-- The least next byte. -/
  low : Nat
  /-- The greatest next byte. -/
  high : Nat

/-- What the first byte of a character starts. -/
def lead (b : Nat) : List Glyph × Option Pending :=
  if b < 0x80 then ([some (Char.ofNat b)], none)
  else if b < 0xC2 then ([none], none)
  else if b < 0xE0 then ([], some ⟨b - 0xC0, 0, 0x80, 0xBF⟩)
  else if b < 0xF0 then
    ([], some ⟨b - 0xE0, 1, if b = 0xE0 then 0xA0 else 0x80, if b = 0xED then 0x9F else 0xBF⟩)
  else if b < 0xF5 then
    ([], some ⟨b - 0xF0, 2, if b = 0xF0 then 0x90 else 0x80, if b = 0xF4 then 0x8F else 0xBF⟩)
  else ([none], none)

/-- What one more byte completes, and what is pending after it. -/
def step (pending : Option Pending) (byte : UInt8) : List Glyph × Option Pending :=
  let b := byte.toNat
  match pending with
  | none => lead b
  | some p =>
    if p.low ≤ b ∧ b ≤ p.high then
      let value := p.value * 64 + (b - 0x80)
      match p.further with
      | 0 => ([some (Char.ofNat value)], none)
      | n + 1 => ([], some ⟨value, n, 0x80, 0xBF⟩)
    else
      let (glyphs, next) := lead b
      (none :: glyphs, next)

/-- Reads on from a place inside or between characters. -/
def decodeFrom (pending : Option Pending) : List UInt8 → List Glyph
  | [] => if pending.isSome then [none] else []
  | byte :: rest =>
    let (glyphs, next) := step pending byte
    glyphs ++ decodeFrom next rest

/-- The characters of a list of bytes, with the bytes that belong to none marked. -/
def decode (bytes : List UInt8) : List Glyph :=
  decodeFrom none bytes

/-- The characters, if none of the glyphs is a mark. -/
def chars? : List Glyph → Option (List Char)
  | [] => some []
  | none :: _ => none
  | some c :: rest => (chars? rest).map (c :: ·)

/-- The text that the bytes encode, if they are well formed. -/
def text? (bytes : List UInt8) : Option String :=
  (chars? (decode bytes)).map String.ofList

/-- The text that the bytes encode, with a replacement character for what is ill formed. -/
def textLossy (bytes : List UInt8) : String :=
  String.ofList ((decode bytes).map fun glyph => glyph.getD (Char.ofNat 0xFFFD))

/-- The bytes of one character. -/
def encodeChar (c : Char) : List UInt8 :=
  let n := c.toNat
  if n < 0x80 then [n.toUInt8]
  else if n < 0x800 then [(0xC0 + n / 64).toUInt8, (0x80 + n % 64).toUInt8]
  else if n < 0x10000 then
    [(0xE0 + n / 4096).toUInt8, (0x80 + n / 64 % 64).toUInt8, (0x80 + n % 64).toUInt8]
  else
    [(0xF0 + n / 262144).toUInt8, (0x80 + n / 4096 % 64).toUInt8, (0x80 + n / 64 % 64).toUInt8,
      (0x80 + n % 64).toUInt8]

/-- The bytes of a text. -/
def encode (s : String) : List UInt8 :=
  s.toList.flatMap encodeChar

end Utf8

end BearerGate.Text
