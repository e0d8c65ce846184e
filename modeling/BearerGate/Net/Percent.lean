import BearerGate.Text.Digit
import BearerGate.Text.Utf8

/-!
# Bytes as percent signs and digits

Each part of an address has its own set of characters that may not stand in it as they are. They
are written byte by byte, as a percent sign and two digits to base sixteen. Characters outside of
ASCII may not stand anywhere.
-/

namespace BearerGate.Percent

/-- Whether a character is a control character or no ASCII character. -/
def isControl (c : Char) : Bool := c.toNat < 0x20 || 0x7F ≤ c.toNat

/-- The characters that may not stand in a fragment. -/
def inFragment (c : Char) : Bool := isControl c || [' ', '"', '<', '>', '`'].contains c

/-- The characters that may not stand in a query. -/
def inQuery (c : Char) : Bool := isControl c || [' ', '"', '#', '<', '>'].contains c

/-- The characters that may not stand in the query of an address with a host. -/
def inSpecialQuery (c : Char) : Bool := inQuery c || c = '\''

/-- The characters that may not stand in a path. -/
def inPath (c : Char) : Bool := inFragment c || ['#', '?', '\x7b', '\x7d'].contains c

/-- The characters that may not stand in the name or password of a user. -/
def inUserInfo (c : Char) : Bool :=
  inPath c || ['/', ':', ';', '=', '@', '[', '\\', ']', '^', '|'].contains c

/-- A byte as a percent sign and two digits. -/
def encodeByte (b : UInt8) : List Char :=
  let digit (n : Nat) : Char := (Nat.digitChar n).toUpper
  ['%', digit (b.toNat / 16), digit (b.toNat % 16)]

/-- The text with every character of a set encoded. -/
def encode (set : Char → Bool) (text : List Char) : List Char :=
  text.flatMap fun c => if set c then (Text.Utf8.encodeChar c).flatMap encodeByte else [c]

/-- The value of a byte that is a digit to base sixteen. -/
def digit? (b : UInt8) : Option Nat :=
  Text.hexDigit? (Char.ofNat b.toNat)

/-- The bytes that encoded bytes stand for. A percent sign without two digits stands for itself. -/
def decode : List UInt8 → List UInt8
  | 0x25 :: a :: b :: rest =>
    match digit? a, digit? b with
    | some high, some low => UInt8.ofNat (high * 16 + low) :: decode rest
    | _, _ => 0x25 :: decode (a :: b :: rest)
  | b :: rest => b :: decode rest
  | [] => []

end BearerGate.Percent
