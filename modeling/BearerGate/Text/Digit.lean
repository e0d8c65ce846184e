/-!
# Digits

The digits of numbers in texts, to a base of at most sixteen. Letters count in either case when
they are read and are small when they are written.
-/

namespace BearerGate.Text

/-- The value of a digit to base sixteen. -/
def hexDigit? (c : Char) : Option Nat :=
  if '0' ≤ c ∧ c ≤ '9' then some (c.toNat - 48)
  else if 'a' ≤ c ∧ c ≤ 'f' then some (c.toNat - 87)
  else if 'A' ≤ c ∧ c ≤ 'F' then some (c.toNat - 55)
  else none

/-- The value of a digit to a base of at most sixteen. -/
def digit? (base : Nat) (c : Char) : Option Nat :=
  (hexDigit? c).filter (· < base)

/-- Whether a character is a decimal digit. -/
def isDigit (c : Char) : Bool := '0' ≤ c && c ≤ '9'

/-- The number that digits denote, zero if there are none. -/
def ofDigits (base : Nat) (digits : List Nat) : Nat :=
  digits.foldl (fun n d => n * base + d) 0

/-- The digits of a number to base sixteen, without zeros in front. -/
def hexDigits (n : Nat) : List Char :=
  Nat.toDigits 16 n

end BearerGate.Text
