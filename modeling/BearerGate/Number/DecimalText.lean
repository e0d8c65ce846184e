import BearerGate.Text.Digit

/-!
# Numbers in decimal notation

An optional plus sign and at least one digit, with zeros in front or not.
-/

namespace BearerGate

/-- Why a text is no number of the wanted size. -/
inductive DecimalFault
  | empty
  | digit
  | tooLarge
  deriving DecidableEq

/-- The wording of a fault. -/
def DecimalFault.message : DecimalFault → String
  | .empty => "cannot parse integer from empty string"
  | .digit => "invalid digit found in string"
  | .tooLarge => "number too large to fit in target type"

namespace DecimalText

/-- The value of further digits behind a number, and whether all numbers on the way fit under the
limit. The first character that is wrong or makes the number too large decides. -/
def appendDigits (limit : Nat) : Nat → List Char → Except DecimalFault Nat
  | value, [] => .ok value
  | value, c :: rest =>
    match Text.digit? 10 c with
    | none => .error .digit
    | some d =>
      let longer := value * 10 + d
      if longer < limit then appendDigits limit longer rest else .error .tooLarge

/-- The digits of a number without its sign. A sign needs a digit behind it. -/
def unsigned : List Char → Except DecimalFault (List Char)
  | [] => .error .empty
  | ['+'] => .error .digit
  | '+' :: digits => .ok digits
  | digits => .ok digits

/-- The number below `limit` that a text denotes. -/
def parse (limit : Nat) (text : String) : Except DecimalFault Nat :=
  match unsigned text.toList with
  | .error fault => .error fault
  | .ok digits => appendDigits limit 0 digits

end DecimalText

end BearerGate
