import BearerGate.Number.Shortest

/-!
# JSON numbers

The numbers of JSON: integers that fit into 64 bits, with or without a sign, and doubles for the
rest.

A literal with a fraction or an exponent is a double, and so are a negative zero and an integer
that does not fit. Its leading digits are collected into an integer of at most 64 bits and the
others only count as places; that integer, as a double, is multiplied or divided by a power of
ten.
-/

namespace BearerGate.Json

/-- A number literal as it is written. -/
structure Literal where
  negative : Bool
  /-- The digits before the point; there is at least one. -/
  whole : List Nat
  /-- The digits behind the point; none if there is no point. -/
  fraction : List Nat
  /-- Whether the exponent is negative, and its digits. -/
  power : Option (Bool × List Nat)
  deriving DecidableEq

/-- A number: an integer of 64 bits or a double. -/
inductive Number
  | integer (value : Int)
  | double (value : Double)
  deriving DecidableEq

/-- The largest integer that digits are collected into. -/
def maxSignificand : Nat := 0xFFFFFFFFFFFFFFFF

/-- Appends digits to an integer while it stays within 64 bits, and counts the digits left over. -/
def collect (significand : Nat) : List Nat → Nat × Nat
  | [] => (significand, 0)
  | d :: rest =>
    if significand * 10 + d > maxSignificand then (significand, rest.length + 1)
    else collect (significand * 10 + d) rest

/-- The double of a power of ten from `10 ^ 0` to `10 ^ 308`. -/
def tenTo (n : Nat) : Double :=
  Double.ofNat (Nat.pow 10 n)

/-- Multiplies or divides by a power of ten, in steps of `10 ^ 308`; `none` if the result is too
large for a double. The first argument bounds the number of steps. -/
def scaleByTen : Nat → Double → Int → Option Double
  | _, x, .ofNat n =>
    if n ≤ 308 then
      let product := x.mul (tenTo n)
      if product.isFinite then some product else none
    else if x = Double.zero then some x
    else none
  | 0, _, .negSucc _ => some Double.zero
  | steps + 1, x, .negSucc n =>
    if n + 1 ≤ 308 then some (x.div (tenTo (n + 1)))
    else if x = Double.zero then some x
    else scaleByTen steps (x.div (tenTo 308)) (.negSucc n + 308)

/-- The double with this sign, integer and power of ten. -/
def doubleOf? (negative : Bool) (significand : Nat) (power : Int) : Option Double :=
  (scaleByTen 4 (Double.ofNat significand) power).map fun x => if negative then x.neg else x

/-- The value of an exponent's digits, cut off above 31 bits. -/
def powerValue? (digits : List Nat) : Option Nat :=
  let n := digits.foldl (fun n d => n * 10 + d) 0
  if n > 0x7FFFFFFF then none else some n

/-- The exponent that results from `places` decimal places and a written exponent, kept within 32
bits. -/
def clampPower (power : Int) : Int :=
  max (-0x80000000) (min 0x7FFFFFFF power)

/-- The double of a literal whose digits amount to `significand · 10 ^ places`. -/
def applyPower (negative : Bool) (significand : Nat) (places : Int) :
    Option (Bool × List Nat) → Option Double
  | none => doubleOf? negative significand places
  | some (down, digits) =>
    match powerValue? digits with
    | some n =>
      doubleOf? negative significand (clampPower (if down then places - n else places + n))
    | none =>
      if significand ≠ 0 ∧ down = false then none
      else some (if negative then Double.zero.neg else Double.zero)

/-- The number that a literal stands for; `none` if it is too large for a double. -/
def Number.ofLiteral? (literal : Literal) : Option Number :=
  let (significand, dropped) := collect 0 literal.whole
  if literal.fraction = [] ∧ literal.power = none ∧ dropped = 0 then
    if literal.negative then
      if significand = 0 ∨ significand > 0x8000000000000000 then
        some (.double (Double.ofNat significand).neg)
      else some (.integer (-significand))
    else some (.integer significand)
  else
    let (significand, unread) := collect significand literal.fraction
    let places : Int := (dropped : Int) - (literal.fraction.length - unread : Nat)
    (applyPower literal.negative significand places literal.power).map .double

/-- Whether a reader who refuses a literal that is too large has read all of it. An exponent is
refused at the digit that takes it above 31 bits. -/
def Literal.isRefusedAtEnd (literal : Literal) : Bool :=
  match literal.power with
  | some (false, digits) => (powerValue? digits.dropLast).isSome
  | _ => true

/-- Decimal digits of an integer, with a sign if it is negative. -/
def integerChars (n : Int) : List Char :=
  (if n < 0 then ['-'] else []) ++ Nat.toDigits 10 n.natAbs

/-- The text of a finite double: positional from `10 ^ -5` up to `10 ^ 16`, with a fraction of
zero for an integer, and otherwise with one digit before the point and an exponent with its sign.
-/
def doubleChars (x : Double) : List Char :=
  let d := x.shortest
  let digits := Double.digitChars d.digits
  let lead : Int := d.exponent + (digits.length - 1 : Nat)
  let sign := if x.isNegative then ['-'] else []
  if d.digits = 0 then sign ++ ['0', '.', '0']
  else if -5 ≤ lead ∧ lead < 16 then
    sign ++ Double.positional d ++ (if 0 ≤ d.exponent then ['.', '0'] else [])
  else
    let mantissa :=
      match digits with
      | [] => []
      | [c] => [c]
      | c :: rest => c :: '.' :: rest
    sign ++ mantissa ++ 'e' :: (if lead < 0 then '-' else '+') :: Nat.toDigits 10 lead.natAbs

/-- The text of a number. -/
def Number.chars : Number → List Char
  | .integer n => integerChars n
  | .double x => doubleChars x

end BearerGate.Json
