/-!
# Doubles

Binary floating-point numbers of 64 bits, held as their bits, with arithmetic in exact integers.

A finite double is `± m · 2 ^ q` for a natural number `m` below `2 ^ 53`. Every operation computes
the exact rational result and rounds it once, to the nearest double and on a tie to the one with
an even `m`; so results do not depend on the machine.
-/

namespace BearerGate

/-- A floating-point number of 64 bits. -/
structure Double where
  bits : UInt64
  deriving DecidableEq

namespace Double

/-- The position of the sign bit. -/
def signBit : Nat := 0x8000000000000000

/-- The bits of positive infinity. -/
def infinityBits : Nat := 0x7FF0000000000000

/-- The bit above those of the fraction, `2 ^ 52`. -/
def leadingBit : Nat := 0x10000000000000

/-- Whether the sign bit is set. -/
def isNegative (x : Double) : Bool :=
  x.bits.toNat ≥ signBit

/-- The bits without the sign. -/
def magnitude (x : Double) : Nat :=
  x.bits.toNat % signBit

/-- Whether the number is neither infinite nor an error value. -/
def isFinite (x : Double) : Bool :=
  x.magnitude < infinityBits

/-- The natural number `m` of a finite double `± m · 2 ^ q`. -/
def significand (x : Double) : Nat :=
  let m := x.magnitude % leadingBit
  if x.magnitude < leadingBit then m else m + leadingBit

/-- The exponent `q` of a finite double `± m · 2 ^ q`. -/
def exponent (x : Double) : Int :=
  (max 1 (x.magnitude / leadingBit) : Nat) - (1075 : Int)

/-- The double with these sign and magnitude bits. -/
def ofMagnitude (negative : Bool) (magnitude : Nat) : Double :=
  ⟨UInt64.ofNat (if negative then signBit + magnitude else magnitude)⟩

/-- Zero without a sign. -/
def zero : Double := ⟨0⟩

/-- The quotient `num / den` to the nearest integer, a tie going to the even neighbour. -/
def roundHalfEven (num den : Nat) : Nat :=
  let floor := num / den
  let twice := 2 * (num % den)
  if twice < den then floor
  else if den < twice then floor + 1
  else floor + floor % 2

/-- The quotient `num / den / 2 ^ q` to the nearest integer, a tie going to the even neighbour. -/
def roundScaled (num den : Nat) (q : Int) : Nat :=
  match q with
  | .ofNat k => roundHalfEven num (den <<< k)
  | .negSucc k => roundHalfEven (num <<< (k + 1)) den

/-- The exponent at which `num / den` has 53 bits before the point, or the least exponent there
is. -/
def scaleOf (num den : Nat) : Int :=
  let guess : Int := (Nat.log2 num : Int) - Nat.log2 den - 53
  let fits : Bool :=
    match guess with
    | .ofNat k => num < den <<< (k + 53)
    | .negSucc k => num <<< (k + 1) < den <<< 53
  max (if fits then guess else guess + 1) (-1074)

/-- The magnitude bits of the double nearest to `num / den`; infinity if that is out of range. -/
def nearestMagnitude (num den : Nat) : Nat :=
  if num = 0 then 0
  else
    let q := scaleOf num den
    let m := roundScaled num den q
    min infinityBits ((q + 1074).toNat * leadingBit + m)

/-- The double nearest to `± num / den`. -/
def ofRatio (negative : Bool) (num den : Nat) : Double :=
  ofMagnitude negative (nearestMagnitude num den)

/-- The double nearest to a natural number. -/
def ofNat (n : Nat) : Double :=
  ofRatio false n 1

/-- The double nearest to a quarter of an integer. -/
def ofQuarters (n : Int) : Double :=
  ofRatio (n < 0) n.natAbs 4

/-- Numerator and denominator of the absolute value of a finite double. -/
def toRatio (x : Double) : Nat × Nat :=
  match x.exponent with
  | .ofNat k => (x.significand <<< k, 1)
  | .negSucc k => (x.significand, 1 <<< (k + 1))

/-- The number with the other sign. -/
def neg (x : Double) : Double :=
  ofMagnitude (!x.isNegative) x.magnitude

/-- The product, for finite numbers. -/
def mul (x y : Double) : Double :=
  let (a, b) := x.toRatio
  let (c, d) := y.toRatio
  ofRatio (x.isNegative != y.isNegative) (a * c) (b * d)

/-- The quotient, for finite numbers of which the second is not zero. -/
def div (x y : Double) : Double :=
  let (a, b) := x.toRatio
  let (c, d) := y.toRatio
  ofRatio (x.isNegative != y.isNegative) (a * d) (b * c)

/-- The exact value of a finite double, over the common denominator `2 ^ 1074`. -/
def scaled (x : Double) : Int :=
  let m : Int := (x.significand <<< (x.exponent + 1074).toNat : Nat)
  if x.isNegative then -m else m

/-- The sum, for finite numbers. A sum of zero is negative only if both terms are. -/
def add (x y : Double) : Double :=
  let total := x.scaled + y.scaled
  if total = 0 then ofMagnitude (x.isNegative && y.isNegative) 0
  else ofRatio (total < 0) total.natAbs (1 <<< 1074)

/-- The order of finite numbers, in which the two zeros are equal. -/
def le (x y : Double) : Bool :=
  x.scaled ≤ y.scaled

end Double

end BearerGate
