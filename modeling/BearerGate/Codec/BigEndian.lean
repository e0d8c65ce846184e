/-!
# Numbers as bytes

Natural numbers as bytes, the most significant first.
-/

namespace BearerGate.BigEndian

/-- The number whose digits to base 256 are the bytes. -/
def toNat (bytes : List UInt8) : Nat :=
  bytes.foldl (fun n b => n * 256 + b.toNat) 0

/-- The last `width` bytes of a number, zero bytes in front included. -/
def ofNat : Nat → Nat → List UInt8
  | 0, _ => []
  | width + 1, n => ofNat width (n / 256) ++ [UInt8.ofNat (n % 256)]

/-- How many bits a number has, without zeros in front. -/
def bitLength (n : Nat) : Nat :=
  if n = 0 then 0 else Nat.log2 n + 1

/-- How many bytes a number has, without zero bytes in front. -/
def byteLength (n : Nat) : Nat :=
  (bitLength n + 7) / 8

/-- The bytes of a number. There are no zero bytes in front, and zero has one byte. -/
def toBytes (n : Nat) : List UInt8 :=
  ofNat (max 1 (byteLength n)) n

/-- The remainder `base ^ exponent % modulus`, by repeated squaring from the highest bit of the
exponent. -/
def powMod (base exponent modulus : Nat) : Nat :=
  if exponent = 0 then 1 % modulus
  else
    let half := powMod base (exponent / 2) modulus
    let square := half * half % modulus
    if exponent % 2 = 0 then square else square * (base % modulus) % modulus
termination_by exponent

end BearerGate.BigEndian
