import BearerGate.Codec.Digest

/-!
# RSA signatures

RSA signatures with PKCS #1 v1.5 padding.

A public key is a pair of numbers. A signature is valid for a message if it is exactly as long as
the modulus, is a number below it, and its power is the padded digest of the message.
-/

namespace BearerGate

/-- The signature algorithms, by the width of their digest. -/
inductive RsaAlgorithm
  | rs256
  | rs384
  | rs512
  deriving DecidableEq

namespace RsaAlgorithm

/-- The algorithm of a published name. -/
def ofName? (name : String) : Option RsaAlgorithm :=
  if name = "RS256" then some .rs256
  else if name = "RS384" then some .rs384
  else if name = "RS512" then some .rs512
  else none

/-- The digest of a message. -/
def digest : RsaAlgorithm → List UInt8 → List UInt8
  | .rs256 => Digest.sha256.hash
  | .rs384 => Digest.sha384.hash
  | .rs512 => Digest.sha512.hash

/-- The encoding that names the digest function and announces the digest. -/
def digestHeader (algorithm : RsaAlgorithm) : List UInt8 :=
  let (total, function, length) : UInt8 × UInt8 × UInt8 :=
    match algorithm with
    | .rs256 => (0x31, 0x01, 0x20)
    | .rs384 => (0x41, 0x02, 0x30)
    | .rs512 => (0x51, 0x03, 0x40)
  [0x30, total, 0x30, 0x0D, 0x06, 0x09, 0x60, 0x86, 0x48, 0x01, 0x65, 0x03, 0x04, 0x02, function,
    0x05, 0x00, 0x04, length]

end RsaAlgorithm

/-- Why a pair of numbers is not accepted as a public key. -/
inductive RsaFault
  | modulusTooLarge
  | invalidModulus
  | invalidExponent
  | exponentTooSmall
  | exponentTooLarge
  deriving DecidableEq

/-- The wording of a fault. -/
def RsaFault.message : RsaFault → String
  | .modulusTooLarge => "modulus too large"
  | .invalidModulus => "invalid modulus"
  | .invalidExponent => "invalid exponent"
  | .exponentTooSmall => "public exponent too small"
  | .exponentTooLarge => "public exponent too large"

/-- A public key. -/
structure RsaKey where
  modulus : Nat
  exponent : Nat
  deriving DecidableEq

namespace RsaKey

/-- The largest modulus, in bits. -/
def maxModulusBits : Nat := 4096

/-- The largest exponent. -/
def maxExponent : Nat := 0x1FFFFFFFF

/-- The first rule that the pair of numbers breaks. -/
def fault? (modulus exponent : Nat) : Option RsaFault :=
  if BigEndian.bitLength modulus > maxModulusBits then some .modulusTooLarge
  else if exponent ≥ modulus ∨ modulus % 2 = 0 then some .invalidModulus
  else if exponent % 2 = 0 then some .invalidExponent
  else if exponent < 2 then some .exponentTooSmall
  else if exponent > maxExponent then some .exponentTooLarge
  else none

/-- What the power of a valid signature looks like: the announced digest behind padding that fills
it up to `length` bytes. There is none if `length` leaves no room for eight bytes of padding. -/
def padded? (algorithm : RsaAlgorithm) (length : Nat) (message : List UInt8) :
    Option (List UInt8) :=
  let body := algorithm.digestHeader ++ algorithm.digest message
  if length < body.length + 11 then none
  else some (0x00 :: 0x01 :: (List.replicate (length - body.length - 3) 0xFF ++ 0x00 :: body))

/-- Whether `signature` is valid for `message` under the key. -/
def verifies (key : RsaKey) (algorithm : RsaAlgorithm) (message signature : List UInt8) : Bool :=
  let length := BigEndian.byteLength key.modulus
  let number := BigEndian.toNat signature
  signature.length = length && number < key.modulus &&
    match padded? algorithm length message with
    | none => false
    | some expected =>
      BigEndian.ofNat length (BigEndian.powMod number key.exponent key.modulus) = expected

end RsaKey

/-- A public key as it is handed to verification: the bytes of its two numbers. -/
structure RsaKeyBytes where
  modulus : List UInt8
  exponent : List UInt8
  deriving DecidableEq

/-- The bytes of a public key. -/
def RsaKey.bytes (key : RsaKey) : RsaKeyBytes :=
  ⟨BigEndian.toBytes key.modulus, BigEndian.toBytes key.exponent⟩

namespace RsaKeyBytes

/-- The numbers that the bytes stand for. -/
def numbers (bytes : RsaKeyBytes) : RsaKey :=
  ⟨BigEndian.toNat bytes.modulus, BigEndian.toNat bytes.exponent⟩

/-- Whether the bytes stand for a public key under which `signature` is valid for `message`. -/
def verifies (bytes : RsaKeyBytes) (algorithm : RsaAlgorithm) (message signature : List UInt8) :
    Bool :=
  (RsaKey.fault? bytes.numbers.modulus bytes.numbers.exponent).isNone &&
    bytes.numbers.verifies algorithm message signature

end RsaKeyBytes

end BearerGate
