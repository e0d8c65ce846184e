import BearerGate.Codec.Base64Url
import BearerGate.Codec.Signature
import BearerGate.Keys.Failure
import BearerGate.Text.Utf8

/-!
# Signing keys

A published signing key: a name, the algorithm that it is published for, and an RSA public key.

The two numbers of the key are published as big-endian bytes in base64url. Zero bytes in front do
not change a number; the exponent has at most eight bytes, zeros included.
-/

namespace BearerGate

/-- A signing key of a key set. -/
structure KeyEntry where
  id : String
  algorithm : String
  key : RsaKey
  deriving DecidableEq

/-- Why the published components do not make up a key. -/
inductive ComponentFault
  | modulusEncoding (fault : Base64Url.Fault)
  | modulusEmpty
  | exponentEncoding (fault : Base64Url.Fault)
  | exponentEmpty
  | exponentTooLong (length : Nat)
  | rsa (fault : RsaFault)
  deriving DecidableEq

namespace KeyEntry

/-- The most bytes that an exponent may have. -/
def exponentWidth : Nat := 8

end KeyEntry

/-- The wording of a fault. -/
def ComponentFault.message : ComponentFault → String
  | .modulusEncoding fault => "modulus is not base64url: " ++ fault.message
  | .modulusEmpty => "modulus is empty"
  | .exponentEncoding fault => "exponent is not base64url: " ++ fault.message
  | .exponentEmpty => "exponent is empty"
  | .exponentTooLong length =>
    "exponent is " ++ toString length ++ " bytes, at most " ++ toString KeyEntry.exponentWidth ++
      " supported"
  | .rsa fault => fault.message

namespace KeyEntry

/-- The number that a published modulus encodes. -/
def decodeModulus (n : String) : Except ComponentFault Nat :=
  match Base64Url.decode (Text.Utf8.encode n) with
  | .error fault => .error (.modulusEncoding fault)
  | .ok [] => .error .modulusEmpty
  | .ok bytes => .ok (BigEndian.toNat bytes)

/-- The number that a published exponent encodes: its bytes, filled up with zeros in front. -/
def decodeExponent (e : String) : Except ComponentFault Nat :=
  match Base64Url.decode (Text.Utf8.encode e) with
  | .error fault => .error (.exponentEncoding fault)
  | .ok [] => .error .exponentEmpty
  | .ok bytes =>
    if bytes.length > exponentWidth then .error (.exponentTooLong bytes.length)
    else .ok (BigEndian.toNat (List.replicate (exponentWidth - bytes.length) 0 ++ bytes))

/-- The key that the published components make up. -/
def ofEncoded (id algorithm n e : String) : Except ComponentFault KeyEntry := do
  let modulus ← decodeModulus n
  let exponent ← decodeExponent e
  match RsaKey.fault? modulus exponent with
  | some fault => .error (.rsa fault)
  | none => .ok ⟨id, algorithm, ⟨modulus, exponent⟩⟩

/-- The key that the published components make up, with a failure that names the key. -/
def ofComponents (id algorithm n e : String) : Except KeyFailure KeyEntry :=
  match ofEncoded id algorithm n e with
  | .ok entry => .ok entry
  | .error fault => .error (.invalidKey id fault.message)

/-- What verification is given of a key. -/
def verificationKey (entry : KeyEntry) : RsaKeyBytes :=
  entry.key.bytes

/-- One line about a key for diagnostics, without the modulus itself. -/
def summary (entry : KeyEntry) : String :=
  "KeyEntry \x7b id: " ++ Text.quote entry.id ++ ", algorithm: " ++ Text.quote entry.algorithm ++
    ", modulus_bits: " ++ toString (BigEndian.bitLength entry.key.modulus) ++
    ", exponent: " ++ toString entry.key.exponent ++ " \x7d"

end KeyEntry

end BearerGate
