import BearerGate.Codec.Base64Url
import BearerGate.Text.Split
import BearerGate.Text.Utf8

/-!
# The segments of a token

The three segments of a token and the bytes that they stand for.
-/

namespace BearerGate

/-- The bytes of a token's segments, and the bytes that were signed. -/
structure TokenSegments where
  header : List UInt8
  payload : List UInt8
  signature : List UInt8
  signed : List UInt8
  deriving DecidableEq

namespace TokenSegments

/-- The bytes that a segment encodes. -/
def bytes? (segment : List Char) : Option (List UInt8) :=
  (Base64Url.decode (segment.flatMap Text.Utf8.encodeChar)).toOption

/-- The segments of a token: three of them with dots in between, each of them encoded without
padding, the third not empty. What is signed is the text of the first two with the dot. -/
def ofToken? (token : String) : Option TokenSegments :=
  match Text.splitEach '.' token.toList with
  | [header, payload, signature] =>
    if signature.isEmpty then none
    else do
      let signatureBytes ← bytes? signature
      let headerBytes ← bytes? header
      let payloadBytes ← bytes? payload
      pure ⟨headerBytes, payloadBytes, signatureBytes,
        (header ++ '.' :: payload).flatMap Text.Utf8.encodeChar⟩
  | _ => none

end TokenSegments

end BearerGate
