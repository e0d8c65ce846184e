import BearerGate.Proofs.Codec.Base64Url
import BearerGate.Proofs.Text.Split
import BearerGate.Proofs.Text.Utf8
import BearerGate.Token.Validator

/-!
# The compact form of tokens

The tokens that can be read are the compact forms of three byte strings, the last of which is not
empty: each is encoded in one way only, and the encodings stand in a row with dots in between. So
the bytes that are read, and those that are signed, are determined by the text of the token.
-/

namespace BearerGate

open Text (Utf8.charOfByte Utf8.encodeChar)

namespace TokenSegments

/-! ## Segments -/

/-- The text of a segment that encodes the bytes. -/
def segmentText (bytes : List UInt8) : List Char :=
  (Base64Url.encode bytes).map Utf8.charOfByte

/-- The text that is signed: header and payload with the dot in between. -/
def signedText (header payload : List UInt8) : List Char :=
  segmentText header ++ '.' :: segmentText payload

/-- The text of a token. -/
def compactText (header payload signature : List UInt8) : List Char :=
  signedText header payload ++ '.' :: segmentText signature

theorem dot_not_mem_segmentText (bytes : List UInt8) : '.' ∉ segmentText bytes := by
  intro found
  obtain ⟨byte, member, same⟩ := List.mem_map.mp found
  obtain ⟨bits, rfl⟩ := Base64Url.exists_symbol_of_mem_encode member
  exact (Base64Url.symbol_plain bits).2 same

/-- A segment that stands for bytes is their encoding. -/
theorem bytes?_eq_some_iff {segment : List Char} {bytes : List UInt8} :
    bytes? segment = some bytes ↔ segment = segmentText bytes := by
  rw [segmentText, ← Base64Url.flatMap_encodeChar_eq_encode_iff, ← Base64Url.decode_eq_ok_iff,
    bytes?]
  cases Base64Url.decode (segment.flatMap Utf8.encodeChar) with
  | error fault => simp [Except.toOption]
  | ok found => simp [Except.toOption]

theorem segmentText_eq_nil_iff {bytes : List UInt8} : segmentText bytes = [] ↔ bytes = [] := by
  rw [segmentText, List.map_eq_nil_iff, Base64Url.encode_eq_nil_iff]

/-! ## Tokens -/

/-- A token has segments just when its text is the compact form of their bytes. -/
theorem ofToken?_eq_some_iff {token : String} {segments : TokenSegments} :
    ofToken? token = some segments ↔
      token.toList = compactText segments.header segments.payload segments.signature ∧
        segments.signature ≠ [] ∧
        segments.signed =
          (signedText segments.header segments.payload).flatMap Utf8.encodeChar := by
  constructor
  · intro found
    unfold ofToken? at found
    split at found
    · next header payload signature parts =>
      split at found
      · cases found
      · next notEmpty =>
        obtain ⟨signatureBytes, hs, found⟩ := Option.bind_eq_some_iff.mp found
        obtain ⟨headerBytes, hh, found⟩ := Option.bind_eq_some_iff.mp found
        obtain ⟨payloadBytes, hp, found⟩ := Option.bind_eq_some_iff.mp found
        cases found
        obtain rfl := bytes?_eq_some_iff.mp hs
        obtain rfl := bytes?_eq_some_iff.mp hh
        obtain rfl := bytes?_eq_some_iff.mp hp
        obtain ⟨text, -⟩ := Text.splitEach_eq_three_iff.mp parts
        refine ⟨?_, ?_, rfl⟩
        · rw [text, compactText, signedText, List.append_assoc]
          rfl
        · rintro rfl
          exact notEmpty rfl
    · cases found
  · rintro ⟨text, notEmpty, signed⟩
    have parts : Text.splitEach '.' token.toList = [segmentText segments.header,
        segmentText segments.payload, segmentText segments.signature] := by
      rw [Text.splitEach_eq_three_iff]
      refine ⟨?_, dot_not_mem_segmentText _, dot_not_mem_segmentText _,
        dot_not_mem_segmentText _⟩
      rw [text, compactText, signedText, List.append_assoc]
      rfl
    have written : (segmentText segments.signature).isEmpty = false := by
      rw [List.isEmpty_eq_false_iff]
      exact fun nothing => notEmpty (segmentText_eq_nil_iff.mp nothing)
    unfold ofToken?
    rw [parts]
    simp only [written, bytes?_eq_some_iff.mpr rfl]
    obtain ⟨header, payload, signature, signedBytes⟩ := segments
    dsimp only at signed
    subst signed
    rfl

end TokenSegments

open TokenSegments (compactText signedText)

/-- What is read is written in the token: its text is the compact form of the segments, and
header and payload are what their bytes encode. -/
structure ReadToken.IsOf (read : ReadToken) (token : String) : Prop where
  text : token.toList =
    compactText read.segments.header read.segments.payload read.segments.signature
  signature_ne_nil : read.segments.signature ≠ []
  signed : read.segments.signed =
    (signedText read.segments.header read.segments.payload).flatMap Utf8.encodeChar
  header : TokenHeader.ofBytes? read.segments.header = some read.header
  claims : Claims.ofBytes? read.segments.payload = some read.claims

theorem ReadToken.ofToken?_eq_some_iff {token : String} {read : ReadToken} :
    ofToken? token = some read ↔ read.IsOf token := by
  constructor
  · intro found
    obtain ⟨segments, parts, found⟩ := Option.bind_eq_some_iff.mp found
    obtain ⟨header, headed, found⟩ := Option.bind_eq_some_iff.mp found
    obtain ⟨claims, paid, found⟩ := Option.bind_eq_some_iff.mp found
    cases found
    obtain ⟨text, notEmpty, signed⟩ := TokenSegments.ofToken?_eq_some_iff.mp parts
    exact ⟨text, notEmpty, signed, headed, paid⟩
  · rintro ⟨text, notEmpty, signed, headed, paid⟩
    have parts := TokenSegments.ofToken?_eq_some_iff.mpr ⟨text, notEmpty, signed⟩
    unfold ofToken?
    rw [parts, Option.bind_eq_bind, Option.bind_some, headed]
    simp only [Option.bind_eq_bind, Option.bind_some, paid]
    rfl

/-- A token is read in one way only. -/
theorem ReadToken.IsOf.unique {token : String} {read other : ReadToken} (here : read.IsOf token)
    (there : other.IsOf token) : read = other := by
  have first := ofToken?_eq_some_iff.mpr here
  rw [ofToken?_eq_some_iff.mpr there] at first
  exact (Option.some.inj first).symm

end BearerGate
