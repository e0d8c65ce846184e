import BearerGate.Keys.Manager
import BearerGate.Number.Saturating
import BearerGate.Token.Claims
import BearerGate.Token.Header
import BearerGate.Token.Rejection
import BearerGate.Token.Segments

/-!
# Validating tokens

The checks that a token has to pass.

They run in a fixed order, and the first that fails decides. Those that need no key come first, so
a token that fails one of them causes no look-up. The claims that are given out are those of the
payload whose signature was verified.
-/

namespace BearerGate

/-- A token whose header and claims can be read. Nothing in it is verified. -/
structure ReadToken where
  segments : TokenSegments
  header : TokenHeader
  claims : Claims

namespace ReadToken

/-- The header and the claims of a token. -/
def ofToken? (token : String) : Option ReadToken := do
  let segments ← TokenSegments.ofToken? token
  let header ← TokenHeader.ofBytes? segments.header
  let claims ← Claims.ofBytes? segments.payload
  pure ⟨segments, header, claims⟩

open Json (Document)

/-- Whether the header has the shape that signed tokens must have. -/
def headerIsWellShaped (token : ReadToken) : Bool :=
  match Document.ofBytes? token.segments.header with
  | some document => TokenHeader.isWellShaped document
  | none => false

/-- The number of registered claims that a payload written as a list gives by position. -/
def listedClaims : Nat := 5

/-- Whether a payload that is written as a list has exactly the registered claims, each of which
can be read at least to its end. -/
def payloadIsWellShaped (token : ReadToken) : Bool :=
  match Document.ofBytes? token.segments.payload with
  | some (.array items) =>
    items.length = listedClaims &&
      items.all fun item => item.reach (Document.depthLimit - 1) ≠ .part
  | some _ => true
  | none => false

end ReadToken

namespace Claims

/-- The bounds of the time in which claims are in force, as seen at a given second. Clocks may
differ by the leeway. -/
def windowFault? (claims : Claims) (now : Int64) (leeway : Nat) : Option TokenFault :=
  let tolerated := saturate leeway
  let oldest := saturatingSub now tolerated
  let newest := saturatingAdd now tolerated
  if claims.expiresAt.any (· < oldest) then some .expired
  else if claims.notBefore.any (newest < ·) || claims.issuedAt.any (newest < ·) then
    some .notYetValid
  else none

end Claims

/-- The second on the clock, as claims give it. -/
def Instant.second (t : Instant) : Int64 := saturate t.seconds

namespace Validation

/-- What a token must satisfy before its key is looked up. The result is the token, its algorithm
and the name of its key. -/
def precheck (token type : String) : Except TokenFault (ReadToken × RsaAlgorithm × String) :=
  match ReadToken.ofToken? token with
  | none => .error .malformed
  | some read =>
    match RsaAlgorithm.ofName? read.header.algorithm with
    | none => .error .unexpectedAlgorithm
    | some algorithm =>
      if read.claims.tokenType ≠ type then .error .unexpectedTokenType
      else
        match read.header.keyId with
        | none => .error .unknownKey
        | some id => .ok (read, algorithm, id)

/-- What a token must satisfy once its key is known. -/
def verify (read : ReadToken) (algorithm : RsaAlgorithm) (key : KeyEntry) (now : Int64)
    (leeway : Nat) : Except TokenFault Claims :=
  if key.algorithm ≠ read.header.algorithm then .error .algorithmMismatch
  else if read.headerIsWellShaped = false then .error .malformed
  else if key.key.verifies algorithm read.segments.signed read.segments.signature = false then
    .error .badSignature
  else if read.payloadIsWellShaped = false then .error .malformed
  else
    match read.claims.windowFault? now leeway with
    | some fault => .error fault
    | none => .ok read.claims

/-- A failed look-up: a name that the set does not have is the token's fault, anything else is
not. -/
def lookupRejection : KeyFailure → TokenRejection
  | .notFound _ => .invalid .unknownKey
  | failure => .keysUnavailable failure

end Validation

open Validation in
/-- The claims of a token of the given type, or the first check that it fails. The source is asked
at most once. -/
def validateToken {σ : Type} (source : KeySource σ) (now : Int64) (leeway : Nat)
    (token type : String) (state : σ) : Except TokenRejection Claims × σ :=
  match precheck token type with
  | .error fault => (.error (.invalid fault), state)
  | .ok (read, algorithm, id) =>
    match source id state with
    | (.error failure, after) => (.error (lookupRejection failure), after)
    | (.ok key, after) =>
      ((verify read algorithm key now leeway).mapError .invalid, after)

/-- As `validateToken`, for a caller who may have given up before. -/
def validateTokenUnless {σ : Type} (cancelled : Bool) (source : KeySource σ) (now : Int64)
    (leeway : Nat) (token type : String) (state : σ) : Except TokenRejection Claims × σ :=
  if cancelled then (.error (.keysUnavailable .cancelled), state)
  else validateToken source now leeway token type state

/-- The leeway if nothing else is asked for, in seconds. -/
def defaultLeeway : Nat := 60

end BearerGate
