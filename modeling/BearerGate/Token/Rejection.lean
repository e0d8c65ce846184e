import BearerGate.Keys.Failure

/-!
# Rejected tokens

Why a token is not accepted.

A token is either at fault itself, or its key cannot be had. Only the second says nothing about
the token.
-/

namespace BearerGate

/-- What is wrong with a token. -/
inductive TokenFault
  | malformed
  | unexpectedAlgorithm
  | unexpectedTokenType
  | unknownKey
  | algorithmMismatch
  | badSignature
  | expired
  | notYetValid
  deriving DecidableEq

namespace TokenFault

/-- The faults, in the order in which they are looked for. -/
def all : List TokenFault :=
  [.malformed, .unexpectedAlgorithm, .unexpectedTokenType, .unknownKey, .algorithmMismatch,
    .badSignature, .expired, .notYetValid]

/-- The word for a fault in messages and reports. -/
def tag : TokenFault → String
  | .malformed => "malformed"
  | .unexpectedAlgorithm => "unexpected_algorithm"
  | .unexpectedTokenType => "unexpected_token_type"
  | .unknownKey => "unknown_key"
  | .algorithmMismatch => "algorithm_mismatch"
  | .badSignature => "bad_signature"
  | .expired => "expired"
  | .notYetValid => "not_yet_valid"

/-- The fault with the given tag. -/
def ofTag? (tag : String) : Option TokenFault :=
  all.find? fun fault => fault.tag = tag

end TokenFault

/-- Why a token is not accepted. -/
inductive TokenRejection
  | invalid (fault : TokenFault)
  | keysUnavailable (failure : KeyFailure)
  deriving DecidableEq

namespace TokenRejection

/-- The wording of a rejection. -/
def message : TokenRejection → String
  | .invalid fault => "invalid token: " ++ fault.tag
  | .keysUnavailable failure => "signing keys unavailable: " ++ failure.message

/-- The fault of the token, if it is at fault. -/
def fault? : TokenRejection → Option TokenFault
  | .invalid fault => some fault
  | .keysUnavailable _ => none

/-- The failure behind the rejection, if the token is not at fault. -/
def failure? : TokenRejection → Option KeyFailure
  | .invalid _ => none
  | .keysUnavailable failure => some failure

end TokenRejection

end BearerGate
