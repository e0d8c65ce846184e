import BearerGate.Text.Quoted

/-!
# Missing keys

The ways in which a signing key cannot be had.
-/

namespace BearerGate

/-- Why a source of keys gave none. -/
inductive KeyFailure
  /-- The request for the key set got no complete answer. -/
  | transport (detail : String)
  /-- The answer had a status other than success. -/
  | status (code : Nat)
  /-- The answer is no key set. -/
  | undecodable (detail : String)
  /-- A published key cannot be used. -/
  | invalidKey (id reason : String)
  /-- The key set has no key of that name. -/
  | notFound (id : String)
  /-- The caller gave up before there was an answer. -/
  | cancelled
  deriving DecidableEq

namespace KeyFailure

/-- What stands in a message for the words of the transport or of the text format, which are not
part of what this library answers. -/
def undisclosed : String := "*"

/-- The wording of a failure. -/
def message : KeyFailure → String
  | .transport detail => "failed to fetch jwks: " ++ detail
  | .status code => "jwks endpoint responded with: " ++ toString code
  | .undecodable detail => "failed to decode jwks response: " ++ detail
  | .invalidKey id reason => "invalid key " ++ Text.quote id ++ " in jwks: " ++ reason
  | .notFound id => "key " ++ Text.quote id ++ " not found"
  | .cancelled => "jwks refresh was cancelled"

end KeyFailure

end BearerGate
