import BearerGate.Context
import BearerGate.Text.Split

/-!
# Bearer tokens in headers

A token stands behind the word `Bearer` and one space in the first authorization field.
-/

namespace BearerGate

namespace Headers

/-- The name of the field that holds the token. -/
def authorizationName : String := "authorization"

/-- The word in front of a token, in lower case. -/
def bearerScheme : String := "bearer"

/-- The token in the text of an authorization field. The word in front of it may be written in any
case. -/
def tokenOfText? (text : String) : Option String := do
  let (scheme, token) ← Text.splitOnce ' ' text.toList
  if token.isEmpty ∨ Text.lowerText (String.ofList scheme) ≠ bearerScheme then none
  else pure (String.ofList token)

/-- The bearer token of a request. -/
def bearerToken (headers : Headers) : Except AuthFailure String :=
  match ((headers.first? authorizationName).bind FieldValue.visibleText?).bind tokenOfText? with
  | some token => .ok token
  | none => .error .noToken

end Headers

/-- The value of an authorization field that carries a token. -/
def bearerField? (token : String) : Option FieldValue :=
  FieldValue.ofText? ("Bearer " ++ token)

namespace AuthInfo

/-- Adds the token to a request that is about to be made. -/
def authorize (info : AuthInfo) (headers : Headers) : Option Headers :=
  (bearerField? info.token).map fun value => headers.add Headers.authorizationName value

end AuthInfo

namespace Context

/-- The authorization field for a request on behalf of the same holder. -/
def outgoingBearer (context : Context) : Except AuthFailure FieldValue :=
  match context.authInfo with
  | .error failure => .error failure
  | .ok info =>
    match bearerField? info.token with
    | some value => .ok value
    | none => .error (.invalidToken .malformed)

end Context

end BearerGate
