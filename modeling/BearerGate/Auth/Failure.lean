import BearerGate.Http.Response
import BearerGate.Token.Rejection

/-!
# Failed authentication

That a request has no token is not an error of a token, so that callers without one can be served.
An answer with a failure names its code; as an error of a call, a missing and a rejected token
look alike but for the reason among its details.
-/

namespace BearerGate

/-- Why a request is not authenticated. -/
inductive AuthFailure
  | noToken
  | invalidToken (fault : TokenFault)
  | keysUnavailable (failure : KeyFailure)
  | notAuthenticated
  | insufficientPermissions
  deriving DecidableEq

namespace AuthFailure

/-- The failure that a rejected token is. -/
def ofRejection : TokenRejection → AuthFailure
  | .invalid fault => .invalidToken fault
  | .keysUnavailable failure => .keysUnavailable failure

/-- The wording of a failure. -/
def message : AuthFailure → String
  | .noToken => "no token found"
  | .invalidToken fault => "invalid token: " ++ fault.tag
  | .keysUnavailable failure => "signing keys unavailable: " ++ failure.message
  | .notAuthenticated => "no authentication information in context"
  | .insufficientPermissions => "insufficient permissions for this operation"

/-- The word for a failure in responses. -/
def code : AuthFailure → String
  | .noToken => "no_token"
  | .invalidToken fault => fault.tag
  | .keysUnavailable _ => "jwks_unavailable"
  | .notAuthenticated => "not_authenticated"
  | .insufficientPermissions => "insufficient_permissions"

/-- The status that a failure is answered with. -/
def httpStatus : AuthFailure → Nat
  | .noToken | .invalidToken _ => 401
  | .insufficientPermissions => 403
  | .keysUnavailable _ => 503
  | .notAuthenticated => 500

/-- Whether the request just has no token. -/
def isNoToken : AuthFailure → Bool
  | .noToken => true
  | _ => false

/-- The code that a failure has as an error of a call. -/
def rpcCode : AuthFailure → ErrorCode
  | .noToken | .invalidToken _ => .unauthenticated
  | .insufficientPermissions => .permissionDenied
  | .keysUnavailable _ => .unavailable
  | .notAuthenticated => .internal

/-- The message that a failure has as an error of a call. -/
def rpcMessage (failure : AuthFailure) : String :=
  if failure.rpcCode = .unauthenticated then "Unauthenticated" else failure.message

/-- The failure as an error of a call. -/
def toRpcError (failure : AuthFailure) : RpcError :=
  (RpcError.new failure.rpcCode failure.rpcMessage).withDetail "reason" failure.code

/-- The failure as a value. -/
def toJson (failure : AuthFailure) : Json :=
  .object [("error", .string failure.message), ("error_code", .string failure.code)]

/-- The response that answers with a failure. -/
def response (failure : AuthFailure) : Response :=
  (Response.json failure.httpStatus failure.toJson).tagged failure.toRpcError

end AuthFailure

end BearerGate
