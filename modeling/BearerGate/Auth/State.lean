import BearerGate.Auth.Failure
import BearerGate.Token.Claims

/-!
# The outcome of authentication

There are three: authentication did not take place, it failed, or it succeeded. A request without
a token is one whose authentication failed.
-/

namespace BearerGate

/-- A verified token and its claims. -/
structure AuthInfo where
  token : String
  claims : Claims

/-- The outcome of authentication. -/
inductive AuthState
  | notPresent
  | failed (failure : AuthFailure)
  | authenticated (info : AuthInfo)

namespace AuthState

/-- The outcome that an attempt has. -/
def ofResult : Except AuthFailure AuthInfo → AuthState
  | .ok info => .authenticated info
  | .error failure => .failed failure

/-- The verified token, if authentication succeeded. -/
def info? : AuthState → Option AuthInfo
  | .authenticated info => some info
  | _ => none

/-- The verified claims, if authentication succeeded. -/
def claims? (state : AuthState) : Option Claims :=
  state.info?.map (·.claims)

/-- The failure, if authentication failed. -/
def failure? : AuthState → Option AuthFailure
  | .failed failure => some failure
  | _ => none

/-- Whether authentication took place. -/
def isPresent : AuthState → Bool
  | .notPresent => false
  | _ => true

/-- The verified token or the failure; that authentication did not take place is a failure, too. -/
def result : AuthState → Except AuthFailure AuthInfo
  | .authenticated info => .ok info
  | .failed failure => .error failure
  | .notPresent => .error .notAuthenticated

end AuthState

end BearerGate
