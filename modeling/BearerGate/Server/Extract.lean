import BearerGate.Server.Call

/-!
# What handlers ask of a request

Handlers read what the layers have recorded; nothing is verified here.
-/

namespace BearerGate.Request

/-- The recorded outcome of authentication. -/
def authState (request : Request) : AuthState :=
  request.knownContext.authState

/-- The verified token, or the response that refuses a request without one. -/
def requireAuth (request : Request) : Except Response AuthInfo :=
  request.authState.result.mapError AuthFailure.response

end BearerGate.Request
