import BearerGate.Keys.KeySet
import BearerGate.Text.Blank

/-!
# Key endpoints

The place where an identity service publishes its key set, seen from the side that asks for it.
-/

namespace BearerGate

/-- The address of the key set of an identity service. -/
def jwksEndpoint (serviceUrl : String) : String :=
  Text.dropTrailingSlashes serviceUrl ++ "/v1/jwks"

/-- What becomes of a request to an endpoint. -/
inductive Endpoint
  /-- There is an answer with a status and a body. -/
  | answers (status : Nat) (body : List UInt8)
  /-- The connection is closed without an answer. -/
  | drops
  /-- The connection is closed inside the body. -/
  | truncates
  /-- There is no answer, and the caller waits until it gives up. -/
  | hangs
  /-- The request does not reach anybody. -/
  | unreachable

namespace Endpoint

/-- The status of an answer that holds what was asked for. -/
def okStatus : Nat := 200

/-- The status of an answer that changes the protocol. -/
def switchingStatus : Nat := 101

/-- Whether an answer with a status ends a request. A status has three digits, and one below 200
announces an answer that is still to come, unless the protocol changes. -/
def isFinal (status : Nat) : Bool :=
  (200 ≤ status && status ≤ 999) || status = switchingStatus

/-- What a request brings to the one who made it. -/
def outcome : Endpoint → Except KeyFailure KeySet
  | .answers status body =>
    if status = okStatus then KeySet.ofBytes body
    else if isFinal status then .error (.status status)
    else .error (.transport KeyFailure.undisclosed)
  | .drops | .truncates | .hangs | .unreachable => .error (.transport KeyFailure.undisclosed)

/-- Whether a request arrives at the endpoint. -/
def isReached : Endpoint → Bool
  | .unreachable => false
  | _ => true

/-- Whether a request stays without an answer. -/
def isSilent : Endpoint → Bool
  | .hangs => true
  | _ => false

end Endpoint

end BearerGate
