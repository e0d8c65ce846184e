import BearerGate.Json.Basic
import BearerGate.Rpc.Code

/-!
# Errors of calls

An error has a code, a message and further details by name. Its written form leaves the details
out if there are none.
-/

namespace BearerGate

/-- An error that a call can end with. -/
structure RpcError where
  code : ErrorCode
  message : String
  details : Dict String
  deriving DecidableEq

namespace RpcError

/-- An error without details. -/
def new (code : ErrorCode) (message : String) : RpcError :=
  ⟨code, message, .empty⟩

/-- The error with one more detail; a detail of the same name is replaced. -/
def withDetail (error : RpcError) (name value : String) : RpcError :=
  { error with details := error.details.insert name value }

/-- The status that the error is answered with. -/
def httpStatus (error : RpcError) : Nat :=
  error.code.httpStatus

/-- One line about an error: its code and its message. -/
def display (error : RpcError) : String :=
  error.code.name ++ ": " ++ error.message

/-- The error as a value. -/
def toJson (error : RpcError) : Json :=
  .object <|
    [("code", .string error.code.name), ("msg", .string error.message)] ++
    if error.details.isEmpty then []
    else [("meta", .object (error.details.entries.map fun detail => (detail.1, .string detail.2)))]

end RpcError

end BearerGate
