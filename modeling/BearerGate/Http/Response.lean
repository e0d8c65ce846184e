import BearerGate.Rpc.Error

/-!
# Responses

A response may carry the error that it answers with, so that whoever passes it on can report the
error without reading the body.
-/

namespace BearerGate

/-- A response. `failure` is the error that it answers with, and is not part of what is sent. -/
structure Response where
  status : Nat
  contentType : Option String
  body : String
  failure : Option RpcError
  deriving DecidableEq

namespace Response

/-- A response without a body. -/
def bare (status : Nat) : Response := ⟨status, none, "", none⟩

/-- A response with a text. -/
def text (status : Nat) (body : String) : Response :=
  ⟨status, some "text/plain; charset=utf-8", body, none⟩

/-- A response with the compact text of a value. -/
def json (status : Nat) (body : Json) : Response :=
  ⟨status, some "application/json", body.text, none⟩

/-- The same response, marked as the answer with an error. -/
def tagged (response : Response) (error : RpcError) : Response :=
  { response with failure := some error }

/-- The same response with nothing in its body. -/
def withoutBody (response : Response) : Response :=
  { response with body := "" }

end Response

/-- The response that answers with an error. -/
def RpcError.response (error : RpcError) : Response :=
  (Response.json error.httpStatus error.toJson).tagged error

end BearerGate
