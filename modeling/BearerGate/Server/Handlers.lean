import BearerGate.Inspection
import BearerGate.Server.Extract

/-!
# Handlers

Small handlers that show what the layers around them have found out, or answer in a fixed way.
-/

namespace BearerGate.Handler

variable {τ : Type}

/-- Answers every request in the same way. -/
def fixed (response : Response) : Handler τ := fun _ world => (response, world)

/-- Names the caller. -/
def whoAmI : Handler τ := fun request world =>
  (.text 200 <| match request.authState with
    | .notPresent => "absent"
    | .failed failure => "failed:" ++ failure.code
    | .authenticated info => info.claims.subject ++ "@" ++ info.claims.organisation, world)

/-- Names the holder of the token, and refuses requests that are not authenticated. -/
def subject : Handler τ := fun request world =>
  (match request.requireAuth with
    | .ok info => .text 200 ("sub=" ++ info.claims.subject)
    | .error response => response, world)

/-- Describes the context. -/
def context : Handler τ := fun request world =>
  (.text 200 (request.knownContext.view world.bags).text, world)

/-- Allows what holders of the permissions may do, in a unit or in the whole organisation.
Requests without a token are told apart from those whose token is rejected. -/
def permitted (unit : Option String) (required : List String) : Handler τ := fun request world =>
  (match request.authState with
    | .notPresent | .failed .noToken => .text 418 "anonymous"
    | .failed failure => failure.toRpcError.response
    | .authenticated info =>
      let held := match unit with
        | some unit => info.claims.holdsInUnit unit required
        | none => info.claims.holdsInOrganisation required
      if held then .text 200 "allowed" else AuthFailure.insufficientPermissions.response, world)

/-- Writes to the bag and then answers, with an error if one is given. -/
def annotating (annotations metadata : List (String × Json)) (error : Option RpcError) :
    Handler τ :=
  fun request world =>
    let context := request.knownContext
    let bags := annotations.foldl (fun bags a => context.annotate a.1 a.2 bags) world.bags
    let bags := metadata.foldl (fun bags m => context.addMetadata m.1 m.2 bags) bags
    (match error with
      | some error => error.response
      | none => .text 200 "ok", { world with bags })

end BearerGate.Handler
