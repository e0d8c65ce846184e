import BearerGate.Auth.Authenticator
import BearerGate.Hook.Basic

/-!
# Authentication as a hook

Requests are authenticated when their route is known. Where authentication is required, one that
failed fails the call; where it is optional, the outcome is only recorded.
-/

namespace BearerGate

/-- Whether calls need authentication. -/
inductive AuthMode
  | required
  | optional
  deriving DecidableEq

namespace AuthMode

instance : Inhabited AuthMode := ⟨.required⟩

/-- The name of a mode for diagnostics. -/
def name : AuthMode → String
  | .required => "Required"
  | .optional => "Optional"

/-- The error that an outcome fails a call with. -/
def refusal? : AuthMode → AuthState → Option RpcError
  | .required, .failed failure => some failure.toRpcError
  | _, _ => none

end AuthMode

namespace Hook

variable {τ : Type}

/-- The hook that authenticates requests. -/
def authentication (authenticator : Authenticator) (mode : AuthMode) : Hook τ :=
  { inert with
    routed := fun context world =>
      let (context, world) := authenticator.authenticate context context.headers world
      ⟨context, world, mode.refusal? context.authState⟩ }

/-- One line about an authentication hook for diagnostics. -/
def authenticationSummary (mode : AuthMode) : String :=
  "AuthenticationHook \x7b authenticator: " ++ Authenticator.summary ++ ", mode: " ++ mode.name ++
    " \x7d"

end Hook

end BearerGate
