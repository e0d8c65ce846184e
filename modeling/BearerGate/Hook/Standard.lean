import BearerGate.Hook.Authentication
import BearerGate.Hook.ErrorLog
import BearerGate.Hook.Metrics

/-!
# The usual hooks

Metrics, authentication and the error log, in this order. Authentication is what the caller brings
along, or what the keys of an identity service require, or absent.
-/

namespace BearerGate

/-- What the usual hooks are made from. -/
structure StandardHooks (τ : Type) where
  /-- Authentication, if the caller brings it along. -/
  auth : Option (Hook τ)
  /-- The identity service whose keys authenticate requests, if the caller does not. -/
  serviceUrl : Option String
  organisation : Context → String
  fixedLatency : Option Span

namespace StandardHooks

variable {τ : Type}

/-- Authentication that is required, with keys from an identity service. -/
def serviceAuthentication (url : String) (world : World τ) : Hook τ × World τ :=
  let (provider, world) := world.addManager (jwksEndpoint url)
  (.authentication ⟨provider, defaultLeeway, Authenticator.annotateIdentity⟩ .required, world)

/-- The authentication that was asked for. -/
def authentication (options : StandardHooks τ) (world : World τ) : Option (Hook τ) × World τ :=
  match options.auth, options.serviceUrl with
  | some hook, _ => (some hook, world)
  | none, some url =>
    let (hook, world) := serviceAuthentication url world
    (some hook, world)
  | none, none => (none, world)

/-- The usual hooks around metrics that are registered. -/
def arranged (metrics : RpcMetrics) : Option (Hook τ) → List (Hook τ)
  | some auth => [.authMetrics (.metrics metrics) auth, .errorLog]
  | none => [.metrics metrics, .errorLog]

/-- Registers the metrics and makes the hooks. -/
def build (options : StandardHooks τ) (world : World τ) :
    Except MetricsFailure (List (Hook τ)) × World τ :=
  match RpcMetrics.register options.organisation options.fixedLatency world.registry with
  | (.error failure, registry) => (.error failure, { world with registry })
  | (.ok metrics, registry) =>
    let (auth, world) := options.authentication { world with registry }
    (.ok (arranged metrics auth), world)

end StandardHooks

end BearerGate
