import BearerGate.Context
import BearerGate.Metrics.Registry

/-!
# Metrics of calls

Three families: the calls, the time that they took, and the responses. All are told apart by
service, method and organisation, responses by their status, too.
-/

namespace BearerGate

/-- The families of the metrics of calls, and where their values come from. -/
structure RpcMetrics where
  requests : Family .counter
  duration : Family .histogram
  responses : Family .counter
  /-- The organisation on whose behalf a call is made. -/
  organisation : Context → String
  /-- Taken for the time of every call if it is given. -/
  fixedLatency : Option Span

namespace RpcMetrics

/-- The name of the family that counts calls. -/
def requestsName : String := "rpc_requests_total"

/-- The name of the family that records how long calls take. -/
def durationName : String := "rpc_duration"

/-- The name of the family that counts responses. -/
def responsesName : String := "rpc_responses_total"

/-- The labels of calls. -/
def callLabels : List String := ["service", "method", "organisation"]

/-- The labels of responses. -/
def responseLabels : List String := ["service", "method", "status", "organisation"]

/-- Five milliseconds, doubled up to more than a minute. -/
def durationBounds : List Double :=
  (List.range 15).map fun i => Double.ofNat (5 <<< i)

/-- The organisation of the verified claims, empty if there are none. -/
def claimedOrganisation (context : Context) : String :=
  match context.authState.claims? with
  | some claims => claims.organisation
  | none => ""

/-- Registers the three families. The first whose name is taken ends it; those before stay
registered. -/
def register (organisation : Context → String) (fixedLatency : Option Span) (registry : Registry) :
    Except MetricsFailure RpcMetrics × Registry :=
  match registry.register .counter requestsName "Number of RPC requests received." callLabels with
  | (.error failure, registry) => (.error failure, registry)
  | (.ok requests, registry) =>
    match registry.register .histogram durationName "Duration for a rpc call." callLabels with
    | (.error failure, registry) => (.error failure, registry)
    | (.ok duration, registry) =>
      match registry.register .counter responsesName "Number of RPC responses sent."
          responseLabels with
      | (.error failure, registry) => (.error failure, registry)
      | (.ok responses, registry) =>
        (.ok ⟨requests, duration, responses, organisation, fixedLatency⟩, registry)

/-- Counts a call that has a route. -/
def countRequest (metrics : RpcMetrics) (context : Context) (registry : Registry) : Registry :=
  match context.route with
  | none => registry
  | some route =>
    registry.attempt
      (·.increment metrics.requests [route.service, route.method, metrics.organisation context] 1)

/-- Counts the response to a call that has a route, and records its time if its start is known. -/
def countResponse (metrics : RpcMetrics) (context : Context) (now : Instant)
    (registry : Registry) : Registry :=
  match context.route with
  | none => registry
  | some route =>
    let organisation := metrics.organisation context
    let status := match context.status with
      | some status => toString status
      | none => ""
    let counted := registry.attempt
      (·.increment metrics.responses [route.service, route.method, status, organisation] 1)
    match context.received with
    | none => counted
    | some start =>
      let time := metrics.fixedLatency.getD (start.elapsed now)
      counted.attempt
        (·.record metrics.duration [route.service, route.method, organisation] time.milliseconds)

end RpcMetrics

end BearerGate
