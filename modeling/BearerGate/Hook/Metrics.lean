import BearerGate.Hook.Basic
import BearerGate.Metrics.Rpc

/-!
# Metrics as a hook

The start of a call is noted when the request was received, the call is counted when its route is
known, and the response when it was sent. No stage fails.
-/

namespace BearerGate.Hook

variable {τ : Type}

/-- The hook that counts calls and responses and takes their time. -/
def metrics (metrics : RpcMetrics) : Hook τ :=
  { inert with
    received := fun context world => .passed (context.put .received world.now) world
    routed := fun context world =>
      .passed context { world with registry := metrics.countRequest context world.registry }
    sent := fun context world =>
      { world with registry := metrics.countResponse context world.now world.registry } }

/-- One line about the choices for metrics, for diagnostics. -/
def metricsSummary (ownRegistry : Bool) (fixedLatency : Option Span) : String :=
  "RpcMetricsOptions \x7b custom_registry: " ++ (if ownRegistry then "true" else "false") ++
    ", test_latency: " ++
    (match fixedLatency with
      | some span => "Some(" ++ span.text ++ ")"
      | none => "None") ++
    ", .. \x7d"

end BearerGate.Hook
