import BearerGate.World

/-!
# Hooks

A hook takes part in a call at up to four stages: when the request was received, when its route is
known, when the response was sent, and when the call has failed. At the first two it may change
the context and may fail the call; at the others it only looks on. Hooks are combined to hooks: a
pipeline runs them one after another, up to the first that fails a stage.
-/

namespace BearerGate

/-- What a stage leaves: the context, the world, and the error if the stage failed. -/
structure Progress (τ : Type) where
  context : Context
  world : World τ
  failure : Option RpcError

namespace Progress

variable {τ : Type}

/-- A stage that was passed. -/
def passed (context : Context) (world : World τ) : Progress τ := ⟨context, world, none⟩

/-- Goes on with the next stage, unless this one failed. -/
def andThen (progress : Progress τ) (next : Context → World τ → Progress τ) : Progress τ :=
  match progress.failure with
  | some _ => progress
  | none => next progress.context progress.world

end Progress

/-- A hook. -/
structure Hook (τ : Type) where
  received : Context → World τ → Progress τ
  routed : Context → World τ → Progress τ
  sent : Context → World τ → World τ
  failed : Context → RpcError → World τ → World τ

namespace Hook

variable {τ : Type}

/-- The hook that does nothing at any stage. -/
def inert : Hook τ where
  received := .passed
  routed := .passed
  sent _ world := world
  failed _ _ world := world

instance : Inhabited (Hook τ) := ⟨inert⟩

/-- Runs a stage of one hook after another, up to the first that fails. -/
def inTurn (stage : Hook τ → Context → World τ → Progress τ) :
    List (Hook τ) → Context → World τ → Progress τ
  | [], context, world => .passed context world
  | hook :: hooks, context, world => (stage hook context world).andThen (inTurn stage hooks)

/-- Several hooks as one. At the first two stages they run in order up to the first that fails;
the others reach all of them, in order. -/
def pipeline (hooks : List (Hook τ)) : Hook τ where
  received := inTurn received hooks
  routed := inTurn routed hooks
  sent context world := hooks.foldl (fun world hook => hook.sent context world) world
  failed context error world :=
    hooks.foldl (fun world hook => hook.failed context error world) world

/-- Metrics and authentication as one hook. When the route is known, authentication comes first,
and metrics come after it whether it failed or not; what they answer then does not count. -/
def authMetrics (metrics auth : Hook τ) : Hook τ where
  received context world := (metrics.received context world).andThen auth.received
  routed context world :=
    let authenticated := auth.routed context world
    let counted := metrics.routed authenticated.context authenticated.world
    { counted with failure := authenticated.failure }
  sent context world := auth.sent context (metrics.sent context world)
  failed context error world := auth.failed context error (metrics.failed context error world)

/-- One line about a pipeline for diagnostics. -/
def pipelineSummary (length : Nat) : String :=
  "HookPipeline \x7b hooks: " ++ toString length ++ " \x7d"

end Hook

end BearerGate
