import BearerGate.Hook.Basic

/-!
# Calls with hooks

A layer of hooks runs around the handler of each request that matched a registered path. The
stages of a call are functions of their own: receive, route, refuse or close. `serve` composes
them, and `CallPhase.step` takes them one at a time, so that the stages of several calls can be
mixed.

A call ends with the error stage if a stage failed or the handler's response answers with an
error, and in any case with the stage at which the response is sent.
-/

namespace BearerGate

/-- A request. `pattern` is the registered path that it matched, and `context` what the layers
outside have found out. -/
structure Request where
  method : String
  path : String
  headers : Headers
  body : List UInt8
  pattern : Option String
  context : Option Context

/-- The context of a request, empty if there is none. -/
def Request.knownContext (request : Request) : Context :=
  request.context.getD .empty

/-- What answers requests. -/
abbrev Handler (τ : Type) := Request → World τ → Response × World τ

/-- A layer of hooks. -/
structure CallLayer (τ : Type) where
  hook : Hook τ
  /-- The segment of an outer trace to which a request belongs. -/
  segmentOf : Context → Option Segment
  /-- What stands before the service in the path of a call. -/
  lead : String

namespace CallLayer

variable {τ : Type}

/-- A layer below the usual path, without an outer trace. -/
def new (hook : Hook τ) : CallLayer τ := ⟨hook, fun _ => none, Route.defaultPrefix⟩

/-- The layer with another prefix; slashes at its end do not count. -/
def withPrefix (layer : CallLayer τ) (lead : String) : CallLayer τ :=
  { layer with lead := Text.dropTrailingSlashes lead }

/-- The layer with an outer trace. -/
def withSegments (layer : CallLayer τ) (segmentOf : Context → Option Segment) : CallLayer τ :=
  { layer with segmentOf }

/-- The annotation for the service of a call. -/
def serviceNote : String := "twirp_service"

/-- The annotation for the method of a call. -/
def methodNote : String := "twirp_method"

/-- The first stage: the request has a context with its headers and a bag. -/
def receive (layer : CallLayer τ) (request : Request) (world : World τ) : Progress τ :=
  let base := Context.ofHeaders request.headers
  let (context, bags) := base.attachBag (layer.segmentOf base) world.bags
  layer.hook.received context { world with bags }

/-- The second stage: the route is known, if the matched path denotes one. -/
def route (layer : CallLayer τ) (pattern : String) (context : Context) (world : World τ) :
    Progress τ :=
  match Route.parse? pattern layer.lead with
  | none => layer.hook.routed context world
  | some route =>
    let bags := context.annotate methodNote (.string route.method)
      (context.annotate serviceNote (.string route.service) world.bags)
    layer.hook.routed (context.put .route route) { world with bags }

/-- The last stage: the response is sent. -/
def close (layer : CallLayer τ) (context : Context) (response : Response) (world : World τ) :
    World τ :=
  layer.hook.sent (context.put .status response.status) world

/-- The error stage, for a response that answers with an error. -/
def report (layer : CallLayer τ) (context : Context) (response : Response) (world : World τ) :
    World τ :=
  match response.failure with
  | some error => layer.hook.failed context error world
  | none => world

/-- Answers a call in place of the handler. -/
def refuse (layer : CallLayer τ) (context : Context) (error : RpcError) (world : World τ) :
    Response × World τ :=
  let response := error.response
  (response, layer.close context response (layer.report context response world))

/-- Serves a request. One that matched no registered path is passed on as it is. -/
def serve (layer : CallLayer τ) (handler : Handler τ) : Handler τ := fun request world =>
  match request.pattern with
  | none => handler request world
  | some pattern =>
    let received := layer.receive request world
    match received.failure with
    | some error => layer.refuse received.context error received.world
    | none =>
      let routed := layer.route pattern received.context received.world
      match routed.failure with
      | some error => layer.refuse routed.context error routed.world
      | none =>
        let (response, world) :=
          handler { request with context := some routed.context } routed.world
        (response, layer.close routed.context response (layer.report routed.context response world))

/-- One line about a layer for diagnostics. -/
def summary (lead : String) (hasSegments : Bool) : String :=
  "RpcHooksState \x7b prefix: " ++ Text.quote lead ++ ", tracing_segments: " ++
    (if hasSegments then "true" else "false") ++ ", .. \x7d"

end CallLayer

/-! ## One stage at a time -/

/-- How far a call has come. -/
inductive CallPhase
  | arrived
  | received (context : Context)
  | routed (context : Context)
  /-- The response is known, and the error stage is next. -/
  | answered (context : Context) (response : Response)
  /-- The error stage is over, and the response is to be sent. -/
  | reported (context : Context) (response : Response)
  | finished (response : Response)

namespace CallPhase

variable {τ : Type}

/-- The phase after a stage: the given one, or the answer to the error that the stage failed with.
-/
def afterStage (progress : Progress τ) (passed : Context → CallPhase) : CallPhase × World τ :=
  match progress.failure with
  | some error => (.answered progress.context error.response, progress.world)
  | none => (passed progress.context, progress.world)

/-- The next stage of a call that matched a registered path. -/
def step (layer : CallLayer τ) (handler : Handler τ) (request : Request) (pattern : String) :
    CallPhase → World τ → CallPhase × World τ
  | .arrived, world => afterStage (layer.receive request world) .received
  | .received context, world => afterStage (layer.route pattern context world) .routed
  | .routed context, world =>
    let (response, world) := handler { request with context := some context } world
    (.answered context response, world)
  | .answered context response, world =>
    (.reported context response, layer.report context response world)
  | .reported context response, world => (.finished response, layer.close context response world)
  | .finished response, world => (.finished response, world)

end CallPhase

end BearerGate
