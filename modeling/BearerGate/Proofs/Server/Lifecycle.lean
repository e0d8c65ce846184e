import BearerGate.Hook.Tap
import BearerGate.Proofs.Server.Gate

/-!
# The life of one call

Which hooks a call reaches, in which order, and with which contexts.

Hooks are arbitrary functions, so nothing that they do tells whether they have run. They are
therefore observed: an observed hook does what the hook does and writes an event into a journal
beside the world (`Hook.observed`). Observation changes neither the answer nor the world, and the
journal of a call is one of the three that `Lifecycle` lists: refused when it was received, refused
when its route was known, or handled.

The first two stages hand the context on from hook to hook (`Relay`); the last two show each hook
the same one.
-/

namespace BearerGate

/-! ## Journals -/

/-- What a hook does with the context at one of the first two stages. -/
structure Visit where
  hook : Nat
  found : Context
  left : Context
  failure : Option RpcError

/-- What happens in a call. Hooks are told apart by their places in the pipeline. -/
inductive CallEvent
  | received (visit : Visit)
  | routed (visit : Visit)
  | handled (request : Request) (response : Response)
  | failed (hook : Nat) (context : Context) (error : RpcError)
  | sent (hook : Nat) (context : Context)

variable {τ : Type}

namespace World

/-- The world with a journal beside it. -/
def journaled (world : World τ) (events : List CallEvent) : World (τ × List CallEvent) :=
  { world with trace := (world.trace, events) }

/-- The world without the journal. -/
def plain (world : World (τ × List CallEvent)) : World τ :=
  { world with trace := world.trace.1 }

/-- What has happened so far. -/
def journal (world : World (τ × List CallEvent)) : List CallEvent := world.trace.2

/-- The world after something that left the plain part as `after`, with one more event. -/
def noting (world : World (τ × List CallEvent)) (after : World τ) (event : CallEvent) :
    World (τ × List CallEvent) :=
  after.journaled (world.journal ++ [event])

end World

/-- What a stage leaves, with one more event in the journal. -/
def Progress.noting (progress : Progress τ) (world : World (τ × List CallEvent))
    (event : CallEvent) : Progress (τ × List CallEvent) :=
  ⟨progress.context, world.noting progress.world event, progress.failure⟩

/-- A visit that left the given. -/
def Visit.of (hook : Nat) (found : Context) (progress : Progress τ) : Visit :=
  ⟨hook, found, progress.context, progress.failure⟩

/-- The hook at a place of the pipeline, with events for what it does. -/
def Hook.observed (place : Nat) (hook : Hook τ) : Hook (τ × List CallEvent) where
  received context world :=
    let progress := hook.received context world.plain
    progress.noting world (.received (.of place context progress))
  routed context world :=
    let progress := hook.routed context world.plain
    progress.noting world (.routed (.of place context progress))
  sent context world := world.noting (hook.sent context world.plain) (.sent place context)
  failed context error world :=
    world.noting (hook.failed context error world.plain) (.failed place context error)

/-- The hooks from a place of the pipeline on, observed. -/
def Hook.observedFrom : Nat → List (Hook τ) → List (Hook (τ × List CallEvent))
  | _, [] => []
  | place, hook :: hooks => hook.observed place :: observedFrom (place + 1) hooks

/-- The handler, with an event for each run. -/
def Handler.observed (handler : Handler τ) : Handler (τ × List CallEvent) := fun request world =>
  let (response, after) := handler request world.plain
  (response, world.noting after (.handled request response))

/-! ## What a call looks like -/

/-- The visits of a stage to `count` hooks, the first of which has the given place: one after
another, each with the context that the one before has left, and none after one that failed. In
the end there are the last context and the failure. -/
inductive Relay : Nat → Nat → Context → List Visit → Context → Option RpcError → Prop
  | done (place : Nat) (context : Context) : Relay place 0 context [] context none
  | passed {place count : Nat} {context left last : Context} {visits : List Visit}
    {failure : Option RpcError} (rest : Relay (place + 1) count left visits last failure) :
    Relay place (count + 1) context (⟨place, context, left, none⟩ :: visits) last failure
  | failed (place count : Nat) (context left : Context) (error : RpcError) :
    Relay place (count + 1) context [⟨place, context, left, some error⟩] left (some error)

/-- The error stage: each of `count` hooks sees the context and the error, in order. -/
def failedAll (count : Nat) (context : Context) (error : RpcError) : List CallEvent :=
  (List.range count).map fun place => .failed place context error

/-- The last stage: each of `count` hooks sees the context with the status of the response, in
order. -/
def sentAll (count : Nat) (context : Context) (response : Response) : List CallEvent :=
  (List.range count).map fun place => .sent place (context.put .status response.status)

/-- The context once its route is known, if it has one. -/
def Context.routedTo (context : Context) : Option Route → Context
  | none => context
  | some route => context.put .route route

/-- The journal of a call with `count` hooks and its response. The call starts with the context
`start`, and `route` is what its pattern denotes. -/
inductive Lifecycle (count : Nat) (request : Request) (route : Option Route) (start : Context) :
    List CallEvent → Response → Prop
  | refusedOnReceipt {visits : List Visit} {last : Context} {error : RpcError}
    (received : Relay 0 count start visits last (some error)) :
    Lifecycle count request route start
      (visits.map .received ++ failedAll count last error ++ sentAll count last error.response)
      error.response
  | refusedOnRoute {visits visits' : List Visit} {last last' : Context} {error : RpcError}
    (received : Relay 0 count start visits last none)
    (routed : Relay 0 count (last.routedTo route) visits' last' (some error)) :
    Lifecycle count request route start
      (visits.map .received ++ visits'.map .routed ++ failedAll count last' error ++
        sentAll count last' error.response)
      error.response
  | handled {visits visits' : List Visit} {last last' : Context}
    (received : Relay 0 count start visits last none)
    (routed : Relay 0 count (last.routedTo route) visits' last' none) (response : Response) :
    Lifecycle count request route start
      (visits.map .received ++ visits'.map .routed ++
        [.handled { request with context := some last' } response] ++
        (response.failure.elim [] fun error => failedAll count last' error) ++
        sentAll count last' response)
      response

/-! ## The stages, observed -/

namespace World

variable {world : World (τ × List CallEvent)} {after : World τ} {events : List CallEvent}

@[simp]
theorem plain_journaled : (after.journaled events).plain = after := rfl

@[simp]
theorem journal_journaled : (after.journaled events).journal = events := rfl

end World

namespace Hook

/-- A stage of observed hooks goes as the stage of the hooks does, and its visits are a relay. -/
theorem inTurn_observedFrom
    {stage : Hook τ → Context → World τ → Progress τ}
    {observedStage : Hook (τ × List CallEvent) → Context → World (τ × List CallEvent) →
      Progress (τ × List CallEvent)} (event : Visit → CallEvent)
    (observes : ∀ place (hook : Hook τ) context world,
      observedStage (hook.observed place) context world =
        (stage hook context world.plain).noting world
          (event (.of place context (stage hook context world.plain))))
    (hooks : List (Hook τ)) (place : Nat) (context : Context)
    (world : World (τ × List CallEvent)) :
    ∃ visits last after failure,
      inTurn stage hooks context world.plain = ⟨last, after, failure⟩ ∧
      inTurn observedStage (observedFrom place hooks) context world =
        ⟨last, after.journaled (world.journal ++ visits.map event), failure⟩ ∧
      Relay place hooks.length context visits last failure := by
  induction hooks generalizing place context world with
  | nil =>
    refine ⟨[], context, world.plain, none, rfl, ?_, .done place context⟩
    rw [List.map_nil, List.append_nil]
    rfl
  | cons hook hooks ih =>
    simp only [observedFrom, inTurn, observes]
    cases progress : stage hook context world.plain with
    | mk left after failure =>
      cases failure with
      | some error =>
        exact ⟨[⟨place, context, left, some error⟩], left, after, some error, rfl, rfl,
          .failed place hooks.length context left error⟩
      | none =>
        let noted := world.noting after (event ⟨place, context, left, none⟩)
        obtain ⟨visits, last, final, failure, here, there, relay⟩ := ih (place + 1) left noted
        refine ⟨⟨place, context, left, none⟩ :: visits, last, final, failure, here, ?_,
          .passed relay⟩
        have journal : noted.journal ++ visits.map event = world.journal ++
            (⟨place, context, left, none⟩ :: visits).map event :=
          List.append_assoc _ [_] _
        rw [journal] at there
        exact there

/-- A stage at which observed hooks look on leaves the world as the hooks do, and one event for
each of them. -/
theorem foldl_observedFrom {act : Hook τ → World τ → World τ}
    {observedAct : Hook (τ × List CallEvent) → World (τ × List CallEvent) →
      World (τ × List CallEvent)} (event : Nat → CallEvent)
    (observes : ∀ place (hook : Hook τ) world,
      observedAct (hook.observed place) world =
        world.noting (act hook world.plain) (event place))
    (hooks : List (Hook τ)) (place : Nat) (world : World (τ × List CallEvent)) :
    (observedFrom place hooks).foldl (fun world hook => observedAct hook world) world =
      (hooks.foldl (fun world hook => act hook world) world.plain).journaled
        (world.journal ++ (List.range' place hooks.length).map event) := by
  induction hooks generalizing place world with
  | nil =>
    rw [List.length_nil, List.range'_zero, List.map_nil, List.append_nil]
    rfl
  | cons hook hooks ih =>
    rw [observedFrom, List.foldl_cons, List.foldl_cons, observes, ih, List.length_cons,
      List.range'_succ, List.map_cons]
    refine congrArg (World.journaled _) ?_
    exact List.append_assoc _ [_] _

end Hook

/-! ## Calls, observed -/

namespace CallLayer

/-- The context with which a call begins: it has the headers of the request, and a bag. -/
def startOf (segmentOf : Context → Option Segment) (request : Request) (bags : BagStore) :
    Context :=
  ((Context.ofHeaders request.headers).attachBag
    (segmentOf (.ofHeaders request.headers)) bags).1

/-- The layer of a pipeline of hooks. -/
def ofHooks (hooks : List (Hook τ)) (segmentOf : Context → Option Segment) (lead : String) :
    CallLayer τ :=
  ⟨.pipeline hooks, segmentOf, lead⟩

variable {hooks : List (Hook τ)} {segmentOf : Context → Option Segment} {lead : String}

theorem receive_observed (hooks : List (Hook τ)) (segmentOf : Context → Option Segment)
    (lead : String) (request : Request) (world : World (τ × List CallEvent)) :
    ∃ visits last after failure,
      (ofHooks hooks segmentOf lead).receive request world.plain = ⟨last, after, failure⟩ ∧
      (ofHooks (Hook.observedFrom 0 hooks) segmentOf lead).receive request world =
        ⟨last, after.journaled (world.journal ++ visits.map .received), failure⟩ ∧
      Relay 0 hooks.length (startOf segmentOf request world.bags) visits last failure := by
  let base := Context.ofHeaders request.headers
  exact Hook.inTurn_observedFrom .received (fun _ _ _ _ => rfl) hooks 0
    (startOf segmentOf request world.bags)
    { world with bags := (base.attachBag (segmentOf base) world.bags).2 }

theorem route_observed (hooks : List (Hook τ)) (segmentOf : Context → Option Segment)
    (lead pattern : String) (context : Context) (world : World (τ × List CallEvent)) :
    ∃ visits last after failure,
      (ofHooks hooks segmentOf lead).route pattern context world.plain =
        ⟨last, after, failure⟩ ∧
      (ofHooks (Hook.observedFrom 0 hooks) segmentOf lead).route pattern context world =
        ⟨last, after.journaled (world.journal ++ visits.map .routed), failure⟩ ∧
      Relay 0 hooks.length (context.routedTo (Route.parse? pattern lead)) visits last
        failure := by
  unfold route
  have lead_eq : ∀ hooks : List (Hook τ), (ofHooks hooks segmentOf lead).lead = lead :=
    fun _ => rfl
  have lead_eq' : ∀ hooks : List (Hook (τ × List CallEvent)),
      (ofHooks hooks segmentOf lead).lead = lead := fun _ => rfl
  rw [lead_eq, lead_eq']
  cases Route.parse? pattern lead with
  | none =>
    exact Hook.inTurn_observedFrom .routed (fun _ _ _ _ => rfl) hooks 0 context world
  | some route =>
    exact Hook.inTurn_observedFrom .routed (fun _ _ _ _ => rfl) hooks 0
      (context.put .route route)
      { world with
        bags := context.annotate methodNote (.string route.method)
          (context.annotate serviceNote (.string route.service) world.bags) }

theorem report_observed (context : Context) (response : Response)
    (world : World (τ × List CallEvent)) :
    (ofHooks (Hook.observedFrom 0 hooks) segmentOf lead).report context response world =
      ((ofHooks hooks segmentOf lead).report context response world.plain).journaled
        (world.journal ++
          response.failure.elim [] fun error => failedAll hooks.length context error) := by
  unfold report
  cases response.failure with
  | none =>
    rw [Option.elim_none, List.append_nil]
    rfl
  | some error =>
    rw [Option.elim_some, failedAll, List.range_eq_range']
    exact Hook.foldl_observedFrom (fun place => .failed place context error)
      (fun _ _ _ => rfl) hooks 0 world

theorem close_observed (context : Context) (response : Response)
    (world : World (τ × List CallEvent)) :
    (ofHooks (Hook.observedFrom 0 hooks) segmentOf lead).close context response world =
      ((ofHooks hooks segmentOf lead).close context response world.plain).journaled
        (world.journal ++ sentAll hooks.length context response) := by
  rw [sentAll, List.range_eq_range']
  exact Hook.foldl_observedFrom
    (fun place => .sent place (context.put .status response.status))
    (fun _ _ _ => rfl) hooks 0 world

/-- The end of a call, whoever has answered it. -/
theorem close_report_observed (context : Context) (response : Response)
    (world : World (τ × List CallEvent)) :
    (ofHooks (Hook.observedFrom 0 hooks) segmentOf lead).close context response
        ((ofHooks (Hook.observedFrom 0 hooks) segmentOf lead).report context response world) =
      ((ofHooks hooks segmentOf lead).close context response
        ((ofHooks hooks segmentOf lead).report context response world.plain)).journaled
        (world.journal ++
          (response.failure.elim [] fun error => failedAll hooks.length context error) ++
          sentAll hooks.length context response) := by
  rw [close_observed, report_observed]
  rfl

theorem refuses_of_receive {layer : CallLayer τ} {request : Request} {world reached : World τ}
    {pattern : String} {context : Context} {error : RpcError}
    (matched : request.pattern = some pattern)
    (received : layer.receive request world = ⟨context, reached, some error⟩) :
    layer.Refuses request world context reached error := by
  intro handler
  unfold serve
  simp only [matched, received]
  rfl

/-- A call goes the same way whether it is observed or not, and its journal is that of a call. -/
theorem serve_lifecycle (hooks : List (Hook τ)) (segmentOf : Context → Option Segment)
    (lead : String) (handler : Handler τ) {request : Request} {pattern : String}
    (matched : request.pattern = some pattern) (world : World τ) :
    ∃ response after journal,
      (ofHooks hooks segmentOf lead).serve handler request world = (response, after) ∧
      (ofHooks (Hook.observedFrom 0 hooks) segmentOf lead).serve handler.observed request
        (world.journaled []) = (response, after.journaled journal) ∧
      Lifecycle hooks.length request (Route.parse? pattern lead)
        (startOf segmentOf request world.bags) journal response := by
  obtain ⟨visits, last, after, failure, received, received', relay⟩ :=
    receive_observed hooks segmentOf lead request (world.journaled [])
  rw [World.plain_journaled] at received
  rw [World.journal_journaled, List.nil_append] at received'
  cases failure with
  | some error =>
    refine ⟨error.response, _, _, refuses_of_receive matched received handler, ?_,
      .refusedOnReceipt relay⟩
    rw [refuses_of_receive matched received', close_report_observed]
    rfl
  | none =>
    obtain ⟨visits', last', after', failure', routed, routed', relay'⟩ :=
      route_observed hooks segmentOf lead pattern last
        (after.journaled (visits.map .received))
    rw [World.plain_journaled] at routed
    rw [World.journal_journaled] at routed'
    cases failure' with
    | some error =>
      refine ⟨error.response, _, _, refuses_of_stages matched received routed handler, ?_,
        .refusedOnRoute relay relay'⟩
      rw [refuses_of_stages matched received' routed', close_report_observed]
      rfl
    | none =>
      refine ⟨_, _, _, handsOn_of_stages matched received routed handler, ?_,
        .handled relay relay' _⟩
      rw [handsOn_of_stages matched received' routed']
      dsimp only
      rw [close_report_observed]
      rfl

/-- Two hooks that let every request in. The first refuses every route, so that the second does not
hear of any. -/
def refusingHooks : List (Hook Unit) :=
  [.tap (fun _ _ world => world.trace) none (some (.new .unavailable "closed")), .inert]

theorem serve_lifecycle_refusingHooks :
    StandardHooks.bareRequest.pattern = some "/twirp/demo.Greeter/Hello" ∧
      ∃ response after journal,
        (ofHooks refusingHooks (fun _ => none) Route.defaultPrefix).serve
          (fun _ world => (.bare 200, world)) StandardHooks.bareRequest
          StandardHooks.blankWorld = (response, after) ∧
        (ofHooks (Hook.observedFrom 0 refusingHooks) (fun _ => none) Route.defaultPrefix).serve
          (Handler.observed fun _ world => (.bare 200, world)) StandardHooks.bareRequest
          (StandardHooks.blankWorld.journaled []) = (response, after.journaled journal) ∧
        Lifecycle refusingHooks.length StandardHooks.bareRequest
          (Route.parse? "/twirp/demo.Greeter/Hello" Route.defaultPrefix)
          (startOf (fun _ => none) StandardHooks.bareRequest StandardHooks.blankWorld.bags)
          journal response :=
  ⟨rfl, serve_lifecycle refusingHooks (fun _ => none) Route.defaultPrefix
    (fun _ world => (.bare 200, world)) rfl StandardHooks.blankWorld⟩

end CallLayer

end BearerGate
