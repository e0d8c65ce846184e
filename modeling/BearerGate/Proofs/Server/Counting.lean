import BearerGate.Proofs.Metrics.Totals
import BearerGate.Proofs.Server.Gate
import BearerGate.Server.CallTable

/-!
# How calls are counted

With the usual hooks a call is counted when its route becomes known, and once more when its
response is sent. The organisation is worked out anew at each of the two stages, from a context
that has changed in between.

What carries the argument is that a call that has passed the first stage holds a context whose
route and organisation stay what they were (`Call.Carries`), so that both stages name the same
label values. Each stage then changes the totals by what it changes in the part that the call has
in them (`Call.step_books`).
-/

namespace BearerGate

variable {τ : Type}

/-! ## The stages of the usual hooks and the metrics -/

/-- The organisation of the claims that are verified for a request, empty if there are none. -/
def verifiedOrganisation (auth : Option (Authenticator × AuthMode)) (headers : Headers)
    (world : World τ) : String :=
  match auth with
  | none => ""
  | some (authenticator, _) =>
    match (authenticator.verify headers world).1 with
    | .ok info => info.claims.organisation
    | .error _ => ""

theorem verifiedOrganisation_congr {auth : Option (Authenticator × AuthMode)} {headers : Headers}
    {world other : World τ} (now : other.now = world.now)
    (providers : other.providers = world.providers) :
    verifiedOrganisation auth headers other = verifiedOrganisation auth headers world := by
  rcases auth with _ | ⟨authenticator, mode⟩
  · rfl
  · have same : (authenticator.verify headers other).1 = (authenticator.verify headers world).1 :=
      Authenticator.verify_fst_congr now providers
    unfold verifiedOrganisation
    dsimp only
    rw [same]

namespace StandardHooks

open RpcMetrics (registered claimedOrganisation)

variable {layer : CallLayer τ} {auth : Option (Authenticator × AuthMode)}
  {latency : Option Span} {context : Context}

/-- A request is received with its start and its headers, and with nothing of its route and its
authentication. -/
theorem receive_noted {metrics : RpcMetrics}
    (installed : layer.hook = .pipeline (arranged metrics (hookOf auth))) (request : Request)
    (world : World τ) :
    ∃ context reached start, layer.receive request world = .passed context reached ∧
      context.received = some start ∧ context.route = none ∧
      context.headers = some request.headers ∧ context.auth = none ∧
      reached.registry = world.registry := by
  unfold CallLayer.receive
  rw [installed]
  cases auth with
  | none => exact ⟨_, _, _, rfl, rfl, rfl, rfl, rfl, rfl⟩
  | some chosen => exact ⟨_, _, _, rfl, rfl, rfl, rfl, rfl, rfl⟩

/-- The hooks count a call under the organisation that they leave in its context. -/
theorem routed_counts (auth : Option (Authenticator × AuthMode)) (latency : Option Span)
    {headers : Headers} (known : context.headers = some headers)
    (absent : context.auth = none) (world : World τ) :
    let progress := (Hook.pipeline (arranged (registered claimedOrganisation latency)
      (hookOf auth))).routed context world
    progress.context.route = context.route ∧ progress.context.received = context.received ∧
      claimedOrganisation progress.context = verifiedOrganisation auth headers world ∧
      progress.world.registry =
        (registered claimedOrganisation latency).countRequest progress.context world.registry := by
  rcases auth with _ | ⟨authenticator, mode⟩
  · refine ⟨rfl, rfl, ?_, rfl⟩
    change claimedOrganisation context = ""
    unfold claimedOrganisation Context.authState
    rw [absent]
    rfl
  · obtain ⟨bags, authenticated⟩ := authenticator.authenticate_eq context headers world
    have stage : (Hook.pipeline (arranged (registered claimedOrganisation latency)
        (hookOf (some (authenticator, mode))))).routed context world =
        (Hook.authMetrics (.metrics (registered claimedOrganisation latency))
          (.authentication authenticator mode)).routed context world :=
      Progress.andThen_of_passes _ fun _ _ => rfl
    have outcome : (Hook.authentication authenticator mode).routed context world =
        ⟨context.withAuth (authenticator.verify headers world).1,
          { (authenticator.verify headers world).2 with bags },
          mode.refusal? (context.withAuth (authenticator.verify headers world).1).authState⟩ := by
      unfold Hook.authentication
      dsimp only
      rw [known, authenticated]
    intro progress
    have progress_eq : progress = _ := stage
    unfold Hook.authMetrics at progress_eq
    dsimp only at progress_eq
    rw [outcome] at progress_eq
    rw [progress_eq]
    refine ⟨rfl, rfl, ?_, ?_⟩
    · change claimedOrganisation (context.withAuth (authenticator.verify headers world).1) =
        verifiedOrganisation (some (authenticator, mode)) headers world
      unfold verifiedOrganisation
      dsimp only
      cases (authenticator.verify headers world).1 with
      | ok info => rfl
      | error failure => rfl
    · change (registered claimedOrganisation latency).countRequest _
          (authenticator.verify headers world).2.registry = _
      rw [authenticator.verify_snd_registry]
      rfl

/-- The stage of the route counts a call that has one, under its verified organisation. -/
theorem route_counts
    (installed : layer.hook =
      .pipeline (arranged (registered claimedOrganisation latency) (hookOf auth)))
    (pattern : String) {headers : Headers} (unrouted : context.route = none)
    (known : context.headers = some headers) (absent : context.auth = none) (world : World τ) :
    let progress := layer.route pattern context world
    progress.context.route = Route.parse? pattern layer.lead ∧
      progress.context.received = context.received ∧
      claimedOrganisation progress.context = verifiedOrganisation auth headers world ∧
      progress.world.registry =
        (registered claimedOrganisation latency).countRequest progress.context world.registry := by
  unfold CallLayer.route
  rw [installed]
  cases Route.parse? pattern layer.lead with
  | none =>
    obtain ⟨route, rest⟩ := routed_counts auth latency known absent world
    exact ⟨route.trans unrouted, rest⟩
  | some parsed =>
    dsimp only
    have known' : (context.put .route parsed).headers = some headers := known
    have absent' : (context.put .route parsed).auth = none := absent
    obtain ⟨route, received, organisation, counted⟩ := routed_counts auth latency known' absent'
      { world with
        bags := context.annotate CallLayer.methodNote (.string parsed.method)
          (context.annotate CallLayer.serviceNote (.string parsed.service) world.bags) }
    exact ⟨route, received, organisation.trans (verifiedOrganisation_congr rfl rfl), counted⟩

/-- The error stage does not touch the metrics. -/
theorem report_registry {metrics : RpcMetrics}
    (installed : layer.hook = .pipeline (arranged metrics (hookOf auth))) (context : Context)
    (response : Response) (world : World τ) :
    (layer.report context response world).registry = world.registry := by
  unfold CallLayer.report
  rw [installed]
  cases response.failure with
  | none => rfl
  | some error =>
    cases auth with
    | none => rfl
    | some chosen => rfl

/-- The last stage counts the response. -/
theorem close_registry {metrics : RpcMetrics}
    (installed : layer.hook = .pipeline (arranged metrics (hookOf auth))) (context : Context)
    (response : Response) (world : World τ) :
    (layer.close context response world).registry =
      metrics.countResponse (context.put .status response.status) world.now world.registry := by
  unfold CallLayer.close
  rw [installed]
  cases auth with
  | none => rfl
  | some chosen => rfl

end StandardHooks

/-! ## The books of a call -/

namespace Call

open RpcMetrics
open StandardHooks (arranged hookOf receive_noted route_counts report_registry close_registry)

/-- The route of a call, if its request matched a registered path that denotes one. -/
def route? (layer : CallLayer τ) (call : Call τ) : Option Route :=
  call.request.pattern.bind (Route.parse? · layer.lead)

/-- The organisation of a call: that of the claims that were verified for it, if any were. -/
def organisation (auth : Option (Authenticator × AuthMode)) (call : Call τ) : String :=
  (call.routedIn.map (verifiedOrganisation auth call.request.headers)).getD ""

/-- Whether a call was counted in a series that has the label values. -/
def inRequests (layer : CallLayer τ) (auth : Option (Authenticator × AuthMode))
    (labels : List (String × String)) (call : Call τ) : Bool :=
  call.routedIn.isSome && (call.route? layer).any fun route =>
    (requestSeries (call.organisation auth) route).has requestsName labels

/-- Whether the response to a call was counted in such a series. -/
def inResponses (layer : CallLayer τ) (auth : Option (Authenticator × AuthMode))
    (labels : List (String × String)) (call : Call τ) : Bool :=
  call.response?.any fun response => (call.route? layer).any fun route =>
    (responseSeries (call.organisation auth) response.status route).has responsesName labels

/-- Whether the time of a call was recorded in such a series. -/
def inDurations (layer : CallLayer τ) (auth : Option (Authenticator × AuthMode))
    (labels : List (String × String)) (call : Call τ) : Bool :=
  call.response?.isSome && (call.route? layer).any fun route =>
    (durationSeries (call.organisation auth) route).has durationName labels

/-- A stage of a call changes the totals by what it changes in the part of the call. -/
structure Booked (layer : CallLayer τ) (auth : Option (Authenticator × AuthMode)) (call : Call τ)
    (registry : Registry) (next : Call τ) (after : Registry) : Prop where
  requests : ∀ labels,
    after.counted requestsName labels + UInt64.ofNat (call.inRequests layer auth labels).toNat =
      registry.counted requestsName labels +
        UInt64.ofNat (next.inRequests layer auth labels).toNat
  responses : ∀ labels,
    after.counted responsesName labels + UInt64.ofNat (call.inResponses layer auth labels).toNat =
      registry.counted responsesName labels +
        UInt64.ofNat (next.inResponses layer auth labels).toNat
  durations : ∀ labels,
    after.sampled durationName labels + (call.inDurations layer auth labels).toNat =
      registry.sampled durationName labels + (next.inDurations layer auth labels).toNat

/-- What the context of a call says once its route is known: the route and the organisation that
both stages name. -/
structure Carries (layer : CallLayer τ) (auth : Option (Authenticator × AuthMode))
    (request : Request) (pattern : String) (world : World τ) (context : Context) : Prop where
  matched : request.pattern = some pattern
  begun : context.received.isSome = true
  route : context.route = Route.parse? pattern layer.lead
  organisation : claimedOrganisation context = verifiedOrganisation auth request.headers world

/-- What holds of a call at each of its phases. -/
inductive Sound (layer : CallLayer τ) (auth : Option (Authenticator × AuthMode)) : Call τ → Prop
  | arrived (request : Request) (handler : Handler τ) : Sound layer auth (.arriving request handler)
  | received {request : Request} {handler : Handler τ} {pattern : String} {context : Context}
    {start : Instant} (matched : request.pattern = some pattern)
    (begun : context.received = some start) (unrouted : context.route = none)
    (headers : context.headers = some request.headers) (absent : context.auth = none) :
    Sound layer auth ⟨request, handler, .received context, none⟩
  | routed {request : Request} {handler : Handler τ} {pattern : String} {context : Context}
    {world : World τ} (carries : Carries layer auth request pattern world context) :
    Sound layer auth ⟨request, handler, .routed context, some world⟩
  | answered {request : Request} {handler : Handler τ} {pattern : String} {context : Context}
    {response : Response} {world : World τ}
    (carries : Carries layer auth request pattern world context) :
    Sound layer auth ⟨request, handler, .answered context response, some world⟩
  | reported {request : Request} {handler : Handler τ} {pattern : String} {context : Context}
    {response : Response} {world : World τ}
    (carries : Carries layer auth request pattern world context) :
    Sound layer auth ⟨request, handler, .reported context response, some world⟩
  | finished {request : Request} {handler : Handler τ} {pattern : String} {response : Response}
    {world : World τ} (matched : request.pattern = some pattern) :
    Sound layer auth ⟨request, handler, .finished response, some world⟩
  | passedOn {request : Request} {handler : Handler τ} {response : Response}
    (unmatched : request.pattern = none) :
    Sound layer auth ⟨request, handler, .finished response, none⟩

variable {layer : CallLayer τ} {auth : Option (Authenticator × AuthMode)} {latency : Option Span}
  {call next : Call τ} {request : Request} {handler : Handler τ} {pattern : String}
  {context : Context} {world : World τ} {registry after : Registry}

theorem route?_of_matched (matched : call.request.pattern = some pattern) :
    call.route? layer = Route.parse? pattern layer.lead := by
  unfold route?
  rw [matched]
  rfl

theorem route?_of_unmatched (unmatched : call.request.pattern = none) :
    call.route? layer = none := by
  unfold route?
  rw [unmatched]
  rfl

theorem step_of_matched (call : Call τ) (matched : call.request.pattern = some pattern)
    (world : World τ) :
    call.step layer world =
      ({ call with
          phase := (call.phase.step layer call.handler call.request pattern world).1
          routedIn := call.routedFrom world },
        (call.phase.step layer call.handler call.request pattern world).2) := by
  unfold step
  rw [matched]

theorem inResponses_of_unended (unended : call.response? = none)
    (labels : List (String × String)) : call.inResponses layer auth labels = false := by
  unfold inResponses
  rw [unended]
  rfl

theorem inDurations_of_unended (unended : call.response? = none)
    (labels : List (String × String)) : call.inDurations layer auth labels = false := by
  unfold inDurations
  rw [unended]
  rfl

theorem inResponses_of_unrouted (unrouted : call.route? layer = none)
    (labels : List (String × String)) : call.inResponses layer auth labels = false := by
  unfold inResponses
  rw [unrouted]
  cases call.response? with
  | none => rfl
  | some response => rfl

theorem inDurations_of_unrouted (unrouted : call.route? layer = none)
    (labels : List (String × String)) : call.inDurations layer auth labels = false := by
  unfold inDurations
  rw [unrouted]
  exact Bool.and_false _

/-- A stage that leaves the metrics alone may change neither whether the response was counted nor
whether the time was recorded. -/
theorem booked_of_agrees {phase : CallPhase} (agrees : after.AgreesOnCalls registry)
    (responses : ∀ labels, ({ call with phase } : Call τ).inResponses layer auth labels =
      call.inResponses layer auth labels)
    (durations : ∀ labels, ({ call with phase } : Call τ).inDurations layer auth labels =
      call.inDurations layer auth labels) :
    call.Booked layer auth registry { call with phase } after := by
  refine ⟨fun labels => ?_, fun labels => ?_, fun labels => ?_⟩
  · rw [agrees.requests]
    rfl
  · rw [agrees.responses, responses]
  · rw [agrees.durations, durations]

theorem booked_of_unended {phase : CallPhase} (unended : call.response? = none)
    (ends : phase.response? = none) (agrees : after.AgreesOnCalls registry) :
    call.Booked layer auth registry { call with phase } after := by
  have unended' : ({ call with phase } : Call τ).response? = none := ends
  refine booked_of_agrees agrees (fun labels => ?_) fun labels => ?_
  · rw [inResponses_of_unended unended, inResponses_of_unended unended']
  · rw [inDurations_of_unended unended, inDurations_of_unended unended']

/-- A request that matched no registered path has no part in the metrics. -/
theorem booked_of_unmatched {phase : CallPhase} (unmatched : call.request.pattern = none)
    (agrees : after.AgreesOnCalls registry) :
    call.Booked layer auth registry { call with phase } after := by
  have unrouted : call.route? layer = none := route?_of_unmatched unmatched
  have unrouted' : ({ call with phase } : Call τ).route? layer = none := unrouted
  refine booked_of_agrees agrees (fun labels => ?_) fun labels => ?_
  · rw [inResponses_of_unrouted unrouted, inResponses_of_unrouted unrouted']
  · rw [inDurations_of_unrouted unrouted, inDurations_of_unrouted unrouted']

/-- The stage of the route counts the call. -/
theorem booked_routed {phase : CallPhase} {former : Context} (ends : phase.response? = none)
    (carries : Carries layer auth request pattern world context)
    (counted : after =
      (registered claimedOrganisation latency).countRequest context registry) :
    Booked layer auth ⟨request, handler, .received former, none⟩ registry
      ⟨request, handler, phase, some world⟩ after := by
  have unended : (⟨request, handler, phase, some world⟩ : Call τ).response? = none := ends
  subst counted
  refine ⟨fun labels => ?_, fun labels => ?_, fun labels => ?_⟩
  · have now : (⟨request, handler, phase, some world⟩ : Call τ).inRequests layer auth labels =
        context.route.any fun route =>
          (requestSeries (claimedOrganisation context) route).has requestsName labels := by
      unfold inRequests
      rw [route?_of_matched carries.matched, carries.organisation, carries.route]
      rfl
    rw [counted_countRequest, now]
    exact add_zero _
  · have other : (context.route.any fun route =>
        (requestSeries (claimedOrganisation context) route).has responsesName labels) = false := by
      cases context.route with
      | none => rfl
      | some route =>
        have families : requestsName ≠ responsesName := by decide
        exact SeriesName.has_eq_false families labels
    rw [counted_countRequest, other, inResponses_of_unended rfl, inResponses_of_unended unended]
    exact add_zero _
  · rw [sampled_countRequest, inDurations_of_unended rfl, inDurations_of_unended unended]

/-- The last stage counts the response. -/
theorem booked_finished {response : Response} {begin : World τ}
    (carries : Carries layer auth request pattern begin context)
    (closed : after = (registered claimedOrganisation latency).countResponse
      (context.put .status response.status) world.now registry) :
    Booked layer auth ⟨request, handler, .reported context response, some begin⟩ registry
      ⟨request, handler, .finished response, some begin⟩ after := by
  obtain ⟨start, begun⟩ := Option.isSome_iff_exists.mp carries.begun
  have totals := totals_countResponse closed rfl begun
  have organisation : claimedOrganisation (context.put .status response.status) =
      verifiedOrganisation auth request.headers begin := carries.organisation
  have route : (context.put .status response.status).route = Route.parse? pattern layer.lead :=
    carries.route
  have route' : route? layer ⟨request, handler, .finished response, some begin⟩ =
      Route.parse? pattern layer.lead := route?_of_matched carries.matched
  rw [organisation, route] at totals
  refine ⟨fun labels => ?_, fun labels => ?_, fun labels => ?_⟩
  · have other : ((Route.parse? pattern layer.lead).any fun route =>
        (responseSeries (verifiedOrganisation auth request.headers begin) response.status
          route).has requestsName labels) = false := by
      cases Route.parse? pattern layer.lead with
      | none => rfl
      | some route =>
        have families : responsesName ≠ requestsName := by decide
        exact SeriesName.has_eq_false families labels
    rw [(totals requestsName labels).1, other]
    exact congrArg (· + _) (add_zero _)
  · rw [(totals responsesName labels).1, inResponses_of_unended rfl]
    unfold inResponses
    rw [route']
    exact add_zero _
  · rw [(totals durationName labels).2, inDurations_of_unended rfl]
    unfold inDurations
    rw [route']
    exact add_zero _

/-- Each stage keeps the call sound, and the books say what it does. -/
theorem step_books
    (installed : layer.hook =
      .pipeline (arranged (registered claimedOrganisation latency) (hookOf auth)))
    (keeps : ∀ request world, (call.handler request world).2.registry.AgreesOnCalls world.registry)
    (sound : call.Sound layer auth) (world : World τ) :
    (call.step layer world).1.Sound layer auth ∧
      call.Booked layer auth world.registry (call.step layer world).1
        (call.step layer world).2.registry := by
  cases sound with
  | arrived request handler =>
    cases matched : request.pattern with
    | none =>
      have passed : (arriving request handler).step layer world =
          ({ arriving request handler with phase := .finished (handler request world).1 },
            (handler request world).2) := by
        unfold step
        simp only [arriving, matched]
      rw [passed]
      exact ⟨.passedOn matched, booked_of_unmatched matched (keeps request world)⟩
    | some pattern =>
      obtain ⟨context, reached, start, received, begun, unrouted, headers, absent, kept⟩ :=
        receive_noted installed request world
      have phase : CallPhase.arrived.step layer handler request pattern world =
          (.received context, reached) := by
        simp only [CallPhase.step, received]
        rfl
      rw [step_of_matched (arriving request handler) matched]
      simp only [arriving, phase]
      exact ⟨.received matched begun unrouted headers absent,
        booked_of_unended rfl rfl (.of_eq kept)⟩
  | @received request handler pattern context start matched begun unrouted headers absent =>
    obtain ⟨route, received, organisation, counted⟩ :=
      route_counts installed pattern unrouted headers absent world
    have carries : Carries layer auth request pattern world
        (layer.route pattern context world).context :=
      ⟨matched, by rw [received, begun]; rfl, route, organisation⟩
    rw [step_of_matched ⟨request, handler, .received context, none⟩ matched]
    -- The call is counted whether the stage has failed or not.
    simp only [CallPhase.step, CallPhase.afterStage]
    cases (layer.route pattern context world).failure with
    | none => exact ⟨.routed carries, booked_routed rfl carries counted⟩
    | some error => exact ⟨.answered carries, booked_routed rfl carries counted⟩
  | @routed request handler pattern context begin carries =>
    rw [step_of_matched ⟨request, handler, .routed context, some begin⟩ carries.matched]
    exact ⟨.answered carries,
      booked_of_unended rfl rfl (keeps { request with context := some context } world)⟩
  | @answered request handler pattern context response begin carries =>
    rw [step_of_matched ⟨request, handler, .answered context response, some begin⟩
      carries.matched]
    exact ⟨.reported carries,
      booked_of_unended rfl rfl (.of_eq (report_registry installed context response world))⟩
  | @reported request handler pattern context response begin carries =>
    rw [step_of_matched ⟨request, handler, .reported context response, some begin⟩
      carries.matched]
    exact ⟨.finished carries.matched,
      booked_finished carries (close_registry installed context response world)⟩
  | @finished request handler pattern response begin matched =>
    rw [step_of_matched ⟨request, handler, .finished response, some begin⟩ matched]
    exact ⟨.finished matched, fun _ => rfl, fun _ => rfl, fun _ => rfl⟩
  | @passedOn request handler response unmatched =>
    have stays : step layer ⟨request, handler, .finished response, none⟩ world =
        (⟨request, handler, .finished response, none⟩, world) := by
      unfold step
      simp only [unmatched]
    rw [stays]
    exact ⟨.passedOn unmatched, fun _ => rfl, fun _ => rfl, fun _ => rfl⟩

theorem step_handler (layer : CallLayer τ) (call : Call τ) (world : World τ) :
    (call.step layer world).1.handler = call.handler := by
  unfold step
  split
  · split
    · rfl
    · rfl
  · rfl

end Call

end BearerGate
