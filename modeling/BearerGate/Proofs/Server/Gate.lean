import BearerGate.Hook.Standard
import BearerGate.Proofs.Auth.Outcome
import BearerGate.Proofs.Outcome
import BearerGate.Proofs.Token.Backing
import BearerGate.Server.Extract

/-!
# The gate around handlers

With the usual hooks, whether a handler runs and what it sees is decided by the outcome of
authentication alone.

The stages before authentication hand the headers, the clock and the sources of keys on as they
were, and the stages behind it never fail. So the outcome is that of the request and the world as
they came in, and it leaves a call in one of two ways: the handler is asked with a context that
tells the outcome (`HandsOn`), or the call is refused without asking it (`Refuses`). The response
of a refused call answers the failure that is recorded (`Authenticator.Answers`).
-/

namespace BearerGate

variable {τ : Type}

/-! ## The two ways out -/

namespace CallLayer

/-- The handler, whichever it is, is asked once, with the context, and its answer is the answer. -/
def HandsOn (layer : CallLayer τ) (request : Request) (world : World τ) (context : Context)
    (reached : World τ) : Prop :=
  ∀ handler : Handler τ,
    layer.serve handler request world =
      let (response, after) := handler { request with context := some context } reached
      (response, layer.close context response (layer.report context response after))

/-- The answer is the error, whatever the handler is. It is reported with the context. -/
def Refuses (layer : CallLayer τ) (request : Request) (world : World τ) (context : Context)
    (reached : World τ) (error : RpcError) : Prop :=
  ∀ handler : Handler τ,
    layer.serve handler request world =
      (error.response,
        layer.close context error.response (layer.report context error.response reached))

variable {layer : CallLayer τ} {request : Request} {world : World τ}

/-- A refused call is not handed on: its answer would depend on the handler. -/
theorem Refuses.not_handsOn {context other : Context} {reached reached' : World τ}
    {error : RpcError} (refuses : layer.Refuses request world context reached error) :
    ¬ layer.HandsOn request world other reached' := by
  intro handsOn
  have same := refuses fun _ world => (.bare 404, world)
  rw [handsOn] at same
  -- The answer with an error carries the error, and what this handler answers carries none.
  have untagged := congrArg (fun served => served.1.failure) same
  cases untagged

/-- A call is handed on with one context only: a handler that tells it from others answers so. -/
theorem HandsOn.context_eq {context other : Context} {reached reached' : World τ}
    (here : layer.HandsOn request world context reached)
    (there : layer.HandsOn request world other reached') : other = context := by
  classical
  -- Contexts need not be comparable by a program, but a handler may be any function.
  have same := here fun asked world =>
    (if asked.context = some context then .bare 404 else .bare 405, world)
  rw [there] at same
  have answers := congrArg Prod.fst same
  dsimp only at answers
  rw [if_pos rfl] at answers
  split at answers
  · next equal => exact Option.some.inj equal
  · exact absurd answers (by decide)

/-! ## The stages of a call -/

/-- Two moments of a call that do not differ in what authentication depends on. -/
structure Alike (context : Context) (world : World τ) (later : Context) (reached : World τ) :
    Prop where
  headers : later.headers = context.headers
  auth : later.auth = context.auth
  now : reached.now = world.now
  providers : reached.providers = world.providers

theorem Alike.trans {context later last : Context} {world reached after : World τ}
    (here : Alike context world later reached) (there : Alike later reached last after) :
    Alike context world last after :=
  ⟨there.headers.trans here.headers, there.auth.trans here.auth, there.now.trans here.now,
    there.providers.trans here.providers⟩

/-- Finding the route leaves alone what authentication depends on. -/
theorem route_eq_routed (layer : CallLayer τ) (pattern : String) (context : Context)
    (world : World τ) :
    ∃ later reached, layer.route pattern context world = layer.hook.routed later reached ∧
      Alike context world later reached := by
  unfold route
  cases Route.parse? pattern layer.lead with
  | none => exact ⟨context, world, rfl, rfl, rfl, rfl, rfl⟩
  | some route => exact ⟨_, _, rfl, rfl, rfl, rfl, rfl⟩

theorem handsOn_of_stages {pattern : String} {context later : Context} {reached after : World τ}
    (matched : request.pattern = some pattern)
    (received : layer.receive request world = .passed context reached)
    (routed : layer.route pattern context reached = .passed later after) :
    layer.HandsOn request world later after := by
  intro handler
  unfold serve
  simp only [matched, received, Progress.passed, routed]

theorem refuses_of_stages {pattern : String} {context later : Context} {reached after : World τ}
    {error : RpcError} (matched : request.pattern = some pattern)
    (received : layer.receive request world = .passed context reached)
    (routed : layer.route pattern context reached = ⟨later, after, some error⟩) :
    layer.Refuses request world later after error := by
  intro handler
  unfold serve
  simp only [matched, received, Progress.passed, routed]
  rfl

end CallLayer

open CallLayer (Alike)

/-! ## The usual hooks -/

/-- A stage that lets every call pass changes nothing behind another. -/
theorem Progress.andThen_of_passes (progress : Progress τ)
    {next : Context → World τ → Progress τ}
    (passes : ∀ context world, next context world = .passed context world) :
    progress.andThen next = progress := by
  obtain ⟨context, world, failure⟩ := progress
  cases failure with
  | none => exact passes context world
  | some error => rfl

namespace StandardHooks

/-- What the usual hooks are made of, if the metrics can be registered. -/
theorem exists_arranged_of_build {options : StandardHooks τ} {world : World τ}
    {hooks : List (Hook τ)} (built : (options.build world).1 = .ok hooks) :
    ∃ metrics, hooks = arranged metrics (options.authentication world).1 := by
  unfold build at built
  cases registered :
      RpcMetrics.register options.organisation options.fixedLatency world.registry with
  | mk result registry =>
    rw [registered] at built
    cases result with
    | error failure => cases built
    | ok metrics =>
      cases built
      refine ⟨metrics, ?_⟩
      unfold authentication
      split
      · rfl
      · rfl
      · rfl

/-- The authentication that takes part in the usual hooks. -/
def hookOf (auth : Option (Authenticator × AuthMode)) : Option (Hook τ) :=
  auth.map fun a => .authentication a.1 a.2

variable {layer : CallLayer τ} {metrics : RpcMetrics} {auth : Option (Authenticator × AuthMode)}

/-- Receiving a request never fails, and its headers are known afterwards. -/
theorem receive_arranged (installed : layer.hook = .pipeline (arranged metrics (hookOf auth)))
    (request : Request) (world : World τ) :
    ∃ context reached, layer.receive request world = .passed context reached ∧
      Alike (.ofHeaders request.headers) world context reached := by
  unfold CallLayer.receive
  rw [installed]
  cases auth with
  | none => exact ⟨_, _, rfl, rfl, rfl, rfl, rfl⟩
  | some chosen => exact ⟨_, _, rfl, rfl, rfl, rfl, rfl⟩

/-- Without authentication the stage of the route changes no context. -/
theorem routed_arranged_none (metrics : RpcMetrics) (context : Context) (world : World τ) :
    ∃ reached, (Hook.pipeline (arranged metrics none)).routed context world =
      .passed context reached :=
  ⟨_, rfl⟩

/-- With authentication its outcome decides the stage of the route: metrics and the log are behind
it and let every call pass. -/
theorem routed_arranged_some (metrics : RpcMetrics) (authenticator : Authenticator)
    (mode : AuthMode) (context : Context) (world : World τ) :
    let authenticated := (authenticator.authenticate context context.headers world).1
    ∃ reached,
      (Hook.pipeline (arranged metrics (hookOf (some (authenticator, mode))))).routed context
          world =
        ⟨authenticated, reached, mode.refusal? authenticated.authState⟩ := by
  have logged : ∀ context (world : World τ),
      Hook.inTurn Hook.routed [.errorLog] context world = .passed context world :=
    fun _ _ => rfl
  have stage := Progress.andThen_of_passes
    ((Hook.authMetrics (.metrics metrics) (.authentication authenticator mode)).routed context
      world) logged
  exact ⟨_, stage⟩

end StandardHooks

/-! ## Answers to recorded failures -/

namespace Authenticator

/-- The response is the answer to the failure that is recorded for a request. -/
structure Answers (authenticator : Authenticator) (headers : Headers) (world : World τ)
    (failure : AuthFailure) (response : Response) : Prop where
  answer : response = failure.toRpcError.response
  /-- A source of keys has failed, other than by not knowing the name. -/
  unavailable_iff : response.status = 503 ↔
    ∃ token read algorithm id missing, headers.bearerToken = .ok token ∧
      AsksFor token accessTokenType read algorithm id ∧
      (World.resolve authenticator.provider id world).1 = .error missing ∧
      ∀ name, missing ≠ .notFound name
  /-- Any other failure shows in the reason only. -/
  unauthenticated : response.status ≠ 503 →
    response.status = 401 ∧
      response.failure =
        some ⟨.unauthenticated, "Unauthenticated", Dict.empty.insert "reason" failure.code⟩ ∧
      response.body = (Json.object [("code", .string "unauthenticated"),
        ("msg", .string "Unauthenticated"),
        ("meta", .object [("reason", .string failure.code)])]).text

variable {authenticator : Authenticator} {headers : Headers} {world : World τ}
  {failure : AuthFailure}

/-- A recorded failure is answered with 503 just when a source of keys has failed. -/
theorem Records.status_eq_unavailable_iff
    (records : authenticator.Records headers world (.failed failure)) :
    failure.toRpcError.response.status = 503 ↔
      ∃ token read algorithm id missing, headers.bearerToken = .ok token ∧
        AsksFor token accessTokenType read algorithm id ∧
        (World.resolve authenticator.provider id world).1 = .error missing ∧
        ∀ name, missing ≠ .notFound name := by
  constructor
  · intro status
    cases records with
    | noToken missing => cases status
    | rejected carried rejected => cases status
    | @outage token failure carried outage =>
      obtain ⟨read, algorithm, id, asks, failed, other⟩ :=
        accessClaims_eq_keysUnavailable_iff.mp outage
      exact ⟨token, read, algorithm, id, failure, carried, asks, failed, other⟩
  · rintro ⟨token, read, algorithm, id, missing, carried, asks, failed, other⟩
    have outage :=
      accessClaims_eq_keysUnavailable_iff.mpr ⟨read, algorithm, id, asks, failed, other⟩
    have same := records.unique (.outage carried outage)
    cases same
    rfl

/-- The error that a recorded failure is told with answers it. -/
theorem Records.answers (records : authenticator.Records headers world (.failed failure)) :
    authenticator.Answers headers world failure failure.toRpcError.response := by
  refine ⟨rfl, records.status_eq_unavailable_iff, fun available => ?_⟩
  cases records with
  | noToken missing => exact ⟨rfl, rfl, rfl⟩
  | rejected carried rejected => exact ⟨rfl, rfl, rfl⟩
  | outage carried outage => exact (available rfl).elim

end Authenticator

/-! ## What the gate does -/

namespace CallLayer

/-- Calls need authentication. The handler runs just for the requests whose token is accepted, and
sees it with its claims; every other call is refused, and its response answers the failure that is
recorded. -/
structure Requires (layer : CallLayer τ) (authenticator : Authenticator) (request : Request)
    (world : World τ) : Prop where
  runs_iff : (∃ context reached, layer.HandsOn request world context reached) ↔
    ∃ token claims, request.headers.bearerToken = .ok token ∧
      authenticator.accessClaims token world = .ok claims
  sees : ∀ context reached, layer.HandsOn request world context reached →
    ∃ info : AuthInfo, context.authState = .authenticated info ∧
      request.headers.bearerToken = .ok info.token ∧
      authenticator.accessClaims info.token world = .ok info.claims
  refuses : (¬ ∃ token claims, request.headers.bearerToken = .ok token ∧
      authenticator.accessClaims token world = .ok claims) →
    ∃ failure context reached, context.authState = .failed failure ∧
      authenticator.Records request.headers world (.failed failure) ∧
      layer.Refuses request world context reached failure.toRpcError ∧
      ∀ handler : Handler τ, authenticator.Answers request.headers world failure
        (layer.serve handler request world).1

/-- A request without a token is refused with 401. -/
theorem Requires.status_of_tokenless {layer : CallLayer τ} {authenticator : Authenticator}
    {request : Request} {world : World τ} (requires : layer.Requires authenticator request world)
    (tokenless : ∀ token, request.headers.bearerToken ≠ .ok token) (handler : Handler τ) :
    (layer.serve handler request world).1.status = 401 := by
  obtain ⟨failure, context, reached, -, -, -, answers⟩ :=
    requires.refuses fun ⟨token, _, carried, _⟩ => tokenless token carried
  refine ((answers handler).unauthenticated fun unavailable => ?_).1
  obtain ⟨token, _, _, _, _, carried, -⟩ := (answers handler).unavailable_iff.mp unavailable
  exact tokenless token carried

/-- Calls may be authenticated. The handler runs for every request and sees what is recorded. -/
structure Offers (layer : CallLayer τ) (authenticator : Authenticator) (request : Request)
    (world : World τ) : Prop where
  runs : ∃ context reached, layer.HandsOn request world context reached
  sees : ∀ context reached, layer.HandsOn request world context reached →
    authenticator.Records request.headers world context.authState ∧
      context.authState ≠ .notPresent

/-- Calls are not authenticated. The handler runs for every request and sees that there was no
attempt. If it asks for the verified token, it gets a response that refuses with status 500. -/
structure LeavesOpen (layer : CallLayer τ) (request : Request) (world : World τ) : Prop where
  runs : ∃ context reached, layer.HandsOn request world context reached
  sees : ∀ context reached, layer.HandsOn request world context reached →
    context.authState = .notPresent ∧
      Request.requireAuth { request with context := some context } =
        .error AuthFailure.notAuthenticated.response ∧
      AuthFailure.notAuthenticated.response.status = 500

end CallLayer

/-! ## The usual hooks are exact -/

namespace StandardHooks

variable {layer : CallLayer τ} {metrics : RpcMetrics} {request : Request} {world : World τ}
  {pattern : String}

/-- The stages before the handler, up to authentication. -/
theorem exists_stages {auth : Option (Authenticator × AuthMode)}
    (installed : layer.hook = .pipeline (arranged metrics (hookOf auth)))
    (pattern : String) (request : Request) (world : World τ) :
    ∃ context reached later after, layer.receive request world = .passed context reached ∧
      layer.route pattern context reached =
        (Hook.pipeline (arranged metrics (hookOf auth))).routed later after ∧
      Alike (.ofHeaders request.headers) world later after := by
  obtain ⟨context, reached, received, alike⟩ := receive_arranged installed request world
  obtain ⟨later, after, routed, alike'⟩ := layer.route_eq_routed pattern context reached
  rw [installed] at routed
  exact ⟨context, reached, later, after, received, routed, alike.trans alike'⟩

/-- With authentication the stage of the route ends with the outcome that the request has. -/
theorem exists_outcome {authenticator : Authenticator} {mode : AuthMode}
    (installed : layer.hook = .pipeline (arranged metrics (hookOf (some (authenticator, mode)))))
    (pattern : String) (request : Request) (world : World τ) :
    ∃ context reached later after, layer.receive request world = .passed context reached ∧
      layer.route pattern context reached =
        ⟨later, after, mode.refusal? later.authState⟩ ∧
      authenticator.Records request.headers world later.authState := by
  obtain ⟨context, reached, later, after, received, routed, alike⟩ :=
    exists_stages installed pattern request world
  obtain ⟨final, decided⟩ := routed_arranged_some metrics authenticator mode later after
  have headers : later.headers = some request.headers := alike.headers
  rw [headers] at decided
  refine ⟨context, reached, _, final, received, routed.trans decided, ?_⟩
  exact (authenticator.authenticate_records later request.headers after).congr alike.now
    alike.providers

theorem requires_of_installed {authenticator : Authenticator}
    (installed :
      layer.hook = .pipeline (arranged metrics (hookOf (some (authenticator, .required)))))
    (matched : request.pattern = some pattern) :
    layer.Requires authenticator request world := by
  obtain ⟨context, reached, later, after, received, routed, records⟩ :=
    exists_outcome installed pattern request world
  cases state : later.authState with
  | notPresent => exact (records.ne_notPresent state).elim
  | failed failure =>
    rw [state] at records routed
    have refuses := CallLayer.refuses_of_stages matched received routed
    have rejected : ¬ ∃ token claims, request.headers.bearerToken = .ok token ∧
        authenticator.accessClaims token world = .ok claims := by
      rintro ⟨token, claims, carried, accepted⟩
      cases records.unique (.authenticated carried accepted)
    refine ⟨⟨?_, fun accepted => (rejected accepted).elim⟩, ?_, ?_⟩
    · rintro ⟨other, elsewhere, handsOn⟩
      exact (refuses.not_handsOn handsOn).elim
    · intro other elsewhere handsOn
      exact (refuses.not_handsOn handsOn).elim
    · intro _
      refine ⟨failure, later, after, state, records, refuses, fun handler => ?_⟩
      rw [refuses handler]
      exact records.answers
  | authenticated info =>
    rw [state] at records routed
    have handsOn := CallLayer.handsOn_of_stages matched received routed
    obtain ⟨carried, accepted⟩ := Authenticator.records_authenticated_iff.mp records
    refine ⟨⟨fun _ => ⟨_, _, carried, accepted⟩, fun _ => ⟨later, after, handsOn⟩⟩, ?_, ?_⟩
    · intro other elsewhere handsOn'
      rw [handsOn.context_eq handsOn']
      exact ⟨info, state, carried, accepted⟩
    · intro rejected
      exact (rejected ⟨_, _, carried, accepted⟩).elim

theorem offers_of_installed {authenticator : Authenticator}
    (installed :
      layer.hook = .pipeline (arranged metrics (hookOf (some (authenticator, .optional)))))
    (matched : request.pattern = some pattern) :
    layer.Offers authenticator request world := by
  obtain ⟨context, reached, later, after, received, routed, records⟩ :=
    exists_outcome installed pattern request world
  have passes : AuthMode.optional.refusal? later.authState = none := rfl
  rw [passes] at routed
  have handsOn := CallLayer.handsOn_of_stages matched received routed
  refine ⟨⟨later, after, handsOn⟩, ?_⟩
  intro other elsewhere handsOn'
  rw [handsOn.context_eq handsOn']
  exact ⟨records, records.ne_notPresent⟩

theorem leavesOpen_of_installed
    (installed : layer.hook = .pipeline (arranged metrics (hookOf none)))
    (matched : request.pattern = some pattern) : layer.LeavesOpen request world := by
  obtain ⟨context, reached, later, after, received, routed, alike⟩ :=
    exists_stages installed pattern request world
  obtain ⟨final, passed⟩ := routed_arranged_none metrics later after
  have handsOn := CallLayer.handsOn_of_stages matched received (routed.trans passed)
  have absent : later.auth = none := alike.auth
  have state : later.authState = .notPresent := by
    rw [Context.authState, absent]
    rfl
  refine ⟨⟨later, final, handsOn⟩, ?_⟩
  intro other elsewhere handsOn'
  rw [handsOn.context_eq handsOn']
  refine ⟨state, ?_, rfl⟩
  unfold Request.requireAuth Request.authState Request.knownContext
  rw [Option.getD_some, state]
  rfl

/-- The usual hooks decide on every request to a registered path by the outcome of its
authentication, and by nothing else. -/
theorem serve_exact {options : StandardHooks τ} {before : World τ} {hooks : List (Hook τ)}
    {layer : CallLayer τ} {auth : Option (Authenticator × AuthMode)} {request : Request}
    {pattern : String} (chosen : (options.authentication before).1 = hookOf auth)
    (built : (options.build before).1 = .ok hooks) (installed : layer.hook = .pipeline hooks)
    (matched : request.pattern = some pattern) (world : World τ) :
    match auth with
    | some (authenticator, .required) => layer.Requires authenticator request world
    | some (authenticator, .optional) => layer.Offers authenticator request world
    | none => layer.LeavesOpen request world := by
  obtain ⟨metrics, rfl⟩ := exists_arranged_of_build built
  rw [chosen] at installed
  rcases auth with _ | ⟨authenticator, _ | _⟩
  · exact leavesOpen_of_installed installed matched
  · exact requires_of_installed installed matched
  · exact offers_of_installed installed matched

/-- A world in which nothing has happened yet. -/
def blankWorld : World Unit where
  now := .epoch
  bags := .new fun _ => "id"
  providers := []
  endpointAt _ := .drops
  registry := .empty
  log := []
  trace := ()

/-- The same with a manager whose endpoint treats requests in the given way. -/
def servedBy (endpoint : Endpoint) : World Unit :=
  ({ blankWorld with endpointAt := fun _ => endpoint }.addManager
    (jwksEndpoint "https://id.example")).2

/-- The usual hooks with keys from an identity service. -/
def serviceOptions : StandardHooks Unit :=
  ⟨none, some "https://id.example", fun _ => "", none⟩

/-- The authentication that they make. -/
def serviceAuthenticator : Authenticator :=
  ⟨0, defaultLeeway, Authenticator.annotateIdentity⟩

/-- A request without headers to a registered path. -/
def bareRequest : Request :=
  ⟨"POST", "/twirp/demo.Greeter/Hello", [], [], some "/twirp/demo.Greeter/Hello", none⟩

/-- A request with a bearer token. -/
def carrying (token : String) : Request :=
  { bareRequest with
    headers := [(Headers.authorizationName, Text.Utf8.encode ("Bearer " ++ token))] }

theorem exists_serviceOptions_built :
    ∃ hooks, (serviceOptions.build blankWorld).1 = .ok hooks := by
  apply exists_eq_ok_of_isOk
  decide +kernel

theorem sampleToken_carried :
    (carrying sampleToken).headers.bearerToken = .ok sampleToken :=
  eq_ok_of_toOption (by decide +kernel)

theorem exists_sampleToken_asksFor :
    ∃ read algorithm id, AsksFor sampleToken accessTokenType read algorithm id := by
  have isOk : (Validation.precheck sampleToken accessTokenType).isOk = true := by decide +kernel
  obtain ⟨⟨read, algorithm, id⟩, passed⟩ := exists_eq_ok_of_isOk isOk
  exact ⟨read, algorithm, id, asksFor_of_precheck passed⟩

theorem exists_sampleToken_accepted :
    ∃ claims, serviceAuthenticator.accessClaims sampleToken
      (servedBy (.answers 200 sampleDocument)) = .ok claims := by
  apply exists_eq_ok_of_isOk
  decide +kernel

/-- A request without a token, the sample token where its key is published, and the sample token
where no keys can be had. -/
theorem serve_exact_serviceOptions :
    ∃ hooks, (serviceOptions.build blankWorld).1 = .ok hooks ∧
      let layer := CallLayer.new (.pipeline hooks)
      (∀ handler : Handler Unit,
        (layer.serve handler bareRequest blankWorld).1.status = 401) ∧
      (∃ context reached, layer.HandsOn (carrying sampleToken)
        (servedBy (.answers 200 sampleDocument)) context reached) ∧
      ∀ handler : Handler Unit,
        (layer.serve handler (carrying sampleToken) (servedBy .drops)).1.status = 503 := by
  have chosen : (serviceOptions.authentication blankWorld).1 =
      hookOf (some (serviceAuthenticator, .required)) := rfl
  obtain ⟨hooks, built⟩ := exists_serviceOptions_built
  have required {request : Request} {pattern : String}
      (matched : request.pattern = some pattern) (world : World Unit) :
      (CallLayer.new (.pipeline hooks)).Requires serviceAuthenticator request world :=
    serve_exact chosen built rfl matched world
  refine ⟨hooks, built, ?_, ?_, ?_⟩
  · apply (required rfl blankWorld).status_of_tokenless
    intro token carried
    cases carried
  · obtain ⟨claims, accepted⟩ := exists_sampleToken_accepted
    exact (required rfl _).runs_iff.mpr ⟨sampleToken, claims, sampleToken_carried, accepted⟩
  · obtain ⟨read, algorithm, id, asks⟩ := exists_sampleToken_asksFor
    have failed : (World.resolve serviceAuthenticator.provider id (servedBy .drops)).1 =
        .error (.transport KeyFailure.undisclosed) := rfl
    have other : ∀ name, KeyFailure.transport KeyFailure.undisclosed ≠ .notFound name := by
      intro name same
      cases same
    have outage := Authenticator.accessClaims_eq_keysUnavailable_iff.mpr
      ⟨read, algorithm, id, asks, failed, other⟩
    obtain ⟨failure, context, reached, -, -, -, answers⟩ :=
      (required rfl (servedBy .drops)).refuses <| by
        rintro ⟨token, claims, carried, accepted⟩
        rw [sampleToken_carried] at carried
        cases carried
        rw [outage] at accepted
        cases accepted
    intro handler
    exact (answers handler).unavailable_iff.mpr
      ⟨sampleToken, read, algorithm, id, _, sampleToken_carried, asks, failed, other⟩

end StandardHooks

end BearerGate
