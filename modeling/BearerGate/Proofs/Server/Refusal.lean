import BearerGate.Proofs.Server.UsualStages

/-!
# What a rejected request shows

Where authentication is required, a request that is not authenticated is refused, and nothing of
what it carries goes anywhere: the response, the metrics, the error log and the bags are those of
the failure, the route and the bag (`CallLayer.refused`). So two requests that fail for the same
reason cannot be told apart by any of these, whatever their tokens claim. The ids of bags that
stand alone are new for every call; they are the one thing that is let vary here besides.
-/

namespace BearerGate

variable {τ : Type}

/-! ## Other ids for new bags -/

namespace BagStore

/-- The same bags with another supply of ids. -/
def withIds (store : BagStore) (newId : Nat → String) : BagStore :=
  { store with newId }

variable {store : BagStore} {newId : Nat → String}

theorem attach_withIds (segment : Option Segment) :
    (store.withIds newId).attach segment =
      ((store.attach segment).1, (store.attach segment).2.withIds newId) := by
  cases segment with
  | none => rfl
  | some segment => rfl

theorem noted_withIds (bag : BagRef) (route : Option Route) :
    (store.withIds newId).noted bag route = (store.noted bag route).withIds newId := by
  cases route with
  | none => rfl
  | some route =>
    cases bag with
    | standalone index => rfl
    | segment segment => rfl

theorem contents_withIds (bag : BagRef) :
    (store.withIds newId).contents bag = store.contents bag := by
  cases bag with
  | standalone index => rfl
  | segment segment => rfl

/-- What a bag adds to the record of an error. -/
def errorFields (bags : BagStore) (bag : BagRef) : LogFields where
  traceId := bags.id bag
  user := (bags.contents bag).user
  annotations := (bags.contents bag).annotations.map Scalar.toJson
  metadata := some (bags.contents bag).metadata

theorem errorFields_withIds (bag : BagRef) : (store.withIds newId).errorFields bag =
    { store.errorFields bag with traceId := (store.withIds newId).id bag } := by
  unfold errorFields
  rw [contents_withIds]

end BagStore

/-- The same world with another supply of ids for bags. -/
def World.withIds (world : World τ) (newId : Nat → String) : World τ :=
  { world with bags := world.bags.withIds newId }

/-! ## The world after a refusal -/

/-- The metrics after a call on behalf of nobody, with its route if it has one. -/
def RpcMetrics.countedForNobody (latency : Span) (status : Nat) (route : Option Route)
    (registry : Registry) : Registry :=
  match route with
  | none => registry
  | some route =>
    ((registry.attempt
      (·.increment ⟨requestsName, callLabels⟩ [route.service, route.method, ""] 1)).attempt
      (·.increment ⟨responsesName, responseLabels⟩
        [route.service, route.method, toString status, ""] 1)).attempt
      (·.record ⟨durationName, callLabels⟩ [route.service, route.method, ""] latency.milliseconds)

theorem Context.logFields?_of_bag {context : Context} {bag : BagRef}
    (held : context.bag = some bag) (bags : BagStore) :
    context.logFields? .error bags = some (bags.errorFields bag) := by
  unfold logFields?
  rw [held]
  rfl

namespace CallLayer

/-- The world after a call that was refused for a failure of authentication. Of the request only
its segment counts. -/
def refused (layer : CallLayer τ) (latency : Span) (request : Request) (pattern : String)
    (failure : AuthFailure) (world : World τ) (providers : List KeyProvider) : World τ :=
  let opened := layer.opened request world.bags
  let bags := opened.2.noted opened.1 (layer.routeOf pattern)
  { world with
    providers
    bags
    log := world.log ++ [.ofError failure.toRpcError (some (bags.errorFields opened.1))]
    registry := RpcMetrics.countedForNobody latency failure.toRpcError.httpStatus
      (layer.routeOf pattern) world.registry }

end CallLayer

namespace StandardHooks

open RpcMetrics (registered claimedOrganisation)

variable {layer : CallLayer τ} {authenticator : Authenticator} {latency : Span}
  {request : Request} {pattern : String} {failure : AuthFailure} {world : World τ}

/-- The metrics name nobody for a call whose authentication failed. -/
theorem counts_for_nobody (failure : AuthFailure) (latency : Span) (status : Nat)
    (registry : Registry) {context : Context} {now : Instant}
    (begun : context.received = some now) :
    let told := context.withAuth (.error failure)
    (registered claimedOrganisation (some latency)).countResponse (told.put .status status) now
        ((registered claimedOrganisation (some latency)).countRequest told registry) =
      RpcMetrics.countedForNobody latency status context.route registry := by
  intro told
  have begun' : (told.put .status status).received = some now := begun
  have routed : (told.put .status status).route = context.route := rfl
  have routed' : told.route = context.route := rfl
  unfold RpcMetrics.countResponse RpcMetrics.countRequest RpcMetrics.countedForNobody
  rw [begun', routed, routed']
  cases context.route with
  | none => rfl
  | some route => rfl

theorem serve_of_failed
    (installed : layer.hook = .pipeline (arranged
      (registered claimedOrganisation (some latency)) (hookOf (some (authenticator, .required)))))
    (matched : request.pattern = some pattern)
    (failed : authenticator.Records request.headers world (.failed failure)) :
    ∃ providers, ∀ handler : Handler τ, layer.serve handler request world =
      (failure.toRpcError.response,
        layer.refused latency request pattern failure world providers) := by
  obtain ⟨context, reached, received, routed⟩ := receive_route installed request pattern world
  -- Between arrival and authentication only bags change, and verifying does not look at them.
  have same : (authenticator.verify request.headers (layer.found request pattern world).2).1 =
      (authenticator.verify request.headers world).1 := Authenticator.verify_fst_congr rfl rfl
  have verified : (authenticator.verify request.headers
      (layer.found request pattern world).2).1 = .error failure := by
    rw [same]
    have outcome := Authenticator.records_iff_eq_verify.mp failed
    cases result : (authenticator.verify request.headers world).1 with
    | ok info =>
      rw [result] at outcome
      cases outcome
    | error failure' =>
      rw [result] at outcome
      cases outcome
      rfl
  obtain ⟨providers, authenticated⟩ :=
    Authenticator.authenticate_of_failed verified (layer.found request pattern world).1
  rw [routed_guarded, CallLayer.found_headers, authenticated] at routed
  refine ⟨providers, fun handler => ?_⟩
  rw [CallLayer.refuses_of_stages matched received routed handler]
  refine congrArg (Prod.mk _) ?_
  rw [close_report installed]
  have held : ((layer.found request pattern world).1.withAuth (.error failure)).bag =
      some (layer.opened request world.bags).1 := CallLayer.found_bag
  have begun : (layer.found request pattern world).1.received = some world.now :=
    CallLayer.found_received
  have counted := counts_for_nobody failure latency failure.toRpcError.httpStatus world.registry
    begun
  rw [CallLayer.found_route] at counted
  rw [Context.logFields?_of_bag held]
  unfold CallLayer.refused
  rw [← counted]
  rfl

/-- What two calls show that were refused for the same failure. The first was served in `world`,
the second in the same world but for the ids of new bags. -/
structure RefusedAlike (layer : CallLayer τ) (latency : Span) (request : Request)
    (pattern : String) (failure : AuthFailure) (world : World τ) (newId : Nat → String)
    (one other : Response × World τ) : Prop where
  response : one.1 = failure.toRpcError.response ∧ other.1 = one.1
  metrics : other.2.registry = one.2.registry
  /-- The organisation is empty in all labels. -/
  nobody : one.2.registry = RpcMetrics.countedForNobody latency failure.toRpcError.httpStatus
    (layer.routeOf pattern) world.registry
  log : ∃ record, one.2.log = world.log ++ [record] ∧
    other.2.log =
      world.log ++ [{ record with traceId := other.2.bags.id (layer.opened request world.bags).1 }]
  /-- In a segment the records do not even differ in their ids. -/
  logInSegment : ∀ segment, layer.segmentOf (.ofHeaders request.headers) = some segment →
    other.2.log = one.2.log
  bags : ∀ bag, other.2.bags.contents bag = one.2.bags.contents bag
  /-- The user is the one that the bag had before the call. -/
  user : (one.2.bags.contents (layer.opened request world.bags).1).user =
    ((layer.opened request world.bags).2.contents (layer.opened request world.bags).1).user
  organisation :
    (one.2.bags.contents (layer.opened request world.bags).1).annotations.get?
        Authenticator.organisationNote =
      ((layer.opened request world.bags).2.contents
        (layer.opened request world.bags).1).annotations.get? Authenticator.organisationNote
  trace : one.2.trace = world.trace ∧ other.2.trace = world.trace

theorem refusedAlike_of_refused {first second : Request}
    (segments : layer.segmentOf (.ofHeaders second.headers) =
      layer.segmentOf (.ofHeaders first.headers)) (newId : Nat → String)
    (providers providers' : List KeyProvider) :
    RefusedAlike layer latency first pattern failure world newId
      (failure.toRpcError.response,
        layer.refused latency first pattern failure world providers)
      (failure.toRpcError.response,
        layer.refused latency second pattern failure (world.withIds newId) providers') := by
  have opened : layer.opened second (world.withIds newId).bags =
      ((layer.opened first world.bags).1, (layer.opened first world.bags).2.withIds newId) := by
    unfold CallLayer.opened
    rw [segments]
    exact BagStore.attach_withIds _
  -- The second run differs in its supply of ids alone, and only the record shows an id.
  have bags : (layer.refused latency second pattern failure (world.withIds newId)
      providers').bags =
      (layer.refused latency first pattern failure world providers).bags.withIds newId := by
    unfold CallLayer.refused
    rw [opened]
    exact BagStore.noted_withIds _ _
  have log : (layer.refused latency second pattern failure (world.withIds newId)
      providers').log = world.log ++ [.ofError failure.toRpcError (some
        ((layer.refused latency first pattern failure world providers).bags.withIds
          newId |>.errorFields (layer.opened first world.bags).1))] := by
    rw [← bags]
    unfold CallLayer.refused
    rw [opened]
    rfl
  have has : (layer.opened first world.bags).2.Has (layer.opened first world.bags).1 :=
    BagStore.attach_has _ _
  obtain ⟨user, annotations⟩ := CallLayer.contents_noted has (layer.routeOf pattern)
  refine ⟨⟨rfl, rfl⟩, rfl, rfl, ⟨_, rfl, ?_⟩, ?_, ?_, user, ?_, rfl, rfl⟩
  · rw [log, BagStore.errorFields_withIds, bags]
    rfl
  · intro segment inside
    have bag : (layer.opened first world.bags).1 = .segment segment := by
      unfold CallLayer.opened
      rw [inside]
      rfl
    have logged : (layer.refused latency first pattern failure world providers).log =
        world.log ++ [.ofError failure.toRpcError (some
          ((layer.refused latency first pattern failure world providers).bags.errorFields
            (layer.opened first world.bags).1))] := rfl
    rw [logged, log, BagStore.errorFields_withIds, bag]
    rfl
  · intro bag
    rw [bags]
    exact BagStore.contents_withIds bag
  · refine (annotations Authenticator.organisationNote).trans ?_
    cases layer.routeOf pattern with
    | none => rfl
    | some route => rfl

/-- Two requests to one registered path that are not authenticated for the same reason are served
alike, whatever their headers are, as long as they belong to the same segment. -/
theorem serve_alike_of_same_failure {options : StandardHooks τ} {before : World τ}
    {hooks : List (Hook τ)} {first second : Request}
    (resolver : options.organisation = claimedOrganisation)
    (timed : options.fixedLatency = some latency)
    (chosen : (options.authentication before).1 = hookOf (some (authenticator, .required)))
    (built : (options.build before).1 = .ok hooks) (installed : layer.hook = .pipeline hooks)
    (matched : first.pattern = some pattern) (matched' : second.pattern = some pattern)
    (segments : layer.segmentOf (.ofHeaders second.headers) =
      layer.segmentOf (.ofHeaders first.headers))
    (failed : authenticator.Records first.headers world (.failed failure))
    (failed' : authenticator.Records second.headers world (.failed failure))
    (handler handler' : Handler τ) (newId : Nat → String) :
    RefusedAlike layer latency first pattern failure world newId
      (layer.serve handler first world) (layer.serve handler' second (world.withIds newId)) := by
  obtain ⟨rfl, -, -⟩ := build_eq_arranged built
  rw [chosen, resolver, timed] at installed
  have now : world.now = (world.withIds newId).now := rfl
  have sources : (world.withIds newId).providers = world.providers := rfl
  have failed'' : authenticator.Records second.headers (world.withIds newId) (.failed failure) :=
    failed'.congr now sources
  obtain ⟨providers, served⟩ := serve_of_failed installed matched failed
  obtain ⟨providers', served'⟩ := serve_of_failed installed matched' failed''
  rw [served, served']
  exact refusedAlike_of_refused segments newId providers providers'

/-! ## Two forged tokens -/

/-- The usual hooks with keys from an identity service, the organisation of the verified claims and
a fixed latency. -/
def timedOptions : StandardHooks Unit :=
  ⟨none, some "https://id.example", claimedOrganisation, some (.ofMillis 7)⟩

/-- A token with the payload `{"sub":"mallory","org":"acme"}` and an algorithm that is not trusted.
-/
def malloryToken : String :=
  "eyJhbGciOiJIUzI1NiJ9.eyJzdWIiOiJtYWxsb3J5Iiwib3JnIjoiYWNtZSJ9.AA"

/-- The same with the payload `{"sub":"eve","org":"umbrella"}`. -/
def eveToken : String :=
  "eyJhbGciOiJIUzI1NiJ9.eyJzdWIiOiJldmUiLCJvcmciOiJ1bWJyZWxsYSJ9.AA"

theorem records_of_untrusted (token : String)
    (carried : (carrying token).headers.bearerToken.toOption = some token)
    (untrusted : (ReadToken.ofToken? token).map (·.header.algorithm) = some "HS256") :
    serviceAuthenticator.Records (carrying token).headers blankWorld
      (.failed (.invalidToken .unexpectedAlgorithm)) := by
  obtain ⟨read, found, named⟩ := Option.map_eq_some_iff.mp untrusted
  have foreign : ∀ algorithm : RsaAlgorithm, read.header.algorithm ≠ algorithm.name := by
    intro algorithm
    rw [named]
    cases algorithm <;> decide
  have refused : Validation.precheck token accessTokenType = .error .unexpectedAlgorithm :=
    precheck_of_foreignAlgorithm (ReadToken.ofToken?_eq_some_iff.mp found) foreign
  refine .rejected (eq_ok_of_toOption carried) ?_
  unfold Authenticator.accessClaims
  rw [validateToken_of_precheck_error refused]

theorem serve_alike_forged :
    (ReadToken.ofToken? malloryToken).map (fun read => (read.claims.subject,
        read.claims.organisation)) = some ("mallory", "acme") ∧
      (ReadToken.ofToken? eveToken).map (fun read => (read.claims.subject,
        read.claims.organisation)) = some ("eve", "umbrella") ∧
      ∃ hooks, (timedOptions.build blankWorld).1 = .ok hooks ∧
        RefusedAlike (.new (.pipeline hooks)) (.ofMillis 7) (carrying malloryToken)
          "/twirp/demo.Greeter/Hello" (.invalidToken .unexpectedAlgorithm) blankWorld
          (fun _ => "other")
          ((CallLayer.new (.pipeline hooks)).serve (.fixed (.text 200 "ok"))
            (carrying malloryToken) blankWorld)
          ((CallLayer.new (.pipeline hooks)).serve (.fixed (.text 200 "ok"))
            (carrying eveToken) (blankWorld.withIds fun _ => "other")) := by
  have mallory := records_of_untrusted malloryToken (by decide +kernel) (by decide +kernel)
  have eve := records_of_untrusted eveToken (by decide +kernel) (by decide +kernel)
  have chosen : (timedOptions.authentication blankWorld).1 =
      hookOf (some (serviceAuthenticator, .required)) := rfl
  have matched : ∀ token, (carrying token).pattern = some "/twirp/demo.Greeter/Hello" :=
    fun _ => rfl
  have apart : ∀ (hook : Hook Unit) context, (CallLayer.new hook).segmentOf context = none :=
    fun _ _ => rfl
  have isBuilt : (timedOptions.build blankWorld).1.isOk = true := by decide +kernel
  obtain ⟨hooks, built⟩ := exists_eq_ok_of_isOk isBuilt
  exact ⟨by decide +kernel, by decide +kernel, hooks, built,
    serve_alike_of_same_failure rfl rfl chosen built rfl (matched _) (matched _)
      ((apart _ _).trans (apart _ _).symm) mallory eve (.fixed (.text 200 "ok"))
      (.fixed (.text 200 "ok")) (fun _ => "other")⟩

end StandardHooks

end BearerGate
