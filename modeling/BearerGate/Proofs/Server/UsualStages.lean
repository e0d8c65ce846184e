import BearerGate.Proofs.Bag.Writes
import BearerGate.Proofs.Server.Conservation
import BearerGate.Proofs.Server.Lifecycle

/-!
# The stages of a call with the usual hooks

Each stage of a call written out: what the usual hooks leave of the context, of the bags, of the
metrics and of the error log. A call comes to authentication with its start, its bag and its route
(`CallLayer.found`), and however it is answered it ends with one record for an error and none
without, and with one response counted (`StandardHooks.close_report`).
-/

namespace BearerGate

variable {τ : Type}

/-! ## Up to the route -/

/-- The bags once the route of a call, if it has one, is noted in the call's bag. -/
def BagStore.noted (bags : BagStore) (bag : BagRef) : Option Route → BagStore
  | none => bags
  | some route =>
    (bags.annotate bag CallLayer.serviceNote (.string route.service)).annotate bag
      CallLayer.methodNote (.string route.method)

namespace CallLayer

/-- The bag of a request, and the bags with it. -/
def opened (layer : CallLayer τ) (request : Request) (bags : BagStore) : BagRef × BagStore :=
  bags.attach (layer.segmentOf (.ofHeaders request.headers))

/-- The route of the calls to a registered path, if it denotes one. -/
def routeOf (layer : CallLayer τ) (pattern : String) : Option Route :=
  Route.parse? pattern layer.lead

/-- The context and the world in which the usual hooks hear of the route of a call. -/
def found (layer : CallLayer τ) (request : Request) (pattern : String) (world : World τ) :
    Context × World τ :=
  let opened := layer.opened request world.bags
  ((((Context.ofHeaders request.headers).put .bag opened.1).put .received world.now).routedTo
      (layer.routeOf pattern),
    { world with bags := opened.2.noted opened.1 (layer.routeOf pattern) })

section Found

variable {layer : CallLayer τ} {request : Request} {pattern : String} {world : World τ}

theorem found_headers : (layer.found request pattern world).1.headers = some request.headers := by
  unfold found
  cases layer.routeOf pattern with
  | none => rfl
  | some route => rfl

theorem found_bag : (layer.found request pattern world).1.bag =
    some (layer.opened request world.bags).1 := by
  unfold found
  cases layer.routeOf pattern with
  | none => rfl
  | some route => rfl

theorem found_route : (layer.found request pattern world).1.route = layer.routeOf pattern := by
  unfold found
  cases layer.routeOf pattern with
  | none => rfl
  | some route => rfl

theorem found_received : (layer.found request pattern world).1.received = some world.now := by
  unfold found
  cases layer.routeOf pattern with
  | none => rfl
  | some route => rfl

end Found

/-- What the notes of a route leave of the call's own bag. -/
theorem contents_noted {bags : BagStore} {bag : BagRef} (has : bags.Has bag)
    (route : Option Route) :
    ((bags.noted bag route).contents bag).user = (bags.contents bag).user ∧
      ∀ name, ((bags.noted bag route).contents bag).annotations.get? name =
        match route with
        | none => (bags.contents bag).annotations.get? name
        | some route =>
          if name = methodNote then some (.string route.method)
          else if name = serviceNote then some (.string route.service)
          else (bags.contents bag).annotations.get? name := by
  cases route with
  | none => exact ⟨rfl, fun _ => rfl⟩
  | some route =>
    obtain ⟨user, annotations⟩ :=
      BagStore.contents_annotate_string has serviceNote route.service
    have has' : (bags.annotate bag serviceNote (.string route.service)).Has bag :=
      BagStore.write_has has
    obtain ⟨user', annotations'⟩ :=
      BagStore.contents_annotate_string has' methodNote route.method
    refine ⟨user'.trans user, fun name => ?_⟩
    refine (annotations' name).trans ?_
    rw [annotations name]

end CallLayer

/-! ## Verifying a token moves the sources of keys and nothing else -/

theorem Authenticator.verify_snd (authenticator : Authenticator) (headers : Headers)
    (world : World τ) :
    ∃ providers, (authenticator.verify headers world).2 = { world with providers } := by
  have validated : ∀ token, ∃ providers,
      (validateToken (World.resolve authenticator.provider) world.now.second authenticator.leeway
        token accessTokenType world).2 = { world with providers } := by
    intro token
    rw [validateToken_snd]
    split
    · exact ⟨world.providers, rfl⟩
    · exact ⟨_, rfl⟩
  unfold verify
  cases headers.bearerToken with
  | error failure => exact ⟨world.providers, rfl⟩
  | ok token =>
    obtain ⟨providers, after⟩ := validated token
    refine ⟨providers, ?_⟩
    rw [← after]
    dsimp only
    split
    next outcome => rw [outcome]
    next outcome => rw [outcome]

/-- A request whose token is not verified goes on with the failure in its context. -/
theorem Authenticator.authenticate_of_failed {authenticator : Authenticator} {headers : Headers}
    {world : World τ} {failure : AuthFailure}
    (failed : (authenticator.verify headers world).1 = .error failure) (context : Context) :
    ∃ providers, authenticator.authenticate context (some headers) world =
      (context.withAuth (.error failure), { world with providers }) := by
  obtain ⟨providers, after⟩ := authenticator.verify_snd headers world
  refine ⟨providers, ?_⟩
  rw [← after]
  unfold authenticate
  dsimp only
  cases verified : authenticator.verify headers world with
  | mk result later =>
    rw [verified] at failed
    dsimp only at failed
    subst failed
    rfl

/-- A request whose token is verified goes on with the claims in its context, and with what the
authenticator has written about them. -/
theorem Authenticator.authenticate_of_verified {authenticator : Authenticator} {headers : Headers}
    {world : World τ} {info : AuthInfo}
    (verified : (authenticator.verify headers world).1 = .ok info) (context : Context) :
    ∃ providers, authenticator.authenticate context (some headers) world =
      (context.withAuth (.ok info),
        { world with
          providers
          bags := authenticator.annotate context info.claims world.bags }) := by
  obtain ⟨providers, after⟩ := authenticator.verify_snd headers world
  refine ⟨providers, ?_⟩
  unfold authenticate
  dsimp only
  cases outcome : authenticator.verify headers world with
  | mk result later =>
    rw [outcome] at verified after
    dsimp only at verified after
    subst verified after
    rfl

/-! ## The stages of the usual hooks -/

namespace StandardHooks

variable {layer : CallLayer τ} {metrics : RpcMetrics} {auth : Option (Authenticator × AuthMode)}
  {pattern : String} {request : Request} {context : Context} {world : World τ}

/-- The usual hooks let every request in and hear of its route. -/
theorem receive_route (installed : layer.hook = .pipeline (arranged metrics (hookOf auth)))
    (request : Request) (pattern : String) (world : World τ) :
    ∃ context reached, layer.receive request world = .passed context reached ∧
      layer.route pattern context reached =
        (Hook.pipeline (arranged metrics (hookOf auth))).routed
          (layer.found request pattern world).1 (layer.found request pattern world).2 := by
  refine ⟨((Context.ofHeaders request.headers).put .bag (layer.opened request world.bags).1).put
      .received world.now, { world with bags := (layer.opened request world.bags).2 }, ?_, ?_⟩
  · unfold CallLayer.receive
    rw [installed]
    cases auth with
    | none => rfl
    | some chosen => rfl
  · unfold CallLayer.route CallLayer.found CallLayer.routeOf
    rw [installed]
    cases Route.parse? pattern layer.lead with
    | none => rfl
    | some route => rfl

/-- Without authentication the stage of the route counts the call. -/
theorem routed_open (metrics : RpcMetrics) (context : Context) (world : World τ) :
    (Hook.pipeline (arranged metrics (hookOf none))).routed context world =
      .passed context { world with registry := metrics.countRequest context world.registry } :=
  rfl

/-- With authentication the call is counted behind it, and its outcome decides on the call. -/
theorem routed_guarded (metrics : RpcMetrics) (authenticator : Authenticator) (mode : AuthMode)
    (context : Context) (world : World τ) :
    (Hook.pipeline (arranged metrics (hookOf (some (authenticator, mode))))).routed context world =
      let (known, after) := authenticator.authenticate context context.headers world
      ⟨known, { after with registry := metrics.countRequest known after.registry },
        mode.refusal? known.authState⟩ :=
  Progress.andThen_of_passes
    ((Hook.authMetrics (.metrics metrics) (.authentication authenticator mode)).routed context
      world) fun _ _ => rfl

/-- The stages at the end of a call: a record if the response answers with an error, and a count
of the response. -/
theorem close_report (installed : layer.hook = .pipeline (arranged metrics (hookOf auth)))
    (context : Context) (response : Response) (world : World τ) :
    layer.close context response (layer.report context response world) =
      { world with
        log := world.log ++ response.failure.toList.map fun error =>
          .ofError error (context.logFields? .error world.bags)
        registry := metrics.countResponse (context.put .status response.status) world.now
          world.registry } := by
  unfold CallLayer.close CallLayer.report
  rw [installed]
  cases response.failure with
  | none =>
    rw [Option.toList_none, List.map_nil, List.append_nil]
    cases auth with
    | none => rfl
    | some chosen => rfl
  | some error =>
    cases auth with
    | none => rfl
    | some chosen => rfl

end StandardHooks

end BearerGate
