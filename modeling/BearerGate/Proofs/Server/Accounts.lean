import BearerGate.Proofs.Server.UsualStages
import BearerGate.Server.Handlers

/-!
# The accounts of a failing call

A call that ends with an error is told of four times: by the status and the body of its response,
by the record in the error log, and by the status under which its response is counted. The response
brings the error with it, and all four are taken from there, so they agree, whether the hooks have
refused the call or the handler has answered with an error.
-/

namespace BearerGate

variable {τ : Type}

/-! ## Responses and the errors that they carry -/

/-- The responses that handlers make: such as carry no error, and the answers with one. -/
inductive Response.Told : Response → Prop
  | untagged {response : Response} (plain : response.failure = none) : Told response
  | error (error : RpcError) : Told error.response
  | failure (failure : AuthFailure) : Told failure.response

/-- What a handler gets instead of the verified token is the answer with a failure. -/
theorem Request.told_of_requireAuth {request : Request} {response : Response}
    (rejected : request.requireAuth = .error response) : response.Told := by
  unfold requireAuth at rejected
  cases outcome : request.authState.result with
  | ok info =>
    rw [outcome] at rejected
    cases rejected
  | error failure =>
    rw [outcome] at rejected
    cases rejected
    exact .failure failure

theorem Handler.subject_told (request : Request) (world : World τ) :
    (Handler.subject request world).1.Told := by
  unfold Handler.subject
  cases outcome : request.requireAuth with
  | ok info => exact .untagged rfl
  | error response => exact Request.told_of_requireAuth outcome

/-- The status of a failure is the status of its code as an error of a call. -/
theorem AuthFailure.httpStatus_toRpcError (failure : AuthFailure) :
    failure.toRpcError.httpStatus = failure.httpStatus := by
  cases failure with
  | noToken => rfl
  | invalidToken fault => rfl
  | keysUnavailable failure => rfl
  | notAuthenticated => rfl
  | insufficientPermissions => rfl

theorem AuthFailure.reason_toRpcError (failure : AuthFailure) :
    failure.toRpcError.details.get? "reason" = some failure.code := by
  change ((RpcError.new failure.rpcCode failure.rpcMessage).details.insert "reason"
    failure.code).get? "reason" = _
  rw [Dict.get?_insert, if_pos rfl]

/-- A response with an error has the status of the error. -/
theorem Response.Told.status {response : Response} (told : response.Told) {error : RpcError}
    (carried : response.failure = some error) : response.status = error.httpStatus := by
  cases told with
  | untagged plain =>
    rw [plain] at carried
    cases carried
  | error error =>
    cases carried
    rfl
  | failure failure =>
    cases carried
    exact failure.httpStatus_toRpcError.symm

namespace ErrorRecord

/-- A record says of an error and of the call's annotations what the response says. -/
structure AgreesWith (record : ErrorRecord) (error : RpcError) (response : Response)
    (annotations : Dict Scalar) : Prop where
  status : record.status = response.status
  code : record.code = error.code
  message : record.message = error.message
  details : record.details = error.details
  /-- The body of the answer with an error has its code, its message and, if there are any, its
  details. -/
  inFull : ∀ answered : RpcError, response = answered.response →
    response.body = (Json.object ([("code", .string record.code.name),
        ("msg", .string record.message)] ++
      if record.details.isEmpty then []
      else [("meta", .object (record.details.entries.map fun detail =>
        (detail.1, .string detail.2)))])).text
  /-- The body of the answer with a failure names the reason. -/
  byReason : ∀ failure : AuthFailure, response = failure.response →
    ∃ reason, record.details.get? "reason" = some reason ∧
      response.body =
        (Json.object [("error", .string failure.message), ("error_code", .string reason)]).text
  annotations : record.annotations = (Json.ofDict (annotations.map Scalar.toJson)).text

theorem agreesWith_ofError {error : RpcError} {response : Response} (told : response.Told)
    (carried : response.failure = some error) {context : Context} {bag : BagRef}
    (held : context.bag = some bag) (bags : BagStore) :
    (ofError error (context.logFields? .error bags)).AgreesWith error response
      (bags.contents bag).annotations where
  status := (told.status carried).symm
  code := rfl
  message := rfl
  details := rfl
  inFull := by
    rintro answered rfl
    cases carried
    rfl
  byReason := by
    rintro failure rfl
    cases carried
    exact ⟨failure.code, failure.reason_toRpcError, rfl⟩
  annotations := by
    unfold Context.logFields?
    rw [held]
    rfl

end ErrorRecord

/-! ## The end of a call -/

/-- All that is told of a call when it ends with a response: a record if the response carries an
error and none otherwise, and one response counted if the call has a route. `left` is the world in
which the call ends, `after` the one that it leaves. -/
structure Response.Accounts (response : Response) (route : Option Route) (bag : BagRef)
    (left after : World τ) : Prop where
  silent : response.failure = none → after.log = left.log
  recorded : ∀ error, response.failure = some error → ∃ record : ErrorRecord,
    after.log = left.log ++ [record] ∧
      record.AgreesWith error response (left.bags.contents bag).annotations
  uncounted : route = none → after.registry = left.registry
  counted : ∀ found, route = some found → ∃ organisation,
    after.registry.counters = left.registry.counters.update
      (RpcMetrics.responseSeries organisation response.status found) 0 (· + 1)

namespace RpcMetrics

/-- Of the counters, the count of a response changes the one with its status. -/
theorem counters_countResponse {organisation : Context → String} {latency : Option Span}
    {context : Context} {route : Route} {status : Nat} {start : Instant}
    (routed : context.route = some route) (answered : context.status = some status)
    (begun : context.received = some start) (now : Instant) (registry : Registry) :
    ((registered organisation latency).countResponse context now registry).counters =
      registry.counters.update (responseSeries (organisation context) status route) 0 (· + 1) := by
  have counts := registry.attempt_increment ⟨responsesName, responseLabels⟩
    [route.service, route.method, toString status, organisation context] 1 rfl
  have times := fun (registry : Registry) (sample : Double) =>
    registry.attempt_record ⟨durationName, callLabels⟩
      [route.service, route.method, organisation context] sample rfl
  unfold countResponse
  rw [routed, answered, begun]
  refine (congrArg Registry.counters (times _ _)).trans ?_
  exact congrArg Registry.counters counts

end RpcMetrics

namespace StandardHooks

open RpcMetrics (registered)

variable {layer : CallLayer τ} {auth : Option (Authenticator × AuthMode)}
  {organisation : Context → String} {latency : Option Span} {request : Request} {pattern : String}
  {world : World τ}

/-- However a call with the usual hooks is answered, its accounts agree. -/
theorem accounts_of_close
    (installed : layer.hook = .pipeline (arranged (registered organisation latency) (hookOf auth)))
    {context : Context} {bag : BagRef} {start : Instant} (held : context.bag = some bag)
    (begun : context.received = some start) {response : Response} (told : response.Told)
    (left : World τ) :
    response.Accounts context.route bag left
      (layer.close context response (layer.report context response left)) := by
  rw [close_report installed]
  constructor
  case silent =>
    intro plain
    rw [plain]
    exact List.append_nil _
  case recorded =>
    intro error carried
    refine ⟨.ofError error (context.logFields? .error left.bags), ?_,
      ErrorRecord.agreesWith_ofError told carried held left.bags⟩
    rw [carried]
    rfl
  case uncounted =>
    intro unrouted
    have unrouted' : (context.put .status response.status).route = none := unrouted
    unfold RpcMetrics.countResponse
    rw [unrouted']
  case counted =>
    intro route routed
    have routed' : (context.put .status response.status).route = some route := routed
    exact ⟨_, RpcMetrics.counters_countResponse routed' rfl begun _ _⟩

end StandardHooks

/-! ## What the hooks leave in the bag -/

namespace BagStore

/-- A write changes the annotation that it is for, and no other. -/
theorem annotation_write {write : BagWrite} {name : String}
    (aside : ∀ written value, write = .annotated written value → name ≠ written)
    (store : BagStore) (bag other : BagRef) :
    ((store.write bag write).contents other).annotations.get? name =
      (store.contents other).annotations.get? name := by
  obtain same | changed := store.contents_write_cases bag other write
  · rw [same]
  · rw [changed]
    cases write with
    | user user => rfl
    | metadata name value => rfl
    | annotated written value =>
      exact (BagContents.annotations_after_annotated written value).trans
        (if_neg (aside written value rfl))

end BagStore

namespace Authenticator

/-- Annotations of this name stay as they are when the authenticator writes about claims. -/
def Keeps (authenticator : Authenticator) (name : String) : Prop :=
  ∀ context claims bags bag,
    ((authenticator.annotate context claims bags).contents bag).annotations.get? name =
      (bags.contents bag).annotations.get? name

/-- What is written about the holder of a token changes one annotation. -/
theorem keeps_of_annotateIdentity {authenticator : Authenticator}
    (usual : authenticator.annotate = annotateIdentity) {name : String}
    (aside : name ≠ organisationNote) : authenticator.Keeps name := by
  intro context claims bags bag
  rw [usual]
  unfold annotateIdentity Context.annotate Context.setUser
  cases context.bag with
  | none => rfl
  | some own =>
    dsimp only
    rw [BagStore.annotate_string]
    refine (BagStore.annotation_write ?_ _ own bag).trans
      (BagStore.annotation_write ?_ bags own bag)
    · intro written value same
      cases same
      exact aside
    · intro written value same
      cases same

end Authenticator

namespace CallLayer

/-- The annotations by which the calls to a registered path are told apart. -/
def notesOf (layer : CallLayer τ) (pattern : String) : List (String × Scalar) :=
  match layer.routeOf pattern with
  | none => []
  | some route => [(serviceNote, .string route.service), (methodNote, .string route.method)]

variable {layer : CallLayer τ} {request : Request} {pattern : String} {world : World τ}

theorem notesOf_of_routeOf {route : Route} (found : layer.routeOf pattern = some route) :
    layer.notesOf pattern =
      [(serviceNote, .string route.service), (methodNote, .string route.method)] := by
  unfold notesOf
  rw [found]

theorem mem_notesOf {note : String × Scalar} (noted : note ∈ layer.notesOf pattern) :
    ∃ route, layer.routeOf pattern = some route ∧
      (note = (serviceNote, .string route.service) ∨
        note = (methodNote, .string route.method)) := by
  cases found : layer.routeOf pattern with
  | none =>
    unfold notesOf at noted
    rw [found] at noted
    cases noted
  | some route =>
    rw [notesOf_of_routeOf found, List.mem_pair] at noted
    exact ⟨route, rfl, noted⟩

theorem ne_organisationNote_of_mem_notesOf {note : String × Scalar}
    (noted : note ∈ layer.notesOf pattern) : note.1 ≠ Authenticator.organisationNote := by
  have service : serviceNote ≠ Authenticator.organisationNote := by decide
  have method : methodNote ≠ Authenticator.organisationNote := by decide
  obtain ⟨route, -, rfl | rfl⟩ := mem_notesOf noted
  · exact service
  · exact method

/-- The bag of a call has the notes of its route when authentication begins. -/
theorem annotation_found {note : String × Scalar} (noted : note ∈ layer.notesOf pattern) :
    ((layer.found request pattern world).2.bags.contents
      (layer.opened request world.bags).1).annotations.get? note.1 = some note.2 := by
  have has : (layer.opened request world.bags).2.Has (layer.opened request world.bags).1 :=
    BagStore.attach_has _ _
  obtain ⟨-, annotations⟩ := contents_noted has (layer.routeOf pattern)
  refine (annotations note.1).trans ?_
  obtain ⟨route, found, rfl | rfl⟩ := mem_notesOf noted
  · rw [found]
    rfl
  · rw [found]
    rfl

end CallLayer

namespace StandardHooks

open RpcMetrics (registered)

variable {layer : CallLayer τ} {auth : Option (Authenticator × AuthMode)}
  {organisation : Context → String} {latency : Option Span} {request : Request} {pattern : String}
  {world : World τ}

/-- Authentication, if there is any, does not write annotations of this name: it writes about the
holder of a token as usual, or is known to keep them. -/
def SparedBy (auth : Option (Authenticator × AuthMode)) (name : String) : Prop :=
  ∀ guard ∈ auth, guard.1.annotate = Authenticator.annotateIdentity ∨ guard.1.Keeps name

/-- The annotation of this name in a bag is the same in both worlds. -/
def SameNote (bag : BagRef) (name : String) (left heard : World τ) : Prop :=
  (left.bags.contents bag).annotations.get? name = (heard.bags.contents bag).annotations.get? name

/-- What a call has when its route is known and authentication is over. `heard` is the world in
which it goes on. -/
structure Heard (layer : CallLayer τ) (auth : Option (Authenticator × AuthMode))
    (request : Request) (pattern : String) (world : World τ) (context : Context)
    (heard : World τ) : Prop where
  bag : context.bag = some (layer.opened request world.bags).1
  route : context.route = layer.routeOf pattern
  received : context.received = some world.now
  log : heard.log = world.log
  notes : ∀ note ∈ layer.notesOf pattern, SparedBy auth note.1 →
    (heard.bags.contents (layer.opened request world.bags).1).annotations.get? note.1 =
      some note.2

/-- The usual hooks hand every call on or refuse it with what it has then. -/
theorem routed_heard (layer : CallLayer τ) (metrics : RpcMetrics)
    (auth : Option (Authenticator × AuthMode)) (request : Request) (pattern : String)
    (world : World τ) :
    ∃ context heard refusal,
      (Hook.pipeline (arranged metrics (hookOf auth))).routed
          (layer.found request pattern world).1 (layer.found request pattern world).2 =
        ⟨context, heard, refusal⟩ ∧
      Heard layer auth request pattern world context heard := by
  cases auth with
  | none =>
    refine ⟨_, _, none, routed_open metrics _ _, CallLayer.found_bag, CallLayer.found_route,
      CallLayer.found_received, rfl, ?_⟩
    intro note noted _
    exact CallLayer.annotation_found noted
  | some guard =>
    obtain ⟨authenticator, mode⟩ := guard
    rw [routed_guarded, CallLayer.found_headers]
    cases verified : (authenticator.verify request.headers
        (layer.found request pattern world).2).1 with
    | error failure =>
      obtain ⟨providers, authenticated⟩ :=
        Authenticator.authenticate_of_failed verified (layer.found request pattern world).1
      rw [authenticated]
      refine ⟨_, _, _, rfl, CallLayer.found_bag, CallLayer.found_route,
        CallLayer.found_received, rfl, ?_⟩
      intro note noted _
      exact CallLayer.annotation_found noted
    | ok info =>
      obtain ⟨providers, authenticated⟩ :=
        Authenticator.authenticate_of_verified verified (layer.found request pattern world).1
      rw [authenticated]
      refine ⟨_, _, _, rfl, CallLayer.found_bag, CallLayer.found_route,
        CallLayer.found_received, rfl, ?_⟩
      intro note noted spared
      have kept : authenticator.Keeps note.1 := by
        obtain usual | kept := spared _ rfl
        · exact Authenticator.keeps_of_annotateIdentity usual
            (CallLayer.ne_organisationNote_of_mem_notesOf noted)
        · exact kept
      exact (kept _ _ _ _).trans (CallLayer.annotation_found noted)

/-- Every call to a registered path ends with a response whose accounts agree. The response is the
answer to the error with which the hooks refuse the call, or it comes from the handler, which is
called in `heard`. The record is made of the bag in `left`: the notes of the route are there unless
the handler or the authenticator has written over them. -/
theorem serve_accounts {options : StandardHooks τ} {before : World τ} {hooks : List (Hook τ)}
    (chosen : (options.authentication before).1 = hookOf auth)
    (built : (options.build before).1 = .ok hooks) (installed : layer.hook = .pipeline hooks)
    (matched : request.pattern = some pattern) {handler : Handler τ}
    (answers : ∀ request world, (handler request world).1.Told) (world : World τ) :
    ∃ context heard response left,
      Heard layer auth request pattern world context heard ∧
      ((∃ error, response = RpcError.response error ∧ left = heard) ∨
        handler { request with context := some context } heard = (response, left)) ∧
      (layer.serve handler request world).1 = response ∧
      response.Accounts (layer.routeOf pattern) (layer.opened request world.bags).1 left
        (layer.serve handler request world).2 ∧
      ∀ note ∈ layer.notesOf pattern, SparedBy auth note.1 →
        SameNote (layer.opened request world.bags).1 note.1 left heard →
        (left.bags.contents (layer.opened request world.bags).1).annotations.get? note.1 =
          some note.2 := by
  obtain ⟨rfl, -, -⟩ := build_eq_arranged built
  rw [chosen] at installed
  obtain ⟨early, reached, received, routed⟩ := receive_route installed request pattern world
  obtain ⟨context, heard, refusal, passed, found⟩ :=
    routed_heard layer (registered options.organisation options.fixedLatency) auth request pattern
      world
  rw [passed] at routed
  have accounts : ∀ {response : Response}, response.Told → ∀ left,
      response.Accounts (layer.routeOf pattern) (layer.opened request world.bags).1 left
        (layer.close context response (layer.report context response left)) := by
    intro response told left
    rw [← found.route]
    exact accounts_of_close installed found.bag found.received told left
  cases refusal with
  | some error =>
    have served := CallLayer.refuses_of_stages matched received routed handler
    rw [served]
    exact ⟨context, heard, error.response, heard, found, .inl ⟨error, rfl, rfl⟩, rfl,
      accounts (.error error) heard, fun note noted spared _ => found.notes note noted spared⟩
  | none =>
    have served := CallLayer.handsOn_of_stages matched received routed handler
    rw [served]
    have told := answers { request with context := some context } heard
    cases answer : handler { request with context := some context } heard with
    | mk response left =>
      rw [answer] at told
      exact ⟨context, heard, response, left, found, .inr answer, rfl, accounts told left,
        fun note noted spared same => same.trans (found.notes note noted spared)⟩

/-- A call is told of with the notes of its route, and it is the first that is logged. -/
def ToldFirst (route : Route) (call : Response × World Unit) : Prop :=
  ∃ bag left, call.1.Accounts (some route) bag left call.2 ∧ left.log = [] ∧
    (left.bags.contents bag).annotations.get? CallLayer.serviceNote =
      some (.string route.service) ∧
    (left.bags.contents bag).annotations.get? CallLayer.methodNote = some (.string route.method)

/-- A handler that does not find what it is asked for. -/
def goneHandler : Handler Unit := fun _ world => ((RpcError.new .notFound "gone").response, world)

/-- A call without a token, which is refused, and one whose token is accepted and whose handler
answers with an error. -/
theorem serve_accounts_goneHandler :
    ∃ hooks, (serviceOptions.build blankWorld).1 = .ok hooks ∧
      let layer := CallLayer.new (.pipeline hooks)
      let refused := layer.serve .subject bareRequest blankWorld
      let served := layer.serve goneHandler (carrying sampleToken)
        (servedBy (.answers 200 sampleDocument))
      refused.1.status = 401 ∧ served.1 = (RpcError.new .notFound "gone").response ∧
      ToldFirst ⟨"demo.Greeter", "Hello"⟩ refused ∧
      ToldFirst ⟨"demo.Greeter", "Hello"⟩ served := by
  have chosen : (serviceOptions.authentication blankWorld).1 =
      hookOf (some (serviceAuthenticator, .required)) := rfl
  obtain ⟨hooks, built⟩ := exists_serviceOptions_built
  let layer := CallLayer.new (.pipeline hooks)
  have installed : layer.hook = .pipeline hooks := rfl
  have routed : layer.routeOf "/twirp/demo.Greeter/Hello" = some ⟨"demo.Greeter", "Hello"⟩ := by
    change Route.parse? "/twirp/demo.Greeter/Hello" Route.defaultPrefix = _
    decide +kernel
  have spared (name : String) : SparedBy (some (serviceAuthenticator, .required)) name := by
    rintro guard ⟨⟩
    exact .inl rfl
  have told {handler : Handler Unit} (answers : ∀ request world, (handler request world).1.Told)
      (keeps : ∀ request world, (handler request world).2 = world) {request : Request}
      (matched : request.pattern = some "/twirp/demo.Greeter/Hello") {world : World Unit}
      (quiet : world.log = []) :
      ToldFirst ⟨"demo.Greeter", "Hello"⟩ (layer.serve handler request world) := by
    obtain ⟨context, heard, response, left, found, origin, answered, accounts, notes⟩ :=
      serve_accounts chosen built installed matched answers world
    -- The handler leaves the world alone, so that either way the call ends where it was heard.
    have same : left = heard := by
      rcases origin with ⟨error, -, same⟩ | handled
      · exact same
      · exact (congrArg Prod.snd handled).symm.trans (keeps _ heard)
    subst same
    rw [routed, ← answered] at accounts
    rw [CallLayer.notesOf_of_routeOf routed] at notes
    refine ⟨_, left, accounts, found.log.trans quiet, ?_, ?_⟩
    · exact notes _ List.mem_cons_self (spared _) rfl
    · exact notes _ (List.mem_cons_of_mem _ List.mem_cons_self) (spared _) rfl
  obtain ⟨metrics, rfl⟩ := exists_arranged_of_build built
  have required {request : Request} {pattern : String} (matched : request.pattern = some pattern)
      (world : World Unit) : layer.Requires serviceAuthenticator request world :=
    requires_of_installed rfl matched
  refine ⟨_, built, ?_, ?_, told Handler.subject_told (fun _ _ => rfl) rfl rfl,
    told (fun _ _ => .error _) (fun _ _ => rfl) rfl rfl⟩
  · apply (required rfl blankWorld).status_of_tokenless
    intro token carried
    cases carried
  · obtain ⟨claims, accepted⟩ := exists_sampleToken_accepted
    obtain ⟨context, reached, handsOn⟩ :=
      (required rfl _).runs_iff.mpr ⟨sampleToken, claims, sampleToken_carried, accepted⟩
    exact congrArg Prod.fst (handsOn goneHandler)

end StandardHooks

end BearerGate
