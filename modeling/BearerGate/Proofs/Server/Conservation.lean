import BearerGate.Proofs.Server.Counting
import BearerGate.Server.Handlers

/-!
# The balance of the metrics

Whatever calls are under way and however their stages are mixed, the calls counted are the
responses counted and the calls between the two stages. A table keeps that each total is the
number of the calls that were counted in it (`CallTable.Kept`), and the balance is read off there.
-/

namespace BearerGate

variable {τ : Type}

/-! ## The books of a table -/

theorem countP_cons_toNat {α : Type} (p : α → Bool) (entry : α) (entries : List α) :
    (entry :: entries).countP p = entries.countP p + (p entry).toNat := by
  rw [List.countP_cons]
  cases p entry with
  | true => rfl
  | false => rfl

theorem countP_set_add {α : Type} {entries : List α} {place : Nat} {entry : α}
    (found : entries[place]? = some entry) (next : α) (p : α → Bool) :
    (entries.set place next).countP p + (p entry).toNat =
      entries.countP p + (p next).toNat := by
  induction entries generalizing place with
  | nil => cases found
  | cons first rest ih =>
    cases place with
    | zero =>
      cases found
      rw [List.set_cons_zero, countP_cons_toNat, countP_cons_toNat]
      exact Nat.add_right_comm _ _ _
    | succ place =>
      have rest := ih found
      rw [List.set_cons_succ, countP_cons_toNat, countP_cons_toNat]
      omega

theorem countP_eq_add {α : Type} {p q r : α → Bool} {entries : List α}
    (parts : ∀ entry ∈ entries, (p entry).toNat = (q entry).toNat + (r entry).toNat) :
    entries.countP p = entries.countP q + entries.countP r := by
  induction entries with
  | nil => rfl
  | cons entry entries ih =>
    have first := parts entry List.mem_cons_self
    have rest := ih fun other member => parts other (List.mem_cons_of_mem entry member)
    rw [countP_cons_toNat, countP_cons_toNat, countP_cons_toNat, first, rest]
    omega

namespace CallTable

open RpcMetrics
open StandardHooks (arranged hookOf)

/-- The totals are what the calls have been counted for. -/
structure Accounts (layer : CallLayer τ) (auth : Option (Authenticator × AuthMode))
    (table : CallTable τ) : Prop where
  requests : ∀ labels, table.world.registry.counted requestsName labels =
    UInt64.ofNat (table.calls.countP (·.inRequests layer auth labels))
  responses : ∀ labels, table.world.registry.counted responsesName labels =
    UInt64.ofNat (table.calls.countP (·.inResponses layer auth labels))
  durations : ∀ labels, table.world.registry.sampled durationName labels =
    table.calls.countP (·.inDurations layer auth labels)

/-- What every move keeps. -/
structure Kept (layer : CallLayer τ) (auth : Option (Authenticator × AuthMode))
    (table : CallTable τ) : Prop where
  sound : ∀ call ∈ table.calls, call.Sound layer auth
  keeps : ∀ call ∈ table.calls, ∀ request world,
    (call.handler request world).2.registry.AgreesOnCalls world.registry
  accounts : table.Accounts layer auth

variable {layer : CallLayer τ} {auth : Option (Authenticator × AuthMode)} {latency : Option Span}
  {table : CallTable τ}

theorem accounts_set {call next : Call τ} {place : Nat} {after : World τ}
    (accounts : table.Accounts layer auth) (found : table.calls[place]? = some call)
    (booked : call.Booked layer auth table.world.registry next after.registry) :
    Accounts layer auth ⟨table.calls.set place next, after⟩ := by
  have counted : ∀ (total before : UInt64) (p : Call τ → Bool),
      before = UInt64.ofNat (table.calls.countP p) →
      total + UInt64.ofNat (p call).toNat = before + UInt64.ofNat (p next).toNat →
      total = UInt64.ofNat ((table.calls.set place next).countP p) := by
    intro total before p amounts changes
    have counts := congrArg UInt64.ofNat (countP_set_add found next p)
    rw [UInt64.ofNat_add, UInt64.ofNat_add, ← amounts, ← changes] at counts
    exact (add_right_cancel counts).symm
  refine ⟨fun labels => ?_, fun labels => ?_, fun labels => ?_⟩
  · exact counted _ _ _ (accounts.requests labels) (booked.requests labels)
  · exact counted _ _ _ (accounts.responses labels) (booked.responses labels)
  · have counts := countP_set_add found next (·.inDurations layer auth labels)
    have changes := booked.durations labels
    rw [accounts.durations] at changes
    exact Nat.add_right_cancel (changes.trans counts.symm)

theorem move_stage {call : Call τ} {place : Nat} (found : table.calls[place]? = some call) :
    table.move layer (.stage place) =
      ⟨table.calls.set place (call.step layer table.world).1,
        (call.step layer table.world).2⟩ := by
  simp only [CallTable.move, found]

theorem move_stage_of_none {place : Nat} (nobody : table.calls[place]? = none) :
    table.move layer (.stage place) = table := by
  simp only [CallTable.move, nobody]

theorem move_kept
    (installed : layer.hook =
      .pipeline (arranged (registered claimedOrganisation latency) (hookOf auth)))
    (kept : table.Kept layer auth) (move : CallMove τ) :
    (table.move layer move).Kept layer auth := by
  cases move with
  | meanwhile world =>
    obtain ⟨requests, responses, durations⟩ := kept.accounts
    exact ⟨kept.sound, kept.keeps, requests, responses, durations⟩
  | stage place =>
    cases found : table.calls[place]? with
    | none =>
      rw [move_stage_of_none found]
      exact kept
    | some call =>
      rw [move_stage found]
      have member := List.mem_of_getElem? found
      obtain ⟨sound, booked⟩ :=
        Call.step_books installed (kept.keeps call member) (kept.sound call member) table.world
      refine ⟨?_, ?_, accounts_set kept.accounts found booked⟩
      · intro other isOther
        rcases List.mem_or_eq_of_mem_set isOther with old | rfl
        · exact kept.sound other old
        · exact sound
      · intro other isOther
        rcases List.mem_or_eq_of_mem_set isOther with old | rfl
        · exact kept.keeps other old
        · rw [Call.step_handler]
          exact kept.keeps call member

theorem run_kept
    (installed : layer.hook =
      .pipeline (arranged (registered claimedOrganisation latency) (hookOf auth)))
    (kept : table.Kept layer auth) (moves : List (CallMove τ)) :
    (table.run layer moves).Kept layer auth := by
  induction moves generalizing table with
  | nil => exact kept
  | cons move moves ih => exact ih (move_kept installed kept move)

end CallTable

/-! ## One call alone -/

/-- Stage by stage, a call comes to the response and the world of one that is served in one go. -/
theorem CallTable.run_alone (layer : CallLayer τ) (request : Request) (handler : Handler τ)
    (world : World τ) :
    let table := (opened [(request, handler)] world).run layer (List.replicate 5 (.stage 0))
    table.calls.map Call.response? = [some (layer.serve handler request world).1] ∧
      table.world = (layer.serve handler request world).2 := by
  obtain ⟨method, path, headers, body, pattern, context⟩ := request
  cases pattern with
  | none => exact ⟨rfl, rfl⟩
  | some pattern =>
    let received :=
      layer.receive ⟨method, path, headers, body, some pattern, context⟩ world
    simp only [CallLayer.serve, run, List.replicate, List.foldl, opened, List.map,
      CallTable.move, List.getElem?_cons_zero, List.set_cons_zero, Call.arriving, Call.step,
      CallPhase.step, CallPhase.afterStage]
    cases received.failure with
    | some error => exact ⟨rfl, rfl⟩
    | none =>
      dsimp only
      cases (layer.route pattern received.context received.world).failure with
      | some error => exact ⟨rfl, rfl⟩
      | none => exact ⟨rfl, rfl⟩

/-! ## Balance -/

namespace Call

open RpcMetrics (callsOf responsesOf isFor callsOf_all_mem_callsOf callsOf_all_mem_responsesOf
  responsesOf_all_mem_responsesOf)

/-- Whether a call is one to a method on behalf of an organisation. -/
def isTo (layer : CallLayer τ) (auth : Option (Authenticator × AuthMode))
    (service method organisation : String) (call : Call τ) : Bool :=
  (call.route? layer).any fun route =>
    RpcMetrics.isFor route (call.organisation auth) service method organisation

/-- Whether the stage of the route is over but the response is not sent yet. -/
def isOpen (call : Call τ) : Bool :=
  call.routedIn.isSome && call.response?.isNone

variable {layer : CallLayer τ} {auth : Option (Authenticator × AuthMode)}
  {service method organisation : String} {call : Call τ}

theorem inRequests_callsOf :
    call.inRequests layer auth (callsOf service method organisation) =
      (call.routedIn.isSome && call.isTo layer auth service method organisation) := by
  unfold inRequests isTo SeriesName.has RpcMetrics.requestSeries
  simp only [decide_true, Bool.true_and, callsOf_all_mem_callsOf]

theorem inDurations_callsOf :
    call.inDurations layer auth (callsOf service method organisation) =
      (call.response?.isSome && call.isTo layer auth service method organisation) := by
  unfold inDurations isTo SeriesName.has RpcMetrics.durationSeries
  simp only [decide_true, Bool.true_and, callsOf_all_mem_callsOf]

theorem inResponses_callsOf :
    call.inResponses layer auth (callsOf service method organisation) =
      (call.response?.isSome && call.isTo layer auth service method organisation) := by
  unfold inResponses isTo SeriesName.has RpcMetrics.responseSeries
  simp only [decide_true, Bool.true_and, callsOf_all_mem_responsesOf]
  cases call.response? with
  | none => rfl
  | some response => rfl

theorem inResponses_responsesOf {status : String} :
    call.inResponses layer auth (responsesOf service method status organisation) =
      (call.isTo layer auth service method organisation &&
        call.response?.any fun response => toString response.status = status) := by
  unfold inResponses isTo SeriesName.has RpcMetrics.responseSeries
  simp only [decide_true, Bool.true_and, responsesOf_all_mem_responsesOf]
  cases call.response? with
  | none => exact (Bool.and_false _).symm
  | some response =>
    cases call.route? layer with
    | none => rfl
    | some route => rfl

/-- Of a call that was counted, the response was counted or the call is still open. -/
theorem Sound.toNat_routed (sound : call.Sound layer auth) :
    (call.routedIn.isSome && call.isTo layer auth service method organisation).toNat =
      (call.response?.isSome && call.isTo layer auth service method organisation).toNat +
        (call.isOpen && call.isTo layer auth service method organisation).toNat := by
  cases sound with
  | arrived | received => rfl
  | routed | answered | reported => exact (Nat.zero_add _).symm
  | finished => rfl
  | @passedOn request handler response unmatched =>
    have away : isTo layer auth service method organisation
        ⟨request, handler, .finished response, none⟩ = false := by
      unfold isTo
      rw [route?_of_unmatched unmatched]
      rfl
    rw [away]
    rfl

theorem Sound.isTo_routed (sound : call.Sound layer auth) (ended : call.response?.isSome = true) :
    (call.routedIn.isSome && call.isTo layer auth service method organisation) =
      call.isTo layer auth service method organisation := by
  cases sound with
  | arrived | received | routed | answered | reported => cases ended
  | finished => rfl
  | @passedOn request handler response unmatched =>
    unfold isTo
    rw [route?_of_unmatched unmatched]
    rfl

end Call

namespace CallTable

open RpcMetrics

/-- The calls counted are the responses counted and the calls between the two stages, and as many
times are recorded as responses are counted. -/
structure Balanced (layer : CallLayer τ) (auth : Option (Authenticator × AuthMode))
    (table : CallTable τ) : Prop where
  requests : ∀ service method organisation,
    table.world.registry.counted requestsName (callsOf service method organisation) =
      table.world.registry.counted responsesName (callsOf service method organisation) +
        UInt64.ofNat (table.calls.countP fun call =>
          call.isOpen && call.isTo layer auth service method organisation)
  durations : ∀ service method organisation,
    UInt64.ofNat
        (table.world.registry.sampled durationName (callsOf service method organisation)) =
      table.world.registry.counted responsesName (callsOf service method organisation)

/-- Each call with a route was counted once in each family, under the organisation of its verified
claims and the status of its response. -/
structure CountedOnce (layer : CallLayer τ) (auth : Option (Authenticator × AuthMode))
    (table : CallTable τ) : Prop where
  requests : ∀ service method organisation,
    table.world.registry.counted requestsName (callsOf service method organisation) =
      UInt64.ofNat (table.calls.countP (·.isTo layer auth service method organisation))
  responses : ∀ service method status organisation,
    table.world.registry.counted responsesName (responsesOf service method status organisation) =
      UInt64.ofNat (table.calls.countP fun call =>
        call.isTo layer auth service method organisation &&
          call.response?.any fun response => toString response.status = status)
  durations : ∀ service method organisation,
    table.world.registry.sampled durationName (callsOf service method organisation) =
      table.calls.countP (·.isTo layer auth service method organisation)

variable {layer : CallLayer τ} {auth : Option (Authenticator × AuthMode)} {table : CallTable τ}

theorem Kept.balanced (kept : table.Kept layer auth) : table.Balanced layer auth := by
  obtain ⟨requests, responses, durations⟩ := kept.accounts
  refine ⟨fun service method organisation => ?_, fun service method organisation => ?_⟩
  · rw [requests, responses, ← UInt64.ofNat_add]
    simp only [Call.inRequests_callsOf, Call.inResponses_callsOf]
    exact congrArg UInt64.ofNat
      (countP_eq_add fun call member => (kept.sound call member).toNat_routed)
  · rw [durations, responses]
    simp only [Call.inDurations_callsOf, Call.inResponses_callsOf]

theorem Kept.countedOnce (kept : table.Kept layer auth)
    (ended : ∀ call ∈ table.calls, call.response?.isSome = true) :
    table.CountedOnce layer auth := by
  obtain ⟨requests, responses, durations⟩ := kept.accounts
  refine ⟨fun service method organisation => ?_, fun service method status organisation => ?_,
    fun service method organisation => ?_⟩
  · rw [requests]
    simp only [Call.inRequests_callsOf]
    refine congrArg UInt64.ofNat (List.countP_congr fun call member => ?_)
    rw [(kept.sound call member).isTo_routed (ended call member)]
  · rw [responses]
    simp only [Call.inResponses_responsesOf]
  · rw [durations]
    simp only [Call.inDurations_callsOf]
    refine List.countP_congr fun call member => ?_
    rw [ended call member, Bool.true_and]

end CallTable

/-! ## The usual hooks keep the balance -/

namespace StandardHooks

open RpcMetrics (registered claimedOrganisation)

variable {layer : CallLayer τ} {auth : Option (Authenticator × AuthMode)}

theorem build_eq_arranged {options : StandardHooks τ} {world : World τ} {hooks : List (Hook τ)}
    (built : (options.build world).1 = .ok hooks) :
    hooks = arranged (registered options.organisation options.fixedLatency)
        (options.authentication world).1 ∧
      (options.build world).2.registry.counters = world.registry.counters ∧
      (options.build world).2.registry.histograms = world.registry.histograms := by
  unfold build at built ⊢
  cases done : RpcMetrics.register options.organisation options.fixedLatency world.registry with
  | mk result registry =>
    rw [done] at built
    cases result with
    | error failure => cases built
    | ok metrics =>
      obtain ⟨rfl, counters, histograms⟩ := RpcMetrics.register_eq_ok done
      cases built
      unfold authentication
      split
      · exact ⟨rfl, counters, histograms⟩
      · exact ⟨rfl, counters, histograms⟩
      · exact ⟨rfl, counters, histograms⟩

/-- A table of calls that have just arrived, with metrics that have counted nothing. -/
theorem opened_kept {calls : List (Request × Handler τ)} {world : World τ}
    (keeps : ∀ call ∈ calls, ∀ request world,
      (call.2 request world).2.registry.AgreesOnCalls world.registry)
    (counters : world.registry.counters = []) (histograms : world.registry.histograms = []) :
    (CallTable.opened calls world).Kept layer auth := by
  have none_of_arriving : ∀ p : Call τ → Bool, (∀ request handler, p (.arriving request handler) =
      false) → (CallTable.opened calls world).calls.countP p = 0 := by
    intro p away
    rw [List.countP_eq_zero]
    intro call member
    obtain ⟨⟨request, handler⟩, -, rfl⟩ := List.mem_map.mp member
    rw [away]
    exact Bool.false_ne_true
  refine ⟨?_, ?_, fun labels => ?_, fun labels => ?_, fun labels => ?_⟩
  · intro call member
    obtain ⟨⟨request, handler⟩, -, rfl⟩ := List.mem_map.mp member
    exact .arrived request handler
  · intro call member
    obtain ⟨⟨request, handler⟩, arrived, rfl⟩ := List.mem_map.mp member
    exact keeps _ arrived
  · rw [none_of_arriving _ fun _ _ => rfl]
    exact Registry.counted_of_empty counters _ _
  · rw [none_of_arriving _ fun _ _ => rfl]
    exact Registry.counted_of_empty counters _ _
  · rw [none_of_arriving _ fun _ _ => rfl]
    exact Registry.sampled_of_empty histograms _ _

/-- However the stages of any calls are mixed, the usual hooks keep the metrics in balance with
the calls under way, and in the end every call with a route was counted once. -/
theorem run_balanced {options : StandardHooks τ} {before : World τ} {hooks : List (Hook τ)}
    {layer : CallLayer τ} {auth : Option (Authenticator × AuthMode)}
    {calls : List (Request × Handler τ)} {world : World τ}
    (fresh : before.registry = .empty) (resolver : options.organisation = claimedOrganisation)
    (chosen : (options.authentication before).1 = hookOf auth)
    (built : (options.build before).1 = .ok hooks) (installed : layer.hook = .pipeline hooks)
    (started : world.registry = (options.build before).2.registry)
    (keeps : ∀ call ∈ calls, ∀ request world,
      (call.2 request world).2.registry.AgreesOnCalls world.registry)
    (moves : List (CallMove τ)) :
    let table := (CallTable.opened calls world).run layer moves
    table.Balanced layer auth ∧
      ((∀ call ∈ table.calls, call.response?.isSome = true) → table.CountedOnce layer auth) := by
  obtain ⟨rfl, counters, histograms⟩ := build_eq_arranged built
  rw [fresh, ← started] at counters histograms
  rw [chosen, resolver] at installed
  have kept := CallTable.run_kept installed (opened_kept keeps counters histograms) moves
  exact ⟨kept.balanced, kept.countedOnce⟩

/-- The usual hooks with keys from an identity service, and with the organisation of the verified
claims. -/
def claimingOptions : StandardHooks Unit :=
  ⟨none, some "https://id.example", claimedOrganisation, none⟩

/-- The authentication that they make. -/
def claimingAuth : Option (Authenticator × AuthMode) :=
  some (⟨0, defaultLeeway, Authenticator.annotateIdentity⟩, .required)

/-- A layer with these hooks. -/
def claimingLayer : CallLayer Unit :=
  .new (.pipeline (arranged (registered claimedOrganisation none) (hookOf claimingAuth)))

/-- Two calls without a token, and a world in which they arrive. -/
def bareTable : CallTable Unit :=
  .opened (List.replicate 2 (bareRequest, .fixed (.text 200 "ok")))
    (claimingOptions.build blankWorld).2

/-- The stages of two calls in turn. -/
def twoInTurn : List (CallMove Unit) :=
  (List.replicate 5 [.stage 0, .stage 1]).flatten

theorem run_balanced_twoInTurn :
    (bareTable.run claimingLayer twoInTurn).Balanced claimingLayer claimingAuth ∧
      (bareTable.run claimingLayer twoInTurn).CountedOnce claimingLayer claimingAuth := by
  have keeps : ∀ call ∈ List.replicate 2
      (bareRequest, (Handler.fixed (.text 200 "ok") : Handler Unit)), ∀ request world,
      (call.2 request world).2.registry.AgreesOnCalls world.registry := by
    intro call member request world
    obtain rfl := List.eq_of_mem_replicate member
    exact .of_eq rfl
  have built : (claimingOptions.build blankWorld).1 =
      .ok (arranged (registered claimedOrganisation none) (hookOf claimingAuth)) := rfl
  have balanced : (bareTable.run claimingLayer twoInTurn).Balanced claimingLayer claimingAuth ∧
      ((∀ call ∈ (bareTable.run claimingLayer twoInTurn).calls, call.response?.isSome = true) →
        (bareTable.run claimingLayer twoInTurn).CountedOnce claimingLayer claimingAuth) :=
    run_balanced rfl rfl rfl built rfl rfl keeps twoInTurn
  have ended : ∀ call ∈ (bareTable.run claimingLayer twoInTurn).calls,
      call.response?.isSome = true := by decide +kernel
  exact ⟨balanced.1, balanced.2 ended⟩

end StandardHooks

end BearerGate
