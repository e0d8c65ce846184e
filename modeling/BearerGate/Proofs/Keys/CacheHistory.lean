import BearerGate.Proofs.Token.NeedsKeys

/-!
# The cache and the requests behind it

Whatever is asked of a manager, its cache is determined by the requests that it has made: it holds
what the latest successful one brought, and it is empty if there is none.

Every event moves a manager in one of four ways (`KeyManager.Moves`): not at all, by a change of
its endpoint, by one request whose end is awaited, or by one that is given up. Which events await a
request says `KeyManager.Awaits`. What holds of a run follows from these four cases.
-/

namespace BearerGate

/-- What a cache holds after requests, given the latest that brought a key set: the set in the
body of its answer, fresh until one lifetime after its end, at the latest until the end of the
calendar. -/
def KeyCache.Holds (cache : KeyCache) (ttl : Span) : Option KeyRequest → Prop
  | none => cache.keys = none ∧ cache.staleAfter = .epoch
  | some install =>
    ∃ body keys, install.endpoint = .answers 200 body ∧ KeySet.ofBytes body = .ok keys ∧
      cache.keys = some keys ∧
      cache.staleAfter.nanos = min (install.ended.nanos + ttl.nanos) latestNanos

namespace KeyManager

/-! ## One event -/

/-- The event makes a manager in this state ask its endpoint, and the caller waits for the end of
the request, which is at `ended`: a refresh is forced, or the keys are needed, or asked for by a
caller that does not give up, while the cache is stale. -/
inductive Awaits (manager : KeyManager) : KeyEvent → Instant → Prop
  | refresh (ended : Instant) : Awaits manager (.refresh ended) ended
  | needed {event : KeyEvent} {turn : Turn} (needs : event.NeedsKeys turn)
    (stale : manager.cache.Stale turn.served) : Awaits manager event turn.ended
  | patient {turn : Turn} (id : String) (stale : manager.cache.Stale turn.served) :
    Awaits manager (.resolveCancellable turn id .never) turn.ended
  | answered {turn : Turn} (id : String) (stale : manager.cache.Stale turn.served)
    (heard : manager.endpoint.isSilent = false) :
    Awaits manager (.resolveCancellable turn id .duringFetch) turn.ended

/-- How an event moves a manager. -/
inductive Moves (manager : KeyManager) (event : KeyEvent) : KeyManager → Prop
  | still : Moves manager event manager
  | turned (endpoint : Endpoint) : Moves manager event { manager with endpoint }
  | asked {ended : Instant} (awaits : manager.Awaits event ended) :
    Moves manager event (manager.settle ⟨manager.endpoint, ended, true⟩).2
  | abandoned (ended : Instant) (timed : ended ∈ event.readings) :
    Moves manager event (manager.settle ⟨manager.endpoint, ended, false⟩).2

variable {manager after : KeyManager} {event : KeyEvent} {turn : Turn} {ended : Instant}

theorem Awaits.timed (awaits : manager.Awaits event ended) : ended ∈ event.readings := by
  cases awaits with
  | refresh => simp [KeyEvent.readings]
  | needed needs stale => exact needs.ended_mem
  | patient id stale => simp [KeyEvent.readings]
  | answered id stale heard => simp [KeyEvent.readings]

/-- An event that awaits a request leaves the manager as that request does. -/
theorem step_of_awaits (awaits : manager.Awaits event ended) :
    (manager.step event).2 = (manager.settle ⟨manager.endpoint, ended, true⟩).2 := by
  cases awaits with
  | refresh => rfl
  | needed needs stale => rw [step_of_needsKeys needs, currentKeys_of_stale stale]
  | @patient turn id stale =>
    have left : (manager.step (.resolveCancellable turn id .never)).2 =
        (manager.currentKeys turn).2 := rfl
    rw [left, currentKeys_of_stale stale]
  | @answered turn id stale heard =>
    have left : (manager.step (.resolveCancellable turn id .duringFetch)).2 =
        (manager.currentKeys turn).2 := by
      simp only [step, resolveCancellable, heard]
      rfl
    rw [left, currentKeys_of_stale stale]

/-- What reads the current keys moves a manager only if the cache is stale. -/
theorem moves_of_currentKeys (left : (manager.step event).2 = (manager.currentKeys turn).2)
    (asks : manager.cache.Stale turn.served → manager.Awaits event turn.ended) :
    manager.Moves event (manager.step event).2 := by
  cases found : manager.cache.fresh? turn.served with
  | some keys =>
    rw [left, currentKeys_of_fresh found]
    exact .still
  | none =>
    have awaits := asks (KeyCache.fresh?_eq_none_iff.mp found)
    rw [step_of_awaits awaits]
    exact .asked awaits

theorem moves_of_needsKeys (needs : event.NeedsKeys turn) :
    manager.Moves event (manager.step event).2 :=
  moves_of_currentKeys (by rw [step_of_needsKeys needs]) (.needed needs)

theorem moves_of_abandoning (manager : KeyManager) (id : String)
    (timed : turn.ended ∈ event.readings) :
    manager.Moves event (manager.resolveAbandoning turn id).2 := by
  unfold resolveAbandoning
  cases manager.cache.fresh? turn.served with
  | some keys => exact .still
  | none => exact .abandoned turn.ended timed

theorem resolveCancellable_moves (manager : KeyManager) (turn : Turn) (id : String)
    (cancellation : Cancellation) :
    let event := KeyEvent.resolveCancellable turn id cancellation
    manager.Moves event (manager.step event).2 := by
  have timed : turn.ended ∈ (KeyEvent.resolveCancellable turn id cancellation).readings := by
    simp [KeyEvent.readings]
  cases cancellation with
  | never => exact moves_of_currentKeys rfl (.patient id)
  | before => exact .still
  | duringFetch =>
    cases silent : manager.endpoint.isSilent with
    | true =>
      simp only [step, resolveCancellable, silent]
      exact manager.moves_of_abandoning id timed
    | false =>
      refine moves_of_currentKeys ?_ fun stale => .answered id stale silent
      simp only [step, resolveCancellable, silent]
      rfl
  | beforeAnswer => exact manager.moves_of_abandoning id timed

/-- Every event moves a manager in one of the four ways. -/
theorem step_moves (manager : KeyManager) (event : KeyEvent) :
    manager.Moves event (manager.step event).2 := by
  cases event with
  | resolve turn id => exact moves_of_needsKeys (.resolve turn id)
  | resolveCancellable turn id cancellation =>
    exact manager.resolveCancellable_moves turn id cancellation
  | refresh ended => exact .asked (.refresh ended)
  | isCached now => exact .still
  | cachedKeys => exact .still
  | check turn => exact moves_of_needsKeys (.check turn)
  | validate turn judged leeway token type =>
    by_cases asks : ∃ read algorithm id, AsksFor token type read algorithm id
    · obtain ⟨read, algorithm, id, asks⟩ := asks
      exact moves_of_needsKeys (.validate turn judged leeway asks)
    · obtain ⟨fault, rejected⟩ := exists_fault_of_not_asksFor fun read algorithm id asks' =>
        asks ⟨read, algorithm, id, asks'⟩
      rw [rejected]
      exact .still
  | turnsTo endpoint => exact .turned endpoint

/-! ## What an event does to the cache -/

theorem Moves.ttl_eq (moves : manager.Moves event after) : after.ttl = manager.ttl := by
  cases moves with
  | still => rfl
  | turned endpoint => rfl
  | asked awaits => exact manager.settle_ttl _
  | abandoned ended timed => exact manager.settle_ttl _

theorem settle_lastInstall?_of_succeeds {request : KeyRequest}
    (succeeds : request.succeeds = true) :
    (manager.settle request).2.lastInstall? = some request := by
  unfold lastInstall?
  rw [settle_requests]
  exact List.find?_cons_of_pos succeeds

theorem settle_lastInstall?_of_not_succeeds {request : KeyRequest}
    (failed : request.succeeds = false) :
    (manager.settle request).2.lastInstall? = manager.lastInstall? := by
  unfold lastInstall?
  rw [settle_requests]
  exact List.find?_cons_of_neg (by simp [failed])

/-- A request that brings a key set leaves a cache that holds it. -/
theorem settle_holds {request : KeyRequest} (succeeds : request.succeeds = true) :
    (manager.settle request).2.cache.Holds manager.ttl (some request) := by
  obtain ⟨keys, brought⟩ := KeyRequest.succeeds_iff.mp succeeds
  obtain ⟨-, body, answered, decoded⟩ := KeyRequest.outcome_eq_ok_iff.mp brought
  rw [settle_cache_of_ok brought]
  exact ⟨body, keys, answered, decoded, rfl, KeyCache.staleTime_nanos _ _⟩

/-- A request that was given up brings nothing. -/
theorem not_succeeds_of_abandoned (endpoint : Endpoint) (ended : Instant) :
    (KeyRequest.mk endpoint ended false).succeeds = false := rfl

/-- An event leaves the cache alone, or it awaits one request to the endpoint as it is, and the
cache then holds what that request brought. -/
theorem Moves.cache_cases (moves : manager.Moves event after) :
    (after.cache = manager.cache ∧ after.lastInstall? = manager.lastInstall?) ∨
      ∃ request : KeyRequest, request.endpoint = manager.endpoint ∧
        request.ended ∈ event.readings ∧ manager.Awaits event request.ended ∧
        after.requests = request :: manager.requests ∧ after.lastInstall? = some request ∧
        after.cache.Holds manager.ttl (some request) := by
  cases moves with
  | still => exact .inl ⟨rfl, rfl⟩
  | turned endpoint => exact .inl ⟨rfl, rfl⟩
  | abandoned ended timed =>
    exact .inl ⟨settle_cache_of_not_succeeds (not_succeeds_of_abandoned _ ended),
      settle_lastInstall?_of_not_succeeds (not_succeeds_of_abandoned _ ended)⟩
  | @asked ended awaits =>
    cases succeeds : (KeyRequest.mk manager.endpoint ended true).succeeds with
    | false =>
      exact .inl ⟨settle_cache_of_not_succeeds succeeds,
        settle_lastInstall?_of_not_succeeds succeeds⟩
    | true =>
      exact .inr ⟨⟨manager.endpoint, ended, true⟩, rfl, awaits.timed, awaits,
        manager.settle_requests _, settle_lastInstall?_of_succeeds succeeds,
        settle_holds succeeds⟩

/-- A request that an event makes and that brings a key set is what the cache holds after it. -/
theorem Moves.holds_of_made {request : KeyRequest} (moves : manager.Moves event after)
    (made : after.requests = request :: manager.requests) (succeeds : request.succeeds = true) :
    after.cache.Holds manager.ttl (some request) := by
  cases moves with
  | still => exact (List.cons_ne_self _ _ made.symm).elim
  | turned endpoint => exact (List.cons_ne_self _ _ made.symm).elim
  | asked awaits =>
    obtain ⟨rfl, -⟩ := List.cons.inj ((manager.settle_requests _).symm.trans made)
    exact settle_holds succeeds
  | abandoned ended timed =>
    obtain ⟨rfl, -⟩ := List.cons.inj ((manager.settle_requests _).symm.trans made)
    cases succeeds

/-- An event that awaits a request puts in the set that the endpoint answers with. -/
theorem step_installs {body : List UInt8} {keys : KeySet} (awaits : manager.Awaits event ended)
    (answers : manager.endpoint = .answers 200 body) (decoded : KeySet.ofBytes body = .ok keys) :
    (manager.step event).2.requests = ⟨manager.endpoint, ended, true⟩ :: manager.requests ∧
      (manager.step event).2.lastInstall? = some ⟨manager.endpoint, ended, true⟩ ∧
      (manager.step event).2.cache = .installed ended manager.ttl keys := by
  have brought : (KeyRequest.mk manager.endpoint ended true).outcome = .ok keys :=
    KeyRequest.outcome_eq_ok_iff.mpr ⟨rfl, body, answers, decoded⟩
  rw [step_of_awaits awaits]
  exact ⟨manager.settle_requests _,
    settle_lastInstall?_of_succeeds (KeyRequest.succeeds_iff.mpr ⟨keys, brought⟩),
    settle_cache_of_ok brought⟩

/-- That the cache holds what the latest successful request brought is kept by every event. -/
theorem Moves.holds (moves : manager.Moves event after)
    (holds : manager.cache.Holds manager.ttl manager.lastInstall?) :
    after.cache.Holds after.ttl after.lastInstall? := by
  rw [moves.ttl_eq]
  rcases moves.cache_cases with ⟨cache, last⟩ | ⟨request, -, -, -, -, last, installed⟩
  · rw [cache, last]
    exact holds
  · rw [last]
    exact installed

theorem settle_exists_made {request : KeyRequest} (timed : request.ended ∈ event.readings) :
    ∃ made, (manager.settle request).2.requests = made ++ manager.requests ∧
      (∀ request ∈ made, request.ended ∈ event.readings) ∧
      ((∀ request ∈ made, request.succeeds = false) →
        (manager.settle request).2.cache = manager.cache) := by
  refine ⟨[request], manager.settle_requests request, by simpa using timed, ?_⟩
  intro failed
  exact settle_cache_of_not_succeeds (failed request List.mem_cons_self)

/-- The requests that an event makes come on top of the earlier ones, and without a successful
one among them the cache stays as it is. -/
theorem Moves.exists_made (moves : manager.Moves event after) :
    ∃ made, after.requests = made ++ manager.requests ∧
      (∀ request ∈ made, request.ended ∈ event.readings) ∧
      ((∀ request ∈ made, request.succeeds = false) → after.cache = manager.cache) := by
  cases moves with
  | still => exact ⟨[], rfl, by simp, fun _ => rfl⟩
  | turned endpoint => exact ⟨[], rfl, by simp, fun _ => rfl⟩
  | asked awaits => exact settle_exists_made awaits.timed
  | abandoned ended timed => exact settle_exists_made timed

/-! ## Runs -/

theorem run_cons (manager : KeyManager) (event : KeyEvent) (events : List KeyEvent) :
    manager.run (event :: events) = (manager.step event).2.run events := rfl

theorem run_ttl (manager : KeyManager) (events : List KeyEvent) :
    (manager.run events).ttl = manager.ttl := by
  induction events generalizing manager with
  | nil => rfl
  | cons event events ih =>
    rw [run_cons, ih]
    exact (manager.step_moves event).ttl_eq

/-- What the latest successful request brought is in the cache throughout a run that starts with
it there. -/
theorem run_holds (events : List KeyEvent)
    (holds : manager.cache.Holds manager.ttl manager.lastInstall?) :
    (manager.run events).cache.Holds (manager.run events).ttl
      (manager.run events).lastInstall? := by
  induction events generalizing manager with
  | nil => exact holds
  | cons event events ih => exact ih ((manager.step_moves event).holds holds)

theorem new_holds (endpoint : Endpoint) (ttl : Span) :
    (new endpoint ttl).cache.Holds (new endpoint ttl).ttl (new endpoint ttl).lastInstall? :=
  ⟨rfl, rfl⟩

/-- The requests of a run come on top of the earlier ones, they end at readings of its clock, and
without a successful one among them the cache stays as it is. -/
theorem run_exists_made (manager : KeyManager) (events : List KeyEvent) :
    ∃ made, (manager.run events).requests = made ++ manager.requests ∧
      (∀ request ∈ made, request.ended ∈ events.flatMap KeyEvent.readings) ∧
      ((∀ request ∈ made, request.succeeds = false) →
        (manager.run events).cache = manager.cache) := by
  induction events generalizing manager with
  | nil => exact ⟨[], rfl, by simp, fun _ => rfl⟩
  | cons event events ih =>
    obtain ⟨first, requests, timed, kept⟩ := (manager.step_moves event).exists_made
    obtain ⟨rest, requests', timed', kept'⟩ := ih (manager.step event).2
    refine ⟨rest ++ first, ?_, ?_, ?_⟩
    · rw [run_cons, requests', requests, List.append_assoc]
    · intro request made
      rw [List.flatMap_cons, List.mem_append]
      rcases List.mem_append.mp made with late | early
      · exact .inr (timed' request late)
      · exact .inl (timed request early)
    · intro failed
      rw [run_cons, kept' fun request late => failed request (List.mem_append_left _ late),
        kept fun request early => failed request (List.mem_append_right _ early)]

theorem mem_requests_of_lastInstall? {install : KeyRequest}
    (last : manager.lastInstall? = some install) : install ∈ manager.requests :=
  List.mem_of_find?_eq_some last

/-- In a run of a new manager every request ended at a reading of the clock. -/
theorem ended_mem_readings {endpoint : Endpoint} {ttl : Span} {events : List KeyEvent}
    {request : KeyRequest} (made : request ∈ ((new endpoint ttl).run events).requests) :
    request.ended ∈ events.flatMap KeyEvent.readings := by
  obtain ⟨requests, listed, timed, -⟩ := (new endpoint ttl).run_exists_made events
  rw [listed] at made
  rcases List.mem_append.mp made with here | before
  · exact timed request here
  · cases before

/-- In every reachable state the cache holds what the latest successful request brought, or
nothing if there was none. An event that makes no such request leaves the cache exactly as it is,
and so does any number of them; one that does replaces the set and its time together, by what the
endpoint answers at that time. Every event that awaits a request makes such a one if the endpoint
answers with a key set. -/
theorem cache_eq_last_install (endpoint : Endpoint) (ttl : Span) (events : List KeyEvent) :
    let manager := (new endpoint ttl).run events
    manager.cache.Holds ttl manager.lastInstall? ∧
      (∀ event, let after := (manager.step event).2
        (after.cache = manager.cache ∧ after.lastInstall? = manager.lastInstall?) ∨
          ∃ request : KeyRequest, request.endpoint = manager.endpoint ∧
            request.ended ∈ event.readings ∧ manager.Awaits event request.ended ∧
            after.requests = request :: manager.requests ∧
            after.lastInstall? = some request ∧ after.cache.Holds ttl (some request)) ∧
      (∀ event ended body keys, manager.Awaits event ended →
        manager.endpoint = .answers 200 body → KeySet.ofBytes body = .ok keys →
        let after := (manager.step event).2
        after.requests = ⟨manager.endpoint, ended, true⟩ :: manager.requests ∧
          after.lastInstall? = some ⟨manager.endpoint, ended, true⟩ ∧
          after.cache.keys = some keys ∧
          after.cache.staleAfter.nanos = min (ended.nanos + ttl.nanos) latestNanos) ∧
      ∀ more, ∃ made, (manager.run more).requests = made ++ manager.requests ∧
        ((∀ request ∈ made, request.succeeds = false) →
          (manager.run more).cache = manager.cache) := by
  intro manager
  have ttl_eq : manager.ttl = ttl := run_ttl _ events
  refine ⟨?_, ?_, ?_, ?_⟩
  · have holds := run_holds events (new_holds endpoint ttl)
    rw [run_ttl] at holds
    exact holds
  · intro event after
    have cases := (manager.step_moves event).cache_cases
    rw [ttl_eq] at cases
    exact cases
  · intro event ended body keys awaits answers decoded after
    obtain ⟨requests, last, cache⟩ := step_installs awaits answers decoded
    rw [ttl_eq] at cache
    refine ⟨requests, last, congrArg KeyCache.keys cache, ?_⟩
    rw [cache]
    exact KeyCache.staleTime_nanos ended ttl
  · intro more
    obtain ⟨made, requests, -, kept⟩ := manager.run_exists_made more
    exact ⟨made, requests, kept⟩

end KeyManager

end BearerGate
