import BearerGate.Keys.Manager
import BearerGate.Proofs.Keys.Freshness

/-!
# The current keys

What a request for the key set changes, and what reading the current keys comes to. On a fresh
cache they are the cached set and nothing else happens. On a stale one there is one request, and
the keys are what it brings, or the manager is told of an outage. A health check reads the current
keys as a question for a key does.
-/

namespace BearerGate

/-! ## Requests -/

/-- A request brings a key set if it was awaited and answered with success and a key set. -/
theorem KeyRequest.outcome_eq_ok_iff {request : KeyRequest} {keys : KeySet} :
    request.outcome = .ok keys ↔
      request.awaited = true ∧
        ∃ body, request.endpoint = .answers 200 body ∧ KeySet.ofBytes body = .ok keys := by
  obtain ⟨endpoint, ended, awaited⟩ := request
  cases awaited with
  | false => simp [KeyRequest.outcome]
  | true =>
    cases endpoint with
    | answers status body =>
      by_cases success : status = 200
      · subst success
        simp [KeyRequest.outcome, Endpoint.outcome, Endpoint.okStatus]
      · have refused : ∀ keys', (Endpoint.answers status body).outcome ≠ .ok keys' := by
          intro keys'
          simp only [Endpoint.outcome, Endpoint.okStatus, success, if_false]
          split <;> simp
        simp [KeyRequest.outcome, refused, success]
    | drops | truncates | hangs | unreachable =>
      simp [KeyRequest.outcome, Endpoint.outcome]

theorem KeyRequest.succeeds_iff {request : KeyRequest} :
    request.succeeds = true ↔ ∃ keys, request.outcome = .ok keys := by
  unfold KeyRequest.succeeds
  cases request.outcome with
  | ok keys => simp [Except.isOk, Except.toBool]
  | error failure => simp [Except.isOk, Except.toBool]

/-! ## Outages -/

/-- There is no key set to be had: no complete answer, another status than success, or an answer
that is no key set. -/
inductive KeyFailure.IsOutage : KeyFailure → Prop
  | transport (detail : String) : IsOutage (.transport detail)
  | status (code : Nat) : IsOutage (.status code)
  | undecodable (detail : String) : IsOutage (.undecodable detail)

theorem KeySet.isOutage_of_ofBytes {body : List UInt8} {failure : KeyFailure}
    (failed : ofBytes body = .error failure) : failure.IsOutage := by
  unfold ofBytes at failed
  split at failed
  · cases failed
  · cases failed
    exact .undecodable _

theorem Endpoint.isOutage_of_outcome {endpoint : Endpoint} {failure : KeyFailure}
    (failed : endpoint.outcome = .error failure) : failure.IsOutage := by
  cases endpoint with
  | answers status body =>
    simp only [outcome] at failed
    split at failed
    · exact KeySet.isOutage_of_ofBytes failed
    · split at failed
      · cases failed
        exact .status status
      · cases failed
        exact .transport _
  | drops | truncates | hangs | unreachable =>
    cases failed
    exact .transport _

namespace KeyManager

/-! ## One request -/

theorem settle_requests (manager : KeyManager) (request : KeyRequest) :
    (manager.settle request).2.requests = request :: manager.requests := by
  unfold settle
  cases request.outcome <;> rfl

theorem settle_ttl (manager : KeyManager) (request : KeyRequest) :
    (manager.settle request).2.ttl = manager.ttl := by
  unfold settle
  cases request.outcome <;> rfl

theorem settle_fst (manager : KeyManager) (request : KeyRequest) :
    (manager.settle request).1 = request.outcome := by
  unfold settle
  cases request.outcome <;> rfl

theorem settle_cache_of_ok {manager : KeyManager} {request : KeyRequest} {keys : KeySet}
    (brought : request.outcome = .ok keys) :
    (manager.settle request).2.cache = .installed request.ended manager.ttl keys := by
  unfold settle
  rw [brought]

/-- A request that brings no key set leaves the cache as it is. -/
theorem settle_cache_of_not_succeeds {manager : KeyManager} {request : KeyRequest}
    (failed : request.succeeds = false) : (manager.settle request).2.cache = manager.cache := by
  unfold settle
  cases outcome : request.outcome with
  | ok keys =>
    have succeeds := KeyRequest.succeeds_iff.mpr ⟨keys, outcome⟩
    rw [failed] at succeeds
    cases succeeds
  | error failure => rfl

/-! ## Reading the current keys -/

variable {manager : KeyManager} {turn : Turn}

theorem currentKeys_of_fresh {keys : KeySet}
    (fresh : manager.cache.fresh? turn.served = some keys) :
    manager.currentKeys turn = (.ok keys, manager) := by
  unfold currentKeys
  rw [fresh]

/-- A stale manager makes one request, and what that brings are its keys. -/
theorem currentKeys_of_stale (stale : manager.cache.Stale turn.served) :
    let request : KeyRequest := ⟨manager.endpoint, turn.ended, true⟩
    manager.currentKeys turn = (request.outcome, (manager.settle request).2) := by
  intro request
  unfold currentKeys
  rw [KeyCache.fresh?_eq_none_iff.mpr stale]
  exact Prod.ext (manager.settle_fst request) rfl

theorem check_eq (manager : KeyManager) (turn : Turn) :
    manager.check turn = ((manager.currentKeys turn).1.isOk, (manager.currentKeys turn).2) := by
  unfold check isCached KeyCache.isFresh refresh currentKeys
  cases manager.cache.fresh? turn.served with
  | some keys => rfl
  | none =>
    dsimp only
    cases manager.fetch turn.ended with
    | mk result after =>
      cases result with
      | ok keys => rfl
      | error failure => rfl

/-- A manager without keys has met with an outage. -/
theorem isOutage_of_currentKeys {failure : KeyFailure}
    (failed : (manager.currentKeys turn).1 = .error failure) : failure.IsOutage := by
  cases found : manager.cache.fresh? turn.served with
  | some keys =>
    rw [currentKeys_of_fresh found] at failed
    cases failed
  | none =>
    rw [currentKeys_of_stale (KeyCache.fresh?_eq_none_iff.mp found)] at failed
    exact Endpoint.isOutage_of_outcome failed

end KeyManager

end BearerGate
