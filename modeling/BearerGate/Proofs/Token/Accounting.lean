import BearerGate.Proofs.Keys.Lifetime
import BearerGate.Proofs.Token.Backing

/-!
# What traffic costs the key endpoint

An event causes a request to the endpoint just if it needs the keys while the cache is stale, and
then it causes one and is answered from what that request brings. Every other event leaves the
cache and the requests alone.

All of it comes from one equation: an event that needs the keys is answered from the current keys
and leaves the manager as reading them does (`KeyManager.step_of_needsKeys`). A token that fails a
check before its key is known does not need the keys, so whoever writes tokens cannot make a fresh
manager ask, or a stale one ask twice.
-/

namespace BearerGate

/-! ## Kinds of events -/

namespace KeyEvent

/-- Whether an event leaves it to the manager when to make a request, and waits for it. -/
def isUnforced : KeyEvent → Bool
  | .refresh _ | .resolveCancellable .. => false
  | _ => true

/-- Whether something is asked of the manager. Other events change its endpoint. -/
def isQuestion : KeyEvent → Bool
  | .turnsTo _ => false
  | _ => true

theorem NeedsKeys.isQuestion {event : KeyEvent} {turn : Turn} (needs : event.NeedsKeys turn) :
    event.isQuestion = true := by
  cases needs with
  | resolve id => rfl
  | check => rfl
  | validate judged leeway asks => rfl

theorem isUnforced_of_not_isQuestion {event : KeyEvent} (change : ¬ event.isQuestion = true) :
    event.isUnforced = true := by
  cases event with
  | turnsTo endpoint => rfl
  | resolve | resolveCancellable | refresh | isCached | cachedKeys | check | validate =>
    exact (change rfl).elim

end KeyEvent

namespace KeyManager

/-- The answers to what is asked in the course of events. -/
def answers (manager : KeyManager) : List KeyEvent → List KeyAnswer
  | [] => []
  | event :: events =>
    let (answer, after) := manager.step event
    if event.isQuestion then answer :: answers after events else answers after events

variable {manager other : KeyManager} {event : KeyEvent} {turn : Turn}

/-! ## One event -/

/-- Without stale keys to replace, an event leaves the cache and the requests as they are, and
managers with the same cache answer it alike, whatever their endpoints do. -/
theorem step_of_not_stale (unforced : event.isUnforced = true)
    (fresh : ∀ turn, event.NeedsKeys turn → ¬ manager.cache.Stale turn.served)
    (same : other.cache = manager.cache) :
    (manager.step event).2.cache = manager.cache ∧
      (manager.step event).2.requests = manager.requests ∧
      (event.isQuestion = true → (other.step event).1 = (manager.step event).1) := by
  -- An event that needs the keys finds them in the cache, in either manager.
  have found : ∀ turn, event.NeedsKeys turn →
      (manager.step event).2 = manager ∧ (other.step event).1 = (manager.step event).1 := by
    intro turn needs
    cases keys : manager.cache.fresh? turn.served with
    | none => exact (fresh turn needs (KeyCache.fresh?_eq_none_iff.mp keys)).elim
    | some keys' =>
      have there : other.cache.fresh? turn.served = some keys' := by rw [same, keys]
      rw [step_of_needsKeys needs, step_of_needsKeys needs, currentKeys_of_fresh keys,
        currentKeys_of_fresh there]
      exact ⟨rfl, rfl⟩
  have needing : ∀ turn, event.NeedsKeys turn →
      (manager.step event).2.cache = manager.cache ∧
        (manager.step event).2.requests = manager.requests ∧
        (event.isQuestion = true → (other.step event).1 = (manager.step event).1) := by
    intro turn needs
    obtain ⟨left, answer⟩ := found turn needs
    rw [left]
    exact ⟨rfl, rfl, fun _ => answer⟩
  cases event with
  | resolve turn id => exact needing turn (.resolve turn id)
  | check turn => exact needing turn (.check turn)
  | validate turn judged leeway token type =>
    by_cases asks : ∃ read algorithm id, AsksFor token type read algorithm id
    · obtain ⟨read, algorithm, id, asks⟩ := asks
      exact needing turn (.validate turn judged leeway asks)
    · have refused : ∀ read algorithm id, ¬ AsksFor token type read algorithm id :=
        fun read algorithm id asks' => asks ⟨read, algorithm, id, asks'⟩
      obtain ⟨fault, rejected⟩ := exists_fault_of_not_asksFor refused
      rw [rejected, rejected]
      exact ⟨rfl, rfl, fun _ => rfl⟩
  | isCached now =>
    have answer : other.isCached now = manager.isCached now := by
      unfold isCached
      rw [same]
    exact ⟨rfl, rfl, fun _ => congrArg KeyAnswer.flag answer⟩
  | cachedKeys =>
    have answer : other.cache.keys = manager.cache.keys := by rw [same]
    exact ⟨rfl, rfl, fun _ => congrArg KeyAnswer.keys answer⟩
  | turnsTo endpoint => exact ⟨rfl, rfl, fun question => nomatch question⟩
  | refresh ended => cases unforced
  | resolveCancellable turn id cancellation => cases unforced

/-- While the cache is stale, an event that needs the keys makes one request and is answered from
what that brings, never from the cached set. -/
theorem step_of_stale (needs : event.NeedsKeys turn) (stale : manager.cache.Stale turn.served) :
    ∃ request : KeyRequest, request.endpoint = manager.endpoint ∧ request.awaited = true ∧
      manager.step event = (event.answerFrom request.outcome, (manager.settle request).2) := by
  refine ⟨⟨manager.endpoint, turn.ended, true⟩, rfl, rfl, ?_⟩
  rw [step_of_needsKeys needs, currentKeys_of_stale stale]

/-- An event makes one request if it needs the keys while the cache is stale, and else none. -/
theorem step_exists_made (unforced : event.isUnforced = true) :
    ∃ made, (manager.step event).2.requests = made ++ manager.requests ∧ made.length ≤ 1 ∧
      (made.length = 1 ↔ ∃ turn, event.NeedsKeys turn ∧ manager.cache.Stale turn.served) := by
  by_cases asking : ∃ turn, event.NeedsKeys turn ∧ manager.cache.Stale turn.served
  · obtain ⟨turn, needs, stale⟩ := asking
    obtain ⟨request, -, -, stepped⟩ := step_of_stale needs stale
    refine ⟨[request], ?_, Nat.le_refl 1, fun _ => ⟨turn, needs, stale⟩, fun _ => rfl⟩
    rw [stepped]
    exact manager.settle_requests request
  · have fresh : ∀ turn, event.NeedsKeys turn → ¬ manager.cache.Stale turn.served :=
      fun turn needs stale => asking ⟨turn, needs, stale⟩
    obtain ⟨-, requests, -⟩ := step_of_not_stale unforced fresh rfl
    refine ⟨[], requests, Nat.zero_le 1, fun made => ?_, fun asked => (asking asked).elim⟩
    cases made

/-! ## Traffic -/

theorem answers_cons (manager : KeyManager) (event : KeyEvent) (events : List KeyEvent) :
    manager.answers (event :: events) =
      if event.isQuestion then
        (manager.step event).1 :: (manager.step event).2.answers events
      else (manager.step event).2.answers events := rfl

/-- As long as the cache is fresh, events leave it and the requests as they are. -/
theorem run_of_fresh {traffic : List KeyEvent}
    (unforced : ∀ event ∈ traffic, event.isUnforced = true)
    (fresh : ∀ event ∈ traffic, ∀ turn, event.NeedsKeys turn →
      ¬ manager.cache.Stale turn.served) :
    (manager.run traffic).cache = manager.cache ∧
      (manager.run traffic).requests = manager.requests := by
  induction traffic generalizing manager with
  | nil => exact ⟨rfl, rfl⟩
  | cons event traffic ih =>
    obtain ⟨cache, requests, -⟩ := step_of_not_stale (unforced event List.mem_cons_self)
      (fresh event List.mem_cons_self) rfl
    have later : ∀ later ∈ traffic, ∀ turn, later.NeedsKeys turn →
        ¬ (manager.step event).2.cache.Stale turn.served := by
      intro later here
      rw [cache]
      exact fresh later (List.mem_cons_of_mem event here)
    obtain ⟨cache', requests'⟩ :=
      ih (fun later here => unforced later (List.mem_cons_of_mem event here)) later
    rw [run_cons, cache', requests']
    exact ⟨cache, requests⟩

/-- As long as the cache is fresh, every answer is the one that the manager would have given at
the start. -/
theorem answers_of_fresh {traffic : List KeyEvent}
    (unforced : ∀ event ∈ traffic, event.isUnforced = true)
    (fresh : ∀ event ∈ traffic, ∀ turn, event.NeedsKeys turn →
      ¬ manager.cache.Stale turn.served) (same : other.cache = manager.cache) :
    other.answers traffic =
      (traffic.filter (·.isQuestion)).map fun event => (manager.step event).1 := by
  induction traffic generalizing other with
  | nil => rfl
  | cons event traffic ih =>
    obtain ⟨-, -, answer⟩ := step_of_not_stale (unforced event List.mem_cons_self)
      (fresh event List.mem_cons_self) same
    have fresh' : ∀ turn, event.NeedsKeys turn → ¬ other.cache.Stale turn.served := by
      rw [same]
      exact fresh event List.mem_cons_self
    obtain ⟨cache, -, -⟩ := step_of_not_stale (unforced event List.mem_cons_self) fresh' rfl
    have rest := ih (fun later here => unforced later (List.mem_cons_of_mem event here))
      (fun later here => fresh later (List.mem_cons_of_mem event here)) (cache.trans same)
    rw [answers_cons, rest]
    by_cases question : event.isQuestion = true
    · rw [if_pos question, List.filter_cons_of_pos question, List.map_cons, answer question]
    · rw [if_neg question, List.filter_cons_of_neg question]

/-- The account of the requests that traffic on a manager causes. -/
structure FetchAccount (manager : KeyManager) (traffic : List KeyEvent) : Prop where
  counted : ∀ before event after, traffic = before ++ event :: after →
    ∃ made, ((manager.run before).step event).2.requests =
        made ++ (manager.run before).requests ∧
      made.length ≤ 1 ∧
      (made.length = 1 ↔
        ∃ turn, event.NeedsKeys turn ∧ (manager.run before).cache.Stale turn.served)
  refused : ∀ before turn judged leeway token type after,
    traffic = before ++ .validate turn judged leeway token type :: after →
    (∀ read algorithm id, ¬ AsksFor token type read algorithm id) →
    ((manager.run before).step (.validate turn judged leeway token type)).2 =
      manager.run before
  /-- On a fresh cache nothing is fetched, and the answers are those of any other manager with
  that cache, whatever the endpoints do before and in between. -/
  fresh : (∀ event ∈ traffic, ∀ turn, event.NeedsKeys turn →
      ¬ manager.cache.Stale turn.served) →
    (manager.run traffic).requests = manager.requests ∧
      (manager.run traffic).cache = manager.cache ∧
      ∀ (other : KeyManager) (elsewhere : List KeyEvent), other.cache = manager.cache →
        elsewhere.filter (·.isQuestion) = traffic.filter (·.isQuestion) →
        other.answers elsewhere = manager.answers traffic
  /-- A cache that was stale stays so until a request brings a key set: up to then every event
  that needs the keys makes a request of its own and is answered from that alone. -/
  stale : ∀ before event after turn, traffic = before ++ event :: after →
    event.NeedsKeys turn → manager.cache.Stale turn.served →
    (∀ made, (manager.run before).requests = made ++ manager.requests →
      ∀ request ∈ made, request.succeeds = false) →
    ∃ request : KeyRequest, request.endpoint = (manager.run before).endpoint ∧
      request.awaited = true ∧
      (manager.run before).step event =
        (event.answerFrom request.outcome, ((manager.run before).settle request).2)
  /-- The request that brings a key set ends this: the cache is fresh until one lifetime after the
  end of the request, or until the calendar ends. -/
  renewed : ∀ before event after request, traffic = before ++ event :: after →
    ((manager.run before).step event).2.requests = request :: (manager.run before).requests →
    request.succeeds = true → ∀ now : Instant,
      ¬ ((manager.run before).step event).2.cache.Stale now ↔
        now.nanos < min (request.ended.nanos + manager.ttl.nanos) latestNanos

/-- Whatever state a manager is in, its traffic has such an account, as long as nobody forces a
refresh or gives up a request. -/
theorem fetchAccount_of_unforced (manager : KeyManager) {traffic : List KeyEvent}
    (unforced : ∀ event ∈ traffic, event.isUnforced = true) : manager.FetchAccount traffic := by
  refine ⟨?_, ?_, ?_, ?_, ?_⟩
  · intro before event after split
    refine step_exists_made (unforced event ?_)
    rw [split]
    exact List.mem_append_right before List.mem_cons_self
  · intro before turn judged leeway token type after split refused
    obtain ⟨fault, rejected⟩ := exists_fault_of_not_asksFor refused
    rw [rejected]
  · intro fresh
    obtain ⟨cache, requests⟩ := run_of_fresh unforced fresh
    refine ⟨requests, cache, ?_⟩
    intro other elsewhere same questions
    have here : ∀ event ∈ elsewhere, event.isQuestion = true → event ∈ traffic := by
      intro event listed question
      have asked : event ∈ elsewhere.filter (·.isQuestion) := List.mem_filter.mpr ⟨listed, question⟩
      rw [questions] at asked
      exact (List.mem_filter.mp asked).1
    have unforced' : ∀ event ∈ elsewhere, event.isUnforced = true := by
      intro event listed
      by_cases question : event.isQuestion = true
      · exact unforced event (here event listed question)
      · exact KeyEvent.isUnforced_of_not_isQuestion question
    have fresh' : ∀ event ∈ elsewhere, ∀ turn, event.NeedsKeys turn →
        ¬ manager.cache.Stale turn.served := fun event listed turn needs =>
      fresh event (here event listed needs.isQuestion) turn needs
    rw [answers_of_fresh unforced' fresh' same, questions, answers_of_fresh unforced fresh rfl]
  · intro before event after turn split needs stale failed
    obtain ⟨made, requests, -, kept⟩ := manager.run_exists_made before
    have cache := kept (failed made requests)
    rw [← cache] at stale
    exact step_of_stale needs stale
  · intro before event after request split made succeeds now
    have holds := ((manager.run before).step_moves event).holds_of_made made succeeds
    rw [run_ttl] at holds
    exact holds.not_stale_iff

/-- A health check fetches the sample document, and then the endpoint breaks down. The sample token
is still accepted, a forged one and an unknown name still are not; after the lifetime of the set
every question is one request. -/
def sampleTraffic : List KeyEvent :=
  [.check (Turn.still (.ofSeconds 0)), .turnsTo .drops,
    .validate (Turn.still (.ofSeconds 5)) (.ofSeconds 5) 60 sampleToken accessTokenType,
    .validate (Turn.still (.ofSeconds 6)) (.ofSeconds 6) 60 (sampleToken ++ "x") accessTokenType,
    .resolve (Turn.still (.ofSeconds 7)) "unknown", .resolve (Turn.still (.ofSeconds 10)) "k",
    .check (Turn.still (.ofSeconds 11)), .cachedKeys]

theorem fetchAccount_sampleTraffic :
    (∀ event ∈ sampleTraffic, event.isUnforced = true) ∧
      (new (.answers 200 sampleDocument) (.ofSeconds 10)).FetchAccount sampleTraffic ∧
      ((new (.answers 200 sampleDocument) (.ofSeconds 10)).run sampleTraffic).requests.map
          (fun request => (request.ended.nanos, request.succeeds)) =
        [(11000000000, false), (10000000000, false), (0, true)] := by
  have unforced : ∀ event ∈ sampleTraffic, event.isUnforced = true := by
    simp [sampleTraffic, KeyEvent.isUnforced]
  exact ⟨unforced, fetchAccount_of_unforced _ unforced, by decide +kernel⟩

end KeyManager

end BearerGate
