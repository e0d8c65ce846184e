import BearerGate.Proofs.Keys.CacheHistory

/-!
# How long a set is fresh

A cached set is fresh until one lifetime has passed since it was put in, by the exact sum, and at
the latest until the calendar ends. This holds for every lifetime, also for one that no point in
time can be moved by, and the same bound decides whether a set counts as cached and whether a
question is answered without a request (`KeyManager.FreshFor`).

What the cache holds is tied to the latest successful request by `KeyCache.Holds`; nothing else of
a run is needed here. A lifetime of nothing is over at once, so that every question makes a request
on a clock that is never set back, and of two lifetimes the longer one ends later.
-/

namespace BearerGate

/-! ## The cache -/

namespace KeyCache

variable {cache other : KeyCache} {now : Instant} {ttl longer : Span}
  {install install' : KeyRequest}

theorem isFresh_iff :
    cache.isFresh now = true ↔
      now.nanos < cache.staleAfter.nanos ∧ ∃ keys, cache.keys = some keys := by
  unfold isFresh
  rw [Option.isSome_iff_exists]
  simp only [fresh?_eq_some_iff, exists_and_left]

theorem isFresh_eq_false_iff : cache.isFresh now = false ↔ cache.Stale now := by
  rw [← fresh?_eq_none_iff]
  exact Option.isSome_eq_false_iff.trans Option.isNone_iff_eq_none

/-- The time of freshness alone decides, since a set is there. -/
theorem Holds.isFresh_iff_lt_min (holds : cache.Holds ttl (some install)) :
    cache.isFresh now = true ↔
      now.nanos < min (install.ended.nanos + ttl.nanos) latestNanos := by
  rcases holds with ⟨body, keys, -, -, held, stale⟩
  rw [isFresh_iff, stale]
  constructor
  · intro fresh
    exact fresh.1
  · intro early
    exact ⟨early, keys, held⟩

theorem Holds.not_stale_iff (holds : cache.Holds ttl (some install)) :
    ¬ cache.Stale now ↔ now.nanos < min (install.ended.nanos + ttl.nanos) latestNanos := by
  rw [← isFresh_eq_false_iff, Bool.not_eq_false]
  exact holds.isFresh_iff_lt_min

theorem Holds.isFresh_iff_lt (holds : cache.Holds ttl (some install))
    (within : now.nanos < latestNanos) :
    cache.isFresh now = true ↔ now.nanos < install.ended.nanos + ttl.nanos := by
  rw [holds.isFresh_iff_lt_min]
  omega

/-- A longer lifetime does not end earlier. -/
theorem Holds.isFresh_of_longer (holds : cache.Holds ttl (some install))
    (holds' : other.Holds longer (some install')) (more : ttl.nanos ≤ longer.nanos)
    (later : install.ended ≤ install'.ended) (fresh : cache.isFresh now = true) :
    other.isFresh now = true := by
  have order : install.ended.nanos ≤ install'.ended.nanos := later
  have early := holds.isFresh_iff_lt_min.mp fresh
  apply holds'.isFresh_iff_lt_min.mpr
  omega

/-- A set that lives for no time is stale at every reading since it was put in. -/
theorem Holds.stale_of_no_lifetime (holds : cache.Holds ttl (some install))
    (none : ttl.nanos = 0) (past : install.ended ≤ now) : cache.Stale now := by
  have order : install.ended.nanos ≤ now.nanos := past
  rcases holds with ⟨body, keys, -, -, -, stale⟩
  apply Or.inr
  show cache.staleAfter.nanos ≤ now.nanos
  omega

end KeyCache

namespace KeyManager

variable {endpoint : Endpoint} {ttl : Span} {events : List KeyEvent} {install : KeyRequest}

/-! ## Managers -/

/-- The set that `install` brought is fresh for `ttl`, in each of the ways in which that shows:
whether a set counts as cached, and whether the current keys are the cached ones or are asked for.
-/
structure FreshFor (manager : KeyManager) (ttl : Span) (install : KeyRequest) : Prop where
  staleAfter : manager.cache.staleAfter.nanos =
    min (install.ended.nanos + ttl.nanos) latestNanos
  isCached : ∀ now : Instant, now.nanos < latestNanos →
    (manager.isCached now = true ↔ now.nanos < install.ended.nanos + ttl.nanos)
  reused : ∀ turn : Turn, turn.served.nanos < latestNanos →
    turn.served.nanos < install.ended.nanos + ttl.nanos →
    ∃ keys, manager.cache.keys = some keys ∧ manager.currentKeys turn = (.ok keys, manager)
  asked : ∀ turn : Turn, turn.served.nanos < latestNanos →
    install.ended.nanos + ttl.nanos ≤ turn.served.nanos →
    let request : KeyRequest := ⟨manager.endpoint, turn.ended, true⟩
    manager.currentKeys turn = (request.outcome, (manager.settle request).2)

theorem freshFor_of_holds {manager : KeyManager}
    (holds : manager.cache.Holds ttl (some install)) : manager.FreshFor ttl install := by
  constructor
  · rcases holds with ⟨body, keys, -, -, -, stale⟩
    exact stale
  · intro now within
    exact holds.isFresh_iff_lt within
  · intro turn within early
    have fresh := (holds.isFresh_iff_lt within).mpr early
    rcases KeyCache.isFresh_iff.mp fresh with ⟨before, keys, held⟩
    exact ⟨keys, held, currentKeys_of_fresh (KeyCache.fresh?_eq_some_iff.mpr ⟨before, held⟩)⟩
  · intro turn within past
    have stale : manager.cache.isFresh turn.served = false := by
      rw [Bool.eq_false_iff]
      intro fresh
      have early := (holds.isFresh_iff_lt within).mp fresh
      omega
    exact currentKeys_of_stale (KeyCache.isFresh_eq_false_iff.mp stale)

/-- What the cache of a new manager's run holds, with the lifetime that the manager was given. -/
theorem new_run_holds (endpoint : Endpoint) (ttl : Span) (events : List KeyEvent) :
    ((new endpoint ttl).run events).cache.Holds ttl
      ((new endpoint ttl).run events).lastInstall? := by
  have holds := run_holds events (new_holds endpoint ttl)
  rw [run_ttl] at holds
  exact holds

theorem holds_of_lastInstall?
    (last : ((new endpoint ttl).run events).lastInstall? = some install) :
    ((new endpoint ttl).run events).cache.Holds ttl (some install) := by
  rw [← last]
  exact new_run_holds endpoint ttl events

/-- On a clock that is never set back, a set that lives for no time is stale whenever it is asked
for. -/
theorem stale_of_no_lifetime (none : ttl.nanos = 0) {turn : Turn} {id : String}
    (ordered :
      ((events ++ [KeyEvent.resolve turn id]).flatMap KeyEvent.readings).Pairwise (· ≤ ·)) :
    ((new endpoint ttl).run events).cache.Stale turn.served := by
  have holds := new_run_holds endpoint ttl events
  cases last : ((new endpoint ttl).run events).lastInstall? with
  | none =>
    rw [last] at holds
    exact .inl holds.1
  | some install =>
    rw [last] at holds
    -- The set was put in at an earlier reading of the clock.
    rw [List.flatMap_append, List.pairwise_append] at ordered
    have timed := ended_mem_readings (mem_requests_of_lastInstall? last)
    have past : install.ended ≤ turn.served :=
      ordered.2.2 install.ended timed turn.served (by simp [KeyEvent.readings])
    exact holds.stale_of_no_lifetime none past

/-- A question to a stale manager makes one request. -/
theorem resolve_requests_of_stale {manager : KeyManager} {turn : Turn}
    (stale : manager.cache.Stale turn.served) (id : String) :
    (manager.resolve turn id).2.requests =
      ⟨manager.endpoint, turn.ended, true⟩ :: manager.requests := by
  show (manager.currentKeys turn).2.requests = _
  rw [currentKeys_of_stale stale]
  exact manager.settle_requests _

/-- A set that is put in is stale after its lifetime by the exact sum, or with the end of the
calendar. In every reachable state the set of the latest successful request is fresh until then and
no longer. Without a lifetime every question makes a request, and with a longer one a set is fresh
at every reading of the clock at which it is with a shorter one. -/
theorem freshness_exact (endpoint : Endpoint) (ttl : Span) (events : List KeyEvent) :
    let manager := (new endpoint ttl).run events
    (∀ (keys : KeySet) (now : Instant),
      (KeyCache.installed now ttl keys).staleAfter.nanos =
        min (now.nanos + ttl.nanos) latestNanos) ∧
    (∀ install, manager.lastInstall? = some install → manager.FreshFor ttl install) ∧
    (ttl.nanos = 0 → ∀ turn id,
      ((events ++ [KeyEvent.resolve turn id]).flatMap KeyEvent.readings).Pairwise (· ≤ ·) →
        (manager.resolve turn id).2.requests =
          ⟨manager.endpoint, turn.ended, true⟩ :: manager.requests) ∧
    ∀ (endpoint' : Endpoint) (longer : Span) (events' : List KeyEvent)
        (install install' : KeyRequest),
      let other := (new endpoint' longer).run events'
      ttl.nanos ≤ longer.nanos → manager.lastInstall? = some install →
        other.lastInstall? = some install' → install'.ended = install.ended →
          ∀ now, manager.isCached now = true → other.isCached now = true := by
  intro manager
  refine ⟨fun keys now => KeyCache.staleTime_nanos now ttl, ?_, ?_, ?_⟩
  · intro install last
    exact freshFor_of_holds (holds_of_lastInstall? last)
  · intro none turn id ordered
    exact resolve_requests_of_stale (stale_of_no_lifetime none ordered) id
  · intro endpoint' longer events' install install' other more last last' same now cached
    have later : install.ended ≤ install'.ended := by
      rw [same]
      exact Int.le_refl _
    exact (holds_of_lastInstall? last).isFresh_of_longer (holds_of_lastInstall? last') more later
      cached

/-- With the longest lifetime that can be set, a set is fresh until the calendar ends. -/
theorem freshness_exact_longest :
    let ttl := Span.ofSeconds 0xFFFFFFFFFFFFFFFF
    let manager := (new (.answers 200 (Text.Utf8.encode "\x7b\x7d")) ttl).run
      [.refresh (.ofSeconds 1750000000)]
    ∃ install, manager.lastInstall? = some install ∧
      manager.cache.staleAfter.nanos = latestNanos ∧
      ∀ now : Instant, now.nanos < latestNanos → manager.isCached now = true := by
  intro ttl manager
  have installed : manager.lastInstall?.isSome = true := by decide +kernel
  rcases Option.isSome_iff_exists.mp installed with ⟨install, last⟩
  have fresh := (freshness_exact _ ttl _).2.1 install last
  have beyond : latestNanos ≤ install.ended.nanos + ttl.nanos := by
    have long : latestNanos - earliestNanos ≤ ttl.nanos := by decide
    have start := install.ended.inCalendar.1
    omega
  refine ⟨install, last, ?_, ?_⟩
  · rw [fresh.staleAfter]
    exact Int.min_eq_right beyond
  · intro now within
    exact (fresh.isCached now within).mpr (Int.lt_of_lt_of_le within beyond)

end KeyManager

end BearerGate
