import BearerGate.Keys.KeySet
import BearerGate.Time

/-!
# The key cache

The cached key set and the time until which it counts as fresh.

Only a completed fetch changes the cache, and it replaces the set and the time together. A time of
freshness that the calendar cannot hold becomes the last point in time, so that a very long
lifetime never makes a set stale at once.
-/

namespace BearerGate

/-- The cached key set, if there is one, and the point in time from which on it is stale. -/
structure KeyCache where
  keys : Option KeySet
  staleAfter : Instant

namespace KeyCache

/-- The cache before the first completed fetch. -/
def empty : KeyCache := ⟨none, .epoch⟩

instance : Inhabited KeyCache := ⟨empty⟩

/-- The point in time from which on a set is stale that was put in at `now`. -/
def staleTime (now : Instant) (ttl : Span) : Instant :=
  (now.add? ttl).getD .latest

/-- The cache after a set was fetched at `now`. -/
def installed (now : Instant) (ttl : Span) (keys : KeySet) : KeyCache :=
  ⟨some keys, staleTime now ttl⟩

/-- The set that may be used at `now` without a fetch. -/
def fresh? (cache : KeyCache) (now : Instant) : Option KeySet :=
  if now.before cache.staleAfter then cache.keys else none

/-- Whether a set is cached that may be used at `now`. -/
def isFresh (cache : KeyCache) (now : Instant) : Bool :=
  (cache.fresh? now).isSome

end KeyCache

end BearerGate
