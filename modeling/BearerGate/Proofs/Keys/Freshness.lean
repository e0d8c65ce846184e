import BearerGate.Keys.Cache

/-!
# When a cached set is fresh

The time of freshness in exact numbers: it ends one lifetime after the set was put in, or with the
calendar if that comes first. No lifetime wraps around, also none that is too long to be added to
a point in time: the calendar is shorter than the longest length that can be added, so such a
lifetime reaches beyond its end from everywhere.
-/

namespace BearerGate

/-- Every point in time is less than the longest addable length before the end of the calendar. -/
theorem Instant.latestNanos_le_add_maxAddable (t : Instant) :
    latestNanos ≤ t.nanos + Span.maxAddable.nanos := by
  have room : latestNanos ≤ earliestNanos + Span.maxAddable.nanos := by decide
  have := t.inCalendar
  omega

namespace KeyCache

/-- A set that is put in at `now` is stale one lifetime later, at the latest when the calendar
ends. -/
theorem staleTime_nanos (now : Instant) (ttl : Span) :
    (staleTime now ttl).nanos = min (now.nanos + ttl.nanos) latestNanos := by
  unfold staleTime Instant.add?
  split
  · split
    · next held =>
      rw [Int.min_eq_left held]
      rfl
    · next beyond =>
      rw [Int.min_eq_right (by omega)]
      rfl
  · next long =>
    have reach := now.latestNanos_le_add_maxAddable
    rw [Int.min_eq_right (by omega)]
    rfl

theorem fresh?_eq_some_iff {cache : KeyCache} {now : Instant} {keys : KeySet} :
    cache.fresh? now = some keys ↔
      now.nanos < cache.staleAfter.nanos ∧ cache.keys = some keys := by
  unfold fresh? Instant.before
  by_cases early : now.nanos < cache.staleAfter.nanos
  · simp [early]
  · simp [early]

/-- Nothing is cached, or what is cached may not be used any more. -/
def Stale (cache : KeyCache) (now : Instant) : Prop :=
  cache.keys = none ∨ cache.staleAfter ≤ now

theorem fresh?_eq_none_iff {cache : KeyCache} {now : Instant} :
    cache.fresh? now = none ↔ cache.Stale now := by
  have order : cache.staleAfter ≤ now ↔ ¬ now.nanos < cache.staleAfter.nanos := Int.not_lt.symm
  unfold fresh? Instant.before Stale
  rw [order]
  by_cases early : now.nanos < cache.staleAfter.nanos
  · simp [early]
  · simp [early]

end KeyCache

end BearerGate
