import BearerGate.Number.Shortest

/-!
# Time

Points in time and lengths of time.

Both are counted in nanoseconds, so no calculation rounds. A point in time lies within the range
of the calendar; an addition that would leave it, or whose length is too long to be added at all,
has no result, and its users choose what stands in for one.
-/

namespace BearerGate

/-- Nanoseconds in a second. -/
def nanosPerSecond : Nat := 1000000000

/-- The first point in time of the calendar, in nanoseconds since the start of 1970. -/
def earliestNanos : Int := -8334601228800 * nanosPerSecond

/-- The last point in time of the calendar, in nanoseconds since the start of 1970. -/
def latestNanos : Int := 8210266876799 * nanosPerSecond + 999999999

/-- A point in time of the calendar, in nanoseconds since the start of 1970. -/
structure Instant where
  nanos : Int
  inCalendar : earliestNanos ≤ nanos ∧ nanos ≤ latestNanos
  deriving DecidableEq

/-- A length of time, in nanoseconds. -/
structure Span where
  nanos : Nat
  deriving DecidableEq

namespace Span

/-- A whole number of seconds. -/
def ofSeconds (n : Nat) : Span := ⟨n * nanosPerSecond⟩

/-- A whole number of milliseconds. -/
def ofMillis (n : Nat) : Span := ⟨n * 1000000⟩

/-- A whole number of microseconds. -/
def ofMicros (n : Nat) : Span := ⟨n * 1000⟩

/-- The whole seconds of a length of time. -/
def seconds (span : Span) : Nat := span.nanos / nanosPerSecond

/-- The longest length of time that can be added to a point in time. -/
def maxAddable : Span := ofMillis 0x7FFFFFFFFFFFFFFF

/-- The length as a double, in milliseconds: whole seconds and the rest are converted one by one.
-/
def milliseconds (span : Span) : Double :=
  let whole := Double.ofNat span.seconds
  let rest := (Double.ofNat (span.nanos % nanosPerSecond)).div (Double.ofNat nanosPerSecond)
  (whole.add rest).mul (Double.ofNat 1000)

/-- A number of units with a fraction of up to `places` digits, without zeros at its end. -/
def unitsText (whole fraction places : Nat) : String :=
  let digits := Nat.toDigits 10 fraction
  let padded := List.replicate (places - digits.length) '0' ++ digits
  let shown := (padded.reverse.dropWhile (· = '0')).reverse
  toString whole ++ (if shown.isEmpty then "" else "." ++ String.ofList shown)

/-- The length in the largest of seconds, milliseconds, microseconds and nanoseconds of which
there is at least one. -/
def text (span : Span) : String :=
  let n := span.nanos
  if n ≥ 1000000000 then unitsText (n / 1000000000) (n % 1000000000) 9 ++ "s"
  else if n ≥ 1000000 then unitsText (n / 1000000) (n % 1000000) 6 ++ "ms"
  else if n ≥ 1000 then unitsText (n / 1000) (n % 1000) 3 ++ "µs"
  else toString n ++ "ns"

end Span

namespace Instant

/-- Points in time are ordered as their nanoseconds are. -/
instance : LE Instant := ⟨fun t u => t.nanos ≤ u.nanos⟩

instance (t u : Instant) : Decidable (t ≤ u) :=
  inferInstanceAs (Decidable (t.nanos ≤ u.nanos))

/-- The point in time that is nearest to a number of nanoseconds. -/
def nearest (nanos : Int) : Instant where
  nanos := max earliestNanos (min latestNanos nanos)
  inCalendar := by
    have ordered : earliestNanos ≤ latestNanos := by decide
    omega

/-- The start of 1970. -/
def epoch : Instant := ⟨0, by decide⟩

/-- The last point in time of the calendar. -/
def latest : Instant := ⟨latestNanos, by decide⟩

/-- The point in time at a whole second, or the end of the calendar that the second lies beyond. -/
def ofSeconds (n : Int) : Instant := nearest (n * nanosPerSecond)

/-- The second in which a point in time lies. -/
def seconds (t : Instant) : Int := t.nanos.fdiv nanosPerSecond

/-- The point in time so many seconds later, or the end of the calendar that it lies beyond. -/
def advance (t : Instant) (seconds : Int) : Instant :=
  nearest (t.nanos + seconds * nanosPerSecond)

/-- The point in time after a length of time, unless the length is too long to be added or the
result lies behind the end of the calendar. -/
def add? (t : Instant) (span : Span) : Option Instant :=
  if span.nanos ≤ Span.maxAddable.nanos then
    if held : t.nanos + span.nanos ≤ latestNanos then
      some ⟨t.nanos + span.nanos, by have := t.inCalendar; omega⟩
    else none
  else none

/-- Whether a point in time comes before another. -/
def before (t u : Instant) : Bool := t.nanos < u.nanos

/-- The time from `t` until `u`, nothing if `u` comes first. -/
def elapsed (t u : Instant) : Span := ⟨(u.nanos - t.nanos).toNat⟩

end Instant

end BearerGate
