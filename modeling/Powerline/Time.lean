import Powerline.Flags

/-!
# Time

Spans of time and points in time are counted in nanoseconds, points from the start of a run.
-/

namespace Powerline

/-- A span of time in nanoseconds. -/
abbrev Duration := Nat

/-- A point in time: the nanoseconds since the start. -/
abbrev Instant := Nat

namespace Duration

/-- The nanoseconds of a second. -/
def perSecond : Nat := 1000000000

/-- The nanoseconds of a millisecond. -/
def perMillisecond : Nat := 1000000

/-- A span of whole milliseconds. -/
def ofMilliseconds (count : Nat) : Duration := count * perMillisecond

/-- A span of whole seconds. -/
def ofSeconds (count : Nat) : Duration := count * perSecond

/-- The whole milliseconds that cover a span. -/
def ceilMilliseconds (duration : Duration) : Nat :=
  (duration + (perMillisecond - 1)) / perMillisecond

end Duration

/-- The clock reaches no further than this. It shows fewer than `2 ^ 63` seconds, and showed an
hour already at the start. -/
def Instant.last : Instant := Duration.ofSeconds (Nat.pow 2 63 - 3600) - 1

/-- The point in time that lies a span behind another; none beyond the reach of the clock. -/
def Instant.after? (now : Instant) (span : Duration) : Option Instant :=
  if now + span ≤ Instant.last then some (now + span) else none

/-- How long a standard message occupies the line on one hop. -/
def standardHop : Duration := Duration.ofMilliseconds 50

/-- How long an extended message occupies the line on one hop. -/
def extendedHop : Duration := Duration.ofMilliseconds 108

/-- The longest time until a message with these hops left has reached its target and the
standard ack has come back. -/
def propagationDelay (hopsLeft : UInt8) (extended : Bool) : Duration :=
  ((if extended then extendedHop else standardHop) + standardHop) * (hopsLeft.toNat + 1)

end Powerline
