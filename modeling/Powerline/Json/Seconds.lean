import Powerline.Json.Float
import Powerline.Time

/-!
# Spans of time in JSON documents

A document gives a span of time in seconds, as a float. Reading rounds it to the nearest
nanosecond, a half to the even neighbour. Writing adds the whole seconds and the fraction as
floats.
-/

namespace Powerline.Duration

/-- A span of time has fewer whole seconds than this. -/
def secondsLimit : Nat := Nat.pow 2 64

/-- The span of a number of seconds; none if it is negative or too long. -/
def ofFloatSeconds? (seconds : Float) : Option Duration :=
  if seconds < 0 then none
  else do
    let binary ← Decimal.Binary.ofFloat? seconds
    let (numerator, denominator) := binary.toFraction
    if numerator ≥ secondsLimit * denominator then none
    else some (Decimal.roundHalfEven (numerator * perSecond) denominator)

/-- The number of seconds in a span. -/
def toFloatSeconds (duration : Duration) : Float :=
  (duration / perSecond).toUInt64.toFloat
    + (duration % perSecond).toUInt64.toFloat / perSecond.toUInt64.toFloat

/-- Reads a span of time. -/
def ofJson? (value : Json) : Option Duration :=
  value.asFloat? >>= ofFloatSeconds?

/-- Writes a span of time. -/
def toJson (duration : Duration) : Json :=
  .number (.ofFloat duration.toFloatSeconds)

end Powerline.Duration
