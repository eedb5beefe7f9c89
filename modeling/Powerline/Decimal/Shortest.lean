import Powerline.Decimal.Binary

/-!
# Shortest decimals

Of the decimals that read back as a given float, the one with the fewest digits is written, and
of those the nearest to the float. All numbers that round to a float lie between the middles to
its two neighbours; the middles themselves belong to it if its significand is even.
-/

namespace Powerline

/-- The number `digits * 10 ^ exponent`. -/
structure Decimal where
  digits : Nat
  exponent : Int
  deriving DecidableEq, Repr

namespace Decimal

/-- Four times a number as a multiple of `2 ^ exponent`, with the ends of the interval of numbers
that round to it in the same unit. -/
structure Interval where
  lower : Nat
  value : Nat
  upper : Nat
  /-- The unit is `2 ^ (exponent - 2)`. -/
  exponent : Int
  closed : Bool
  deriving Repr

/-- The numbers that round to a float. Below a power of two the floats lie closer together. -/
def Interval.ofBinary (binary : Binary) : Interval where
  lower :=
    if binary.significand = Nat.pow 2 Binary.fractionBits && binary.exponent != -1074 then
      4 * binary.significand - 1
    else 4 * binary.significand - 2
  value := 4 * binary.significand
  upper := 4 * binary.significand + 2
  exponent := binary.exponent - 2
  closed := binary.significand % 2 = 0

/-- Both `count * 2 ^ binary` and `digits * 10 ^ decimal`, brought to a common unit in which they
are natural numbers. -/
def commonUnit (count : Nat) (binary : Int) (digits : Nat) (decimal : Int) : Nat × Nat :=
  (count * Nat.pow 2 binary.toNat * Nat.pow 10 (-decimal).toNat,
    digits * Nat.pow 10 decimal.toNat * Nat.pow 2 (-binary).toNat)

/-- The decimal lies in the interval. -/
def Interval.contains (interval : Interval) (decimal : Decimal) : Bool :=
  let below := commonUnit interval.lower interval.exponent decimal.digits decimal.exponent
  let above := commonUnit interval.upper interval.exponent decimal.digits decimal.exponent
  if interval.closed then below.1 ≤ below.2 && above.2 ≤ above.1
  else below.1 < below.2 && above.2 < above.1

/-- The largest multiple of `10 ^ exponent` that is not above the middle of the interval. -/
def Interval.floor (interval : Interval) (exponent : Int) : Nat :=
  let scaled := commonUnit interval.value interval.exponent 1 exponent
  scaled.1 / scaled.2

/-- Of two neighbours on a decimal grid the nearer one to the middle of the interval; of two
equally near the even one. -/
def Interval.nearer (interval : Interval) (lower : Nat) (exponent : Int) : Decimal :=
  let middle := commonUnit (2 * interval.value) interval.exponent (2 * lower + 1) exponent
  if middle.1 < middle.2 || (middle.1 = middle.2 && lower % 2 = 0) then ⟨lower, exponent⟩
  else ⟨lower + 1, exponent⟩

/-- The decimal in the interval with this exponent that is nearest to the middle. -/
def Interval.onGrid? (interval : Interval) (exponent : Int) : Option Decimal :=
  let lower := interval.floor exponent
  match interval.contains ⟨lower, exponent⟩, interval.contains ⟨lower + 1, exponent⟩ with
  | true, true => some (interval.nearer lower exponent)
  | true, false => some ⟨lower, exponent⟩
  | false, true => some ⟨lower + 1, exponent⟩
  | false, false => none

/-- The decimal exponents to try, the coarsest grid first. No float is above `10 ^ 309`, and
`10 ^ (-342)` tells all of them apart. -/
def gridExponents : List Int :=
  (List.range 652).map fun step : Nat => (309 : Int) - step

/-- The shortest decimal that reads back as a float. -/
def shortest (binary : Binary) : Decimal :=
  if binary.significand = 0 then ⟨0, 0⟩
  else (gridExponents.findSome? (Interval.ofBinary binary).onGrid?).getD ⟨0, 0⟩

end Decimal

end Powerline
