/-!
# Binary fractions

A finite float that is not negative is a natural number times a power of two. Everything that
must be exact about floats is computed on that number.
-/

namespace Powerline.Decimal

/-- The number `significand * 2 ^ exponent`. -/
structure Binary where
  significand : Nat
  exponent : Int
  deriving DecidableEq, Repr

namespace Binary

/-- The bits of a float's fraction. -/
def fractionBits : Nat := 52

/-- The absolute value of a finite float. -/
def ofFloat? (value : Float) : Option Binary :=
  let bits : Nat := value.toBits.toNat % Nat.pow 2 63
  let fraction : Nat := bits % Nat.pow 2 fractionBits
  let scale : Nat := bits / Nat.pow 2 fractionBits
  if scale = 2047 then none
  else if scale = 0 then some ⟨fraction, -1074⟩
  else some ⟨fraction + Nat.pow 2 fractionBits, (scale : Int) - 1075⟩

/-- The number as a fraction: numerator and denominator. -/
def toFraction (binary : Binary) : Nat × Nat :=
  if binary.exponent < 0 then (binary.significand, Nat.pow 2 (-binary.exponent).toNat)
  else (binary.significand * Nat.pow 2 binary.exponent.toNat, 1)

end Binary

/-- The natural number nearest to a fraction; a half goes to the even neighbour. -/
def roundHalfEven (numerator denominator : Nat) : Nat :=
  let floor := numerator / denominator
  let twice := 2 * (numerator % denominator)
  if twice > denominator || (twice = denominator && floor % 2 = 1) then floor + 1 else floor

/-- Rounding moves a fraction by at most one half. -/
theorem roundHalfEven_near (numerator : Nat) {denominator : Nat} (positive : 0 < denominator) :
    2 * numerator ≤ 2 * (roundHalfEven numerator denominator * denominator) + denominator ∧
    2 * (roundHalfEven numerator denominator * denominator) ≤ 2 * numerator + denominator := by
  have split := Nat.div_add_mod numerator denominator
  have small := Nat.mod_lt numerator positive
  rw [Nat.mul_comm] at split
  unfold roundHalfEven
  simp only [gt_iff_lt, Bool.or_eq_true, decide_eq_true_eq, Bool.and_eq_true]
  split
  · rw [Nat.add_mul]
    omega
  · omega

end Powerline.Decimal
