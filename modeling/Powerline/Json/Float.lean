import Powerline.Decimal.Shortest
import Powerline.Json

/-!
# Floats in JSON documents

Reading takes the leading digits of a number as long as they fit 64 bits, rounds them to a float
and scales that by a power of ten. The result may differ from the nearest float in its last place.

Writing uses the shortest decimal that reads back. From `1e-5` up to, but not including, `1e16` it
is written without exponent and always with a fraction.
-/

namespace Powerline

namespace JsonNumber

/-- The largest significand that reading keeps. -/
def significandLimit : Nat := Nat.pow 2 64 - 1

/-- A significand and the power of ten to scale it by. -/
structure Scaled where
  significand : Nat
  exponent : Int

/-- Takes in the digits of the whole part. The first digit that does not fit, and all behind it,
count only as powers of ten. -/
def takeWhole (significand : Nat) : List Char → Scaled
  | [] => ⟨significand, 0⟩
  | digit :: rest =>
      let next := significand * 10 + (digit.toNat - '0'.toNat)
      if next > significandLimit then ⟨significand, rest.length + 1⟩ else takeWhole next rest

/-- Takes in the digits of the fraction. The first digit that does not fit, and all behind it, are
dropped. -/
def takeFraction (scaled : Scaled) : List Char → Scaled
  | [] => scaled
  | digit :: rest =>
      let next := scaled.significand * 10 + (digit.toNat - '0'.toNat)
      if next > significandLimit then scaled
      else takeFraction ⟨next, scaled.exponent - 1⟩ rest

/-- A power of ten. -/
def powerOfTen (exponent : Nat) : Float := Float.ofScientific 1 false exponent

/-- The largest power of ten that is a float. -/
def largestPower : Nat := 308

/-- Divides by a power of ten, in steps that are floats. -/
def divideByPower (value : Float) (exponent : Nat) : Float :=
  if _small : exponent ≤ largestPower then value / powerOfTen exponent
  else if value == 0 then value
  else divideByPower (value / powerOfTen largestPower) (exponent - largestPower)
termination_by exponent
decreasing_by
  simp only [largestPower] at _small ⊢
  omega

/-- Scales a significand; none if the result is too large for a float. -/
def Scaled.toFloat? (scaled : Scaled) : Option Float :=
  let value := scaled.significand.toUInt64.toFloat
  if scaled.exponent < 0 then some (divideByPower value (-scaled.exponent).toNat)
  else if scaled.exponent.toNat > largestPower then
    if value == 0 then some value else none
  else
    let product := value * powerOfTen scaled.exponent.toNat
    if product.isInf then none else some product

/-- Exponents beyond this make a number zero or too large, whatever its digits. -/
def exponentLimit : Nat := Nat.pow 2 31 - 1

/-- The absolute value of a number as a float. -/
def magnitude? (number : JsonNumber) : Option Float :=
  let scaled := takeFraction (takeWhole 0 number.whole) (number.fraction.getD [])
  match number.exponent with
  | none => scaled.toFloat?
  | some (negative, digits) =>
      let exponent := digitsValue digits
      if exponent > exponentLimit then
        if negative || scaled.significand = 0 then some 0 else none
      else
        let shift : Int := if negative then -exponent else exponent
        Scaled.toFloat? { scaled with exponent := scaled.exponent + shift }

/-- The number as a float; none if it is too large. -/
def toFloat? (number : JsonNumber) : Option Float :=
  number.magnitude?.map fun value => if number.negative then -value else value

/-- Fills a string of digits up with zeros on its left. -/
def padLeft (length : Nat) (digits : List Char) : List Char :=
  List.replicate (length - digits.length) '0' ++ digits

/-- The number that stands for a decimal: without exponent if the first digit lies less than 16
places before the point and at most 5 places behind it. -/
def ofDecimal (decimal : Decimal) : JsonNumber :=
  let digits := Nat.toDigits 10 decimal.digits
  let leading : Int := decimal.exponent + digits.length - 1
  if -5 ≤ leading && leading < 16 then
    if 0 ≤ decimal.exponent then
      { whole := digits ++ List.replicate decimal.exponent.toNat '0', fraction := some ['0'] }
    else
      let places := (-decimal.exponent).toNat
      let padded := padLeft (places + 1) digits
      { whole := padded.take (padded.length - places)
        fraction := some (padded.drop (padded.length - places)) }
  else
    { whole := digits.take 1
      fraction := if digits.length = 1 then none else some (digits.drop 1)
      exponent := some (leading < 0, Nat.toDigits 10 leading.natAbs) }

/-- The number that stands for a float that is not negative. -/
def ofFloat (value : Float) : JsonNumber :=
  match Decimal.Binary.ofFloat? value with
  | some binary => ofDecimal (Decimal.shortest binary)
  | none => ofNat 0

end JsonNumber

/-- The float that a number of a document stands for. -/
def Json.asFloat? : Json → Option Float
  | .number value => value.toFloat?
  | _ => none

end Powerline
