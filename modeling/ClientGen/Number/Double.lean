/-!
Finite binary64 numbers in exact arithmetic: a sign and a magnitude `significand · 2 ^ exponent`.
Every operation computes the exact rational result and rounds it once, to the nearest number and on
a tie to the even significand.
-/

set_option autoImplicit false

namespace ClientGen

/-- A finite binary64 number. Among the pairs that denote a magnitude the one in use has the largest
significand below `2 ^ 53` whose exponent is at least `-1074`. -/
structure Double where
  negative : Bool
  significand : Nat
  exponent : Int
  deriving DecidableEq, Repr

namespace Double

def zero (negative : Bool) : Double := ⟨negative, 0, -1074⟩

def isZero (number : Double) : Bool := number.significand == 0

def negate (number : Double) : Double := { number with negative := !number.negative }

def ratio (number : Double) : Nat × Nat :=
  (number.significand * Nat.pow 2 number.exponent.toNat, Nat.pow 2 (-number.exponent).toNat)

/-- The largest `power` with `2 ^ power ≤ numerator / denominator`, for a positive quotient. -/
def floorLog2 (numerator denominator : Nat) : Int :=
  let estimate : Int := (numerator.log2 : Int) - denominator.log2
  if numerator * Nat.pow 2 (-estimate).toNat < denominator * Nat.pow 2 estimate.toNat then estimate - 1
  else estimate

/-- The quotient rounded to the nearest integer, a tie to the even one. -/
def roundQuotient (numerator denominator : Nat) : Nat :=
  let quotient := numerator / denominator
  let twice := 2 * (numerator % denominator)
  if twice < denominator then quotient
  else if denominator < twice then quotient + 1
  else quotient + quotient % 2

/-- The number nearest to `numerator / denominator`; none if the quotient is too large. -/
def ofRatio (negative : Bool) (numerator denominator : Nat) : Option Double :=
  if numerator = 0 then some (zero negative)
  else
    let exponent := max (-1074) (floorLog2 numerator denominator - 52)
    let rounded :=
      roundQuotient (numerator * Nat.pow 2 (-exponent).toNat)
        (denominator * Nat.pow 2 exponent.toNat)
    let number : Double :=
      if rounded < Nat.pow 2 53 then ⟨negative, rounded, exponent⟩
      else ⟨negative, Nat.pow 2 52, exponent + 1⟩
    if 971 < number.exponent then none else some number

/-- The number nearest to a natural number; none if it is too large. -/
def ofNat (value : Nat) : Option Double := ofRatio false value 1

def mul (left right : Double) : Option Double :=
  ofRatio (left.negative != right.negative)
    (left.ratio.1 * right.ratio.1) (left.ratio.2 * right.ratio.2)

/-- The rounded quotient; none on overflow or for the divisor zero. -/
def div (left right : Double) : Option Double :=
  if right.isZero then none
  else
    ofRatio (left.negative != right.negative)
      (left.ratio.1 * right.ratio.2) (left.ratio.2 * right.ratio.1)

/-- The number nearest to `digits · 10 ^ exponent`; none if it is too large. Exponents beyond every
binary64 number are cut off before any power is computed. -/
def ofDecimal (negative : Bool) (digits : Nat) (exponent : Int) : Option Double :=
  if digits = 0 then some (zero negative)
  else
    let length : Int := (Nat.toDigits 10 digits).length
    if exponent + length < -400 then some (zero negative)
    else if 400 < exponent + length then none
    else ofRatio negative (digits * Nat.pow 10 exponent.toNat) (Nat.pow 10 (-exponent).toNat)

end Double

end ClientGen
