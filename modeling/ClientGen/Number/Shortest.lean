import ClientGen.Number.Double

/-!
The shortest decimal that reads back as a given binary64 number. A decimal with `n` digits reads
back iff it lies in the interval of rationals that round to the number; if any does, one of the two
`n`-digit neighbours of the number does.
-/

set_option autoImplicit false

namespace ClientGen

/-- The decimal `digits · 10 ^ exponent`. -/
structure Decimal where
  digits : Nat
  exponent : Int
  deriving DecidableEq, Repr

namespace Decimal

/-- The same decimal without trailing zeros among its digits; `fuel` bounds how many go. -/
def strip : Nat → Decimal → Decimal
  | 0, decimal => decimal
  | fuel + 1, decimal =>
      if decimal.digits % 10 = 0 then strip fuel ⟨decimal.digits / 10, decimal.exponent + 1⟩
      else decimal

end Decimal

namespace Double

/-- The number of digits before the decimal point of `numerator / denominator`: the least `point`
with `numerator / denominator < 10 ^ point`, counted down from `point` by at most `fuel` steps. -/
def pointBelow (numerator denominator : Nat) : Nat → Int → Int
  | 0, point => point
  | fuel + 1, point =>
      let lower := point - 1
      if numerator * Nat.pow 10 (-lower).toNat < denominator * Nat.pow 10 lower.toNat then
        pointBelow numerator denominator fuel lower
      else point

/-- The position of the decimal point of a positive magnitude. The binary logarithm gives a first
bound that is at most a few places too high. -/
def decimalPoint (numerator denominator : Nat) : Int :=
  let start := (floorLog2 numerator denominator + 1) * 30103 / 100000 + 2
  pointBelow numerator denominator 8 start

/-- The decimal with `count` digits that rounds to the number, if there is one; of two the nearer,
of two equally near the even one. `point` is the position of the decimal point. -/
def withDigits (number : Double) (point : Int) (count : Nat) : Option Decimal :=
  let place := point - count
  let middle := 4 * number.significand
  let low := middle - (if number.significand = Nat.pow 2 52 ∧ -1074 < number.exponent then 1 else 2)
  let high := middle + 2
  let binary := number.exponent - 2
  let scale := Nat.pow 2 binary.toNat * Nat.pow 10 (-place).toNat
  let unit := Nat.pow 2 (-binary).toNat * Nat.pow 10 place.toNat
  let inside (candidate : Nat) : Bool :=
    if number.significand % 2 = 0 then
      low * scale ≤ candidate * unit && candidate * unit ≤ high * scale
    else low * scale < candidate * unit && candidate * unit < high * scale
  let below := middle * scale / unit
  let above := below + 1
  let nearer :=
    let down := middle * scale - below * unit
    let up := above * unit - middle * scale
    if down < up then below else if up < down then above
    else if below % 2 = 0 then below else above
  match inside below, inside above with
  | true, true => some ⟨nearer, place⟩
  | true, false => some ⟨below, place⟩
  | false, true => some ⟨above, place⟩
  | false, false => none

/-- The shortest decimal that reads back as the magnitude of the number, and among the shortest the
nearest to it. Seventeen digits always suffice. -/
def shortest (number : Double) : Decimal :=
  if number.isZero then ⟨0, 0⟩
  else
    let point := decimalPoint number.ratio.1 number.ratio.2
    let found := ((List.range 17).findSome? fun count => withDigits number point (count + 1))
    (found.getD ⟨0, 0⟩).strip 20

end Double

end ClientGen
