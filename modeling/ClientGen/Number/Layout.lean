import ClientGen.Number.Shortest

/-!
The text of a number. Digits are the shortest that read back; a style says which decimals are
written out in full and how an exponent is marked.
-/

set_option autoImplicit false

namespace ClientGen

/-- How a binary64 number is laid out. `lowest` and `highest` bound the positions of the decimal
point, counted from the first digit, for which the number is written without an exponent. -/
structure NumberStyle where
  lowest : Int
  highest : Int
  plus : Bool
  deriving DecidableEq, Repr

namespace NumberStyle

/-- JSON and everything made from it: positional from `0.00001` to below `10 ^ 16`, and a positive
exponent has a sign. -/
def json : NumberStyle := ⟨-4, 16, true⟩

def yaml : NumberStyle := ⟨-4, 16, false⟩

def message : NumberStyle := ⟨-400, 400, false⟩

end NumberStyle

namespace Double

private def zeros (count : Nat) : List Char := List.replicate count '0'

/-- The digits of a decimal with the point after `point` of them, and at least one digit on either
side of it. -/
def positional (digits : List Char) (point : Int) : List Char :=
  if point ≤ 0 then '0' :: '.' :: (zeros (-point).toNat ++ digits)
  else
    let whole := digits.take point.toNat ++ zeros (point.toNat - digits.length)
    let fraction := digits.drop point.toNat
    whole ++ '.' :: (if fraction.isEmpty then ['0'] else fraction)

/-- One digit, the point and the others if there are others, and the exponent. -/
def scientific (plus : Bool) (digits : List Char) (point : Int) : List Char :=
  let exponent := point - 1
  let sign := if exponent < 0 then ['-'] else if plus then ['+'] else []
  let fraction := digits.drop 1
  digits.take 1 ++ (if fraction.isEmpty then [] else '.' :: fraction) ++
    'e' :: (sign ++ Nat.toDigits 10 exponent.natAbs)

def text (style : NumberStyle) (number : Double) : String :=
  let decimal := number.shortest
  let digits := Nat.toDigits 10 decimal.digits
  let point : Int := if number.isZero then 1 else decimal.exponent + digits.length
  let body :=
    if style.lowest ≤ point ∧ point ≤ style.highest then positional digits point
    else scientific style.plus digits point
  String.ofList (if number.negative then '-' :: body else body)

end Double

/-- A number of a document. Integers are kept as such within the ranges of signed and unsigned
64-bit words; every other number is binary64. -/
inductive Number where
  | int (value : Int)
  | double (value : Double)
  deriving DecidableEq, Repr

namespace Number

/-- Decimal digits of an integer, after a minus sign if it is negative. -/
def intText (value : Int) : String :=
  let digits := Nat.toDigits 10 value.natAbs
  String.ofList (if value < 0 then '-' :: digits else digits)

/-- The text of a number; the style matters to binary64 numbers only. -/
def text (style : NumberStyle) : Number → String
  | .int value => intText value
  | .double value => value.text style

end Number

end ClientGen
