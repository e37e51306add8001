import ClientGen.Json.Fault
import ClientGen.Number.Layout

/-!
Numerals of JSON. Integers within 64 bits are exact. The others become binary64 in two rounded
steps: the leading digits that fit an unsigned 64-bit word are rounded, and the result is multiplied
or divided by a rounded power of ten.
-/

set_option autoImplicit false

namespace ClientGen.Json

abbrev Failure := Fault × Nat

abbrev Read (Value : Type) := Except Failure (Value × List Char)

def byteSize (chars : List Char) : Nat := chars.foldl (fun size char => size + char.utf8Size) 0

def failAt {Value : Type} (fault : Fault) (left : List Char) : Except Failure Value :=
  .error (fault, byteSize left)

def failOn {Value : Type} (fault : Fault) (left : List Char) : Except Failure Value :=
  .error (fault, byteSize left - 1)

def digit? (char : Char) : Option Nat :=
  if char.isDigit then some (char.toNat - '0'.toNat) else none

def maxSignificand : Nat := Nat.pow 2 64 - 1

def powerOfTen (exponent : Nat) : Option Double :=
  if exponent ≤ 308 then Double.ofNat (Nat.pow 10 exponent) else none

/-- Divides by a power of ten, by `10 ^ 308` at a time while more than that is left. -/
def scaleDown (number : Double) (exponent : Nat) : Double :=
  if number.isZero then number
  else if exponent ≤ 308 then
    ((powerOfTen exponent).bind number.div).getD number
  else
    scaleDown (((powerOfTen 308).bind number.div).getD number) (exponent - 308)
termination_by exponent

/-- The binary64 number for a significand and a power of ten; none if it is too large. -/
def scale (negative : Bool) (significand : Nat) (exponent : Int) : Option Double :=
  match Double.ofNat significand with
  | none => none
  | some number =>
      let scaled :=
        if exponent < 0 then some (scaleDown number exponent.natAbs)
        else if number.isZero then some number
        else (powerOfTen exponent.natAbs).bind number.mul
      scaled.map fun result => if negative then result.negate else result

/-- The number for a significand and a power of ten, read up to `left`. -/
def finish (negative : Bool) (significand : Nat) (exponent : Int) (left : List Char) :
    Read Number :=
  match scale negative significand exponent with
  | some number => .ok (.double number, left)
  | none => failAt .numberTooLarge left

/-- The digits of an exponent after the first. An exponent beyond 31 bits gives zero if it is
negative or the significand is zero. -/
def exponentDigits (negative : Bool) (significand : Nat) (start : Int) (minus : Bool)
    (value : Nat) : List Char → Read Number
  | [] => finish negative significand (if minus then start - value else start + value) []
  | char :: rest =>
      match digit? char with
      | none =>
          finish negative significand (if minus then start - value else start + value)
            (char :: rest)
      | some digit =>
          if Nat.pow 2 31 - 1 < value * 10 + digit then
            if significand ≠ 0 ∧ minus = false then failAt .numberTooLarge rest
            else .ok (.double (.zero negative), rest.dropWhile Char.isDigit)
          else exponentDigits negative significand start minus (value * 10 + digit) rest

def exponentPart (negative : Bool) (significand : Nat) (start : Int) (chars : List Char) :
    Read Number :=
  let (minus, afterSign) :=
    match chars with
    | '+' :: rest => (false, rest)
    | '-' :: rest => (true, rest)
    | _ => (false, chars)
  match afterSign with
  | [] => failAt .endInValue []
  | char :: rest =>
      match digit? char with
      | none => failAt .invalidNumber rest
      | some digit => exponentDigits negative significand start minus digit rest

/-- What may follow the digits of a numeral that is no integer: an exponent or nothing. -/
def afterDigits (negative : Bool) (significand : Nat) (exponent : Int) (chars : List Char) :
    Read Number :=
  match chars with
  | 'e' :: rest => exponentPart negative significand exponent rest
  | 'E' :: rest => exponentPart negative significand exponent rest
  | _ => finish negative significand exponent chars

/-- The digits after the point. Those that would overflow the significand are dropped. -/
def fractionDigits (negative : Bool) (exponent : Int) (significand count : Nat) :
    List Char → Read Number
  | [] =>
      if count = 0 then failOn .endInValue []
      else afterDigits negative significand (exponent - count) []
  | char :: rest =>
      match digit? char with
      | some digit =>
          if maxSignificand < significand * 10 + digit then
            afterDigits negative significand (exponent - count) (rest.dropWhile Char.isDigit)
          else fractionDigits negative exponent (significand * 10 + digit) (count + 1) rest
      | none =>
          if count = 0 then failOn .invalidNumber (char :: rest)
          else afterDigits negative significand (exponent - count) (char :: rest)

/-- The digits before the point that no longer fit the significand: each counts as a factor ten. -/
def longDigits (negative : Bool) (significand : Nat) (exponent : Nat) : List Char → Read Number
  | [] => finish negative significand exponent []
  | char :: rest =>
      if char.isDigit then longDigits negative significand (exponent + 1) rest
      else if char = '.' then fractionDigits negative exponent significand 0 rest
      else afterDigits negative significand exponent (char :: rest)

/-- An integer that ends here: exact, or binary64 if it is minus zero or below all 64-bit words. -/
def integer (negative : Bool) (significand : Nat) (left : List Char) : Read Number :=
  if !negative then .ok (.int significand, left)
  else if significand = 0 ∨ Nat.pow 2 63 < significand then
    .ok (.double (((Double.ofNat significand).getD (.zero false)).negate), left)
  else .ok (.int (-significand), left)

def integerDigits (negative : Bool) (significand : Nat) : List Char → Read Number
  | [] => integer negative significand []
  | char :: rest =>
      match digit? char with
      | some digit =>
          if maxSignificand < significand * 10 + digit then
            longDigits negative significand 0 (char :: rest)
          else integerDigits negative (significand * 10 + digit) rest
      | none =>
          if char = '.' then fractionDigits negative 0 significand 0 rest
          else if char = 'e' ∨ char = 'E' then exponentPart negative significand 0 rest
          else integer negative significand (char :: rest)

def numeral (negative : Bool) : List Char → Read Number
  | [] => failAt .endInValue []
  | '0' :: rest =>
      match rest with
      | next :: _ =>
          if next.isDigit then failOn .invalidNumber rest else integerDigits negative 0 rest
      | [] => integerDigits negative 0 rest
  | char :: rest =>
      match digit? char with
      | some digit => integerDigits negative digit rest
      | none => failAt .invalidNumber rest

end ClientGen.Json
