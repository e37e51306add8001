import ClientGen.Json.Numeral
import ClientGen.Yaml.Token.Scalar

/-!
What a plain scalar of a YAML document says: nothing, a truth value, a number or its own text.
-/

set_option autoImplicit false

namespace ClientGen.Yaml

/-- The value of a scalar. A number beyond all binary64 numbers has no digits to keep, and an
integer may be too wide for its readers. -/
inductive Scalar where
  | null
  | bool (value : Bool)
  | int (value : Int)
  | double (value : Double)
  | infinite
  | text (value : String)
  deriving DecidableEq, Repr

def isNullWord (text : String) : Bool := ["null", "Null", "NULL", "~"].contains text

def boolWord? (text : String) : Option Bool :=
  if ["true", "True", "TRUE"].contains text then some true
  else if ["false", "False", "FALSE"].contains text then some false
  else none

def afterSign (sign : Char) : List Char → Option (List Char)
  | [] => none
  | char :: rest => if char = sign then some rest else none

/-- Whether a text has several digits of which the first is zero, perhaps after a sign. -/
def isPaddedNumeral (chars : List Char) : Bool :=
  match ((afterSign '-' chars).orElse fun _ => afterSign '+' chars).getD chars with
  | '0' :: digit :: rest => (digit :: rest).all Char.isDigit
  | _ => false

def digitsValue? (base : Nat) (digits : List Char) : Option Nat :=
  if digits.isEmpty then none
  else
    digits.foldlM (fun value char =>
      ((hexValue? char).filter (· < base)).map (base * value + ·)) 0

def basedValue? : List Char → Option Nat
  | '0' :: 'x' :: digits => digitsValue? 16 digits
  | '0' :: 'o' :: digits => digitsValue? 8 digits
  | '0' :: 'b' :: digits => digitsValue? 2 digits
  | _ => none

/-- The integer that a text writes, of any size. A plus sign may stand before all digits, and a
minus sign before them or before the mark of a base. -/
def integer? (chars : List Char) : Option Int :=
  let decimal (digits : List Char) : Option Nat :=
    if isPaddedNumeral chars then none else digitsValue? 10 digits
  let magnitude (digits : List Char) : Option Nat :=
    (basedValue? digits).orElse fun _ => decimal digits
  match chars with
  | '-' :: digits => (magnitude digits).map fun value => -(value : Int)
  | '+' :: digits => (magnitude digits).map Int.ofNat
  | digits => (magnitude digits).map Int.ofNat

/-- Whether an integer has 128 bits or less. Wider ones are read as decimal numbers. -/
def isWideInteger (value : Int) : Bool := -Int.pow 2 127 ≤ value && value < Int.pow 2 128

def isExactInteger (value : Int) : Bool := -Int.pow 2 63 ≤ value && value < Int.pow 2 64

/-- The exponent after its letter, and the text after it; zero where there is no letter. -/
def decimalExponent? : List Char → Option Int
  | [] => some 0
  | letter :: rest =>
      if letter = 'e' ∨ letter = 'E' then
        match rest with
        | '-' :: digits => (digitsValue? 10 digits).map fun value => -(value : Int)
        | '+' :: digits => (digitsValue? 10 digits).map Int.ofNat
        | digits => (digitsValue? 10 digits).map Int.ofNat
      else none

/-- The number that digits with a point and an exponent write, where each of them may be missing. -/
def decimal? (negative : Bool) (chars : List Char) : Option Double :=
  let whole := chars.takeWhile Char.isDigit
  let afterWhole := chars.drop whole.length
  let fraction := match afterWhole with
    | '.' :: rest => rest.takeWhile Char.isDigit
    | _ => []
  let afterFraction := match afterWhole with
    | '.' :: rest => rest.drop fraction.length
    | rest => rest
  match digitsValue? 10 (whole ++ fraction), decimalExponent? afterFraction with
  | some digits, some exponent => Double.ofDecimal negative digits (exponent - fraction.length)
  | _, _ => none

/-- The number with a point or an exponent that a text writes, or a word for one that is not
finite. -/
def number? (text : String) : Option Scalar :=
  if [".inf", ".Inf", ".INF", "+.inf", "+.Inf", "+.INF", "-.inf", "-.Inf", "-.INF", ".nan", ".NaN",
      ".NAN"].contains text then some .infinite
  else
    match text.toList with
    | '-' :: digits => (decimal? true digits).map .double
    | '+' :: digits => (decimal? false digits).map .double
    | digits => (decimal? false digits).map .double

def Scalar.ofPlain (text : String) : Scalar :=
  if text.isEmpty || isNullWord text then .null
  else
    match boolWord? text with
    | some value => .bool value
    | none =>
        match (integer? text.toList).filter isWideInteger with
        | some value => .int value
        | none =>
            if isPaddedNumeral text.toList then .text text else (number? text).getD (.text text)

end ClientGen.Yaml
