/-!
What can be wrong with the text of a JSON value, and where. Lines count from one; the column is the
number of bytes of the line before the place where reading stopped.
-/

set_option autoImplicit false

namespace ClientGen.Json

/-- The ways in which a text is not a JSON value. -/
inductive Fault where
  | endInValue
  | endInObject
  | endInList
  | endInString
  | expectedColon
  | expectedListEnd
  | expectedObjectEnd
  | expectedWord
  | expectedValue
  | invalidEscape
  | invalidNumber
  | numberTooLarge
  | keyNotString
  | loneSurrogate
  | unfinishedPair
  | controlCharacter
  | trailingComma
  | trailingCharacters
  | tooDeep
  deriving DecidableEq, Repr

def Fault.message : Fault → String
  | .endInValue => "EOF while parsing a value"
  | .endInObject => "EOF while parsing an object"
  | .endInList => "EOF while parsing a list"
  | .endInString => "EOF while parsing a string"
  | .expectedColon => "expected `:`"
  | .expectedListEnd => "expected `,` or `]`"
  | .expectedObjectEnd => "expected `,` or `\x7d`"
  | .expectedWord => "expected ident"
  | .expectedValue => "expected value"
  | .invalidEscape => "invalid escape"
  | .invalidNumber => "invalid number"
  | .numberTooLarge => "number out of range"
  | .keyNotString => "key must be a string"
  | .loneSurrogate => "lone leading surrogate in hex escape"
  | .unfinishedPair => "unexpected end of hex escape"
  | .controlCharacter => "control character (\\u0000-\\u001F) found while parsing a string"
  | .trailingComma => "trailing comma"
  | .trailingCharacters => "trailing characters"
  | .tooDeep => "recursion limit exceeded"

/-- A fault and its place in the text. -/
structure ReadError where
  fault : Fault
  line : Nat
  column : Nat
  deriving DecidableEq, Repr

def ReadError.message (error : ReadError) : String :=
  error.fault.message ++ " at line " ++ toString error.line ++ " column " ++ toString error.column

def placeAfter (bytes : List UInt8) : Nat × Nat :=
  bytes.foldl (fun place byte => if byte = 10 then (place.1 + 1, 0) else (place.1, place.2 + 1))
    (1, 0)

/-- A fault at the place that has `bytesLeft` bytes of the text behind it. -/
def ReadError.at (text : String) (fault : Fault) (bytesLeft : Nat) : ReadError :=
  let bytes := text.toUTF8.toList
  let place := placeAfter (bytes.take (bytes.length - bytesLeft))
  ⟨fault, place.1, place.2⟩

end ClientGen.Json
