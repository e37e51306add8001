/-!
Percent-encoding: a percent sign and two hexadecimal digits stand for a byte of the UTF-8 form of a
text. A percent sign before anything else stands for itself.
-/

set_option autoImplicit false

namespace ClientGen.Text

def hexByte? (byte : UInt8) : Option UInt8 :=
  if 48 ≤ byte ∧ byte ≤ 57 then some (byte - 48)
  else if 97 ≤ byte ∧ byte ≤ 102 then some (byte - 87)
  else if 65 ≤ byte ∧ byte ≤ 70 then some (byte - 55)
  else none

def hexPair? (high low : UInt8) : Option UInt8 := do
  let first ← hexByte? high
  let second ← hexByte? low
  return 16 * first + second

def percentDecode : List UInt8 → List UInt8
  | [] => []
  | byte :: high :: low :: rest =>
      if byte = 37 then
        match hexPair? high low with
        | some decoded => decoded :: percentDecode rest
        | none => byte :: percentDecode (high :: low :: rest)
      else byte :: percentDecode (high :: low :: rest)
  | byte :: rest => byte :: percentDecode rest

def utf8Bytes (chars : List Char) : List UInt8 := chars.flatMap String.utf8EncodeChar

def utf8Chars? (bytes : List UInt8) : Option (List Char) :=
  (ByteArray.utf8Decode? (ByteArray.mk bytes.toArray)).map Array.toList

/-- The text that percent-encoded characters stand for, or the characters themselves if that is no
text. -/
def percentDecoded (chars : List Char) : List Char :=
  (utf8Chars? (percentDecode (utf8Bytes chars))).getD chars

end ClientGen.Text
