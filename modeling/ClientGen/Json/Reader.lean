import ClientGen.Json
import ClientGen.Json.Numeral

/-!
The JSON value of a text. Objects keep the order of their members; of two members with one key the
later value stands in the earlier place. Values nest less than 128 deep.
-/

set_option autoImplicit false

namespace ClientGen.Json

def isSpace (char : Char) : Bool := char == ' ' || char == '\n' || char == '\t' || char == '\r'

def skipSpace (chars : List Char) : List Char := chars.dropWhile isSpace

def word (value : Json) : List Char → List Char → Except Failure (Json × List Char)
  | [], left => .ok (value, left)
  | _ :: _, [] => failAt .endInValue []
  | expected :: more, char :: rest =>
      if char = expected then word value more rest else failAt .expectedWord rest

def hexValue? (char : Char) : Option Nat :=
  if char.isDigit then some (char.toNat - '0'.toNat)
  else if 'a' ≤ char ∧ char ≤ 'f' then some (char.toNat - 'a'.toNat + 10)
  else if 'A' ≤ char ∧ char ≤ 'F' then some (char.toNat - 'A'.toNat + 10)
  else none

def hexWord? (chars : List Char) : Option Nat :=
  chars.foldlM (fun value char => (hexValue? char).map (16 * value + ·)) 0

/-- The four hexadecimal digits of an escape, which are looked for in the next four bytes. -/
def hexEscape (chars : List Char) : Except Failure (Nat × List Char) :=
  match chars with
  | first :: second :: third :: fourth :: rest =>
      match hexWord? [first, second, third, fourth] with
      | some value => .ok (value, rest)
      | none => .error (.invalidEscape, byteSize chars - 4)
  | _ => if byteSize chars < 4 then .error (.endInString, 0)
    else .error (.invalidEscape, byteSize chars - 4)

/-- An escape by code point, after the `u`. Code points beyond the first plane come as two
surrogates. -/
def unicodeEscape (chars : List Char) : Except Failure (Char × List Char) := do
  let (high, afterHigh) ← hexEscape chars
  if 0xDC00 ≤ high ∧ high ≤ 0xDFFF then failAt .loneSurrogate afterHigh
  else if high < 0xD800 ∨ 0xDBFF < high then .ok (Char.ofNat high, afterHigh)
  else
    match afterHigh with
    | '\\' :: 'u' :: rest => do
        let (low, afterLow) ← hexEscape rest
        if low < 0xDC00 ∨ 0xDFFF < low then failAt .loneSurrogate afterLow
        else .ok (Char.ofNat (0x10000 + (high - 0xD800) * 0x400 + (low - 0xDC00)), afterLow)
    | '\\' :: rest =>
        match rest with
        | [] => failAt .endInString []
        | _ :: _ => failOn .unfinishedPair rest
    | [] => failAt .endInString []
    | _ :: _ => failOn .unfinishedPair afterHigh

def escape : List Char → Except Failure (Char × List Char)
  | [] => failAt .endInString []
  | '"' :: rest => .ok ('"', rest)
  | '\\' :: rest => .ok ('\\', rest)
  | '/' :: rest => .ok ('/', rest)
  | 'b' :: rest => .ok ('\x08', rest)
  | 'f' :: rest => .ok ('\x0c', rest)
  | 'n' :: rest => .ok ('\n', rest)
  | 'r' :: rest => .ok ('\r', rest)
  | 't' :: rest => .ok ('\t', rest)
  | 'u' :: rest => unicodeEscape rest
  | _ :: rest => failAt .invalidEscape rest

/-- The text of a string literal, after its opening quote. `done` is what was read, last character
first; `fuel` bounds the number of steps. -/
def stringBody : Nat → List Char → List Char → Except Failure (String × List Char)
  | 0, _, _ => failAt .endInString []
  | _ + 1, _, [] => failAt .endInString []
  | fuel + 1, done, char :: rest =>
      if char = '"' then .ok (String.ofList done.reverse, rest)
      else if char = '\\' then do
        let (escaped, left) ← escape rest
        stringBody fuel (escaped :: done) left
      else if char.toNat < 0x20 then failAt .controlCharacter rest
      else stringBody fuel (char :: done) rest

def stringLiteral (fuel : Nat) (chars : List Char) : Except Failure (String × List Char) :=
  stringBody fuel [] chars

mutual

/-- A value. `fuel` bounds the number of steps: every step reads a character, so twice the length of
the text is enough. `depth` is one more than the number of arrays and objects that may still be
opened. -/
def value : Nat → Nat → List Char → Except Failure (Json × List Char)
  | 0, _, chars => failOn .expectedValue chars
  | fuel + 1, depth, chars =>
      match skipSpace chars with
      | [] => failOn .endInValue []
      | 'n' :: rest => word .null ['u', 'l', 'l'] rest
      | 't' :: rest => word (.bool true) ['r', 'u', 'e'] rest
      | 'f' :: rest => word (.bool false) ['a', 'l', 's', 'e'] rest
      | '-' :: rest => do
          let (number, left) ← numeral true rest
          .ok (.num number, left)
      | '"' :: rest => do
          let (text, left) ← stringLiteral fuel rest
          .ok (.str text, left)
      | '[' :: rest =>
          if depth ≤ 1 then failOn .tooDeep ('[' :: rest)
          else
            match skipSpace rest with
            | [] => failOn .endInList []
            | ']' :: left => .ok (.arr [], left)
            | next => do
                let (item, left) ← value fuel (depth - 1) next
                items fuel (depth - 1) [item] left
      | '\x7b' :: rest =>
          if depth ≤ 1 then failOn .tooDeep ('\x7b' :: rest)
          else
            match skipSpace rest with
            | [] => failOn .endInObject []
            | '\x7d' :: left => .ok (.obj [], left)
            | '"' :: next => member fuel (depth - 1) [] next
            | other => failOn .keyNotString other
      | char :: rest =>
          if char.isDigit then do
            let (number, left) ← numeral false (char :: rest)
            .ok (.num number, left)
          else failOn .expectedValue (char :: rest)

/-- What follows an item of an array. `done` holds the items so far, the last first. -/
def items : Nat → Nat → List Json → List Char → Except Failure (Json × List Char)
  | 0, _, _, chars => failOn .expectedListEnd chars
  | fuel + 1, depth, done, chars =>
      match skipSpace chars with
      | [] => failOn .endInList []
      | ']' :: left => .ok (.arr done.reverse, left)
      | ',' :: rest =>
          match skipSpace rest with
          | [] => failOn .endInValue []
          | ']' :: left => failOn .trailingComma (']' :: left)
          | next => do
              let (item, left) ← value fuel depth next
              items fuel depth (item :: done) left
      | other => failOn .expectedListEnd other

def member : Nat → Nat → Entries Json → List Char → Except Failure (Json × List Char)
  | 0, _, _, chars => failOn .keyNotString chars
  | fuel + 1, depth, done, chars => do
      let (key, afterKey) ← stringLiteral fuel chars
      match skipSpace afterKey with
      | [] => failOn .endInObject []
      | ':' :: rest => do
          let (item, left) ← value fuel depth rest
          members fuel depth (done.insert key item) left
      | other => failOn .expectedColon other

def members : Nat → Nat → Entries Json → List Char → Except Failure (Json × List Char)
  | 0, _, _, chars => failOn .expectedObjectEnd chars
  | fuel + 1, depth, done, chars =>
      match skipSpace chars with
      | [] => failOn .endInObject []
      | '\x7d' :: left => .ok (.obj done, left)
      | ',' :: rest =>
          match skipSpace rest with
          | [] => failOn .endInValue []
          | '"' :: next => member fuel depth done next
          | '\x7d' :: left => failOn .trailingComma ('\x7d' :: left)
          | other => failOn .keyNotString other
      | other => failOn .expectedObjectEnd other

end

def document (chars : List Char) : Except Failure Json := do
  let (result, left) ← value (2 * chars.length + 2) 128 chars
  match skipSpace left with
  | [] => .ok result
  | other => failOn .trailingCharacters other

def parse (text : String) : Except ReadError Json :=
  match document text.toList with
  | .ok result => .ok result
  | .error (fault, bytesLeft) => .error (.at text fault bytesLeft)

end ClientGen.Json
