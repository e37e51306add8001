/-!
Places in a YAML text. A carriage return, a line feed, both together, a next-line character and the
two Unicode separators each end a line.
-/

set_option autoImplicit false

namespace ClientGen.Yaml

/-- What is left of a text and its length, how many characters were read, and in which line and
column it begins. -/
structure Cursor where
  chars : List Char
  left : Nat
  index : Nat := 0
  line : Nat := 0
  column : Nat := 0

def isLineEnd (char : Char) : Bool :=
  char == '\n' || char == '\r' || char == '\u0085' || char == '\u2028' || char == '\u2029'

def isGap (char : Char) : Bool := char == ' ' || char == '\t'

/-- Whether a word ends before a character or at the end of the text. -/
def endsWord : Option Char → Bool
  | none => true
  | some char => isGap char || isLineEnd char

/-- Whether a line ends before a character or at the end of the text. -/
def endsLine : Option Char → Bool
  | none => true
  | some char => isLineEnd char

def isWordChar (char : Char) : Bool := char.isAlphanum || char == '-' || char == '_'

def isAllowed (char : Char) : Bool :=
  let code := char.toNat
  code == 0x09 || code == 0x0A || code == 0x0D || (0x20 ≤ code && code ≤ 0x7E) || code == 0x85 ||
    (0xA0 ≤ code && code ≤ 0xD7FF) || (0xE000 ≤ code && code ≤ 0xFFFD) || 0x10000 ≤ code

namespace Cursor

def ofChars (chars : List Char) : Cursor := { chars, left := chars.length }

def next? (cursor : Cursor) : Option Char := cursor.chars.head?

def at? (cursor : Cursor) (offset : Nat) : Option Char := cursor.chars[offset]?

def skip (count : Nat) (cursor : Cursor) : Cursor :=
  { cursor with
    chars := cursor.chars.drop count
    left := cursor.left - count
    index := cursor.index + count
    column := cursor.column + count }

/-- The characters for which a test holds, and the place after them. -/
def span (test : Char → Bool) (cursor : Cursor) : List Char × Cursor :=
  let taken := cursor.chars.takeWhile test
  (taken, cursor.skip taken.length)

def skipWhile (test : Char → Bool) (cursor : Cursor) : Cursor := (cursor.span test).2

/-- Passes over the end of a line, and tells which character stands for it in a scalar. -/
def lineEnd? (cursor : Cursor) : Option (Char × Cursor) :=
  let after (chars : List Char) (length : Nat) : Cursor :=
    ⟨chars, cursor.left - length, cursor.index + length, cursor.line + 1, 0⟩
  match cursor.chars with
  | '\r' :: '\n' :: rest => some ('\n', after rest 2)
  | char :: rest =>
      if char = '\u2028' ∨ char = '\u2029' then some (char, after rest 1)
      else if isLineEnd char then some ('\n', after rest 1)
      else none
  | [] => none

def skipComment (cursor : Cursor) : Cursor :=
  if cursor.next? = some '#' then cursor.skipWhile fun char => !isLineEnd char else cursor

/-- Whether three equal characters stand at the beginning of a line, followed by the end of a
word. -/
def atMark (mark : Char) (cursor : Cursor) : Bool :=
  cursor.column = 0 && cursor.chars.take 3 = [mark, mark, mark] && endsWord (cursor.at? 3)

def atDocumentMark (cursor : Cursor) : Bool := cursor.atMark '-' || cursor.atMark '.'

end Cursor

end ClientGen.Yaml
