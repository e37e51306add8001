import ClientGen.Yaml.Scalar

/-!
How a text is written as a YAML scalar: plain where that reads back as the text, in single quotes
where it would not, in double quotes where a character needs an escape, and as a literal block where
it has several lines.
-/

set_option autoImplicit false

namespace ClientGen.Yaml

def isPrintable (char : Char) : Bool :=
  isAllowed char && !("\t\r\u0085\ufeff".toList.contains char)

/-- Whether a sign of the notation stands in a text: a colon at the end of a word, or a number sign
at the beginning of one. -/
def hasSign (previous : Option Char) : List Char → Bool
  | [] => false
  | char :: rest =>
      (char = ':' && endsWord rest.head?) || (char = '#' && endsWord previous) ||
        hasSign (some char) rest

/-- Whether a text begins like something else than a plain scalar. -/
def startsWithSign : List Char → Bool
  | [] => false
  | char :: rest =>
      ",[]\x7b\x7d#&*!|>'\"%@`".toList.contains char ||
        ((char = '?' || char = '-') && endsWord rest.head?) ||
        (char = '-' && rest.take 2 = ['-', '-']) || (char = '.' && rest.take 2 = ['.', '.'])

/-- Whether a character of one kind is followed by one of another kind. -/
def hasPair (first second : Char → Bool) : List Char → Bool
  | char :: next :: rest => (first char && second next) || hasPair first second (next :: rest)
  | _ => false

def mayBeLiteral (chars : List Char) : Bool :=
  chars.all isPrintable && !hasPair (· = ' ') isLineEnd chars && chars.getLast? ≠ some ' '

def mayBeQuoted (chars : List Char) : Bool :=
  chars.all isPrintable && !hasPair (· = ' ') isLineEnd chars && !hasPair isLineEnd (· = ' ') chars

def mayBePlain (chars : List Char) : Bool :=
  mayBeQuoted chars && !chars.any isLineEnd && chars.head? ≠ some ' ' &&
    chars.getLast? ≠ some ' ' && !startsWithSign chars && !hasSign none chars

/-- Whether a plain scalar would be read as something else, or has leading zeros. -/
def isAmbiguous (text : String) : Bool :=
  Scalar.ofPlain text ≠ .text text || isPaddedNumeral text.toList

def styleOf (text : String) : ScalarStyle :=
  let chars := text.toList
  if chars.contains '\n' then if mayBeLiteral chars then .literal else .doubleQuoted
  else if mayBePlain chars && !isAmbiguous text then .plain
  else if mayBeQuoted chars then .singleQuoted
  else .doubleQuoted

def margin (indent : Nat) : List Char := List.replicate indent ' '

/-- Characters where every line but the first begins at a column. Empty lines stay empty. -/
def indentLines (indent : Nat) (newLine : Bool) : List Char → List Char
  | [] => []
  | char :: rest =>
      if isLineEnd char then char :: indentLines indent true rest
      else (if newLine then margin indent else []) ++ char :: indentLines indent false rest

def singleQuoted (indent : Nat) (chars : List Char) : List Char :=
  let doubled := chars.flatMap fun char => if char = '\'' then ['\'', '\''] else [char]
  let closing := if chars.getLast?.any isLineEnd then margin indent else []
  '\'' :: indentLines indent false doubled ++ closing ++ ['\'']

def hexDigits (width value : Nat) : List Char :=
  let digits := (Nat.toDigits 16 value).map Char.toUpper
  List.replicate (width - digits.length) '0' ++ digits

def letterEscapes : List (Char × Char) :=
  [('\x00', '0'), ('\x07', 'a'), ('\x08', 'b'), ('\t', 't'), ('\n', 'n'), ('\x0b', 'v'),
    ('\x0c', 'f'), ('\r', 'r'), ('\x1b', 'e'), ('"', '"'), ('\\', '\\'), ('\u0085', 'N'),
    ('\u00a0', '_'), ('\u2028', 'L'), ('\u2029', 'P')]

def escaped (char : Char) : List Char :=
  if isPrintable char && !isLineEnd char && char ≠ '"' && char ≠ '\\' then [char]
  else
    match letterEscapes.lookup char with
    | some letter => ['\\', letter]
    | none =>
        let code := char.toNat
        if code ≤ 0xFF then '\\' :: 'x' :: hexDigits 2 code
        else if code ≤ 0xFFFF then '\\' :: 'u' :: hexDigits 4 code
        else '\\' :: 'U' :: hexDigits 8 code

def doubleQuoted (chars : List Char) : List Char := '"' :: chars.flatMap escaped ++ ['"']

/-- The indicators of a literal block: its indentation if the first line does not show it, and what
becomes of the line ends at the end. -/
def literalIndicators (chars : List Char) : List Char :=
  let width := if chars.head?.any fun char => char = ' ' || isLineEnd char then ['2'] else []
  let chomping :=
    match chars.reverse with
    | last :: before =>
        if !isLineEnd last then ['-']
        else if before.head?.all isLineEnd then ['+'] else []
    | [] => ['-']
  width ++ chomping

def literalBlock (indent : Nat) (chars : List Char) : List Char :=
  '|' :: literalIndicators chars ++ '\n' :: indentLines indent true chars

/-- A text as a scalar. Further lines begin at the column `indent`. -/
def scalarText (indent : Nat) (text : String) : String :=
  let chars := text.toList
  String.ofList <| match styleOf text with
    | .singleQuoted => singleQuoted indent chars
    | .doubleQuoted => doubleQuoted chars
    | .literal => literalBlock indent chars
    | _ => chars

end ClientGen.Yaml
