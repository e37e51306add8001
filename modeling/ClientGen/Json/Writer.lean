import ClientGen.Json

/-!
The text of a JSON value: compact, and indented by two spaces a level.
-/

set_option autoImplicit false

namespace ClientGen.Json

def hexDigit (value : Nat) : Char := (Nat.digitChar value)

/-- A character inside a string literal. Quote, backslash and the controls below the space are
escaped, nothing else. -/
def escapeChar (char : Char) : List Char :=
  match char with
  | '"' => ['\\', '"']
  | '\\' => ['\\', '\\']
  | '\n' => ['\\', 'n']
  | '\r' => ['\\', 'r']
  | '\t' => ['\\', 't']
  | '\x08' => ['\\', 'b']
  | '\x0c' => ['\\', 'f']
  | _ =>
      if char.toNat < 0x20 then
        ['\\', 'u', '0', '0', hexDigit (char.toNat / 16), hexDigit (char.toNat % 16)]
      else [char]

def quote (text : String) : String :=
  String.ofList ('"' :: (text.toList.flatMap escapeChar ++ ['"']))

def boolText (value : Bool) : String := if value then "true" else "false"

mutual

def compact : Json → String
  | .null => "null"
  | .bool value => boolText value
  | .num value => value.text .json
  | .str value => quote value
  | .arr items => "[" ++ compactItems items ++ "]"
  | .obj members => "\x7b" ++ compactMembers members ++ "\x7d"

def compactItems : List Json → String
  | [] => ""
  | [item] => compact item
  | item :: rest => compact item ++ "," ++ compactItems rest

def compactMembers : List (String × Json) → String
  | [] => ""
  | [(key, value)] => quote key ++ ":" ++ compact value
  | (key, value) :: rest => quote key ++ ":" ++ compact value ++ "," ++ compactMembers rest

end

def newLine (level : Nat) : String := "\n" ++ String.ofList (List.replicate (2 * level) ' ')

mutual

/-- The text of a value with one item or member a line; empty arrays and objects stay closed. -/
def pretty (level : Nat) : Json → String
  | .null => "null"
  | .bool value => boolText value
  | .num value => value.text .json
  | .str value => quote value
  | .arr [] => "[]"
  | .arr (item :: rest) =>
      "[" ++ newLine (level + 1) ++ pretty (level + 1) item ++ prettyItems (level + 1) rest ++
        newLine level ++ "]"
  | .obj [] => "\x7b\x7d"
  | .obj ((key, value) :: rest) =>
      "\x7b" ++ newLine (level + 1) ++ quote key ++ ": " ++ pretty (level + 1) value ++
        prettyMembers (level + 1) rest ++ newLine level ++ "\x7d"

def prettyItems (level : Nat) : List Json → String
  | [] => ""
  | item :: rest => "," ++ newLine level ++ pretty level item ++ prettyItems level rest

def prettyMembers (level : Nat) : List (String × Json) → String
  | [] => ""
  | (key, value) :: rest =>
      "," ++ newLine level ++ quote key ++ ": " ++ pretty level value ++ prettyMembers level rest

end

end ClientGen.Json
