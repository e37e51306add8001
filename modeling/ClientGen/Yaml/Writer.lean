import ClientGen.Json.Writer
import ClientGen.Yaml.ScalarText

/-!
The YAML text of a JSON value in block style. Items of a sequence in a mapping begin at the column
of the keys, and a collection in a sequence begins behind the hyphen.
-/

set_option autoImplicit false

namespace ClientGen.Yaml

/-- The longest key that stands before its colon without a question mark, in bytes. -/
def maxSimpleKey : Nat := 128

/-- Whether a key stands before its colon without a question mark. -/
def isSimpleKey (key : String) : Bool :=
  key.utf8ByteSize ≤ maxSimpleKey && !key.toList.any isLineEnd

def endLine (text : String) : String :=
  if text.toList.getLast?.any isLineEnd then text else text ++ "\n"

def lineStart (indent : Nat) : String := String.ofList (margin indent)

mutual

/-- The lines of a value whose first line has begun at the column `indent`. -/
def writeAt (indent : Nat) : Json → String
  | .null => "null\n"
  | .bool value => Json.boolText value ++ "\n"
  | .num value => value.text .yaml ++ "\n"
  | .str value => endLine (scalarText indent value)
  | .arr [] => "[]\n"
  | .obj [] => "\x7b\x7d\n"
  | .arr (item :: rest) => "- " ++ writeAt (indent + 2) item ++ writeItems indent rest
  | .obj (entry :: rest) => writeEntry indent entry ++ writeEntries indent rest

def writeItems (indent : Nat) : List Json → String
  | [] => ""
  | item :: rest =>
      lineStart indent ++ "- " ++ writeAt (indent + 2) item ++ writeItems indent rest

def writeEntries (indent : Nat) : List (String × Json) → String
  | [] => ""
  | entry :: rest => lineStart indent ++ writeEntry indent entry ++ writeEntries indent rest

def writeEntry (indent : Nat) : String × Json → String
  | (key, value) =>
      if isSimpleKey key then scalarText indent key ++ ":" ++ writeValue indent value
      else
        "? " ++ endLine (scalarText (indent + 2) key) ++ lineStart indent ++ ": " ++
          writeAt (indent + 2) value

/-- The rest of the line of a key that begins at the column `indent`, and the lines of its value. -/
def writeValue (indent : Nat) : Json → String
  | .arr (item :: rest) =>
      "\n" ++ lineStart indent ++ "- " ++ writeAt (indent + 2) item ++ writeItems indent rest
  | .obj (entry :: rest) =>
      "\n" ++ lineStart (indent + 2) ++ writeEntry (indent + 2) entry ++
        writeEntries (indent + 2) rest
  | .arr [] => " []\n"
  | .obj [] => " \x7b\x7d\n"
  | .null => " null\n"
  | .bool value => " " ++ Json.boolText value ++ "\n"
  | .num value => " " ++ value.text .yaml ++ "\n"
  | .str value => " " ++ endLine (scalarText (indent + 2) value)

end

def write (json : Json) : String := writeAt 0 json

end ClientGen.Yaml
