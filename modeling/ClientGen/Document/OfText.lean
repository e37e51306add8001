import ClientGen.Json.Reader
import ClientGen.References
import ClientGen.Text.Blank
import ClientGen.Yaml.Value

/-!
The document that a text describes. A text whose first character besides white space is a brace is
JSON, and every other text is YAML.
-/

set_option autoImplicit false

namespace ClientGen

/-- The reasons why a text is no document. -/
inductive DocumentError where
  | notJson (error : Json.ReadError)
  | notYaml
  | dialect (error : DialectError)
  deriving DecidableEq, Repr

def DocumentError.cause : DocumentError → Option String
  | .notJson error => some error.message
  | .dialect (.undecodable error) => some error.message
  | _ => none

def DocumentError.message : DocumentError → String
  | .notJson error => "failed to parse JSON: " ++ error.message
  | .notYaml => "failed to parse YAML"
  | .dialect error => error.message

namespace Document

/-- The document that a text describes together with what was skipped in it. -/
abbrev Loaded := Except DocumentError (Reported Document)

def ofJsonText (text : String) : Loaded :=
  match Json.parse text with
  | .ok json => (ofJson json).mapError .dialect
  | .error error => .error (.notJson error)

def ofYamlText (text : String) : Loaded :=
  match Yaml.json? text with
  | some json => (ofJson json).mapError .dialect
  | none => .error .notYaml

def ofText (text : String) : Loaded :=
  if (Text.trimStart text.toList).head? = some '\x7b' then ofJsonText text else ofYamlText text

end Document

end ClientGen
