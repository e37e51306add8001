import ClientGen.Referable
import ClientGen.Schema.Codec

/-!
Parameters of operations. One dialect describes the value of a parameter by a schema, the other one
puts type, format, items and choices on the parameter itself.
-/

set_option autoImplicit false

namespace ClientGen

open Json (Decoded RecordShape)

/-- Where a request carries a parameter. -/
inductive Location where
  | path
  | query
  | body
  | formData
  | header
  | cookie
  deriving DecidableEq, Repr

namespace Location

def key : Location → String
  | .path => "path"
  | .query => "query"
  | .body => "body"
  | .formData => "formData"
  | .header => "header"
  | .cookie => "cookie"

def choices : List (String × Location) :=
  [("path", .path), ("query", .query), ("body", .body), ("formData", .formData),
    ("header", .header), ("cookie", .cookie)]

def decode : Json → Decoded Location := Json.decodeChoice choices

end Location

/-- A parameter of an operation. -/
structure Parameter where
  name : String := ""
  location : Location := .path
  description : Option String := none
  required : Bool := false
  schema : Option Schema := none
  types : Option TypeSet := none
  format : Option String := none
  items : Option Schema := none
  enumValues : List Json := []
  defaultValue : Option Json := none
  deriving Repr

namespace Parameter

/-- The schema of the value, wherever the parameter describes it. -/
def effectiveSchema (parameter : Parameter) : Schema :=
  let schema : Schema := parameter.schema.getD {
    types := parameter.types
    format := parameter.format
    items := parameter.items
    enumValues := parameter.enumValues
    defaultValue := parameter.defaultValue }
  { schema with description := schema.description.or parameter.description }

def shape : RecordShape :=
  ⟨"RawParameter",
    [("name", .required), ("in", .required), ("description", .optional), ("required", .defaulted),
      ("schema", .optional), ("type", .optional), ("format", .optional), ("items", .optional),
      ("enum", .defaulted), ("default", .optional)]⟩

def put (name : String) (value : Json) (parameter : Parameter) : Decoded Parameter :=
  match name with
  | "name" => do return { parameter with name := ← Json.decodeString value }
  | "in" => do return { parameter with location := ← Location.decode value }
  | "description" => do
      return { parameter with description := ← Json.decodeOption Json.decodeString value }
  | "required" => do return { parameter with required := ← Json.decodeBool value }
  | "schema" => do return { parameter with schema := ← Json.decodeOption Schema.decode value }
  | "type" => do return { parameter with types := ← Json.decodeOption TypeSet.decode value }
  | "format" => do
      return { parameter with format := ← Json.decodeOption Json.decodeString value }
  | "items" => do return { parameter with items := ← Json.decodeOption Schema.decode value }
  | "enum" => do return { parameter with enumValues := ← Json.decodeList .ok value }
  | "default" => do return { parameter with defaultValue := ← Json.decodeOption .ok value }
  | _ => .ok parameter

def decode : Json → Decoded Parameter := shape.decode {} put

def encode (parameter : Parameter) : Json :=
  .obj ([("name", .str parameter.name), ("in", .str parameter.location.key)] ++
    Json.optionalMember "description" .str parameter.description ++
    [("required", .bool parameter.required)] ++
    Json.optionalMember "schema" Schema.encode parameter.schema ++
    Json.optionalMember "type" TypeSet.encode parameter.types ++
    Json.optionalMember "format" .str parameter.format ++
    Json.optionalMember "items" Schema.encode parameter.items ++
    Json.listMember "enum" id parameter.enumValues ++
    Json.optionalMember "default" id parameter.defaultValue)

def decodeReferable : Json → Decoded (Referable Parameter) :=
  Referable.decode "ParameterOrRef" decode

def encodeReferable : Referable Parameter → Json := Referable.encode encode

end Parameter

end ClientGen
