import ClientGen.Json.Decode
import ClientGen.Schema.Basic

/-!
Schemas as JSON values. Every value is read once, from the leaves up, in each of the ways in which a
schema can hold it: as a schema, as a list of schemas and as schemas under names.
-/

set_option autoImplicit false

namespace ClientGen

open Json (Decoded DecodeError RecordShape)

def TypeSet.decode (json : Json) : Decoded TypeSet :=
  match json with
  | .str word => .ok (.one word)
  | other =>
      match Json.decodeStrings other with
      | .ok words => .ok (.many words)
      | .error _ => .error (.noAlternative "TypeSet")

def TypeSet.encode : TypeSet → Json
  | .one word => .str word
  | .many words => .strings words

def Required.decode (json : Json) : Decoded Required :=
  match json with
  | .bool value => .ok (.flag value)
  | other =>
      match Json.decodeStrings other with
      | .ok listed => .ok (.names listed)
      | .error _ => .error (.noAlternative "Required")

def Required.encode : Required → Json
  | .names listed => .strings listed
  | .flag value => .bool value

namespace Schema

def shape : RecordShape :=
  ⟨"RawSchema",
    [("$ref", .optional), ("type", .optional), ("format", .optional), ("title", .optional),
      ("description", .optional), ("default", .optional), ("nullable", .optional),
      ("properties", .defaulted), ("required", .defaulted), ("additionalProperties", .optional),
      ("items", .optional), ("allOf", .defaulted), ("enum", .defaulted)]⟩

/-- A value together with what it is where a schema stands, where a list of schemas stands and where
schemas under names stand. -/
structure Reading where
  value : Json
  schema : Decoded Schema
  list : Decoded (List Schema)
  entries : Decoded (Entries Schema)

def Reading.additional (reading : Reading) : Decoded (Additional Schema) :=
  match reading.value, reading.schema with
  | .bool value, _ => .ok (.allowed value)
  | _, .ok schema => .ok (.described schema)
  | _, .error _ => .error (.noAlternative "AdditionalProperties")

def Reading.option {Value : Type} (reading : Reading) (decoded : Decoded Value) :
    Decoded (Option Value) :=
  match reading.value with
  | .null => .ok none
  | _ => decoded.map some

def put (name : String) (reading : Reading) (schema : Schema) : Decoded Schema :=
  match name with
  | "$ref" => do
      return { schema with reference := ← Json.decodeOption Json.decodeString reading.value }
  | "type" => do
      return { schema with types := ← Json.decodeOption TypeSet.decode reading.value }
  | "format" => do
      return { schema with format := ← Json.decodeOption Json.decodeString reading.value }
  | "title" => do
      return { schema with title := ← Json.decodeOption Json.decodeString reading.value }
  | "description" => do
      return { schema with description := ← Json.decodeOption Json.decodeString reading.value }
  | "default" => do
      return { schema with defaultValue := ← Json.decodeOption .ok reading.value }
  | "nullable" => do
      return { schema with nullable := ← Json.decodeOption Json.decodeBool reading.value }
  | "properties" => do return { schema with properties := ← reading.entries }
  | "required" => do return { schema with required := ← Required.decode reading.value }
  | "additionalProperties" => do
      return { schema with additional := ← reading.option reading.additional }
  | "items" => do return { schema with items := ← reading.option reading.schema }
  | "allOf" => do return { schema with allOf := ← reading.list }
  | "enum" => do return { schema with enumValues := ← Json.decodeList .ok reading.value }
  | _ => .ok schema

/-- A value that is neither an object nor an array is none of the three. -/
def Reading.leaf (value : Json) : Reading :=
  ⟨value, shape.refuse value, Json.wrongKind value "a sequence", Json.wrongKind value "a map"⟩

mutual

def read : Json → Reading
  | .obj members =>
      let inner := readMembers members
      ⟨.obj members, shape.ofMembers {} put inner, Json.wrongKind (.obj members) "a sequence",
        Json.decodeValues Reading.schema inner⟩
  | .arr items =>
      let inner := readItems items
      ⟨.arr items, shape.ofItems {} put inner, inner.mapM Reading.schema,
        Json.wrongKind (.arr items) "a map"⟩
  | .null => .leaf .null
  | .bool value => .leaf (.bool value)
  | .num value => .leaf (.num value)
  | .str value => .leaf (.str value)

def readMembers : List (String × Json) → List (String × Reading)
  | [] => []
  | (name, value) :: rest => (name, read value) :: readMembers rest

def readItems : List Json → List Reading
  | [] => []
  | item :: rest => read item :: readItems rest

end

def decode (json : Json) : Decoded Schema := (read json).schema

mutual

def encode : Schema → Json
  | ⟨reference, types, format, title, description, defaultValue, nullable, properties, required,
      additional, items, allOf, enumValues⟩ =>
      .obj (Json.optionalMember "$ref" .str reference ++
        Json.optionalMember "type" TypeSet.encode types ++
        Json.optionalMember "format" .str format ++
        Json.optionalMember "title" .str title ++
        Json.optionalMember "description" .str description ++
        Json.optionalMember "default" id defaultValue ++
        Json.optionalMember "nullable" .bool nullable ++
        (if properties.isEmpty then [] else [("properties", .obj (encodeMembers properties))]) ++
        (if required.isEmpty then [] else [("required", required.encode)]) ++
        encodeAdditional additional ++
        encodeItems items ++
        (if allOf.isEmpty then [] else [("allOf", .arr (encodeList allOf))]) ++
        Json.listMember "enum" id enumValues)

def encodeMembers : List (String × Schema) → List (String × Json)
  | [] => []
  | (name, schema) :: rest => (name, encode schema) :: encodeMembers rest

def encodeList : List Schema → List Json
  | [] => []
  | schema :: rest => encode schema :: encodeList rest

def encodeAdditional : Option (Additional Schema) → List (String × Json)
  | none => []
  | some (.allowed value) => [("additionalProperties", .bool value)]
  | some (.described schema) => [("additionalProperties", encode schema)]

def encodeItems : Option Schema → List (String × Json)
  | none => []
  | some schema => [("items", encode schema)]

end

end Schema

end ClientGen
