import ClientGen.Json.Decode

/-!
Fields: the properties of a resolved type, the parameters of an operation and the fields of its
response.
-/

set_option autoImplicit false

namespace ClientGen

/-- A field. Its type is a word for a primitive type, a placeholder, the name of a definition or a
type built from these; `target` is the base name of the definition that the type refers to, if it
refers to one. The fields of an inline object stand in `properties`. -/
structure Field where
  name : String := ""
  type : String := ""
  description : String := ""
  required : Bool := false
  enumOption : List Json := []
  target : String := ""
  format : String := ""
  defaultValue : Option Json := none
  properties : Option (List Field) := none
  deriving Repr

namespace Field

instance : Inhabited Field := ⟨{}⟩

def isEnum (field : Field) : Bool := !field.enumOption.isEmpty

mutual

def encode : Field → Json
  | ⟨name, type, description, required, enumOption, target, format, defaultValue, properties⟩ =>
      .obj ([("name", .str name), ("type", .str type), ("description", .str description),
        ("required", .bool required), ("enumOption", .arr enumOption), ("ref", .str target),
        ("format", .str format)] ++ Json.optionalMember "default" id defaultValue ++
        encodeProperties properties)

def encodeProperties : Option (List Field) → List (String × Json)
  | none => []
  | some fields => [("properties", .arr (encodeList fields))]

def encodeList : List Field → List Json
  | [] => []
  | field :: rest => encode field :: encodeList rest

end

end Field

end ClientGen
