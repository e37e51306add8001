import ClientGen.Referable
import ClientGen.Schema.Codec
import ClientGen.Text.Search

/-!
The two ends of an exchange: the body of a request and the response. Each describes its content by
media type; a response of the older dialect has its schema beside the content.
-/

set_option autoImplicit false

namespace ClientGen

open Json (Decoded RecordShape)

/-- The description of a content under one media type. -/
structure MediaType where
  schema : Option Schema := none
  deriving Repr

namespace MediaType

def shape : RecordShape := ⟨"RawMediaType", [("schema", .optional)]⟩

def put (name : String) (value : Json) (media : MediaType) : Decoded MediaType :=
  match name with
  | "schema" => do return { media with schema := ← Json.decodeOption Schema.decode value }
  | _ => .ok media

def decode : Json → Decoded MediaType := shape.decode {} put

def encode (media : MediaType) : Json :=
  .obj (Json.optionalMember "schema" Schema.encode media.schema)

end MediaType

/-- The body of a request. -/
structure RequestBody where
  description : Option String := none
  content : Entries MediaType := []
  required : Bool := false
  deriving Repr

namespace RequestBody

def shape : RecordShape :=
  ⟨"RawRequestBody",
    [("description", .optional), ("content", .defaulted), ("required", .defaulted)]⟩

def put (name : String) (value : Json) (body : RequestBody) : Decoded RequestBody :=
  match name with
  | "description" => do
      return { body with description := ← Json.decodeOption Json.decodeString value }
  | "content" => do return { body with content := ← Json.decodeEntries MediaType.decode value }
  | "required" => do return { body with required := ← Json.decodeBool value }
  | _ => .ok body

def decode : Json → Decoded RequestBody := shape.decode {} put

def encode (body : RequestBody) : Json :=
  .obj (Json.optionalMember "description" .str body.description ++
    [("content", Json.encodeEntries MediaType.encode body.content),
      ("required", .bool body.required)])

def decodeReferable : Json → Decoded (Referable RequestBody) :=
  Referable.decode "RequestBodyOrRef" decode

def encodeReferable : Referable RequestBody → Json := Referable.encode encode

end RequestBody

/-- A response. -/
structure Response where
  description : Option String := none
  schema : Option Schema := none
  content : Entries MediaType := []
  headers : Entries Json := []
  deriving Repr

namespace Response

/-- The description of the content as JSON, else the first whose media type speaks of JSON, else the
one for every media type. -/
def preferredContent? (content : Entries MediaType) : Option MediaType :=
  (content.get? "application/json").or
    (((content.find? fun entry => Text.contains entry.1 "json").map (·.2)).or
      (content.get? "*/*"))

/-- The schema of the content, wherever the response describes it. -/
def bodySchema? (response : Response) : Option Schema :=
  match response.schema with
  | some schema => some schema
  | none => (preferredContent? response.content).bind (·.schema)

def shape : RecordShape :=
  ⟨"RawResponse",
    [("description", .optional), ("schema", .optional), ("content", .defaulted),
      ("headers", .defaulted)]⟩

def put (name : String) (value : Json) (response : Response) : Decoded Response :=
  match name with
  | "description" => do
      return { response with description := ← Json.decodeOption Json.decodeString value }
  | "schema" => do return { response with schema := ← Json.decodeOption Schema.decode value }
  | "content" => do
      return { response with content := ← Json.decodeEntries MediaType.decode value }
  | "headers" => do return { response with headers := ← Json.decodeEntries .ok value }
  | _ => .ok response

def decode : Json → Decoded Response := shape.decode {} put

def encode (response : Response) : Json :=
  .obj (Json.optionalMember "description" .str response.description ++
    Json.optionalMember "schema" Schema.encode response.schema ++
    Json.entriesMember "content" MediaType.encode response.content ++
    Json.entriesMember "headers" id response.headers)

def decodeReferable : Json → Decoded (Referable Response) :=
  Referable.decode "ResponseOrRef" decode

def encodeReferable : Referable Response → Json := Referable.encode encode

end Response

end ClientGen
