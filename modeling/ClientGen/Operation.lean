import ClientGen.Message
import ClientGen.Method
import ClientGen.Parameter

/-!
Operations, and the paths that hold them under their methods.
-/

set_option autoImplicit false

namespace ClientGen

open Json (Decoded RecordShape)

/-- What one method does under one path. -/
structure Operation where
  operationId : Option String := none
  summary : Option String := none
  description : Option String := none
  tags : List String := []
  parameters : List (Referable Parameter) := []
  requestBody : Option (Referable RequestBody) := none
  responses : Entries (Referable Response) := []
  consumes : List String := []
  produces : List String := []
  deprecated : Option Bool := none
  deriving Repr

namespace Operation

def shape : RecordShape :=
  ⟨"RawOperation",
    [("operationId", .optional), ("summary", .optional), ("description", .optional),
      ("tags", .defaulted), ("parameters", .defaulted), ("requestBody", .optional),
      ("responses", .defaulted), ("consumes", .defaulted), ("produces", .defaulted),
      ("deprecated", .optional)]⟩

def put (name : String) (value : Json) (operation : Operation) : Decoded Operation :=
  match name with
  | "operationId" => do
      return { operation with operationId := ← Json.decodeOption Json.decodeString value }
  | "summary" => do
      return { operation with summary := ← Json.decodeOption Json.decodeString value }
  | "description" => do
      return { operation with description := ← Json.decodeOption Json.decodeString value }
  | "tags" => do return { operation with tags := ← Json.decodeStrings value }
  | "parameters" => do
      return { operation with parameters := ← Json.decodeList Parameter.decodeReferable value }
  | "requestBody" => do
      return { operation with
        requestBody := ← Json.decodeOption RequestBody.decodeReferable value }
  | "responses" => do
      return { operation with responses := ← Json.decodeEntries Response.decodeReferable value }
  | "consumes" => do return { operation with consumes := ← Json.decodeStrings value }
  | "produces" => do return { operation with produces := ← Json.decodeStrings value }
  | "deprecated" => do
      return { operation with deprecated := ← Json.decodeOption Json.decodeBool value }
  | _ => .ok operation

def decode : Json → Decoded Operation := shape.decode {} put

def encode (operation : Operation) : Json :=
  .obj (Json.optionalMember "operationId" .str operation.operationId ++
    Json.optionalMember "summary" .str operation.summary ++
    Json.optionalMember "description" .str operation.description ++
    Json.listMember "tags" .str operation.tags ++
    Json.listMember "parameters" Parameter.encodeReferable operation.parameters ++
    Json.optionalMember "requestBody" RequestBody.encodeReferable operation.requestBody ++
    Json.entriesMember "responses" Response.encodeReferable operation.responses ++
    Json.listMember "consumes" .str operation.consumes ++
    Json.listMember "produces" .str operation.produces ++
    Json.optionalMember "deprecated" .bool operation.deprecated)

end Operation

/-- The operations of a path, and the parameters that all of them share. -/
structure PathItem where
  parameters : List (Referable Parameter) := []
  get : Option Operation := none
  put : Option Operation := none
  post : Option Operation := none
  delete : Option Operation := none
  options : Option Operation := none
  head : Option Operation := none
  patch : Option Operation := none
  trace : Option Operation := none
  deriving Repr

namespace PathItem

def operation? (item : PathItem) : Method → Option Operation
  | .get => item.get
  | .put => item.put
  | .post => item.post
  | .delete => item.delete
  | .options => item.options
  | .head => item.head
  | .patch => item.patch
  | .trace => item.trace

def withOperation (item : PathItem) (method : Method) (operation : Option Operation) : PathItem :=
  match method with
  | .get => { item with get := operation }
  | .put => { item with put := operation }
  | .post => { item with post := operation }
  | .delete => { item with delete := operation }
  | .options => { item with options := operation }
  | .head => { item with head := operation }
  | .patch => { item with patch := operation }
  | .trace => { item with trace := operation }

/-- The operations with their methods, in the order of the methods. -/
def operations (item : PathItem) : List (Method × Operation) :=
  Method.all.filterMap fun method => (item.operation? method).map fun found => (method, found)

def shape : RecordShape :=
  ⟨"RawPathItem",
    ("parameters", .defaulted) :: Method.all.map fun method => (method.key, .optional)⟩

def putMember (name : String) (value : Json) (item : PathItem) : Decoded PathItem :=
  if name = "parameters" then do
    return { item with parameters := ← Json.decodeList Parameter.decodeReferable value }
  else
    match Method.all.find? fun method => method.key = name with
    | some method => do
        return item.withOperation method (← Json.decodeOption Operation.decode value)
    | none => .ok item

def decode : Json → Decoded PathItem := shape.decode {} putMember

def encode (item : PathItem) : Json :=
  .obj (Json.listMember "parameters" Parameter.encodeReferable item.parameters ++
    item.operations.map fun entry => (entry.1.key, entry.2.encode))

end PathItem

end ClientGen
