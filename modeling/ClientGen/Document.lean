import ClientGen.Diagnostic
import ClientGen.Json.Writer
import ClientGen.Operation

/-!
Documents: what the two dialects write, and the one form that both are brought into.
-/

set_option autoImplicit false

namespace ClientGen

open Json (Decoded RecordShape)

/-- What a document says about itself. -/
structure Info where
  title : String := ""
  description : Option String := none
  version : String := ""
  deriving DecidableEq, Repr

namespace Info

def shape : RecordShape :=
  ⟨"Info", [("title", .defaulted), ("description", .defaulted), ("version", .defaulted)]⟩

/-- A version as text; a value that is no string keeps its JSON text. -/
def versionText : Json → String
  | .str text => text
  | .null => ""
  | other => other.compact

def put (name : String) (value : Json) (info : Info) : Decoded Info :=
  match name with
  | "title" => do return { info with title := ← Json.decodeString value }
  | "description" => do
      return { info with description := ← Json.decodeOption Json.decodeString value }
  | "version" => .ok { info with version := versionText value }
  | _ => .ok info

def decode : Json → Decoded Info := shape.decode {} put

def encode (info : Info) : Json :=
  .obj ([("title", .str info.title)] ++ Json.optionalMember "description" .str info.description ++
    [("version", .str info.version)])

end Info

/-- A document of the older dialect. -/
structure SwaggerDocument where
  swagger : String := ""
  info : Info := {}
  basePath : Option String := none
  paths : Entries PathItem := []
  definitions : Entries Schema := []
  parameters : Entries Parameter := []
  responses : Entries Response := []
  consumes : List String := []
  produces : List String := []
  deriving Repr

namespace SwaggerDocument

def shape : RecordShape :=
  ⟨"SwaggerDoc",
    [("swagger", .required), ("info", .defaulted), ("basePath", .optional), ("paths", .defaulted),
      ("definitions", .defaulted), ("parameters", .defaulted), ("responses", .defaulted),
      ("consumes", .defaulted), ("produces", .defaulted)]⟩

def put (name : String) (value : Json) (document : SwaggerDocument) : Decoded SwaggerDocument :=
  match name with
  | "swagger" => do return { document with swagger := ← Json.decodeString value }
  | "info" => do return { document with info := ← Info.decode value }
  | "basePath" => do
      return { document with basePath := ← Json.decodeOption Json.decodeString value }
  | "paths" => do return { document with paths := ← Json.decodeEntries PathItem.decode value }
  | "definitions" => do
      return { document with definitions := ← Json.decodeEntries Schema.decode value }
  | "parameters" => do
      return { document with parameters := ← Json.decodeEntries Parameter.decode value }
  | "responses" => do
      return { document with responses := ← Json.decodeEntries Response.decode value }
  | "consumes" => do return { document with consumes := ← Json.decodeStrings value }
  | "produces" => do return { document with produces := ← Json.decodeStrings value }
  | _ => .ok document

def decode : Json → Decoded SwaggerDocument := shape.decode {} put

def encode (document : SwaggerDocument) : Json :=
  .obj ([("swagger", .str document.swagger), ("info", document.info.encode)] ++
    Json.optionalMember "basePath" .str document.basePath ++
    Json.entriesMember "paths" PathItem.encode document.paths ++
    Json.entriesMember "definitions" Schema.encode document.definitions ++
    Json.entriesMember "parameters" Parameter.encode document.parameters ++
    Json.entriesMember "responses" Response.encode document.responses ++
    Json.listMember "consumes" .str document.consumes ++
    Json.listMember "produces" .str document.produces)

end SwaggerDocument

/-- What the newer dialect keeps for use in several places. -/
structure Components where
  schemas : Entries Schema := []
  parameters : Entries Parameter := []
  requestBodies : Entries RequestBody := []
  responses : Entries Response := []
  deriving Repr

namespace Components

def shape : RecordShape :=
  ⟨"Components",
    [("schemas", .defaulted), ("parameters", .defaulted), ("requestBodies", .defaulted),
      ("responses", .defaulted)]⟩

def put (name : String) (value : Json) (components : Components) : Decoded Components :=
  match name with
  | "schemas" => do return { components with schemas := ← Json.decodeEntries Schema.decode value }
  | "parameters" => do
      return { components with parameters := ← Json.decodeEntries Parameter.decode value }
  | "requestBodies" => do
      return { components with requestBodies := ← Json.decodeEntries RequestBody.decode value }
  | "responses" => do
      return { components with responses := ← Json.decodeEntries Response.decode value }
  | _ => .ok components

def decode : Json → Decoded Components := shape.decode {} put

def encode (components : Components) : Json :=
  .obj (Json.entriesMember "schemas" Schema.encode components.schemas ++
    Json.entriesMember "parameters" Parameter.encode components.parameters ++
    Json.entriesMember "requestBodies" RequestBody.encode components.requestBodies ++
    Json.entriesMember "responses" Response.encode components.responses)

end Components

/-- A document of the newer dialect. -/
structure OpenApiDocument where
  openapi : String := ""
  info : Info := {}
  paths : Entries PathItem := []
  components : Option Components := none
  deriving Repr

namespace OpenApiDocument

def shape : RecordShape :=
  ⟨"OpenApiDoc",
    [("openapi", .required), ("info", .defaulted), ("paths", .defaulted),
      ("components", .optional)]⟩

def put (name : String) (value : Json) (document : OpenApiDocument) : Decoded OpenApiDocument :=
  match name with
  | "openapi" => do return { document with openapi := ← Json.decodeString value }
  | "info" => do return { document with info := ← Info.decode value }
  | "paths" => do return { document with paths := ← Json.decodeEntries PathItem.decode value }
  | "components" => do
      return { document with components := ← Json.decodeOption Components.decode value }
  | _ => .ok document

def decode : Json → Decoded OpenApiDocument := shape.decode {} put

def encode (document : OpenApiDocument) : Json :=
  .obj ([("openapi", .str document.openapi), ("info", document.info.encode)] ++
    Json.entriesMember "paths" PathItem.encode document.paths ++
    Json.optionalMember "components" Components.encode document.components)

end OpenApiDocument

/-- A document of either dialect. -/
inductive Source where
  | swagger (document : SwaggerDocument)
  | openApi (document : OpenApiDocument)
  deriving Repr

/-- A document in which the dialect no longer shows: every reference to a shared parameter, body or
response is replaced by what it points at. -/
structure Document where
  info : Info := {}
  definitions : Entries Schema := []
  paths : Entries PathItem := []
  deriving Repr

def Document.encode (document : Document) : Json :=
  .obj [("info", document.info.encode),
    ("definitions", Json.encodeEntries Schema.encode document.definitions),
    ("paths", Json.encodeEntries PathItem.encode document.paths)]

end ClientGen
