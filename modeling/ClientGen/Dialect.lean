import ClientGen.Prune

/-!
Which dialect a document is written in. The version member tells, and it must name a version that is
understood; every malformed entry is pruned before the document is read.
-/

set_option autoImplicit false

namespace ClientGen

/-- The reasons why a text is no document, apart from faults of a text that is not even a value. -/
inductive DialectError where
  | unsupportedVersion (version : String)
  | unknownDialect
  | undecodable (error : Json.DecodeError)
  deriving DecidableEq, Repr

def DialectError.message : DialectError → String
  | .unsupportedVersion version => "unsupported document version: " ++ version
  | .unknownDialect => "missing required field: swagger or openapi"
  | .undecodable error => "failed to parse JSON: " ++ error.message

namespace Source

def version? (key : String) (document : Json) : Option String :=
  (document.member? key).map fun value =>
    match value with
    | .str text => text
    | other => other.compact

def withVersion (key version : String) : Json → Json
  | .obj members => .obj (Entries.insert key (.str version) members)
  | other => other

def decodeAs {Value : Type} (key version start : String)
    (decode : Json → Json.Decoded Value) (document : Json) :
    Except DialectError (Reported Value) :=
  if Text.startsWith version start then
    let pruned := Prune.document (withVersion key version document)
    match decode pruned.value with
    | .ok value => .ok ⟨value, pruned.diagnostics⟩
    | .error error => .error (.undecodable error)
  else .error (.unsupportedVersion version)

def detect (document : Json) : Except DialectError (Reported Source) :=
  match version? "swagger" document with
  | some version =>
      (decodeAs "swagger" version "2." SwaggerDocument.decode document).map fun reported =>
        ⟨.swagger reported.value, reported.diagnostics⟩
  | none =>
      match version? "openapi" document with
      | some version =>
          (decodeAs "openapi" version "3." OpenApiDocument.decode document).map fun reported =>
            ⟨.openApi reported.value, reported.diagnostics⟩
      | none => .error .unknownDialect

def dialect : Source → String
  | .swagger _ => "swagger"
  | .openApi _ => "openapi"

def version : Source → String
  | .swagger document => document.swagger
  | .openApi document => document.openapi

def encode : Source → Json
  | .swagger document => document.encode
  | .openApi document => document.encode

end Source

end ClientGen
