import ClientGen.Definitions.OfSchemas
import ClientGen.Document
import ClientGen.Endpoint.OfPaths

/-!
What a client is generated from: the definitions and the operations of a document.
-/

set_option autoImplicit false

namespace ClientGen

/-- The definitions and the operations of a document. -/
structure ApiModel where
  definitions : Definitions := {}
  endpoints : Entries Endpoint := []

namespace ApiModel

/-- The model of a document. Problems with definitions are reported before those with operations. -/
def ofDocument (rules : PathRules) (document : Document) : Reported ApiModel := do
  let definitions ← Definitions.ofSchemas document.definitions
  let endpoints ← Endpoint.ofPaths rules document.paths
  return { definitions, endpoints }

/-- The model of a loaded document, where the path options have to be sound. -/
def ofLoaded (options : PathOptions) (document : Reported Document) :
    Except FilterError (Reported ApiModel) :=
  options.rules.map fun rules => do ofDocument rules (← document)

def encodeReported (model : Reported ApiModel) : Json :=
  .obj [("definitions", model.value.definitions.encode),
    ("operations", Json.encodeEntries Endpoint.encode model.value.endpoints),
    ("diagnostics", .arr (model.diagnostics.map Diagnostic.encode))]

end ApiModel

end ClientGen
