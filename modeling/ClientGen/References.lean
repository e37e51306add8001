import ClientGen.Dialect
import ClientGen.Names

/-!
Replacing references to shared parameters, request bodies and responses by what they point at. The
parameters of a path are merged into those of each of its operations, and the media types that an
operation takes and gives are filled in, so that the result no longer depends on the dialect.
-/

set_option autoImplicit false

namespace ClientGen

/-- The values that references may point at. -/
structure Shared where
  parameters : Entries Parameter := []
  requestBodies : Entries RequestBody := []
  responses : Entries Response := []

namespace Shared

def unresolved {Value : Type} (url kind path : String) (fallback : Value) : Reported Value :=
  ⟨fallback, [⟨.warning, url, "unresolved " ++ kind ++ " reference `" ++ path ++ "`"⟩]⟩

def parameter (shared : Shared) (url : String) :
    Referable Parameter → Reported (Option Parameter)
  | .inline parameter => pure (some parameter)
  | .reference path =>
      match shared.parameters.get? (Names.ofReference path) with
      | some parameter => pure (some parameter)
      | none => unresolved url "parameter" path none

/-- Parameters without references; those that point at nothing are left out. -/
def parameterList (shared : Shared) (url : String) :
    List (Referable Parameter) → Reported (List Parameter)
  | [] => pure []
  | first :: rest => do
      let found ← shared.parameter url first
      let others ← parameterList shared url rest
      return found.toList ++ others

/-- The request body that a reference points at; none if it points at nothing. -/
def requestBody (shared : Shared) (url : String) :
    Option (Referable RequestBody) → Reported (Option (Referable RequestBody))
  | some (.reference path) =>
      match shared.requestBodies.get? (Names.ofReference path) with
      | some body => pure (some (.inline body))
      | none => unresolved url "request body" path none
  | other => pure other

/-- The response that a reference points at; an empty one if it points at nothing. -/
def response (shared : Shared) (url status : String) :
    Referable Response → Reported (Referable Response)
  | .reference path =>
      match shared.responses.get? (Names.ofReference path) with
      | some found => pure (.inline found)
      | none => unresolved url (status ++ " response") path (.inline {})
  | .inline found => pure (.inline found)

def responseEntries (shared : Shared) (url : String) :
    Entries (Referable Response) → Reported (Entries (Referable Response))
  | [] => pure []
  | (status, first) :: rest => do
      let found ← shared.response url status first
      let others ← responseEntries shared url rest
      return (status, found) :: others

end Shared

namespace Parameter

def sameKey (first second : Parameter) : Bool :=
  first.name == second.name && first.location == second.location

/-- Puts a parameter in the place of the first with the same name and location, else at the end. -/
def override (parameter : Parameter) : List Parameter → List Parameter
  | [] => [parameter]
  | first :: rest =>
      if first.sameKey parameter then parameter :: rest else first :: override parameter rest

/-- The parameters of a path, overridden and extended by those of an operation. -/
def merge (shared own : List Parameter) : List Parameter :=
  own.foldl (fun merged parameter => parameter.override merged) shared

end Parameter

namespace Operation

/-- An operation without references. `inherited` are the parameters of its path. -/
def inlined (shared : Shared) (url : String) (inherited : List Parameter)
    (operation : Operation) : Reported Operation := do
  let own ← shared.parameterList url operation.parameters
  let requestBody ← shared.requestBody url operation.requestBody
  let responses ← shared.responseEntries url operation.responses
  return { operation with
    parameters := (Parameter.merge inherited own).map .inline
    requestBody := requestBody
    responses := responses }

/-- An operation that takes and gives the media types of its document where it names none. -/
def withDefaultMedia (consumes produces : List String) (operation : Operation) : Operation :=
  { operation with
    consumes := if operation.consumes.isEmpty then consumes else operation.consumes
    produces := if operation.produces.isEmpty then produces else operation.produces }

def bodyMedia (operation : Operation) : List String :=
  ((operation.requestBody.bind (·.value?)).map fun body => body.content.keys).getD []

/-- The media types of the response to a request that succeeded. -/
def successMedia (operation : Operation) : List String :=
  (((operation.responses.get? "200").bind (·.value?)).map fun response =>
    response.content.keys).getD []

/-- An operation that takes and gives the media types of its bodies where it names none. -/
def withBodyMedia (operation : Operation) : Operation :=
  operation.withDefaultMedia operation.bodyMedia operation.successMedia

end Operation

namespace PathItem

/-- The same change to the operation under each of some methods, in order. -/
def changeOperations (change : Operation → Reported Operation) :
    List Method → PathItem → Reported PathItem
  | [], item => pure item
  | method :: rest, item =>
      match item.operation? method with
      | none => changeOperations change rest item
      | some operation => do
          let changed ← change operation
          changeOperations change rest (item.withOperation method (some changed))

/-- A path without references and parameters of its own. `complete` fills in media types. -/
def inlined (shared : Shared) (complete : Operation → Operation) (url : String)
    (item : PathItem) : Reported PathItem := do
  let inherited ← shared.parameterList url item.parameters
  changeOperations
    (fun operation => do
      let changed ← operation.inlined shared url inherited
      return complete changed)
    Method.all { item with parameters := [] }

def inlinedEntries (shared : Shared) (complete : Operation → Operation) :
    Entries PathItem → Reported (Entries PathItem)
  | [] => pure []
  | (url, item) :: rest => do
      let changed ← item.inlined shared complete url
      let others ← inlinedEntries shared complete rest
      return (url, changed) :: others

end PathItem

namespace Document

def ofSwagger (document : SwaggerDocument) : Reported Document := do
  let paths ← PathItem.inlinedEntries ⟨document.parameters, [], document.responses⟩
    (Operation.withDefaultMedia document.consumes document.produces) document.paths
  return ⟨document.info, document.definitions, paths⟩

def ofOpenApi (document : OpenApiDocument) : Reported Document := do
  let components := document.components.getD {}
  let paths ← PathItem.inlinedEntries
    ⟨components.parameters, components.requestBodies, components.responses⟩
    Operation.withBodyMedia document.paths
  return ⟨document.info, components.schemas, paths⟩

def ofSource : Source → Reported Document
  | .swagger document => ofSwagger document
  | .openApi document => ofOpenApi document

def ofJson (json : Json) : Except DialectError (Reported Document) :=
  (Source.detect json).map fun source => do
    let found ← source
    ofSource found

end Document

end ClientGen
