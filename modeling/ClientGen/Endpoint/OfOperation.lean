import ClientGen.Endpoint.Basic
import ClientGen.Operation
import ClientGen.Resolve
import ClientGen.Text.Case

/-!
The parameters and the reply of an operation. Inline objects stay in the fields: nothing is
registered among the definitions.
-/

set_option autoImplicit false

namespace ClientGen

/-- The items for which a test holds, and then the others; otherwise the order is kept. -/
def holdingFirst {Item : Type} (test : Item → Bool) (items : List Item) : List Item :=
  items.filter test ++ items.filter fun item => !test item

namespace Operation

def fieldFor (owner name : String) (required : Bool) (schema : Schema) : Field :=
  Resolve.detached (Resolve.property .detached [] owner name required schema)

def inlineParameters (operation : Operation) : List Parameter :=
  operation.parameters.filterMap Referable.value?

/-- The parameters by location, at each location the required ones first. -/
def parameterBuckets (owner : String) (operation : Operation) : Buckets :=
  (holdingFirst Parameter.required operation.inlineParameters).foldl
    (fun buckets parameter =>
      buckets.push parameter.location
        (fieldFor owner parameter.name parameter.required parameter.effectiveSchema))
    {}

/-- The name of a request body: that of a file for raw bytes, else the name of the definition that
it refers to. -/
def bodyName (media : String) (schema : Schema) : String :=
  if media = "application/octet-stream" then "file"
  else
    match schema.targetReference with
    | some reference => Text.toLower (Names.base (Names.ofReference reference))
    | none => "body"

/-- Adds a field for each media type of a request body that describes something, unless there is one
of that name already. -/
def addBodies (owner : String) (required : Bool) (done : List Field) :
    Entries MediaType → List Field
  | [] => done
  | (media, content) :: rest =>
      match content.schema.filter fun schema => !schema.isEmptyObject with
      | none => addBodies owner required done rest
      | some schema =>
          let name := bodyName media schema
          if done.any fun field => field.name = name then addBodies owner required done rest
          else addBodies owner required (done ++ [fieldFor owner name required schema]) rest

def buckets (owner : String) (operation : Operation) : Buckets :=
  let found := operation.parameterBuckets owner
  match operation.requestBody.bind Referable.value? with
  | none => found
  | some body =>
      let added := addBodies owner body.required found.body body.content
      { found with body := holdingFirst Field.required added }

/-- The reply to a request that succeeded. `subject` names the operation in a warning. -/
def reply (owner subject : String) (operation : Operation) : Reported Reply :=
  match (operation.responses.get? "200").bind Referable.value? with
  | none => ⟨{}, [⟨.warning, subject, "no 200 response, response type left empty"⟩]⟩
  | some response =>
      match response.bodySchema? with
      | none => pure {}
      | some schema =>
          let resolved := Resolve.detached
            (Resolve.type .detached [] (owner ++ "Response") schema)
          pure ⟨resolved.target, resolved.type, resolved.properties.getD []⟩

end Operation

end ClientGen
