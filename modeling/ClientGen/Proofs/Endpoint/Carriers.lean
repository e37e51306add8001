import ClientGen.Proofs.Endpoint.Parameters
import ClientGen.Proofs.Endpoint.Resolution
import ClientGen.Proofs.Resolve.Carriers

/-!
The inline objects of resolved operations. Parameters, request bodies and responses are resolved from
the schemas of the operation, so an object comes first in its type if it does so in its schema.
-/

set_option autoImplicit false

namespace ClientGen

namespace Endpoint

/-- The parameters and the response of an operation. -/
def carriers (name : String) (endpoint : Endpoint) : List Carrier :=
  endpoint.parameters.all.map (Carrier.ofField (Text.pascalCase name)) ++
    [⟨Text.pascalCase name ++ "Response", endpoint.response.type, endpoint.response.properties⟩]

/-- An inline object of an operation: one that a parameter or the response carries, or that is
nested in such an object. -/
def HasObject (name : String) (endpoint : Endpoint) (object : Carrier) : Prop :=
  object.children ≠ [] ∧ ∃ outer ∈ carriers name endpoint, outer.Reaches object

variable {name : String} {endpoint : Endpoint} {object : Carrier}

theorem parameter_mem_carriers (name : String) {field : Field} (member : field ∈ endpoint.parameters.all) :
    Carrier.ofField (Text.pascalCase name) field ∈ endpoint.carriers name :=
  List.mem_append_left _ (List.mem_map_of_mem member)

theorem HasObject.child (has : HasObject name endpoint object) {field : Field}
    (member : field ∈ object.children) (nonempty : field.children ≠ []) :
    HasObject name endpoint (Carrier.ofField object.name field) := by
  obtain ⟨-, outer, isOuter, reaches⟩ := has
  exact ⟨nonempty, outer, isOuter, reaches.child member⟩

/-- Whether each inline object of some operations comes first in its type. -/
def ObjectsFirst (endpoints : Entries Endpoint) : Prop :=
  ∀ entry ∈ endpoints, ∀ object, entry.2.HasObject entry.1 object →
    HeadedBy object.name object.type

end Endpoint

/-- A field that media types add is made from the schema of one of them. -/
theorem RequestBody.Adds.exists_fieldFor {owner : String} {required : Bool} {taken : List String}
    {content : Entries MediaType} {fields : List Field} (adds : Adds owner required taken content fields)
    {field : Field} (member : field ∈ fields) :
    ∃ media ∈ content, ∃ name schema, media.2.schema = some schema ∧
      field = Operation.fieldFor owner name required schema := by
  induction adds with
  | done => cases member
  | silent _ _ ih =>
      obtain ⟨media, inRest, described⟩ := ih member
      exact ⟨media, .tail _ inRest, described⟩
  | repeated _ _ _ _ _ ih =>
      obtain ⟨media, inRest, described⟩ := ih member
      exact ⟨media, .tail _ inRest, described⟩
  | new isSchema _ _ _ _ ih =>
      cases member with
      | head => exact ⟨_, .head _, _, _, isSchema, rfl⟩
      | tail _ later =>
          obtain ⟨media, inRest, described⟩ := ih later
          exact ⟨media, .tail _ inRest, described⟩

namespace Operation

/-- The schemas of an operation: those of its parameters, of its request body and of its reply. -/
inductive Describes (operation : Operation) : Schema → Prop where
  | parameter {parameter : Parameter} : .inline parameter ∈ operation.parameters →
      Describes operation parameter.effectiveSchema
  | body {body : RequestBody} {media : String} {content : MediaType} {schema : Schema} :
      operation.requestBody.bind Referable.value? = some body → (media, content) ∈ body.content →
      content.schema = some schema → Describes operation schema
  | reply {response : Response} {schema : Schema} :
      (operation.responses.get? "200").bind Referable.value? = some response →
      response.bodySchema? = some schema → Describes operation schema

variable {operation : Operation} {owner : String}

theorem headed_fieldFor {schema : Schema} (front : schema.InFront) (name : String)
    (required : Bool) : (Carrier.ofField owner (fieldFor owner name required schema)).Headed :=
  Resolve.type_headed front [] (Names.synthesized owner name) {}

/-- A parameter after resolution is the field for a schema of the operation. -/
theorem exists_fieldFor {field : Field} (member : field ∈ (operation.buckets owner).all) :
    ∃ name required schema, operation.Describes schema ∧
      field = fieldFor owner name required schema := by
  obtain ⟨added, isAdded, -, all⟩ := operation.exists_added_perm owner
  rcases List.mem_append.mp (all.subset member) with inline | inBody
  · obtain ⟨parameter, isInline, rfl⟩ := List.mem_map.mp inline
    obtain ⟨written, isWritten, found⟩ := List.mem_filterMap.mp isInline
    have inPlace : written = .inline parameter := Parameter.eq_inline_of_inlineAt found
    rw [inPlace] at isWritten
    exact ⟨_, _, _, .parameter isWritten, rfl⟩
  · cases isAdded with
    | absent => cases inBody
    | reference => cases inBody
    | inline inPlace adds =>
        obtain ⟨media, inContent, name, schema, isSchema, rfl⟩ := adds.exists_fieldFor inBody
        have found := congrArg (Option.bind · Referable.value?) inPlace
        exact ⟨_, _, _, .body found inContent isSchema, rfl⟩

theorem headed_buckets (front : ∀ schema, operation.Describes schema → schema.InFront)
    {field : Field} (member : field ∈ (operation.buckets owner).all) :
    (Carrier.ofField owner field).Headed := by
  obtain ⟨name, required, schema, describes, rfl⟩ := exists_fieldFor member
  exact headed_fieldFor (front schema describes) name required

/-- The schema of the reply. -/
def replySchema? (operation : Operation) : Option Schema :=
  ((operation.responses.get? "200").bind Referable.value?).bind Response.bodySchema?

theorem describes_of_replySchema? {schema : Schema} (found : operation.replySchema? = some schema) :
    operation.Describes schema := by
  obtain ⟨response, isResponse, isSchema⟩ := Option.bind_eq_some_iff.mp found
  exact .reply isResponse isSchema

/-- The reply is made from its schema; without one it is empty. -/
theorem reply_value (owner subject : String) (operation : Operation) :
    (operation.reply owner subject).value =
      (operation.replySchema?.map fun schema =>
        let resolved := Resolve.detached (Resolve.type .detached [] (owner ++ "Response") schema)
        (⟨resolved.target, resolved.type, resolved.properties.getD []⟩ : Reply)).getD {} := by
  unfold reply replySchema?
  cases found : (operation.responses.get? "200").bind Referable.value? with
  | none => rfl
  | some response =>
      cases described : response.bodySchema? with
      | none => simp only [described, Option.bind_some, Option.map_none, Option.getD_none]; rfl
      | some schema =>
          simp only [described, Option.bind_some, Option.map_some, Option.getD_some]
          rfl

theorem headed_reply (front : ∀ schema, operation.Describes schema → schema.InFront)
    (subject : String) : Carrier.Headed ⟨owner ++ "Response",
      (operation.reply owner subject).value.type, (operation.reply owner subject).value.properties⟩ := by
  rw [reply_value]
  cases found : operation.replySchema? with
  | none =>
      exact Carrier.headed_iff.mpr ⟨fun nonempty => absurd rfl nonempty,
        fun _ none => absurd none List.not_mem_nil⟩
  | some schema =>
      exact Resolve.type_headed (front schema (describes_of_replySchema? found)) [] _ {}

end Operation

namespace Candidate

variable {rules : PathRules} {paths : Entries PathItem}

/-- An operation that was resolved is described by one of the document. -/
theorem exists_described {entry : String × Endpoint}
    (member : entry ∈ (Endpoint.ofPaths rules paths).value) :
    ∃ candidate ∈ ofPaths rules.filter paths, ∃ tag,
      entry.2 = (candidate.describe entry.1 tag).value := by
  obtain ⟨dropped, parted, result⟩ := ofPaths_spec rules paths
  rw [result] at member
  obtain ⟨turn, inRun, found⟩ := List.mem_filterMap.mp member
  have kept : turn.candidate ∈ keptOf rules paths := by
    have candidates : (run rules paths).map Turn.candidate = keptOf rules paths :=
      map_candidate_turns _ _
    rw [← candidates]
    exact List.mem_map_of_mem inRun
  obtain ⟨notes, outcome⟩ := Turn.outcome_of_value found
  refine ⟨turn.candidate, parted.sublist.subset kept, ?_⟩
  cases outcome with
  | given tagged explicit => exact ⟨_, rfl⟩
  | derived tagged explicit nonempty free => exact ⟨_, rfl⟩

/-- If the inline object comes first in every schema of the operations of a document, each inline
object comes first in its type after they are resolved. -/
theorem objectsFirst_ofPaths
    (front : ∀ candidate ∈ ofPaths rules.filter paths, ∀ schema,
      candidate.operation.Describes schema → schema.InFront) :
    Endpoint.ObjectsFirst (Endpoint.ofPaths rules paths).value := by
  intro entry member object has
  obtain ⟨candidate, listed, tag, described⟩ := exists_described member
  obtain ⟨nonempty, outer, isOuter, reaches⟩ := has
  suffices headed : outer.Headed from headed object reaches nonempty
  rw [described] at isOuter
  rcases List.mem_append.mp isOuter with isParameter | isResponse
  · obtain ⟨field, inBuckets, rfl⟩ := List.mem_map.mp isParameter
    exact Operation.headed_buckets (front candidate listed) inBuckets
  · rw [List.mem_singleton.mp isResponse]
    exact Operation.headed_reply (front candidate listed) candidate.subject

end Candidate

end ClientGen
