import ClientGen.Endpoint.OfPaths
import ClientGen.Proofs.Resolve.LastSegment

/-!
Operations of two documents whose references to definitions differ before their last slashes, as
those of the two dialects do. Their operations are resolved to the same endpoints, with the same
diagnostics.
-/

set_option autoImplicit false

namespace ClientGen

/-! ## Changing the schemas of an operation -/

section

variable (change : Schema → Schema)

def Referable.map {Value Other : Type} (change : Value → Other) :
    Referable Value → Referable Other
  | .reference path => .reference path
  | .inline value => .inline (change value)

def Parameter.mapSchemas (parameter : Parameter) : Parameter :=
  { parameter with schema := parameter.schema.map change, items := parameter.items.map change }

def MediaType.mapSchemas (media : MediaType) : MediaType :=
  { media with schema := media.schema.map change }

def RequestBody.mapSchemas (body : RequestBody) : RequestBody :=
  { body with content := Entries.mapValues (MediaType.mapSchemas change) body.content }

def Response.mapSchemas (response : Response) : Response :=
  { response with
    schema := response.schema.map change
    content := Entries.mapValues (MediaType.mapSchemas change) response.content }

def Operation.mapSchemas (operation : Operation) : Operation :=
  { operation with
    parameters := operation.parameters.map (Referable.map (Parameter.mapSchemas change))
    requestBody := operation.requestBody.map (Referable.map (RequestBody.mapSchemas change))
    responses := Entries.mapValues (Referable.map (Response.mapSchemas change))
      operation.responses }

def PathItem.mapSchemas (item : PathItem) : PathItem where
  parameters := item.parameters.map (Referable.map (Parameter.mapSchemas change))
  get := item.get.map (Operation.mapSchemas change)
  put := item.put.map (Operation.mapSchemas change)
  post := item.post.map (Operation.mapSchemas change)
  delete := item.delete.map (Operation.mapSchemas change)
  options := item.options.map (Operation.mapSchemas change)
  head := item.head.map (Operation.mapSchemas change)
  patch := item.patch.map (Operation.mapSchemas change)
  trace := item.trace.map (Operation.mapSchemas change)

def Candidate.mapSchemas (candidate : Candidate) : Candidate :=
  { candidate with operation := candidate.operation.mapSchemas change }

end

theorem Referable.value?_map {Value Other : Type} (change : Value → Other)
    (referable : Referable Value) : (referable.map change).value? = referable.value?.map change := by
  cases referable <;> rfl

theorem Referable.bind_value?_map {Value Other : Type} (change : Value → Other)
    (found : Option (Referable Value)) :
    (found.map (Referable.map change)).bind value? = (found.bind value?).map change := by
  cases found with
  | none => rfl
  | some referable => exact value?_map change referable

theorem Entries.get?_mapValues {Value Other : Type} (change : Value → Other) (key : String)
    (entries : Entries Value) :
    (Entries.mapValues change entries).get? key = (entries.get? key).map change := by
  induction entries with
  | nil => rfl
  | cons entry rest ih =>
      unfold Entries.mapValues at ih ⊢
      rw [List.map_cons, Entries.get?_cons, Entries.get?_cons, ih]
      split <;> rfl

/-! ## Parts of an operation -/

section Parts

variable (change : String → String)

namespace Schema

variable (schema : Schema)

theorem targetReference_mapReferences :
    (schema.mapReferences change).targetReference = schema.targetReference.map change := by
  rw [mapReferences_eq]
  unfold targetReference
  cases schema.reference with
  | some path => rfl
  | none =>
      cases schema.items with
      | none => rfl
      | some items =>
          simp only [Option.map_none, Option.map_some, Option.bind_some]
          rw [mapReferences_eq]

theorem isEmptyObject_mapReferences :
    (schema.mapReferences change).isEmptyObject = schema.isEmptyObject := by
  have values : (schema.mapReferences change).hasMapValues = schema.hasMapValues := by
    rw [mapReferences_eq]
    unfold hasMapValues
    cases schema.additional with
    | none => rfl
    | some additional => cases additional <;> rfl
  unfold isEmptyObject
  rw [values, mapReferences_eq]
  simp only [Option.isNone_map, List.isEmpty_map]

end Schema

theorem Parameter.effectiveSchema_mapSchemas (parameter : Parameter) :
    (parameter.mapSchemas (Schema.mapReferences change)).effectiveSchema =
      parameter.effectiveSchema.mapReferences change := by
  rw [Schema.mapReferences_eq]
  unfold effectiveSchema mapSchemas
  cases parameter.schema with
  | none => rfl
  | some schema =>
      simp only [Option.map_some, Option.getD_some]
      rw [Schema.mapReferences_eq]

end Parts

theorem Response.preferredContent?_mapValues (change : MediaType → MediaType)
    (content : Entries MediaType) :
    preferredContent? (content.mapValues change) = (preferredContent? content).map change := by
  have spoken : (content.mapValues change).find? (fun entry => Text.contains entry.1 "json") =
      (content.find? fun entry => Text.contains entry.1 "json").map
        fun entry => (entry.1, change entry.2) := by
    rw [Entries.mapValues, List.find?_map]
    rfl
  unfold preferredContent?
  rw [spoken, Entries.get?_mapValues, Entries.get?_mapValues]
  simp only [Option.map_or, Option.map_map, Function.comp_def]

theorem Response.bodySchema?_mapSchemas (change : Schema → Schema) (response : Response) :
    (response.mapSchemas change).bodySchema? = response.bodySchema?.map change := by
  unfold bodySchema? mapSchemas
  simp only [preferredContent?_mapValues]
  cases response.schema with
  | some schema => rfl
  | none => cases preferredContent? response.content <;> rfl

/-! ## Fields and replies -/

theorem holdingFirst_map {Item : Type} {test : Item → Bool} {change : Item → Item}
    (same : ∀ item, test (change item) = test item) (items : List Item) :
    holdingFirst test (items.map change) = (holdingFirst test items).map change := by
  have kept : test ∘ change = test := funext same
  simp only [holdingFirst, List.filter_map, List.map_append, Function.comp_def, same]

namespace Operation

variable {change : String → String}
  (keeps : ∀ reference, Names.ofReference (change reference) = Names.ofReference reference)

include keeps

theorem fieldFor_mapReferences (owner name : String) (required : Bool) (schema : Schema) :
    fieldFor owner name required (schema.mapReferences change) =
      fieldFor owner name required schema := by
  unfold fieldFor Resolve.property
  simp only [Resolve.type_mapReferences keeps schema (Names.synthesized owner name),
    Resolve.fieldOf_mapReferences]

theorem parameterBuckets_mapSchemas (owner : String) (operation : Operation) :
    (operation.mapSchemas (Schema.mapReferences change)).parameterBuckets owner =
      operation.parameterBuckets owner := by
  have inline : (operation.mapSchemas (Schema.mapReferences change)).inlineParameters =
      operation.inlineParameters.map (Parameter.mapSchemas (Schema.mapReferences change)) := by
    unfold inlineParameters mapSchemas
    simp only [List.filterMap_map, List.map_filterMap, Function.comp_def, Referable.value?_map]
  have flags : ∀ parameter : Parameter,
      (parameter.mapSchemas (Schema.mapReferences change)).required = parameter.required :=
    fun _ => rfl
  unfold parameterBuckets
  rw [inline, holdingFirst_map flags, List.foldl_map]
  simp only [Parameter.effectiveSchema_mapSchemas, fieldFor_mapReferences keeps]
  rfl

theorem bodyName_mapReferences (media : String) (schema : Schema) :
    bodyName media (schema.mapReferences change) = bodyName media schema := by
  unfold bodyName
  rw [Schema.targetReference_mapReferences]
  cases schema.targetReference with
  | none => rfl
  | some reference => simp only [Option.map_some, keeps]

theorem addBodies_mapSchemas (owner : String) (required : Bool) (content : Entries MediaType)
    (done : List Field) :
    addBodies owner required done
        (content.mapValues (MediaType.mapSchemas (Schema.mapReferences change))) =
      addBodies owner required done content := by
  induction content generalizing done with
  | nil => rfl
  | cons entry rest ih =>
      obtain ⟨media, content⟩ := entry
      have kept : (content.mapSchemas (Schema.mapReferences change)).schema.filter
            (fun schema => !schema.isEmptyObject) =
          (content.schema.filter fun schema => !schema.isEmptyObject).map
            (Schema.mapReferences change) := by
        unfold MediaType.mapSchemas
        cases content.schema with
        | none => rfl
        | some schema =>
            simp only [Option.map_some, Option.filter_some, Schema.isEmptyObject_mapReferences]
            split <;> rfl
      unfold Entries.mapValues at ih ⊢
      rw [List.map_cons, addBodies, addBodies, kept]
      cases content.schema.filter fun schema => !schema.isEmptyObject with
      | none => exact ih done
      | some schema =>
          simp only [Option.map_some, bodyName_mapReferences keeps, fieldFor_mapReferences keeps, ih]

theorem buckets_mapSchemas (owner : String) (operation : Operation) :
    (operation.mapSchemas (Schema.mapReferences change)).buckets owner =
      operation.buckets owner := by
  have body : (operation.mapSchemas (Schema.mapReferences change)).requestBody.bind
      Referable.value? = (operation.requestBody.bind Referable.value?).map
        (RequestBody.mapSchemas (Schema.mapReferences change)) :=
    Referable.bind_value?_map _ operation.requestBody
  unfold buckets
  rw [body, parameterBuckets_mapSchemas keeps]
  cases operation.requestBody.bind Referable.value? with
  | none => rfl
  | some body =>
      simp only [Option.map_some, RequestBody.mapSchemas, addBodies_mapSchemas keeps]

theorem reply_mapSchemas (owner subject : String) (operation : Operation) :
    (operation.mapSchemas (Schema.mapReferences change)).reply owner subject =
      operation.reply owner subject := by
  have success : ((operation.mapSchemas (Schema.mapReferences change)).responses.get? "200").bind
      Referable.value? = ((operation.responses.get? "200").bind Referable.value?).map
        (Response.mapSchemas (Schema.mapReferences change)) := by
    unfold mapSchemas
    rw [Entries.get?_mapValues, Referable.bind_value?_map]
  unfold reply
  rw [success]
  cases (operation.responses.get? "200").bind Referable.value? with
  | none => rfl
  | some response =>
      simp only [Option.map_some, Response.bodySchema?_mapSchemas]
      cases response.bodySchema? with
      | none => rfl
      | some schema =>
          simp only [Option.map_some, Resolve.type_mapReferences keeps schema (owner ++ "Response")]

end Operation

/-! ## Operations -/

namespace Candidate

variable {change : String → String}
  (keeps : ∀ reference, Names.ofReference (change reference) = Names.ofReference reference)

theorem operations_mapSchemas (change : Schema → Schema) (item : PathItem) :
    (item.mapSchemas change).operations =
      item.operations.map fun entry => (entry.1, entry.2.mapSchemas change) := by
  have each (method : Method) : (item.mapSchemas change).operation? method =
      (item.operation? method).map (Operation.mapSchemas change) := by
    cases method <;> rfl
  unfold PathItem.operations
  simp only [each, List.map_filterMap, Option.map_map, Function.comp_def]

theorem ofPaths_mapSchemas (change : Schema → Schema) (filter : PathFilter)
    (paths : Entries PathItem) :
    ofPaths filter (paths.mapValues (PathItem.mapSchemas change)) =
      (ofPaths filter paths).map (mapSchemas change) := by
  have path (url : String) (item : PathItem) : ofPath url (item.mapSchemas change) =
      (ofPath url item).map (mapSchemas change) := by
    unfold ofPath
    simp only [operations_mapSchemas, List.map_map, Function.comp_def, mapSchemas]
  unfold ofPaths Entries.mapValues
  rw [List.flatMap_map, List.map_flatMap]
  congr 1
  funext entry
  simp only [path]
  split <;> rfl

theorem dropRepeated_mapSchemas (change : Schema → Schema) (seen : List String)
    (candidates : List Candidate) :
    dropRepeated seen (candidates.map (mapSchemas change)) =
      List.map (mapSchemas change) <$> dropRepeated seen candidates := by
  induction candidates generalizing seen with
  | nil => rfl
  | cons candidate rest ih =>
      have given : (candidate.mapSchemas change).explicitId? = candidate.explicitId? := rfl
      have subject : (candidate.mapSchemas change).subject = candidate.subject := rfl
      rw [List.map_cons, dropRepeated, dropRepeated, given, subject]
      cases candidate.explicitId? with
      | none => simp only [ih, bind_map_left, map_bind, map_pure, List.map_cons]
      | some name =>
          simp only [ih]
          split <;> simp only [bind_map_left, map_bind, map_pure, List.map_cons]

include keeps

theorem describe_mapSchemas (name tag : String) (candidate : Candidate) :
    (candidate.mapSchemas (Schema.mapReferences change)).describe name tag =
      candidate.describe name tag := by
  unfold describe
  simp only [mapSchemas, Operation.reply_mapSchemas keeps, Operation.buckets_mapSchemas keeps]
  rfl

theorem resolveAll_mapSchemas (rules : PathRules) (taken : List String) (done : Entries Endpoint)
    (candidates : List Candidate) :
    resolveAll rules taken done
        (candidates.map (mapSchemas (Schema.mapReferences change))) =
      resolveAll rules taken done candidates := by
  induction candidates generalizing taken done with
  | nil => rfl
  | cons candidate rest ih =>
      have tag : (candidate.mapSchemas (Schema.mapReferences change)).tag? rules =
          candidate.tag? rules := rfl
      have subject : (candidate.mapSchemas (Schema.mapReferences change)).subject =
          candidate.subject := rfl
      have name : (candidate.mapSchemas (Schema.mapReferences change)).chooseName rules taken =
          candidate.chooseName rules taken := rfl
      rw [List.map_cons, resolveAll, resolveAll, tag, subject, name]
      simp only [describe_mapSchemas keeps, ih]

end Candidate

namespace Endpoint

theorem ofPaths_mapReferences {change : String → String}
    (keeps : ∀ reference, Names.ofReference (change reference) = Names.ofReference reference)
    (rules : PathRules) (paths : Entries PathItem) :
    ofPaths rules (paths.mapValues (PathItem.mapSchemas (Schema.mapReferences change))) =
      ofPaths rules paths := by
  have given (candidates : List Candidate) :
      Candidate.explicitIds
          (candidates.map (Candidate.mapSchemas (Schema.mapReferences change))) =
        Candidate.explicitIds candidates := by
    unfold Candidate.explicitIds
    rw [List.filterMap_map]
    rfl
  unfold ofPaths
  simp only [Candidate.ofPaths_mapSchemas, Candidate.dropRepeated_mapSchemas, given, bind_map_left,
    Candidate.resolveAll_mapSchemas keeps]

end Endpoint

/-! ## Two documents -/

open Names (lastSegment)

/-- The last segments of two references are the same exactly if both point at one name, whatever
stands before it. Documents in which all references of schemas have the same last segments give the
same definitions and the same operations, with the same diagnostics. -/
theorem last_segments_decide (rules : PathRules) :
    (∀ first second : String, lastSegment first = lastSegment second ↔
      ∃ name : String, '/' ∉ name.toList ∧ Names.PointsAt name first ∧
        Names.PointsAt name second) ∧
    (∀ schemas others : Entries Schema,
      schemas.mapValues (Schema.mapReferences lastSegment) =
          others.mapValues (Schema.mapReferences lastSegment) →
        Definitions.ofSchemas schemas = Definitions.ofSchemas others) ∧
    ∀ paths others : Entries PathItem,
      paths.mapValues (PathItem.mapSchemas (Schema.mapReferences lastSegment)) =
          others.mapValues (PathItem.mapSchemas (Schema.mapReferences lastSegment)) →
        Endpoint.ofPaths rules paths = Endpoint.ofPaths rules others := by
  refine ⟨fun _ _ => Names.lastSegment_eq_iff, ?_, ?_⟩
  · intro schemas others same
    calc Definitions.ofSchemas schemas
      _ = Definitions.ofSchemas (schemas.mapValues (Schema.mapReferences lastSegment)) :=
        (Definitions.ofSchemas_mapReferences Names.ofReference_lastSegment schemas).symm
      _ = Definitions.ofSchemas (others.mapValues (Schema.mapReferences lastSegment)) := by
        rw [same]
      _ = Definitions.ofSchemas others :=
        Definitions.ofSchemas_mapReferences Names.ofReference_lastSegment others
  · intro paths others same
    calc Endpoint.ofPaths rules paths
      _ = Endpoint.ofPaths rules
            (paths.mapValues (PathItem.mapSchemas (Schema.mapReferences lastSegment))) :=
        (Endpoint.ofPaths_mapReferences Names.ofReference_lastSegment rules paths).symm
      _ = Endpoint.ofPaths rules
            (others.mapValues (PathItem.mapSchemas (Schema.mapReferences lastSegment))) := by
        rw [same]
      _ = Endpoint.ofPaths rules others :=
        Endpoint.ofPaths_mapReferences Names.ofReference_lastSegment rules others

section Pets

def referring (place name : String) : Schema where
  reference := some (place ++ "/" ++ name)

/-- Definitions that refer to others in a property, in a combination, in items and in values. -/
def petSchemas (place : String) : Entries Schema :=
  [("Pet", { properties := [("owner", referring place "Owner"),
      ("friends", { items := some (referring place "Pet") })] }),
    ("Owner", { additional := some (.described (referring place "Pet")) }),
    ("Dog", { allOf := [referring place "Pet"] })]

/-- Operations that refer to them in a parameter, in a request body and in a response. -/
def petPaths (place : String) : Entries PathItem :=
  [("/pets", { post := some {
      operationId := some "addPet"
      tags := ["pet"]
      parameters := [.inline
        { name := "owner", location := .query, schema := some (referring place "Owner") }]
      requestBody := some (.inline
        { content := [("application/json", { schema := some (referring place "Pet") })] })
      responses := [("200", .inline { schema := some (referring place "Dog") })] } })]

theorem mapReferences_referring (place : String) {name : String} (plain : '/' ∉ name.toList) :
    (referring place name).mapReferences lastSegment = { reference := some name } := by
  have points := Names.lastSegment_of_pointsAt plain (.inr ⟨place, rfl⟩)
  rw [Schema.mapReferences_eq]
  simp [referring, points]

theorem last_segments_decide_pets :
    Definitions.ofSchemas (petSchemas "#/definitions") =
        Definitions.ofSchemas (petSchemas "#/components/schemas") ∧
      Endpoint.ofPaths {} (petPaths "#/definitions") =
        Endpoint.ofPaths {} (petPaths "#/components/schemas") ∧
      (Definitions.ofSchemas (petSchemas "#/definitions")).value.entries.map (fun entry =>
        (entry.1, entry.2.fields.map Field.type)) =
          [("Pet", ["Owner", "Array<Pet>"]), ("Owner", []), ("Dog", [])] ∧
      (Endpoint.ofPaths {} (petPaths "#/definitions")).value.map (fun entry =>
        (entry.1, entry.2.parameters.all.map Field.type, entry.2.response.type)) =
          [("addPet", ["Owner", "Pet"], "Dog")] := by
  have pet (place : String) : (referring place "Pet").mapReferences lastSegment =
      { reference := some "Pet" } := mapReferences_referring place (by decide)
  have owner (place : String) : (referring place "Owner").mapReferences lastSegment =
      { reference := some "Owner" } := mapReferences_referring place (by decide)
  have dog (place : String) : (referring place "Dog").mapReferences lastSegment =
      { reference := some "Dog" } := mapReferences_referring place (by decide)
  obtain ⟨-, schemas, paths⟩ := last_segments_decide {}
  refine ⟨?_, ?_, by decide +kernel, by decide +kernel⟩
  · apply schemas
    simp [petSchemas, Entries.mapValues, Schema.mapReferences, Schema.mapProperties,
      Schema.mapItems, Schema.mapValues, Schema.mapParts, pet, owner]
  · apply paths
    simp [petPaths, Entries.mapValues, PathItem.mapSchemas, Operation.mapSchemas, Referable.map,
      Parameter.mapSchemas, RequestBody.mapSchemas, Response.mapSchemas, MediaType.mapSchemas, pet,
      owner, dog]

end Pets

end ClientGen
