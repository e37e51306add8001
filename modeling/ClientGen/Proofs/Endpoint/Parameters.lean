import ClientGen.Endpoint.OfOperation

/-!
The parameters of an operation by location. A bucket holds a field for each inline parameter of its
location and for no other, first for those declared as required; the body bucket also holds a field
for each name that the media types of the request body give. The declaration alone decides the
order, so a flag in the schema of a parameter can make a field required that stands behind others.
-/

set_option autoImplicit false

namespace ClientGen

/-! ## Items for which a test holds come first -/

section HoldingFirst

variable {Item : Type} (test : Item → Bool) (items : List Item)

theorem holdingFirst_perm : (holdingFirst test items).Perm items :=
  List.filter_append_perm test items

theorem filter_holdingFirst (keep : Item → Bool) :
    (holdingFirst test items).filter keep = holdingFirst test (items.filter keep) := by
  simp only [holdingFirst, List.filter_append, List.filter_filter, Bool.and_comm]

end HoldingFirst

/-! ## Filling buckets -/

namespace Buckets

theorem located_empty (location : Location) : ({} : Buckets).located location = [] := by
  cases location <;> rfl

theorem located_push {location : Location} (kept : location ≠ .cookie) (place : Location)
    (field : Field) (buckets : Buckets) : (buckets.push place field).located location =
      if place = location then buckets.located location ++ [field] else buckets.located location := by
  cases location with
  | cookie => exact absurd rfl kept
  | _ => cases place <;> rfl

theorem all_push {place : Location} (kept : place ≠ .cookie) (field : Field) (buckets : Buckets) :
    (buckets.push place field).all.Perm (field :: buckets.all) := by
  classical
  rw [List.perm_iff_count]
  intro other
  cases place with
  | cookie => exact absurd rfl kept
  | _ =>
      simp only [push, all, List.count_append, List.count_cons, List.count_nil]
      omega

section Fill

variable {Item : Type} (place : Item → Location) (field : Item → Field)

/-- The buckets after a field has been put into the bucket of each item's location. -/
def fill (buckets : Buckets) (items : List Item) : Buckets :=
  items.foldl (fun filled item => filled.push (place item) (field item)) buckets

theorem located_fill {location : Location} (kept : location ≠ .cookie) (buckets : Buckets)
    (items : List Item) : (buckets.fill place field items).located location =
      buckets.located location ++ (items.filter fun item => place item = location).map field := by
  induction items generalizing buckets with
  | nil => simp [fill]
  | cons item rest ih =>
      change ((buckets.push (place item) (field item)).fill place field rest).located location = _
      rw [ih, located_push kept]
      by_cases here : place item = location
      · simp [here]
      · simp [here]

theorem all_fill (buckets : Buckets) (items : List Item) :
    (buckets.fill place field items).all.Perm
      (buckets.all ++ (items.filter fun item => place item ≠ .cookie).map field) := by
  induction items generalizing buckets with
  | nil => simp [fill]
  | cons item rest ih =>
      by_cases dropped : place item = .cookie
      · have unchanged : buckets.push (place item) (field item) = buckets := by rw [dropped]; rfl
        change ((buckets.push (place item) (field item)).fill place field rest).all.Perm _
        rw [unchanged, List.filter_cons_of_neg (by simpa using dropped)]
        exact ih buckets
      · change ((buckets.push (place item) (field item)).fill place field rest).all.Perm _
        rw [List.filter_cons_of_pos (by simpa using dropped), List.map_cons]
        refine (ih _).trans ?_
        exact ((all_push dropped (field item) buckets).append_right _).trans
          List.perm_middle.symm

end Fill

theorem all_withBody (buckets : Buckets) (added : List Field) :
    ({ buckets with body := buckets.body ++ added } : Buckets).all.Perm (buckets.all ++ added) := by
  classical
  rw [List.perm_iff_count]
  intro field
  simp only [all, List.count_append]
  omega

theorem all_perm_of_body (buckets : Buckets) {body : List Field} (same : body.Perm buckets.body) :
    ({ buckets with body := body } : Buckets).all.Perm buckets.all := by
  simp only [all, List.append_assoc]
  exact ((same.append_right _).append_left _).append_left _

end Buckets

/-! ## What a media type describes -/

namespace Schema

/-- Where a schema leads: its own reference, or else that of the items of its array. -/
inductive Targets (schema : Schema) : String → Prop where
  | own {path : String} : schema.reference = some path → Targets schema path
  | items {items : Schema} {path : String} : schema.reference = none →
      schema.items = some items → items.reference = some path → Targets schema path

/-- An object of which nothing is known. A schema without types is one too, unless it has items or
lists its values. -/
structure Hollow (schema : Schema) : Prop where
  objectLike : (∃ types, schema.types = some types ∧ "object" ∈ types.words) ∨
    schema.types = none ∧ schema.items = none ∧ schema.enumValues = []
  reference : schema.reference = none
  properties : schema.properties = []
  allOf : schema.allOf = []
  values : ∀ described, schema.additional ≠ some (.described described)

variable {schema : Schema}

theorem targetReference_eq_some_iff {path : String} :
    schema.targetReference = some path ↔ schema.Targets path := by
  unfold targetReference
  constructor
  · intro found
    cases own : schema.reference with
    | some reference =>
        rw [own] at found
        exact .own (own.trans found)
    | none =>
        rw [own] at found
        obtain ⟨items, isItems, inItems⟩ := Option.bind_eq_some_iff.mp found
        exact .items own isItems inItems
  · intro targets
    cases targets with
    | own found => rw [found]
    | items none isItems found =>
        rw [none, isItems]
        exact found

theorem hasMapValues_eq_false_iff : schema.hasMapValues = false ↔
    ∀ described, schema.additional ≠ some (.described described) := by
  unfold hasMapValues
  rcases schema.additional with - | ⟨value⟩ | ⟨described⟩ <;> simp

theorem isEmptyObject_iff : schema.isEmptyObject = true ↔ schema.Hollow := by
  have parts (objectLike : Bool) : (objectLike && schema.reference.isNone &&
      schema.properties.isEmpty && schema.allOf.isEmpty && !schema.hasMapValues) = true ↔
      objectLike = true ∧ schema.reference = none ∧ schema.properties = [] ∧ schema.allOf = [] ∧
        ∀ described, schema.additional ≠ some (.described described) := by
    simp [hasMapValues_eq_false_iff, and_assoc]
  unfold isEmptyObject
  rw [parts]
  constructor
  · rintro ⟨objectLike, reference, properties, allOf, values⟩
    refine ⟨?_, reference, properties, allOf, values⟩
    cases types : schema.types <;> simpa [types, TypeSet.has] using objectLike
  · rintro ⟨objectLike, reference, properties, allOf, values⟩
    refine ⟨?_, reference, properties, allOf, values⟩
    cases types : schema.types <;> simpa [types, TypeSet.has] using objectLike

end Schema

namespace RequestBody

/-- The name of the field for a schema under a media type: one for raw bytes, whatever the schema
says, else the base of the name that the schema leads to, in lower case, and else a fixed one. -/
inductive NamesField (media : String) (schema : Schema) : String → Prop where
  | file : media = "application/octet-stream" → NamesField media schema "file"
  | definition {path : String} : media ≠ "application/octet-stream" → schema.Targets path →
      NamesField media schema (Text.toLower (Names.base (Names.ofReference path)))
  | body : media ≠ "application/octet-stream" → (∀ path, ¬ schema.Targets path) →
      NamesField media schema "body"

theorem namesField_bodyName (media : String) (schema : Schema) :
    NamesField media schema (Operation.bodyName media schema) := by
  unfold Operation.bodyName
  split
  · next raw => exact .file raw
  · next other =>
      cases found : schema.targetReference with
      | some path => exact .definition other (Schema.targetReference_eq_some_iff.mp found)
      | none =>
          refine .body other fun path targets => ?_
          rw [Schema.targetReference_eq_some_iff.mpr targets] at found
          cases found

/-- The fields that media types add where some names are taken. A media type with a schema that is no
empty object adds a field of its name, unless that name is taken; then the name is taken as well. -/
inductive Adds (owner : String) (required : Bool) :
    List String → Entries MediaType → List Field → Prop where
  | done {taken : List String} : Adds owner required taken [] []
  | silent {taken : List String} {media : String} {content : MediaType} {rest : Entries MediaType}
      {fields : List Field} : (∀ schema, content.schema = some schema → schema.Hollow) →
      Adds owner required taken rest fields →
      Adds owner required taken ((media, content) :: rest) fields
  | repeated {taken : List String} {media name : String} {content : MediaType} {schema : Schema}
      {rest : Entries MediaType} {fields : List Field} : content.schema = some schema →
      ¬ schema.Hollow → NamesField media schema name → name ∈ taken →
      Adds owner required taken rest fields →
      Adds owner required taken ((media, content) :: rest) fields
  | new {taken : List String} {media name : String} {content : MediaType} {schema : Schema}
      {rest : Entries MediaType} {fields : List Field} : content.schema = some schema →
      ¬ schema.Hollow → NamesField media schema name → name ∉ taken →
      Adds owner required (name :: taken) rest fields →
      Adds owner required taken ((media, content) :: rest)
        (Operation.fieldFor owner name required schema :: fields)

end RequestBody

/-! ## Parameters and request bodies -/

/-- A parameter in place at a location that a test admits. -/
def Parameter.inlineAt (admits : Location → Bool) : Referable Parameter → Option Parameter
  | .inline parameter => if admits parameter.location then some parameter else none
  | .reference _ => none

theorem Parameter.eq_inline_of_inlineAt {admits : Location → Bool} {written : Referable Parameter}
    {parameter : Parameter} (found : inlineAt admits written = some parameter) :
    written = .inline parameter := by
  cases written with
  | reference path => cases found
  | inline value =>
      rw [inlineAt] at found
      split at found
      · cases found
        rfl
      · cases found

namespace Operation

variable (owner : String)

/-- The inline parameters of a location, in the order of the document. -/
def parametersAt (operation : Operation) (location : Location) : List Parameter :=
  operation.parameters.filterMap (Parameter.inlineAt fun place => place = location)

def parameterField (parameter : Parameter) : Field :=
  fieldFor owner parameter.name parameter.required parameter.effectiveSchema

/-- The fields that an operation has for its request body: none unless that stands in place, and then
those of its media types. The parameters in the body have taken their names. -/
inductive BodyFields (operation : Operation) : List Field → Prop where
  | absent : operation.requestBody = none → BodyFields operation []
  | reference {path : String} : operation.requestBody = some (.reference path) →
      BodyFields operation []
  | inline {body : RequestBody} {fields : List Field} :
      operation.requestBody = some (.inline body) →
      RequestBody.Adds owner body.required ((operation.parametersAt .body).map Parameter.name)
        body.content fields →
      BodyFields operation fields

/-- A media type adds its field unless there is one of that name. -/
theorem exists_adds (required : Bool) (done : List Field) (taken : List String)
    (same : ∀ name, name ∈ taken ↔ name ∈ done.map Field.name) (content : Entries MediaType) :
    ∃ added, addBodies owner required done content = done ++ added ∧
      RequestBody.Adds owner required taken content added := by
  induction content generalizing done taken with
  | nil => exact ⟨[], (List.append_nil done).symm, .done⟩
  | cons entry rest ih =>
      obtain ⟨media, content⟩ := entry
      rw [addBodies]
      cases found : content.schema.filter fun schema => !schema.isEmptyObject with
      | none =>
          obtain ⟨added, isAdded, adds⟩ := ih done taken same
          refine ⟨added, isAdded, .silent (fun schema isSchema => ?_) adds⟩
          rw [← Schema.isEmptyObject_iff]
          simpa using Option.filter_eq_none_iff.mp found schema isSchema
      | some schema =>
          obtain ⟨isSchema, isDescribed⟩ := Option.filter_eq_some_iff.mp found
          have solid : ¬ schema.Hollow := by
            rw [← Schema.isEmptyObject_iff]
            simpa using isDescribed
          have named := RequestBody.namesField_bodyName media schema
          by_cases known : bodyName media schema ∈ taken
          · have repeated : (done.any fun field => field.name = bodyName media schema) = true := by
              simpa using (same _).mp known
            obtain ⟨added, isAdded, adds⟩ := ih done taken same
            refine ⟨added, ?_, .repeated isSchema solid named known adds⟩
            simp only [repeated, if_true]
            exact isAdded
          · have new : (done.any fun field => field.name = bodyName media schema) = false := by
              simpa using fun inDone => known ((same _).mpr inDone)
            let field := fieldFor owner (bodyName media schema) required schema
            have grown : ∀ name, name ∈ bodyName media schema :: taken ↔
                name ∈ (done ++ [field]).map Field.name := by
              intro name
              have fieldName : field.name = bodyName media schema := rfl
              simp only [List.mem_cons, same, List.map_append, List.map_cons, List.map_nil,
                List.mem_append, List.not_mem_nil, or_false, fieldName]
              exact Or.comm
            obtain ⟨added, isAdded, adds⟩ := ih _ _ grown
            refine ⟨field :: added, ?_, .new isSchema solid named known adds⟩
            simp only [new, Bool.false_eq_true, if_false]
            rw [List.append_assoc] at isAdded
            exact isAdded

variable (operation : Operation)

/-- The parameters in place are those that the operation goes through. -/
theorem filterMap_inlineAt (admits : Location → Bool) :
    operation.parameters.filterMap (Parameter.inlineAt admits) =
      operation.inlineParameters.filter fun parameter => admits parameter.location := by
  have same : Parameter.inlineAt admits = fun written =>
      (Referable.value? written).filter fun parameter => admits parameter.location := by
    funext written
    cases written with
    | reference path => rfl
    | inline parameter => simp [Parameter.inlineAt, Referable.value?, Option.filter_some]
  rw [same, inlineParameters, List.filter_filterMap]

theorem located_parameterBuckets {location : Location} (kept : location ≠ .cookie) :
    (operation.parameterBuckets owner).located location =
      (holdingFirst Parameter.required (operation.parametersAt location)).map
        (parameterField owner) := by
  have filled := Buckets.located_fill Parameter.location (parameterField owner) kept {}
    (holdingFirst Parameter.required operation.inlineParameters)
  rw [Buckets.located_empty, List.nil_append, filter_holdingFirst] at filled
  rw [parametersAt, filterMap_inlineAt]
  exact filled

theorem all_parameterBuckets : (operation.parameterBuckets owner).all.Perm
    ((operation.parameters.filterMap (Parameter.inlineAt fun place => place ≠ .cookie)).map
      (parameterField owner)) := by
  have filled := Buckets.all_fill Parameter.location (parameterField owner) {}
    (holdingFirst Parameter.required operation.inlineParameters)
  rw [filterMap_inlineAt]
  exact filled.trans (((holdingFirst_perm _ _).filter _).map _)

/-- All buckets but that of the body are the same with and without a request body. -/
theorem located_buckets {location : Location} (apart : location ≠ .body) :
    (operation.buckets owner).located location =
      (operation.parameterBuckets owner).located location := by
  unfold buckets
  cases operation.requestBody.bind Referable.value? with
  | none => rfl
  | some body =>
      cases location with
      | body => exact absurd rfl apart
      | _ => rfl

theorem body_parameterBuckets : (operation.parameterBuckets owner).body =
    (holdingFirst Parameter.required (operation.parametersAt .body)).map
      (parameterField owner) := by
  have kept : Location.body ≠ .cookie := by decide
  exact located_parameterBuckets owner operation kept

/-- Without a request body in place nothing is added. -/
theorem buckets_of_none (none : operation.requestBody.bind Referable.value? = none) :
    BodyFields owner operation [] ∧
      operation.buckets owner = operation.parameterBuckets owner := by
  refine ⟨?_, by rw [buckets, none]⟩
  cases written : operation.requestBody with
  | none => exact .absent written
  | some request =>
      cases request with
      | reference path => exact .reference written
      | inline body =>
          rw [written] at none
          cases none

/-- With a request body in place its fields are added and the body bucket is put in order again. -/
theorem buckets_of_some {body : RequestBody}
    (found : operation.requestBody.bind Referable.value? = some body) :
    ∃ added, BodyFields owner operation added ∧
      operation.buckets owner = { operation.parameterBuckets owner with
        body := holdingFirst Field.required
          ((operation.parameterBuckets owner).body ++ added) } := by
  have names (name : String) : name ∈ (operation.parametersAt .body).map Parameter.name ↔
      name ∈ (operation.parameterBuckets owner).body.map Field.name := by
    have fieldNames : Field.name ∘ parameterField owner = Parameter.name := rfl
    rw [body_parameterBuckets, List.map_map, fieldNames]
    exact ((holdingFirst_perm _ _).map _).mem_iff.symm
  have inPlace : operation.requestBody = some (.inline body) := by
    obtain ⟨request, isRequest, isBody⟩ := Option.bind_eq_some_iff.mp found
    cases request with
    | reference path => cases isBody
    | inline value =>
        cases isBody
        exact isRequest
  obtain ⟨added, isAdded, adds⟩ := exists_adds owner body.required _ _ names body.content
  refine ⟨added, .inline inPlace adds, ?_⟩
  rw [buckets, found]
  simp only [isAdded]

/-! ## Nothing is lost, nothing is doubled -/

/-- The fields for the parameters in place at a location: those declared as required and then the
others, otherwise in the order of the document. -/
def fieldsAt (operation : Operation) (location : Location) : List Field :=
  ((operation.parametersAt location).filter fun parameter => parameter.required).map
      (parameterField owner) ++
    ((operation.parametersAt location).filter fun parameter => !parameter.required).map
      (parameterField owner)

/-- What buckets hold for an operation whose request body adds some fields: the fields of the
parameters in place at each location; in the body, with those that are added, in some order; and
nothing else, so no cookie and no reference is anywhere. The fields have the names for which they are
made. -/
structure Conserved (operation : Operation) (added : List Field) (buckets : Buckets) : Prop where
  path : buckets.path = operation.fieldsAt owner .path
  query : buckets.query = operation.fieldsAt owner .query
  formData : buckets.formData = operation.fieldsAt owner .formData
  header : buckets.header = operation.fieldsAt owner .header
  body : buckets.body.Perm ((operation.parametersAt .body).map (parameterField owner) ++ added)
  all : buckets.all.Perm
    ((operation.parameters.filterMap (Parameter.inlineAt fun place => place ≠ .cookie)).map
      (parameterField owner) ++ added)
  named : ∀ name required schema, (fieldFor owner name required schema).name = name

/-- The fields of the body and those of all places, in some order. -/
theorem exists_added_perm : ∃ added, BodyFields owner operation added ∧
    (operation.buckets owner).body.Perm
      ((operation.parametersAt .body).map (parameterField owner) ++ added) ∧
    (operation.buckets owner).all.Perm
      ((operation.parameters.filterMap (Parameter.inlineAt fun place => place ≠ .cookie)).map
        (parameterField owner) ++ added) := by
  have inBody : (operation.parameterBuckets owner).body.Perm
      ((operation.parametersAt .body).map (parameterField owner)) := by
    rw [body_parameterBuckets]
    exact (holdingFirst_perm _ _).map _
  have inAll := operation.all_parameterBuckets owner
  cases found : operation.requestBody.bind Referable.value? with
  | none =>
      obtain ⟨isAdded, same⟩ := buckets_of_none owner operation found
      refine ⟨[], isAdded, ?_⟩
      rw [same, List.append_nil, List.append_nil]
      exact ⟨inBody, inAll⟩
  | some body =>
      obtain ⟨added, isAdded, same⟩ := buckets_of_some owner operation found
      refine ⟨added, isAdded, ?_⟩
      rw [same]
      refine ⟨(holdingFirst_perm _ _).trans (inBody.append_right _), ?_⟩
      -- First the order within the body is undone, then the fields of the request body are split off.
      have reordered := ({ operation.parameterBuckets owner with
        body := (operation.parameterBuckets owner).body ++ added } :
          Buckets).all_perm_of_body (holdingFirst_perm Field.required _)
      exact reordered.trans ((Buckets.all_withBody _ _).trans (inAll.append_right _))

theorem located_eq_fieldsAt (location : Location) (apart : location ≠ .body)
    (kept : location ≠ .cookie) :
    (operation.buckets owner).located location = operation.fieldsAt owner location := by
  rw [located_buckets owner operation apart, located_parameterBuckets owner operation kept, fieldsAt,
    ← List.map_append]
  rfl

/-- Every parameter in place that is no cookie has one field, in the bucket of its location, and the
media types of the request body have one for each of their names that no parameter has. -/
theorem parameters_conserved : ∃ added, BodyFields owner operation added ∧
    Conserved owner operation added (operation.buckets owner) := by
  have located := operation.located_eq_fieldsAt owner
  obtain ⟨added, isAdded, body, all⟩ := operation.exists_added_perm owner
  refine ⟨added, isAdded, ?_⟩
  exact {
    path := located .path (by decide) (by decide)
    query := located .query (by decide) (by decide)
    formData := located .formData (by decide) (by decide)
    header := located .header (by decide) (by decide)
    body := body
    all := all
    named := fun _ _ _ => rfl }

/-- An upload with parameters in four places, a reference and a body of six media types. -/
def uploadOperation : Operation :=
  let text : MediaType := { schema := some { types := some (.one "string") } }
  let page : MediaType :=
    { schema := some { items := some { reference := some "#/definitions/Page%C2%ABPet%C2%BB" } } }
  { parameters :=
      [.inline { name := "sid", location := .cookie }, .reference "#/parameters/limit",
        .inline { name := "trace", location := .header },
        .inline { name := "size", location := .query },
        .inline { name := "kind", location := .query, required := true },
        .inline { name := "note", location := .body }]
    requestBody := some (.inline { content :=
      [("application/octet-stream", text), ("text/plain", text), ("text/html", text),
        ("application/xml", page), ("application/json", { schema := some {} }),
        ("application/pdf", {})] }) }

/-- The fields of the upload: the cookie, the reference, the second text and the media types that
describe nothing have none. -/
theorem parameters_conserved_upload :
    (∃ added, BodyFields "Upload" uploadOperation added ∧
      Conserved "Upload" uploadOperation added (uploadOperation.buckets "Upload")) ∧
    (uploadOperation.buckets "Upload").query.map Field.name = ["kind", "size"] ∧
    (uploadOperation.buckets "Upload").header.map Field.name = ["trace"] ∧
    (uploadOperation.buckets "Upload").body.map Field.name = ["note", "file", "body", "page"] ∧
    (uploadOperation.buckets "Upload").all.length = 7 :=
  ⟨uploadOperation.parameters_conserved "Upload", by decide +kernel⟩

/-! ## Required fields first -/

/-- Whether no field that is not required stands before one that is. -/
def RequiredFirst (fields : List Field) : Prop :=
  fields.Pairwise fun earlier later => later.required = true → earlier.required = true

theorem requiredFirst_holdingFirst (fields : List Field) :
    RequiredFirst (holdingFirst Field.required fields) := by
  refine List.pairwise_append.mpr ⟨?_, ?_, ?_⟩
  · refine List.pairwise_filter.mpr (List.pairwise_of_forall fun earlier later => ?_)
    intro first _ _
    exact first
  · refine List.pairwise_filter.mpr (List.pairwise_of_forall fun earlier later => ?_)
    intro _ optional isRequired
    simp [isRequired] at optional
  · intro earlier first later _ _
    exact (List.mem_filter.mp first).2

end Operation

/-- Whether the schema of a parameter says on its own that the value is required. -/
def Parameter.flagged (parameter : Parameter) : Bool := parameter.effectiveSchema.required.flagged

/-- Of two parameters that are both declared as optional, the later one is not the only one whose
schema has the flag. -/
def Parameter.FlagsInOrder (earlier later : Parameter) : Prop :=
  earlier.required = false → later.required = false → later.flagged = true →
    earlier.flagged = true

namespace Operation

variable (owner : String) (operation : Operation)

theorem required_parameterField (parameter : Parameter) :
    (parameterField owner parameter).required = (parameter.required || parameter.flagged) := rfl

theorem requiredFirst_parameters_iff (parameters : List Parameter) :
    RequiredFirst ((holdingFirst Parameter.required parameters).map (parameterField owner)) ↔
      parameters.Pairwise Parameter.FlagsInOrder := by
  rw [RequiredFirst, List.pairwise_map, holdingFirst, List.pairwise_append, List.pairwise_filter,
    List.pairwise_filter]
  simp only [required_parameterField]
  constructor
  · rintro ⟨-, optional, -⟩
    refine optional.imp ?_
    intro earlier later inOrder first second flagged
    simpa [first, second, flagged] using inOrder
  · intro inOrder
    refine ⟨List.pairwise_of_forall fun earlier later => ?_, ?_, ?_⟩
    · intro declared _ _
      simp [declared]
    · refine inOrder.imp ?_
      intro earlier later flags first second
      have early : earlier.required = false := by simpa using first
      have late : later.required = false := by simpa using second
      simpa [early, late] using flags early late
    · intro earlier declared later _ _
      simp [(List.mem_filter.mp declared).2]

/-- Required fields come first in all buckets exactly if, at each location, no parameter whose schema
has the flag stands behind one that is required in neither way and is declared as optional itself. A
request body in place puts the body bucket in order. -/
theorem required_first_iff :
    (∀ location, RequiredFirst ((operation.buckets owner).located location)) ↔
      ∀ location, location ≠ .cookie →
        (location = .body → operation.requestBody.bind Referable.value? = none) →
        (operation.parametersAt location).Pairwise Parameter.FlagsInOrder := by
  have once {location : Location} (kept : location ≠ .cookie)
      (free : location = .body → operation.requestBody.bind Referable.value? = none) :
      (operation.buckets owner).located location =
        (holdingFirst Parameter.required (operation.parametersAt location)).map
          (parameterField owner) := by
    rw [← located_parameterBuckets owner operation kept]
    by_cases isBody : location = .body
    · rw [(buckets_of_none owner operation (free isBody)).2]
    · exact located_buckets owner operation isBody
  constructor
  · intro ordered location kept free
    rw [← requiredFirst_parameters_iff owner, ← once kept free]
    exact ordered location
  · intro flags location
    by_cases isCookie : location = .cookie
    · rw [isCookie]
      exact .nil
    cases found : operation.requestBody.bind Referable.value? with
    | none =>
        rw [once isCookie fun _ => found, requiredFirst_parameters_iff]
        exact flags location isCookie fun _ => found
    | some body =>
        by_cases isBody : location = .body
        · obtain ⟨added, -, same⟩ := buckets_of_some owner operation found
          rw [isBody, same]
          exact requiredFirst_holdingFirst _
        · rw [once isCookie fun same => absurd same isBody, requiredFirst_parameters_iff]
          exact flags location isCookie fun same => absurd same isBody

/-- Two optional parameters of a query; the schema of the second has the flag. -/
def pagedOperation : Operation :=
  let number : Schema := { types := some (.one "integer") }
  { parameters :=
      [.inline { name := "limit", location := .query, schema := some number },
        .inline { name := "page", location := .query,
                  schema := some { number with required := .flag true } }] }

/-- The second field is required, and the first is not. -/
theorem flagged_parameter_not_first :
    ¬ ∀ location, RequiredFirst ((pagedOperation.buckets "ListPets").located location) := by
  intro ordered
  have disordered : ((pagedOperation.buckets "ListPets").located .query).map Field.required =
      [false, true] := by
    decide +kernel
  have query : (((pagedOperation.buckets "ListPets").located .query).map Field.required).Pairwise
      fun earlier later => later = true → earlier = true :=
    List.pairwise_map.mpr (ordered .query)
  rw [disordered] at query
  simp at query

end Operation

end ClientGen
