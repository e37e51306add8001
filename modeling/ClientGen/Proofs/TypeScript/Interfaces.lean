import ClientGen.Proofs.Endpoint.Carriers
import ClientGen.Proofs.TypeScript.LocalName
import ClientGen.Proofs.TypeScript.Modules

/-!
The interfaces of a module: which inline objects of its operations get one, and when the interface
has the fields of the object.
-/

set_option autoImplicit false

namespace ClientGen

/-! ## Inline objects of an operation -/

theorem Carrier.Reaches.solid {outer inner : Carrier} (reaches : outer.Reaches inner)
    (solid : TypeScript.Solid outer.name) : TypeScript.Solid inner.name := by
  induction reaches with
  | self carrier => exact solid
  | field _ _ ih => exact ih (solid.synthesized _)

namespace Endpoint

variable {name : String} {endpoint : Endpoint} {object : Carrier}

theorem HasObject.solid (has : HasObject name endpoint object) : TypeScript.Solid object.name := by
  obtain ⟨-, outer, isOuter, reaches⟩ := has
  have owner := TypeScript.solid_pascalCase name
  refine reaches.solid ?_
  rcases List.mem_append.mp isOuter with isParameter | isResponse
  · obtain ⟨field, -, rfl⟩ := List.mem_map.mp isParameter
    exact owner.synthesized field.name
  · rw [List.mem_singleton.mp isResponse]
    exact owner.response

end Endpoint

namespace TypeScript

open Endpoint (ObjectsFirst tagged mem_tagged mem_tags)

/-! ## Members -/

/-- The value of a string literal, after the quotation mark that opens it. -/
def literalValue : List Char → List Char
  | [] => []
  | '\\' :: char :: rest => char :: literalValue rest
  | char :: rest => if char = '"' then [] else char :: literalValue rest

/-- The name that the key of a member stands for. -/
def keyName (key : String) : String :=
  match key.toList with
  | '"' :: rest => String.ofList (literalValue rest)
  | _ => key

theorem literalValue_quoted (name : List Char) :
    literalValue (name.flatMap quotedChar ++ ['"']) = name := by
  induction name with
  | nil => rfl
  | cons char name ih =>
      by_cases backslash : char = '\\'
      · simp [quotedChar, backslash, literalValue, ih]
      · by_cases quote : char = '"'
        · simp [quotedChar, quote, literalValue, ih]
        · simp [quotedChar, backslash, quote, literalValue, ih]

theorem keyName_propertyKey (name : String) : keyName (propertyKey name) = name := by
  unfold propertyKey
  split
  · next identifier =>
      unfold keyName
      split
      · next quote =>
          rw [isIdentifier, quote] at identifier
          simp [startsIdentifier] at identifier
      · rfl
  · simp [keyName, quoted, quotedChars, literalValue_quoted]

/-- What an interface declares for a field: a member whose key stands for the name of the field. It has
the type of the field, and may be left out unless the field is required. -/
structure Shows (field : Field) (member : Member) : Prop where
  key : keyName member.key = field.name
  type : member.type = ofField field
  required : member.required = field.required

theorem shows_ofField (field : Field) : Shows field (Member.ofField field) :=
  ⟨keyName_propertyKey field.name, rfl, rfl⟩

/-! ## Collecting objects -/

variable {exported : List String} {locals after last : Locals} {endpoints : Entries Endpoint}

/-- Whether the objects that some fields carry are all there. -/
def Covers (locals : Locals) (fields : List Field) : Prop :=
  ∀ field ∈ fields, field.children ≠ [] → (localName field.type, field.children) ∈ locals

theorem Covers.mono {fields : List Field} (covers : Covers locals fields) (more : locals ⊆ after) :
    Covers after fields :=
  fun field member nonempty => more (covers field member nonempty)

/-- Objects under their names: no name is exported or stands for two objects, and the objects inside
of an object are among them. -/
structure Naming (exported : List String) (named : String → List Field → Prop) : Prop where
  free : ∀ name fields, named name fields → name ∉ exported
  same : ∀ name fields others, named name fields → named name others → fields = others
  below : ∀ name fields, named name fields → ∀ field ∈ fields, field.children ≠ [] →
    named (localName field.type) field.children

/-- What collecting does to the objects so far: none is lost, the new ones are named, and what is
inside of a new one is there as well. -/
structure Collected (named : String → List Field → Prop) (locals after : Locals) : Prop where
  kept : locals ⊆ after
  within : ∀ entry ∈ after, named entry.1 entry.2
  closed : ∀ entry ∈ after, entry ∈ locals ∨ Covers after entry.2

section Collecting

variable {named : String → List Field → Prop}

theorem Collected.refl (within : ∀ entry ∈ locals, named entry.1 entry.2) :
    Collected named locals locals :=
  ⟨fun _ member => member, within, fun _ member => .inl member⟩

theorem Collected.trans (first : Collected named locals after)
    (second : Collected named after last) : Collected named locals last where
  kept := fun _ member => second.kept (first.kept member)
  within := second.within
  closed entry member := by
    cases second.closed entry member with
    | inr covered => exact .inr covered
    | inl earlier =>
        cases first.closed entry earlier with
        | inl known => exact .inl known
        | inr covered => exact .inr (covered.mono second.kept)

/-- An object whose name is known is there itself. -/
theorem mem_of_isKnown (naming : Naming exported named) (within : ∀ entry ∈ locals, named entry.1 entry.2)
    {name : String} {fields : List Field} (isNamed : named name fields) (known : isKnown exported locals name) :
    (name, fields) ∈ locals := by
  rw [isKnown, Bool.or_eq_true, List.contains_iff_mem, List.any_eq_true] at known
  cases known with
  | inl inDefinitions => exact absurd inDefinitions (naming.free name fields isNamed)
  | inr there =>
      obtain ⟨entry, member, sameName⟩ := there
      have isName : entry.1 = name := of_decide_eq_true sameName
      have other := within entry member
      rw [isName] at other
      rw [naming.same name fields entry.2 isNamed other, ← isName]
      exact member

mutual

theorem collectField_collects (naming : Naming exported named) :
    (field : Field) → (locals : Locals) → (∀ entry ∈ locals, named entry.1 entry.2) →
      (field.children ≠ [] → named (localName field.type) field.children) →
      Collected named locals (collectField exported field locals) ∧
        (field.children ≠ [] →
          (localName field.type, field.children) ∈ collectField exported field locals)
  | ⟨_, type, _, _, _, _, _, _, properties⟩, locals, within, isNamed =>
      collectProperties_collects naming properties (localName type) locals within isNamed

theorem collectProperties_collects (naming : Naming exported named) :
    (properties : Option (List Field)) → (name : String) → (locals : Locals) →
      (∀ entry ∈ locals, named entry.1 entry.2) →
      (properties.getD [] ≠ [] → named name (properties.getD [])) →
      Collected named locals (collectProperties exported name properties locals) ∧
        (properties.getD [] ≠ [] →
          (name, properties.getD []) ∈ collectProperties exported name properties locals)
  | none, _, _, within, _ => ⟨.refl within, fun nonempty => absurd rfl nonempty⟩
  | some fields, name, locals, within, isNamed => by
      rw [collectProperties]
      split
      · next stop =>
          refine ⟨.refl within, fun nonempty => ?_⟩
          have known : isKnown exported locals name := by
            simpa [show fields ≠ [] from nonempty] using stop
          exact mem_of_isKnown naming within (isNamed nonempty) known
      · next go =>
          have nonempty : fields ≠ [] := by
            intro empty
            simp [empty] at go
          have now : named name fields := isNamed nonempty
          have extended : ∀ entry ∈ locals ++ [(name, fields)], named entry.1 entry.2 := by
            intro entry member
            rcases List.mem_append.mp member with earlier | new
            · exact within entry earlier
            · rw [List.mem_singleton.mp new]
              exact now
          obtain ⟨collected, covers⟩ := collectFields_collects naming fields
            (locals ++ [(name, fields)]) extended (naming.below name fields now)
          refine ⟨⟨fun _ member => ?_, collected.within, fun entry member => ?_⟩, fun _ => ?_⟩
          · exact collected.kept (List.mem_append_left _ member)
          · cases collected.closed entry member with
            | inr covered => exact .inr covered
            | inl earlier =>
                rcases List.mem_append.mp earlier with known | new
                · exact .inl known
                · rw [List.mem_singleton.mp new]
                  exact .inr covers
          · exact collected.kept (List.mem_append_right _ (.head _))

theorem collectFields_collects (naming : Naming exported named) :
    (fields : List Field) → (locals : Locals) → (∀ entry ∈ locals, named entry.1 entry.2) →
      (∀ field ∈ fields, field.children ≠ [] → named (localName field.type) field.children) →
      Collected named locals (collectFields exported fields locals) ∧
        Covers (collectFields exported fields locals) fields
  | [], _, within, _ => ⟨.refl within, fun _ member => absurd member (List.not_mem_nil)⟩
  | field :: rest, locals, within, isNamed => by
      obtain ⟨first, now⟩ :=
        collectField_collects naming field locals within (isNamed field (.head _))
      obtain ⟨second, later⟩ := collectFields_collects naming rest _ first.within
        fun other member => isNamed other (.tail _ member)
      rw [collectFields]
      refine ⟨first.trans second, fun other member => ?_⟩
      cases member with
      | head => exact fun nonempty => second.kept (now nonempty)
      | tail _ inRest => exact later other inRest

end

/-- The objects that an operation carries, as far as its parameters are declared. -/
theorem collectEndpoint_collects (naming : Naming exported named) {endpoint : Endpoint}
    (within : ∀ entry ∈ locals, named entry.1 entry.2)
    (parameters : ∀ field ∈ declaredParameters endpoint, field.children ≠ [] →
      named (localName field.type) field.children)
    (response : endpoint.response.properties ≠ [] →
      named (localName endpoint.response.type) endpoint.response.properties) :
    Collected named locals (collectEndpoint exported locals endpoint) ∧
      Covers (collectEndpoint exported locals endpoint) (declaredParameters endpoint) ∧
      (endpoint.response.properties ≠ [] →
        (localName endpoint.response.type, endpoint.response.properties) ∈
          collectEndpoint exported locals endpoint) := by
  obtain ⟨first, covers⟩ := collectFields_collects naming _ locals within parameters
  obtain ⟨second, there⟩ := collectProperties_collects naming (some endpoint.response.properties)
    (localName endpoint.response.type) _ first.within response
  exact ⟨first.trans second, covers.mono second.kept, there⟩

/-- Whether the objects of all operations are named. -/
def NamedIn (named : String → List Field → Prop) (endpoint : Endpoint) : Prop :=
  (∀ field ∈ declaredParameters endpoint, field.children ≠ [] →
      named (localName field.type) field.children) ∧
    (endpoint.response.properties ≠ [] →
      named (localName endpoint.response.type) endpoint.response.properties)

theorem localsOf_concat (exported : List String) (endpoints : Entries Endpoint)
    (entry : String × Endpoint) : localsOf exported (endpoints ++ [entry]) =
      collectEndpoint exported (localsOf exported endpoints) entry.2 := by
  rw [localsOf, List.foldl_append]
  rfl

theorem localsOf_collects (naming : Naming exported named)
    (isNamed : ∀ entry ∈ endpoints, NamedIn named entry.2) :
    Collected named [] (localsOf exported endpoints) ∧ ∀ entry ∈ endpoints,
      Covers (localsOf exported endpoints) (declaredParameters entry.2) ∧
        (entry.2.response.properties ≠ [] →
          (localName entry.2.response.type, entry.2.response.properties) ∈
            localsOf exported endpoints) := by
  induction endpoints using List.reverseRecOn with
  | nil => exact ⟨.refl (by simp), by simp⟩
  | append_singleton before entry ih =>
      obtain ⟨first, done⟩ := ih fun other member => isNamed other (List.mem_append_left _ member)
      obtain ⟨parameters, response⟩ := isNamed entry (List.mem_append_right _ (.head _))
      obtain ⟨second, covers, there⟩ :=
        collectEndpoint_collects naming first.within parameters response
      rw [localsOf_concat]
      refine ⟨first.trans second, fun other member => ?_⟩
      rcases List.mem_append.mp member with earlier | new
      · obtain ⟨covered, known⟩ := done other earlier
        exact ⟨covered.mono second.kept, fun nonempty => second.kept (known nonempty)⟩
      · rw [List.mem_singleton.mp new]
        exact ⟨covers, there⟩

end Collecting

/-! ## Parameters of one name -/

theorem declared_concat (fields : List Field) (field : Field) :
    distinctParameters (fields ++ [field]) =
      if (distinctParameters fields).any fun other => other.name = field.name then
        distinctParameters fields
      else distinctParameters fields ++ [field] := by
  rw [distinctParameters, List.foldl_append]
  rfl

theorem distinctParameters_subset (fields : List Field) : distinctParameters fields ⊆ fields := by
  induction fields using List.reverseRecOn with
  | nil => exact List.Subset.refl _
  | append_singleton before field ih =>
      rw [declared_concat]
      intro other member
      split at member
      · exact List.mem_append_left _ (ih member)
      · rcases List.mem_append.mp member with earlier | new
        · exact List.mem_append_left _ (ih earlier)
        · exact List.mem_append_right _ new

theorem exists_distinct {fields : List Field} {field : Field} (member : field ∈ fields) :
    ∃ shown ∈ distinctParameters fields, shown.name = field.name := by
  induction fields using List.reverseRecOn with
  | nil => cases member
  | append_singleton before last ih =>
      rw [declared_concat]
      split
      · next again =>
          rcases List.mem_append.mp member with earlier | new
          · exact ih earlier
          · rw [List.mem_singleton.mp new]
            obtain ⟨shown, isShown, same⟩ := List.any_eq_true.mp again
            exact ⟨shown, isShown, of_decide_eq_true same⟩
      · rcases List.mem_append.mp member with earlier | new
        · obtain ⟨shown, isShown, same⟩ := ih earlier
          exact ⟨shown, List.mem_append_left _ isShown, same⟩
        · rw [List.mem_singleton.mp new]
          exact ⟨last, List.mem_append_right _ (.head _), rfl⟩

/-! ## Interfaces of all objects -/

/-- Whether the inline objects of some operations can be told apart: none has the name of a
definition, those with one name have the same fields, and no parameter with one is hidden behind a
parameter of the same name without one. -/
structure ObjectsApart (exported : List String) (endpoints : Entries Endpoint) : Prop where
  free : ∀ entry ∈ endpoints, ∀ object, entry.2.HasObject entry.1 object →
    object.name ∉ exported
  same : ∀ entry ∈ endpoints, ∀ object, entry.2.HasObject entry.1 object →
    ∀ other ∈ endpoints, ∀ another, other.2.HasObject other.1 another →
      object.name = another.name → object.children = another.children
  shown : ∀ entry ∈ endpoints, ∀ hidden ∈ entry.2.parameters.all, hidden.children ≠ [] →
    ∀ shown ∈ declaredParameters entry.2, shown.name = hidden.name → shown.children ≠ []

def NamedBy (endpoints : Entries Endpoint) (name : String) (fields : List Field) : Prop :=
  ∃ entry ∈ endpoints, ∃ object, entry.2.HasObject entry.1 object ∧ object.name = name ∧
    object.children = fields

section Objects

variable {entry : String × Endpoint} {object : Carrier}

theorem localName_of_first (first : ObjectsFirst endpoints) (member : entry ∈ endpoints)
    (has : entry.2.HasObject entry.1 object) : localName object.type = object.name :=
  localName_of_headedBy has.solid (first entry member object has)

theorem naming_of_apart (apart : ObjectsApart exported endpoints)
    (first : ObjectsFirst endpoints) : Naming exported (NamedBy endpoints) where
  free := by
    rintro _ _ ⟨entry, member, object, has, rfl, rfl⟩
    exact apart.free entry member object has
  same := by
    rintro _ _ _ ⟨entry, member, object, has, rfl, rfl⟩ ⟨other, isOther, another, had, same, rfl⟩
    exact apart.same entry member object has other isOther another had same.symm
  below := by
    rintro _ _ ⟨entry, member, object, has, rfl, rfl⟩ field inObject nonempty
    have child := has.child inObject nonempty
    exact ⟨entry, member, _, child, (localName_of_first first member child).symm, rfl⟩

theorem mem_of_reaches {outer : Carrier} (reaches : outer.Reaches object)
    (nonempty : object.children ≠ []) (closed : ∀ entry ∈ locals, Covers locals entry.2)
    (named : ∀ inner, outer.Reaches inner → inner.children ≠ [] →
      localName inner.type = inner.name)
    (there : outer.children ≠ [] → (outer.name, outer.children) ∈ locals) :
    (object.name, object.children) ∈ locals := by
  induction reaches with
  | self carrier => exact there nonempty
  | @field outer inner field member inside ih =>
      refine ih nonempty (fun last reaches => named last (.field member reaches)) fun carries => ?_
      have isThere := there (List.ne_nil_of_mem member)
      have isName : localName field.type = Names.synthesized outer.name field.name :=
        named (.ofField outer.name field) (.field member (.self _)) carries
      have child := closed _ isThere field member carries
      rw [isName] at child
      exact child

/-- All inline objects of some operations are collected for their module. -/
theorem mem_localsOf (apart : ObjectsApart exported endpoints) (first : ObjectsFirst endpoints)
    (member : entry ∈ endpoints) (has : entry.2.HasObject entry.1 object) :
    (object.name, object.children) ∈ localsOf exported endpoints := by
  have carried {entry : String × Endpoint} (member : entry ∈ endpoints) (carrier : Carrier)
      (isCarrier : carrier ∈ entry.2.carriers entry.1) (nonempty : carrier.children ≠ []) :
      NamedBy endpoints (localName carrier.type) carrier.children := by
    have has : entry.2.HasObject entry.1 carrier := ⟨nonempty, carrier, isCarrier, .self _⟩
    exact ⟨entry, member, carrier, has, (localName_of_first first member has).symm, rfl⟩
  have isNamed : ∀ entry ∈ endpoints, NamedIn (NamedBy endpoints) entry.2 := by
    intro entry member
    constructor
    · intro field declared nonempty
      have isParameter := distinctParameters_subset _ declared
      have named := carried member _ (Endpoint.parameter_mem_carriers entry.1 isParameter) nonempty
      exact named
    · intro nonempty
      have named := carried member _ (List.mem_append_right _ (.head _)) nonempty
      exact named
  obtain ⟨collected, covered⟩ := localsOf_collects (naming_of_apart apart first) isNamed
  obtain ⟨parameters, response⟩ := covered entry member
  have closed : ∀ entry ∈ localsOf exported endpoints,
      Covers (localsOf exported endpoints) entry.2 := by
    intro entry isLocal
    exact (collected.closed entry isLocal).resolve_left List.not_mem_nil
  obtain ⟨nonempty, outer, isOuter, reaches⟩ := has
  refine mem_of_reaches reaches nonempty closed (fun inner reached carries => ?_) fun carries => ?_
  · exact localName_of_first first member ⟨carries, outer, isOuter, reached⟩
  have isObject : entry.2.HasObject entry.1 outer := ⟨carries, outer, isOuter, .self _⟩
  rcases List.mem_append.mp isOuter with isParameter | isResponse
  · -- The parameter itself may be hidden, but then one of its name stands for it.
    obtain ⟨field, listed, rfl⟩ := List.mem_map.mp isParameter
    obtain ⟨shown, isShown, sameName⟩ := exists_distinct listed
    have carriesToo := apart.shown entry member field listed carries shown isShown sameName
    have isCarrier := Endpoint.parameter_mem_carriers entry.1
      (distinctParameters_subset _ isShown)
    have isToo : entry.2.HasObject entry.1 (.ofField (Text.pascalCase entry.1) shown) :=
      ⟨carriesToo, _, isCarrier, .self _⟩
    have sameObject : Names.synthesized (Text.pascalCase entry.1) shown.name =
        Names.synthesized (Text.pascalCase entry.1) field.name := by rw [sameName]
    have sameChildren : shown.children = field.children :=
      apart.same entry member _ isToo entry member _ isObject sameObject
    have isName : localName shown.type = Names.synthesized (Text.pascalCase entry.1) field.name :=
      (localName_of_first first member isToo).trans sameObject
    have there := parameters shown isShown carriesToo
    rw [isName, sameChildren] at there
    exact there
  · rw [← localName_of_first first member isObject]
    rw [List.mem_singleton.mp isResponse] at carries ⊢
    exact response carries

end Objects

/-- For every document whose inline objects come first in their schemas, and can be told apart: the
module for the tag of an operation has an interface for each inline object of the operation, under
the name of the object and with its fields. -/
theorem inline_objects_declared (rules : PathRules) (document : Document) (model : ApiModel)
    (resolved : (ApiModel.ofDocument rules document).value = model)
    (front : ∀ candidate ∈ Candidate.ofPaths rules.filter document.paths, ∀ schema,
      candidate.operation.Describes schema → schema.InFront)
    (apart : ∀ tag,
      ObjectsApart (model.definitions.names.map Names.base) (tagged model.endpoints tag)) :
    ∀ entry ∈ model.endpoints, ∃ module ∈ modules model.definitions model.endpoints,
      module.tag = entry.2.tag ∧ ∀ object, entry.2.HasObject entry.1 object →
        (object.name, object.children.map Member.ofField) ∈ module.interfaces ∧
          ∀ field ∈ object.children, Shows field (Member.ofField field) := by
  subst resolved
  intro entry member
  obtain ⟨tag, -, -, interfaces⟩ := ofEndpoints_parts
    ((ApiModel.ofDocument rules document).value.definitions.names.map Names.base) entry.2.tag
    (tagged (ApiModel.ofDocument rules document).value.endpoints entry.2.tag)
  refine ⟨_, mem_modules member, tag, fun object has => ?_⟩
  have first := Candidate.objectsFirst_ofPaths front
  have isLocal := mem_localsOf (apart entry.2.tag)
    (fun other isTagged => first other (List.mem_of_mem_filter isTagged)) (mem_tagged member) has
  refine ⟨?_, fun field _ => shows_ofField field⟩
  rw [interfaces]
  exact List.mem_map.mpr ⟨_, isLocal, rfl⟩

def ownerSchema : Schema where
  types := some (.one "object")
  properties := [("city", { types := some (.one "string") })]

/-- Pets, with an owner each. -/
def petSchema : Schema where
  types := some (.one "object")
  properties := [("owner", ownerSchema)]

/-- A document with one operation that answers with something. -/
def answering (schema : Schema) : Document where
  paths := [("/pet", { get := some {
    operationId := some "getPet"
    tags := ["pet"]
    responses := [("200", .inline { schema := some schema })] } })]

def ownerFields : List Field := [{ name := "city", type := "string" }]

def petFields : List Field :=
  [{ name := "owner", type := "GetPetResponseOwner", properties := some ownerFields }]

/-- The operation of the document about pets. -/
def petEndpoint : Endpoint where
  url := "/pet"
  method := .get
  response := { type := "GetPetResponse", properties := petFields }
  tag := "pet"

theorem carriers_petEndpoint :
    petEndpoint.carriers "getPet" = [⟨"GetPetResponse", "GetPetResponse", petFields⟩] := by
  have owner : Text.pascalCase "getPet" = "GetPet" := by decide +kernel
  rw [Endpoint.carriers, owner]
  rfl

theorem ofField_petFields {field : Field} (member : field ∈ petFields) :
    Carrier.ofField "GetPetResponse" field =
      ⟨"GetPetResponseOwner", "GetPetResponseOwner", ownerFields⟩ := by
  have name : Names.synthesized "GetPetResponse" "owner" = "GetPetResponseOwner" := by
    decide +kernel
  cases List.mem_singleton.mp member
  rw [Carrier.ofField, name]
  rfl

/-- The name of an object tells its fields. -/
theorem children_petEndpoint {object : Carrier} (has : petEndpoint.HasObject "getPet" object) :
    object.children = if object.name = "GetPetResponse" then petFields else ownerFields := by
  obtain ⟨nonempty, outer, isOuter, reaches⟩ := has
  rw [carriers_petEndpoint, List.mem_singleton] at isOuter
  subst isOuter
  cases reaches with
  | self _ => rfl
  | field member inside =>
      rw [ofField_petFields member] at inside
      cases inside with
      | self _ => rfl
      | field member inside =>
          cases List.mem_singleton.mp member
          cases inside with
          | self _ => exact absurd rfl nonempty
          | field none _ => cases none

theorem objectsApart_petEndpoint (tag : String) :
    ObjectsApart [] (tagged [("getPet", petEndpoint)] tag) := by
  have only {entry : String × Endpoint} (member : entry ∈ tagged [("getPet", petEndpoint)] tag) :
      entry = ("getPet", petEndpoint) :=
    List.mem_singleton.mp (List.mem_of_mem_filter member)
  constructor
  · exact fun _ _ _ _ => List.not_mem_nil
  · intro entry member object has other isOther another had same
    cases only member
    cases only isOther
    rw [children_petEndpoint has, children_petEndpoint had, same]
  · intro entry member hidden isHidden
    cases only member
    cases isHidden

theorem inFront_ownerSchema : ownerSchema.InFront := by
  refine .worded ⟨rfl, rfl, rfl⟩ (.inl ⟨rfl, rfl⟩) (fun array => ?_) fun _ entry member => ?_
  · exact absurd array (by decide)
  · rw [List.mem_singleton.mp member]
    refine .bare (.worded ⟨rfl, rfl, rfl⟩ (by decide) fun array => ?_)
    exact absurd array (by decide)

theorem inFront_petSchema : petSchema.InFront := by
  refine .worded ⟨rfl, rfl, rfl⟩ (.inl ⟨rfl, rfl⟩) (fun array => ?_) fun _ entry member => ?_
  · exact absurd array (by decide)
  · rw [List.mem_singleton.mp member]
    exact inFront_ownerSchema

/-- A pet in a response and its owner both get their interfaces. -/
theorem inline_objects_declared_pet :
    ∃ module ∈ modules {} [("getPet", petEndpoint)], module.tag = "pet" ∧
      ("GetPetResponse", [⟨"owner", "GetPetResponseOwner", false, ""⟩]) ∈ module.interfaces ∧
      ("GetPetResponseOwner", [⟨"city", "string", false, ""⟩]) ∈ module.interfaces := by
  have resolved : (ApiModel.ofDocument {} (answering petSchema)).value =
      { definitions := {}, endpoints := [("getPet", petEndpoint)] } := by
    rfl
  have front : ∀ candidate ∈ Candidate.ofPaths {} (answering petSchema).paths, ∀ schema,
      candidate.operation.Describes schema → schema.InFront := by
    intro candidate member schema describes
    cases List.mem_singleton.mp member
    cases describes with
    | parameter none => cases none
    | body none => cases none
    | reply found isSchema =>
        cases found
        cases isSchema
        exact inFront_petSchema
  obtain ⟨module, isModule, tag, declared⟩ := inline_objects_declared {} (answering petSchema) _
    resolved front objectsApart_petEndpoint _ (.head _)
  have isPet : ⟨"GetPetResponse", "GetPetResponse", petFields⟩ ∈ petEndpoint.carriers "getPet" := by
    rw [carriers_petEndpoint]
    exact .head _
  have pet : petFields.map Member.ofField = [⟨"owner", "GetPetResponseOwner", false, ""⟩] := by
    decide +kernel
  have owner : ownerFields.map Member.ofField = [⟨"city", "string", false, ""⟩] := by decide +kernel
  rw [← pet, ← owner]
  refine ⟨module, isModule, tag, (declared ⟨"GetPetResponse", "GetPetResponse", petFields⟩ ?_).1,
    (declared ⟨"GetPetResponseOwner", "GetPetResponseOwner", ownerFields⟩ ?_).1⟩
  · exact ⟨List.cons_ne_nil _ _, _, isPet, .self _⟩
  · refine ⟨List.cons_ne_nil _ _, _, isPet, .field (.head _) ?_⟩
    rw [ofField_petFields (.head _)]
    exact .self _

/-- A list of pets each of which may be null. -/
def nullablePets : Schema where
  types := some (.one "array")
  items := some { petSchema with nullable := some true }

/-- The pets carry an inline object, but no module declares an interface of its name: what is
declared has half of their type for its name. -/
theorem nullable_items_undeclared :
    (∃ entry ∈ (ApiModel.ofDocument {} (answering nullablePets)).value.endpoints, ∃ object,
      entry.2.HasObject entry.1 object ∧ object.name = "GetPetResponse" ∧
        object.type = "Array<GetPetResponse | null>") ∧
    (modules (ApiModel.ofDocument {} (answering nullablePets)).value.definitions
        (ApiModel.ofDocument {} (answering nullablePets)).value.endpoints).map
        (fun module => module.interfaces.map (·.1)) =
      [["Array<GetPetResponse", "GetPetResponseOwner"]] := by
  refine ⟨?_, by decide +kernel⟩
  have found : (ApiModel.ofDocument {} (answering nullablePets)).value.endpoints.map
      (fun entry => (entry.1, entry.2.response.type, entry.2.response.properties.isEmpty)) =
      [("getPet", "Array<GetPetResponse | null>", false)] := by decide +kernel
  obtain ⟨entry, single, isFound⟩ := List.map_eq_singleton_iff.mp found
  simp only [Prod.mk.injEq] at isFound
  obtain ⟨name, type, carries⟩ := isFound
  have owner : Text.pascalCase "getPet" ++ "Response" = "GetPetResponse" := by decide +kernel
  refine ⟨entry, single ▸ .head _, _, ⟨?_, _, List.mem_append_right _ (.head _), .self _⟩, ?_, type⟩
  · intro empty
    simp [show entry.2.response.properties = [] from empty] at carries
  · rw [← owner, ← name]

end TypeScript

end ClientGen
