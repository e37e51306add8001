import ClientGen.Definitions.OfSchemas
import ClientGen.Proofs.Resolve.Forms
import ClientGen.Proofs.Text.Search

/-!
References to definitions, and how much of them resolving looks at. A reference may point into a
section of the document, into another document or be a bare name; all that counts is what follows
its last slash.
-/

set_option autoImplicit false

namespace ClientGen

namespace Names

open Text (not_mem_afterLast afterLast_of_plain afterLast_append_cons afterLast_cases)

def lastSegment (reference : String) : String :=
  String.ofList (Text.afterLast '/' reference.toList)

theorem ofReference_lastSegment (reference : String) :
    ofReference (lastSegment reference) = ofReference reference := by
  unfold ofReference lastSegment
  rw [String.toList_ofList, afterLast_of_plain (not_mem_afterLast '/' reference.toList)]

/-- A reference is a name, or it has a slash before the name. -/
def PointsAt (name reference : String) : Prop :=
  reference = name ∨ ∃ before, reference = before ++ "/" ++ name

theorem lastSegment_of_pointsAt {name reference : String} (plain : '/' ∉ name.toList)
    (points : PointsAt name reference) : lastSegment reference = name := by
  unfold lastSegment
  cases points with
  | inl same => rw [same, afterLast_of_plain plain, String.ofList_toList]
  | inr longer =>
      obtain ⟨before, rfl⟩ := longer
      have chars : (before ++ "/" ++ name).toList = before.toList ++ '/' :: name.toList := by simp
      rw [chars, afterLast_append_cons before.toList plain, String.ofList_toList]

theorem pointsAt_lastSegment (reference : String) : PointsAt (lastSegment reference) reference := by
  unfold lastSegment
  cases afterLast_cases '/' reference.toList with
  | inl same => exact .inl (by rw [same, String.ofList_toList])
  | inr longer =>
      obtain ⟨before, split⟩ := longer
      refine .inr ⟨String.ofList before, ?_⟩
      apply String.toList_injective
      simpa using split

/-- The last segments of two references are the same exactly if one of them is the other with
another text before the last slash. -/
theorem lastSegment_eq_iff {first second : String} :
    lastSegment first = lastSegment second ↔
      ∃ name : String, '/' ∉ name.toList ∧ PointsAt name first ∧ PointsAt name second := by
  constructor
  · intro same
    refine ⟨lastSegment first, ?_, pointsAt_lastSegment first, same ▸ pointsAt_lastSegment second⟩
    rw [lastSegment, String.toList_ofList]
    exact not_mem_afterLast '/' first.toList
  · rintro ⟨name, plain, atFirst, atSecond⟩
    rw [lastSegment_of_pointsAt plain atFirst, lastSegment_of_pointsAt plain atSecond]

end Names

/-! ## Changing the references in a schema -/

def Additional.map {Value Other : Type} (change : Value → Other) :
    Additional Value → Additional Other
  | .allowed value => .allowed value
  | .described value => .described (change value)

namespace Schema

section

variable (change : String → String)

mutual

/-- A schema with all references in it changed, at any depth. -/
def mapReferences : Schema → Schema
  | ⟨reference, types, format, title, description, defaultValue, nullable, properties, required,
      additional, items, allOf, enumValues⟩ =>
      ⟨reference.map change, types, format, title, description, defaultValue, nullable,
        mapProperties properties, required, mapValues additional, mapItems items, mapParts allOf,
        enumValues⟩

def mapProperties : List (String × Schema) → List (String × Schema)
  | [] => []
  | (name, schema) :: rest => (name, mapReferences schema) :: mapProperties rest

def mapValues : Option (Additional Schema) → Option (Additional Schema)
  | some (.described values) => some (.described (mapReferences values))
  | some (.allowed value) => some (.allowed value)
  | none => none

def mapItems : Option Schema → Option Schema
  | some items => some (mapReferences items)
  | none => none

def mapParts : List Schema → List Schema
  | [] => []
  | part :: rest => mapReferences part :: mapParts rest

end

end

variable (change : String → String) (schema : Schema)

theorem mapProperties_eq (properties : List (String × Schema)) :
    mapProperties change properties =
      properties.map fun entry => (entry.1, entry.2.mapReferences change) := by
  induction properties with
  | nil => rfl
  | cons entry rest ih => rw [mapProperties, ih, List.map_cons]

theorem mapParts_eq (parts : List Schema) :
    mapParts change parts = parts.map (mapReferences change) := by
  induction parts with
  | nil => rfl
  | cons part rest ih => rw [mapParts, ih, List.map_cons]

theorem mapValues_eq (additional : Option (Additional Schema)) :
    mapValues change additional = additional.map (Additional.map (mapReferences change)) := by
  cases additional with
  | none => rfl
  | some additional => cases additional <;> rfl

theorem mapReferences_eq : schema.mapReferences change =
    { schema with
      reference := schema.reference.map change
      properties := schema.properties.map fun entry => (entry.1, entry.2.mapReferences change)
      additional := schema.additional.map (Additional.map (mapReferences change))
      items := schema.items.map (mapReferences change)
      allOf := schema.allOf.map (mapReferences change) } := by
  obtain ⟨_, _, _, _, _, _, _, _, _, _, items, _, _⟩ := schema
  rw [mapReferences, mapProperties_eq, mapParts_eq, mapValues_eq]
  cases items <;> rfl

theorem reference_mapReferences :
    (schema.mapReferences change).reference = schema.reference.map change := by
  rw [mapReferences_eq]

theorem enumValues_mapReferences :
    (schema.mapReferences change).enumValues = schema.enumValues := by
  rw [mapReferences_eq]

theorem nullable_mapReferences :
    (schema.mapReferences change).nullable = schema.nullable := by
  rw [mapReferences_eq]

theorem hasProperties_mapReferences :
    (schema.mapReferences change).hasProperties = schema.hasProperties := by
  rw [mapReferences_eq]
  simp only [hasProperties, List.isEmpty_map]

theorem mapsValues_mapReferences :
    (schema.mapReferences change).mapsValues = schema.mapsValues := by
  unfold mapsValues
  rw [hasProperties_mapReferences, mapReferences_eq]
  cases schema.additional with
  | none => rfl
  | some additional => cases additional <;> rfl

theorem typeWords_mapReferences :
    (schema.mapReferences change).typeWords = schema.typeWords := by
  unfold typeWords
  rw [hasProperties_mapReferences, mapsValues_mapReferences, mapReferences_eq]
  simp only [Option.isSome_map]

theorem soleMember?_mapReferences :
    (schema.mapReferences change).soleMember? =
      schema.soleMember?.map (mapReferences change) := by
  rw [mapReferences_eq]
  unfold soleMember?
  cases schema.allOf with
  | nil => rfl
  | cons part rest =>
      cases rest with
      | cons second rest => rfl
      | nil =>
          simp only [List.map_cons, List.map_nil, Option.isNone_map, List.isEmpty_map]
          split <;> rfl

end Schema

namespace Resolve

open Schema (mapReferences mapReferences_eq)

variable {change : String → String} {mode : Mode} {mappings : Entries String}

theorem fieldOf_mapReferences (name : String) (required : Bool) (schema : Schema)
    (resolved : ResolvedType) :
    fieldOf name required (schema.mapReferences change) resolved =
      fieldOf name required schema resolved := by
  unfold fieldOf Schema.unwrapSoleMember?
  rw [Schema.soleMember?_mapReferences]
  cases schema.soleMember? with
  | none => rw [mapReferences_eq]; rfl
  | some sole =>
      simp only [Option.map_some, Option.getD_some]
      rw [mapReferences_eq change sole, mapReferences_eq change schema]

/-- Whether the types of a schema are the same after the references in it are changed. -/
def SameTypes (change : String → String) (mode : Mode) (mappings : Entries String)
    (schema : Schema) : Prop :=
  ∀ name, type mode mappings name (schema.mapReferences change) = type mode mappings name schema

theorem propertyFields_mapReferences (owner : String) (isRequired : String → Bool)
    {properties : List (String × Schema)}
    (same : ∀ entry ∈ properties, SameTypes change mode mappings entry.2) (done : List Field) :
    propertyFields mode mappings owner isRequired done
        (properties.map fun entry => (entry.1, entry.2.mapReferences change)) =
      propertyFields mode mappings owner isRequired done properties := by
  induction properties generalizing done with
  | nil => rfl
  | cons entry rest ih =>
      obtain ⟨name, schema⟩ := entry
      have here : SameTypes change mode mappings schema := same _ List.mem_cons_self
      have later := ih fun entry member => same entry (List.mem_cons_of_mem _ member)
      simp only [List.map_cons, propertyFields, later, here (Names.synthesized owner name),
        fieldOf_mapReferences]

theorem partFields_mapReferences (owner : String) (isRequired : String → Bool)
    {parts : List Schema}
    (same : ∀ part ∈ parts, part.reference = none →
      ∀ entry ∈ part.properties, SameTypes change mode mappings entry.2) (done : List Field) :
    partFields mode mappings owner isRequired done (parts.map (mapReferences change)) =
      partFields mode mappings owner isRequired done parts := by
  induction parts generalizing done with
  | nil => rfl
  | cons part rest ih =>
      have here := same part List.mem_cons_self
      have later := ih fun part member => same part (List.mem_cons_of_mem _ member)
      rw [List.map_cons, mapReferences_eq]
      obtain ⟨reference, _, _, _, _, _, _, properties, required, _, _, _, _⟩ := part
      cases reference with
      | some path => simp only [Option.map_some, partFields, Option.isSome_some, if_true, later]
      | none =>
          have own := propertyFields_mapReferences owner
            (fun name => required.lists name || isRequired name) (here rfl)
          simp only [Option.map_none, partFields, Option.isSome_none, later, own]

theorem object_mapReferences (owner : String) {schema : Schema}
    (same : ∀ entry ∈ schema.declaredProperties, SameTypes change mode mappings entry.2) :
    object mode mappings owner (schema.mapReferences change) =
      object mode mappings owner schema := by
  have parts (done : List Field) := partFields_mapReferences owner schema.required.lists
    (fun part member inline entry isProperty => same entry (by
      apply List.mem_append_right
      exact List.mem_flatMap.mpr ⟨part, member, by simpa [inline] using isProperty⟩)) done
  unfold object
  rw [mapReferences_eq]
  simp only [Option.isSome_map, parts]
  cases inline : schema.reference with
  | some path => rfl
  | none =>
      have own := propertyFields_mapReferences owner schema.required.lists
        (fun entry member => same entry (List.mem_append_left _ (by simpa [inline] using member))) []
      simp only [Option.isSome_none, own]

theorem itemType_mapReferences (name : String) {items : Option Schema}
    (same : ∀ schema, items = some schema → SameTypes change mode mappings schema) :
    itemType mode mappings name (items.map (mapReferences change)) =
      itemType mode mappings name items := by
  cases items with
  | none => rfl
  | some schema => exact same schema rfl name

theorem mapValueType_mapReferences (name : String) {additional : Option (Additional Schema)}
    (same : ∀ schema, additional = some (.described schema) →
      SameTypes change mode mappings schema) :
    mapValueType mode mappings name (additional.map (Additional.map (mapReferences change))) =
      mapValueType mode mappings name additional := by
  cases additional with
  | none => rfl
  | some additional =>
      cases additional with
      | allowed value => rfl
      | described schema => exact same schema rfl name

/-- Changes that keep the names that references point at leave all types as they are. -/
theorem type_mapReferences
    (keeps : ∀ reference, Names.ofReference (change reference) = Names.ofReference reference)
    (schema : Schema) : SameTypes change mode mappings schema := by
  induction schema using Schema.induction_below with
  | step schema ofSole ofItems ofValues ofProperties =>
      intro name
      have reference := Schema.reference_mapReferences change schema
      have choices := Schema.enumValues_mapReferences change schema
      have sole := Schema.soleMember?_mapReferences change schema
      -- The form of the schema is the same after the change.
      cases schema.form with
      | combined only single =>
          rw [single] at sole
          rw [type_of_sole mode mappings name sole, type_of_sole mode mappings name single]
          exact ofSole only single name
      | referring path refers =>
          rw [refers] at reference
          rw [type_of_reference mode mappings name reference,
            type_of_reference mode mappings name refers, referenceType, keeps]
          rfl
      | listed several inline listed =>
          rw [inline] at reference
          rw [several] at sole
          rw [type_of_enum mode mappings name sole reference (choices ▸ listed),
            type_of_enum mode mappings name several inline listed, choices]
      | worded several inline free =>
          rw [inline] at reference
          rw [several] at sole
          rw [free] at choices
          have words : addWord mode mappings name (schema.mapReferences change) =
              addWord mode mappings name schema := by
            funext found word
            have objects (owner : String) := object_mapReferences owner ofProperties
            unfold addWord
            simp only [Schema.hasProperties_mapReferences, Schema.mapsValues_mapReferences, objects]
            rw [mapReferences_eq]
            simp only [itemType_mapReferences name ofItems, mapValueType_mapReferences name ofValues]
          rw [type_of_words mode mappings name sole reference choices,
            type_of_words mode mappings name several inline free, words,
            Schema.nullable_mapReferences, Schema.typeWords_mapReferences]

end Resolve

/-! ## Definitions -/

def Entries.mapValues {Value Other : Type} (change : Value → Other) (entries : Entries Value) :
    Entries Other :=
  entries.map fun entry => (entry.1, change entry.2)

namespace Definitions

variable {change : String → String}

theorem add_mapReferences
    (keeps : ∀ reference, Names.ofReference (change reference) = Names.ofReference reference)
    (reserved : List String) (key : String) (schema : Schema) :
    add reserved key (schema.mapReferences change) = add reserved key schema := by
  have objects (owner : String) (mappings : Entries String) :
      Resolve.object (.registering reserved) mappings owner (schema.mapReferences change) =
        Resolve.object (.registering reserved) mappings owner schema :=
    Resolve.object_mapReferences owner fun entry _ => Resolve.type_mapReferences keeps entry.2
  unfold add enumeration
  simp only [objects]
  rw [Schema.mapReferences_eq]

theorem ofSchemas_mapReferences
    (keeps : ∀ reference, Names.ofReference (change reference) = Names.ofReference reference)
    (schemas : Entries Schema) :
    ofSchemas (schemas.mapValues (Schema.mapReferences change)) = ofSchemas schemas := by
  have all (reserved : List String) (schemas : Entries Schema) :
      addAll reserved (schemas.mapValues (Schema.mapReferences change)) =
        addAll reserved schemas := by
    induction schemas with
    | nil => rfl
    | cons entry rest ih =>
        unfold Entries.mapValues at ih ⊢
        simp only [List.map_cons, addAll, add_mapReferences keeps, ih]
  have names : reservedNames (schemas.mapValues (Schema.mapReferences change)) =
      reservedNames schemas := by
    simp [reservedNames, Entries.mapValues, Entries.keys, Function.comp_def]
  rw [ofSchemas, names, all]
  rfl

end Definitions

end ClientGen
