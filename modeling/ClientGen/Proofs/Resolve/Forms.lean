import ClientGen.Resolve
import Mathlib.Data.List.Basic

/-!
The forms of a schema, as resolving tells them apart: a combination with a sole member, a reference,
an enumeration, or words that are resolved one after the other. Below a schema lie the schemas that
resolving goes on to, and all of them are smaller.
-/

set_option autoImplicit false

namespace ClientGen

namespace Schema

def hasProperties (schema : Schema) : Bool := !schema.properties.isEmpty

/-- Whether the schema describes the values of a map. Properties of its own make it an object. -/
def mapsValues (schema : Schema) : Bool :=
  match schema.additional with
  | some (.described _) => !schema.hasProperties
  | _ => false

def typeWords (schema : Schema) : List String :=
  Resolve.effectiveWords schema.types schema.hasProperties schema.mapsValues schema.items.isSome

/-- The properties of an object and then those of the inline members of its combination. -/
def declaredProperties (schema : Schema) : List (String × Schema) :=
  (if schema.reference.isSome then [] else schema.properties) ++
    schema.allOf.flatMap fun part => if part.reference.isSome then [] else part.properties

mutual

/-- The objects that a schema describes in place: itself, or those in the items of an array, in the
values of a map or in the sole member of a combination. -/
def inlineObjects : Schema → List Schema
  | ⟨reference, types, format, title, description, defaultValue, nullable, properties, required,
      additional, items, allOf, enumValues⟩ =>
      let schema : Schema := ⟨reference, types, format, title, description, defaultValue, nullable,
        properties, required, additional, items, allOf, enumValues⟩
      if schema.soleMember?.isSome then inlineObjectsOfFirst allOf
      else if reference.isSome || !enumValues.isEmpty then []
      else
        (if "array" ∈ schema.typeWords then inlineObjectsOfItems items else []) ++
          if "object" ∈ schema.typeWords then
            if schema.hasProperties then [schema]
            else if schema.mapsValues then inlineObjectsOfValues additional
            else []
          else []

def inlineObjectsOfFirst : List Schema → List Schema
  | [] => []
  | first :: _ => inlineObjects first

def inlineObjectsOfItems : Option Schema → List Schema
  | none => []
  | some items => inlineObjects items

def inlineObjectsOfValues : Option (Additional Schema) → List Schema
  | some (.described values) => inlineObjects values
  | _ => []

end

/-! ## Forms -/

/-- The form of a schema. -/
inductive Form (schema : Schema) : Prop where
  | combined (sole : Schema) : schema.soleMember? = some sole → Form schema
  | referring (path : String) : schema.reference = some path → Form schema
  | listed : schema.soleMember? = none → schema.reference = none → schema.enumValues ≠ [] →
      Form schema
  | worded : schema.soleMember? = none → schema.reference = none → schema.enumValues = [] →
      Form schema

theorem form (schema : Schema) : Form schema := by
  cases single : schema.soleMember? with
  | some sole => exact .combined sole single
  | none =>
      cases refers : schema.reference with
      | some path => exact .referring path refers
      | none =>
          by_cases free : schema.enumValues = []
          · exact .worded single refers free
          · exact .listed single refers free

theorem allOf_of_soleMember? {schema sole : Schema} (single : schema.soleMember? = some sole) :
    schema.reference = none ∧ schema.properties = [] ∧ schema.allOf = [sole] := by
  unfold soleMember? at single
  split at single
  · next member only =>
      rw [Option.ite_none_right_eq_some, Option.some.injEq] at single
      obtain ⟨plain, rfl⟩ := single
      rw [Bool.and_eq_true, Option.isNone_iff_eq_none, List.isEmpty_iff] at plain
      exact ⟨plain.1, plain.2, only⟩
  · cases single

theorem soleMember?_of_reference {schema : Schema} {path : String}
    (refers : schema.reference = some path) : schema.soleMember? = none := by
  cases single : schema.soleMember? with
  | none => rfl
  | some sole => cases refers.symm.trans (allOf_of_soleMember? single).1

theorem inlineObjects_of_sole {schema sole : Schema} (single : schema.soleMember? = some sole) :
    schema.inlineObjects = sole.inlineObjects := by
  obtain ⟨-, -, only⟩ := allOf_of_soleMember? single
  obtain ⟨_, _, _, _, _, _, _, _, _, _, _, allOf, _⟩ := schema
  simp only at only
  subst only
  simp only [inlineObjects, single, Option.isSome_some, if_true, inlineObjectsOfFirst]

theorem inlineObjects_of_words {schema : Schema} (several : schema.soleMember? = none)
    (inline : schema.reference = none) (free : schema.enumValues = []) :
    schema.inlineObjects =
      (if "array" ∈ schema.typeWords then inlineObjectsOfItems schema.items else []) ++
        if "object" ∈ schema.typeWords then
          if schema.hasProperties then [schema]
          else if schema.mapsValues then inlineObjectsOfValues schema.additional
          else []
        else [] := by
  obtain ⟨reference, types, _, _, _, _, _, properties, _, additional, items, allOf, enumValues⟩ :=
    schema
  simp only at inline free
  subst inline free
  simp [inlineObjects, several]

theorem inlineObjects_of_reference {schema : Schema} {path : String}
    (refers : schema.reference = some path) : schema.inlineObjects = [] := by
  have several := soleMember?_of_reference refers
  obtain ⟨_, _, _, _, _, _, _, _, _, _, _, _, _⟩ := schema
  simp only at refers
  subst refers
  simp [inlineObjects, several]

theorem inlineObjects_of_listed {schema : Schema} (several : schema.soleMember? = none)
    (listed : schema.enumValues ≠ []) : schema.inlineObjects = [] := by
  obtain ⟨_, _, _, _, _, _, _, _, _, _, _, _, _⟩ := schema
  simp only at listed
  simp [inlineObjects, several, listed]

theorem exists_values {schema : Schema} (maps : schema.mapsValues = true) :
    ∃ values, schema.additional = some (.described values) := by
  unfold mapsValues at maps
  split at maps
  · next values found => exact ⟨values, found⟩
  · cases maps

/-! ## Schemas below a schema -/

theorem sizeOf_soleMember? {schema sole : Schema} (single : schema.soleMember? = some sole) :
    sizeOf sole < sizeOf schema := by
  obtain ⟨-, -, only⟩ := allOf_of_soleMember? single
  obtain ⟨_, _, _, _, _, _, _, _, _, _, _, allOf, _⟩ := schema
  simp only at only
  subst only
  simp
  omega

theorem sizeOf_items {schema items : Schema} (found : schema.items = some items) :
    sizeOf items < sizeOf schema := by
  obtain ⟨_, _, _, _, _, _, _, _, _, _, _, _, _⟩ := schema
  simp only at found
  subst found
  simp
  omega

theorem sizeOf_values {schema values : Schema} (found : schema.additional = some (.described values)) :
    sizeOf values < sizeOf schema := by
  obtain ⟨_, _, _, _, _, _, _, _, _, _, _, _, _⟩ := schema
  simp only at found
  subst found
  simp
  omega

private theorem sizeOf_property {schema : Schema} {entry : String × Schema}
    (member : entry ∈ schema.properties) : sizeOf entry.2 < sizeOf schema := by
  have inList := List.sizeOf_lt_of_mem member
  obtain ⟨name, property⟩ := entry
  obtain ⟨_, _, _, _, _, _, _, _, _, _, _, _, _⟩ := schema
  simp at inList ⊢
  omega

private theorem sizeOf_part {schema part : Schema} (member : part ∈ schema.allOf) :
    sizeOf part < sizeOf schema := by
  have inList := List.sizeOf_lt_of_mem member
  obtain ⟨_, _, _, _, _, _, _, _, _, _, _, _, _⟩ := schema
  simp at inList ⊢
  omega

theorem sizeOf_declared {schema : Schema} {entry : String × Schema}
    (member : entry ∈ schema.declaredProperties) : sizeOf entry.2 < sizeOf schema := by
  rcases List.mem_append.mp member with own | combined
  · split at own
    · cases own
    · exact sizeOf_property own
  · obtain ⟨part, isPart, inPart⟩ := List.mem_flatMap.mp combined
    split at inPart
    · cases inPart
    · exact Nat.lt_trans (sizeOf_property inPart) (sizeOf_part isPart)

/-- What holds of a schema if it holds of those below it holds of all schemas. -/
theorem induction_below {holds : Schema → Prop}
    (step : ∀ schema : Schema,
      (∀ sole, schema.soleMember? = some sole → holds sole) →
      (∀ items, schema.items = some items → holds items) →
      (∀ values, schema.additional = some (.described values) → holds values) →
      (∀ entry ∈ schema.declaredProperties, holds entry.2) → holds schema)
    (schema : Schema) : holds schema := by
  refine (measure fun schema : Schema => sizeOf schema).wf.induction schema fun schema ih => ?_
  apply step
  · intro sole single
    exact ih sole (sizeOf_soleMember? single)
  · intro items found
    exact ih items (sizeOf_items found)
  · intro values found
    exact ih values (sizeOf_values found)
  · intro entry member
    exact ih entry.2 (sizeOf_declared member)

end Schema

namespace Resolve

/-! ## Types by form -/

/-- One word of a type: the members of the union and what is known of the value, after it. -/
def addWord (mode : Mode) (mappings : Entries String) (name : String) (schema : Schema)
    (found : List String × ResolvedType) (word : String) : Step (List String × ResolvedType) :=
  if word = "array" then do
    let inner ← itemType mode mappings name schema.items
    return (found.1 ++ ["Array<" ++ inner.type ++ ">"], { inner with type := "" })
  else if word = "object" then
    if schema.hasProperties then do
      let named ← inlineObject mode name fun own => object mode mappings own schema
      return (found.1 ++ [named.1], { found.2 with properties := some named.2 })
    else if schema.mapsValues then do
      let inner ← mapValueType mode mappings name schema.additional
      return (found.1 ++ ["Map<string, " ++ inner.type ++ ">"],
        { found.2 with target := inner.target })
    else return (found.1 ++ ["object"], found.2)
  else return (found.1 ++ [word], found.2)

variable (mode : Mode) (mappings : Entries String) (name : String)

theorem type_of_sole {schema sole : Schema} (single : schema.soleMember? = some sole) :
    type mode mappings name schema = type mode mappings name sole := by
  obtain ⟨inline, empty, only⟩ := Schema.allOf_of_soleMember? single
  obtain ⟨_, _, _, _, _, _, _, _, _, _, _, _, _⟩ := schema
  simp only at inline empty only
  subst inline empty only
  rw [type.eq_def]
  simp [firstType]

theorem type_of_reference {schema : Schema} {path : String}
    (refers : schema.reference = some path) :
    type mode mappings name schema = pure (referenceType mappings path) := by
  obtain ⟨_, _, _, _, _, _, _, _, _, _, _, _, _⟩ := schema
  simp only at refers
  subst refers
  rw [type]
  simp

private theorem not_sole {schema : Schema} (several : schema.soleMember? = none)
    (inline : schema.reference = none) :
    (schema.properties.isEmpty && schema.allOf.length = 1) = false := by
  by_contra sole
  simp only [Bool.not_eq_false, Bool.and_eq_true, decide_eq_true_eq] at sole
  obtain ⟨member, only⟩ := List.length_eq_one_iff.mp sole.2
  simp [Schema.soleMember?, only, inline, sole.1] at several

theorem type_of_enum {schema : Schema} (several : schema.soleMember? = none)
    (inline : schema.reference = none) (listed : schema.enumValues ≠ []) :
    type mode mappings name schema =
      pure { type := name, enumOption := schema.enumValues } := by
  have notSole := not_sole several inline
  obtain ⟨_, _, _, _, _, _, _, _, _, _, _, _, _⟩ := schema
  simp only at inline listed notSole
  subst inline
  rw [type]
  simp [notSole, listed]

theorem type_of_words {schema : Schema} (several : schema.soleMember? = none)
    (inline : schema.reference = none) (free : schema.enumValues = []) :
    type mode mappings name schema = do
      let found ← schema.typeWords.foldlM (addWord mode mappings name schema) ([], {})
      return { found.2 with type := unionText found.1 (schema.nullable = some true) } := by
  have notSole := not_sole several inline
  obtain ⟨_, _, _, _, _, _, _, _, _, _, _, _, _⟩ := schema
  simp only at inline free notSole
  subst inline free
  rw [type]
  simp only [Option.isNone_none, Bool.true_and, notSole]
  rfl

end Resolve

end ClientGen
