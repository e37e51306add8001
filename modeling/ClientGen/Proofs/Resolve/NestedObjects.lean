import ClientGen.Proofs.Names.Unbracketed
import ClientGen.Proofs.Resolve.Declarations

/-!
The inline objects that resolving a schema meets, at any depth, each under the name that is made for
it. They come in the order in which they are met: an object comes before those inside of it, and the
first declaration of a property is the only one that counts.
-/

set_option autoImplicit false

namespace ClientGen

/-- An inline object under the name that is made for it. -/
structure InlineObject where
  name : String
  schema : Schema

namespace Schema

mutual

/-- The inline objects in a schema for which a name was made. A type word that is repeated meets
nothing new. -/
def objectsAt (name : String) : Schema → List InlineObject
  | ⟨reference, types, format, title, description, defaultValue, nullable, properties, required,
      additional, items, allOf, enumValues⟩ =>
      let schema : Schema := ⟨reference, types, format, title, description, defaultValue, nullable,
        properties, required, additional, items, allOf, enumValues⟩
      if schema.soleMember?.isSome then objectsAtFirst name allOf
      else if reference.isSome || !enumValues.isEmpty then []
      else
        schema.typeWords.eraseDups.flatMap fun word =>
          if word = "array" then objectsAtItems name items
          else if word = "object" then
            if schema.hasProperties then
              ⟨name, schema⟩ :: (objectsInProperties name [] properties ++
                objectsInParts name (properties.map (·.1)) allOf)
            else if schema.mapsValues then objectsAtValues name additional
            else []
          else []

def objectsAtFirst (name : String) : List Schema → List InlineObject
  | [] => []
  | first :: _ => objectsAt name first

def objectsAtItems (name : String) : Option Schema → List InlineObject
  | none => []
  | some items => objectsAt name items

def objectsAtValues (name : String) : Option (Additional Schema) → List InlineObject
  | some (.described values) => objectsAt name values
  | _ => []

/-- The objects in the properties of an owner, apart from properties that were seen before. -/
def objectsInProperties (owner : String) (seen : List String) :
    List (String × Schema) → List InlineObject
  | [] => []
  | (name, schema) :: rest =>
      if name ∈ seen then objectsInProperties owner seen rest
      else
        objectsAt (Names.synthesized owner name) schema ++
          objectsInProperties owner (seen ++ [name]) rest

def objectsInParts (owner : String) (seen : List String) : List Schema → List InlineObject
  | [] => []
  | ⟨reference, _, _, _, _, _, _, properties, _, _, _, _, _⟩ :: rest =>
      if reference.isSome then objectsInParts owner seen rest
      else
        objectsInProperties owner seen properties ++
          objectsInParts owner (seen ++ properties.map (·.1)) rest

end

/-- The inline objects in the properties of an object and of the members of its combination. -/
def objectsInside (owner : String) (schema : Schema) : List InlineObject :=
  objectsInParts owner [] (schema :: schema.allOf)

/-- The inline objects that one type word of a schema meets. -/
def objectsOfWord (name : String) (schema : Schema) (word : String) : List InlineObject :=
  if word = "array" then objectsAtItems name schema.items
  else if word = "object" then
    if schema.hasProperties then ⟨name, schema⟩ :: schema.objectsInside name
    else if schema.mapsValues then objectsAtValues name schema.additional
    else []
  else []

/-! ## Objects by form -/

theorem objectsAt_of_sole (name : String) {schema sole : Schema}
    (single : schema.soleMember? = some sole) : schema.objectsAt name = sole.objectsAt name := by
  obtain ⟨-, -, only⟩ := allOf_of_soleMember? single
  obtain ⟨_, _, _, _, _, _, _, _, _, _, _, allOf, _⟩ := schema
  simp only at only
  subst only
  simp only [objectsAt, single, Option.isSome_some, if_true, objectsAtFirst]

theorem objectsAt_of_reference (name : String) {schema : Schema} {path : String}
    (refers : schema.reference = some path) : schema.objectsAt name = [] := by
  have several := soleMember?_of_reference refers
  obtain ⟨_, _, _, _, _, _, _, _, _, _, _, _, _⟩ := schema
  simp only at refers
  subst refers
  simp [objectsAt, several]

theorem objectsAt_of_listed (name : String) {schema : Schema} (several : schema.soleMember? = none)
    (listed : schema.enumValues ≠ []) : schema.objectsAt name = [] := by
  obtain ⟨_, _, _, _, _, _, _, _, _, _, _, _, _⟩ := schema
  simp only at listed
  simp [objectsAt, several, listed]

theorem objectsAt_of_words (name : String) {schema : Schema} (several : schema.soleMember? = none)
    (inline : schema.reference = none) (free : schema.enumValues = []) :
    schema.objectsAt name = schema.typeWords.eraseDups.flatMap (schema.objectsOfWord name) := by
  obtain ⟨reference, types, _, _, _, _, _, properties, _, additional, items, allOf, enumValues⟩ :=
    schema
  simp only at inline free
  subst inline free
  simp only [objectsAt, several]
  rfl

/-! ## Objects by declaration -/

/-- The objects in the schema of a declaration. -/
def Declaration.objects (owner : String) (declaration : Declaration) : List InlineObject :=
  declaration.schema.objectsAt (Names.synthesized owner declaration.name)

theorem objectsInProperties_eq (owner : String) (seen : List String) (isRequired : String → Bool)
    (properties : List (String × Schema)) :
    objectsInProperties owner seen properties =
      (firstOf seen (declarationsOf isRequired properties)).flatMap
        (Declaration.objects owner) := by
  induction properties generalizing seen with
  | nil => rfl
  | cons entry rest ih =>
      obtain ⟨name, schema⟩ := entry
      rw [objectsInProperties, declarationsOf, List.map_cons, ← declarationsOf, firstOf]
      split
      · exact ih seen
      · rw [ih, List.flatMap_cons]
        rfl

theorem objectsInParts_eq (owner : String) (seen : List String)
    (isRequired : Schema → String → Bool) (parts : List Schema) :
    objectsInParts owner seen parts =
      (firstOf seen ((parts.filter fun part => part.reference.isNone).flatMap fun part =>
        declarationsOf (isRequired part) part.properties)).flatMap (Declaration.objects owner) := by
  induction parts generalizing seen with
  | nil => rfl
  | cons part rest ih =>
      obtain ⟨reference, types, format, title, description, defaultValue, nullable, properties,
        required, additional, items, allOf, enumValues⟩ := part
      rw [objectsInParts, List.filter_cons]
      cases reference with
      | some path => exact ih seen
      | none =>
          have names (isRequired : String → Bool) :
              (declarationsOf isRequired properties).map Declaration.name =
                properties.map (·.1) := by
            simp [declarationsOf]
          rw [if_neg (by decide), if_pos Option.isNone_none, List.flatMap_cons, firstOf_append,
            List.flatMap_append, names, ← objectsInProperties_eq, ih]

/-- The objects inside of an object are those in its first declarations. -/
theorem objectsInside_eq (owner : String) (schema : Schema) :
    schema.objectsInside owner =
      schema.firstDeclarations.flatMap (Declaration.objects owner) :=
  objectsInParts_eq owner [] _ (schema :: schema.allOf)

theorem mem_declaredProperties {schema : Schema} {declaration : Declaration}
    (member : declaration ∈ schema.firstDeclarations) :
    (declaration.name, declaration.schema) ∈ schema.declaredProperties := by
  have declared := List.mem_of_find?_eq_some (mem_firstOf.mp member).2
  obtain ⟨part, isPart, inPart⟩ := List.mem_flatMap.mp declared
  obtain ⟨entry, inProperties, rfl⟩ := List.mem_map.mp inPart
  obtain ⟨among, inline⟩ := List.mem_filter.mp isPart
  have shown : part.reference.isSome = false := by simpa using inline
  cases among with
  | head =>
      apply List.mem_append_left
      rw [shown]
      exact inProperties
  | tail _ isMember =>
      apply List.mem_append_right
      apply List.mem_flatMap.mpr
      refine ⟨part, isMember, ?_⟩
      rw [shown]
      exact inProperties

/-! ## Names -/

open Names (Unbracketed)

theorem unbracketed_objectsInside {schema : Schema}
    (below : ∀ entry ∈ schema.declaredProperties, ∀ name, Unbracketed name →
      ∀ object ∈ entry.2.objectsAt name, Unbracketed object.name)
    {owner : String} (plain : Unbracketed owner) :
    ∀ object ∈ schema.objectsInside owner, Unbracketed object.name := by
  intro object member
  rw [objectsInside_eq] at member
  obtain ⟨declaration, isFirst, inside⟩ := List.mem_flatMap.mp member
  exact below _ (mem_declaredProperties isFirst) _ (plain.synthesized _) object inside

/-- No bracket comes into the name of an object that is not in the name made for its schema. -/
theorem unbracketed_objectsAt (schema : Schema) : ∀ name, Unbracketed name →
    ∀ object ∈ schema.objectsAt name, Unbracketed object.name := by
  induction schema using induction_below with
  | step schema inSole inItems inValues inDeclared =>
    intro name plain object member
    cases schema.form with
    | combined sole single =>
        rw [objectsAt_of_sole name single] at member
        exact inSole sole single name plain object member
    | referring path refers =>
        rw [objectsAt_of_reference name refers] at member
        cases member
    | listed several inline listed =>
        rw [objectsAt_of_listed name several listed] at member
        cases member
    | worded several inline free =>
        rw [objectsAt_of_words name several inline free] at member
        obtain ⟨word, -, ofWord⟩ := List.mem_flatMap.mp member
        unfold objectsOfWord at ofWord
        split at ofWord
        · cases items : schema.items with
          | none =>
              rw [items] at ofWord
              cases ofWord
          | some inner =>
              rw [items] at ofWord
              exact inItems inner items name plain object ofWord
        · split at ofWord
          · split at ofWord
            · cases ofWord with
              | head => exact plain
              | tail _ inside => exact unbracketed_objectsInside inDeclared plain object inside
            · split at ofWord
              · next maps =>
                  obtain ⟨values, found⟩ := exists_values maps
                  rw [found] at ofWord
                  exact inValues values found name plain object ofWord
              · cases ofWord
          · cases ofWord

end Schema

end ClientGen
