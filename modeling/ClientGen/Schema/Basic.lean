import ClientGen.Json

/-!
Schemas: descriptions of JSON values, as both dialects write them. A reference to a definition is a
member like any other, because documents put a description and more beside it.
-/

set_option autoImplicit false

namespace ClientGen

/-- The type words of a schema. -/
inductive TypeSet where
  | one (word : String)
  | many (words : List String)
  deriving DecidableEq, Repr

namespace TypeSet

def words : TypeSet → List String
  | .one word => [word]
  | .many words => words

def has (types : TypeSet) (word : String) : Bool := types.words.contains word

def describe : TypeSet → String
  | .one word => word
  | .many words => "[" ++ String.intercalate ", " words ++ "]"

end TypeSet

/-- Which properties an object must have, or whether the described value itself must be there. -/
inductive Required where
  | names (names : List String)
  | flag (value : Bool)
  deriving DecidableEq, Repr

namespace Required

def lists (required : Required) (name : String) : Bool :=
  match required with
  | .names listed => listed.contains name
  | .flag _ => false

def flagged : Required → Bool
  | .flag value => value
  | .names _ => false

def isEmpty : Required → Bool
  | .names listed => listed.isEmpty
  | .flag _ => false

end Required

/-- What an object may hold besides its properties. -/
inductive Additional (Description : Type) where
  | allowed (value : Bool)
  | described (schema : Description)
  deriving DecidableEq, Repr

/-- A schema. -/
structure Schema where
  reference : Option String := none
  types : Option TypeSet := none
  format : Option String := none
  title : Option String := none
  description : Option String := none
  defaultValue : Option Json := none
  nullable : Option Bool := none
  properties : List (String × Schema) := []
  required : Required := .names []
  additional : Option (Additional Schema) := none
  items : Option Schema := none
  allOf : List Schema := []
  enumValues : List Json := []
  deriving Repr

namespace Schema

instance : Inhabited Schema := ⟨{}⟩

def hasMapValues (schema : Schema) : Bool :=
  match schema.additional with
  | some (.described _) => true
  | _ => false

/-- The reference of the schema, or of the items of the array that it describes. -/
def targetReference (schema : Schema) : Option String :=
  match schema.reference with
  | some reference => some reference
  | none => schema.items.bind (·.reference)

/-- Whether the schema describes an object of which nothing is known. -/
def isEmptyObject (schema : Schema) : Bool :=
  let objectLike :=
    match schema.types with
    | some types => types.has "object"
    | none => schema.items.isNone && schema.enumValues.isEmpty
  objectLike && schema.reference.isNone && schema.properties.isEmpty && schema.allOf.isEmpty &&
    !schema.hasMapValues

/-- The sole member of a combination that adds nothing but a description to it. -/
def soleMember? (schema : Schema) : Option Schema :=
  match schema.allOf with
  | [sole] => if schema.reference.isNone && schema.properties.isEmpty then some sole else none
  | _ => none

/-- The sole member of a combination, with the description of the combination if it has none. -/
def unwrapSoleMember? (schema : Schema) : Option Schema :=
  schema.soleMember?.map fun sole =>
    { sole with description := sole.description.or schema.description }

end Schema

end ClientGen
