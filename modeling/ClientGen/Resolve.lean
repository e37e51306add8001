import ClientGen.DeclaredName
import ClientGen.Definitions
import ClientGen.Diagnostic
import ClientGen.Schema.Basic

/-!
Resolving schemas into fields and types. An inline object gets a name made of its owner's and its
own; while definitions are resolved it is registered among them under that name, ahead of the
objects inside of it, and elsewhere it stays in the field alone. All functions recurse on the
schema.
-/

set_option autoImplicit false

namespace ClientGen

/-- The type of a value: its text, the base name of the definition that it refers to, the choices of
an enumeration, and the fields of an inline object. -/
structure ResolvedType where
  type : String := ""
  target : String := ""
  enumOption : List Json := []
  properties : Option (List Field) := none
  deriving Repr

namespace Resolve

/-- Whether inline objects are registered as definitions, and which names the document's own
definitions keep for themselves. -/
inductive Mode where
  | detached
  | registering (reserved : List String)
  deriving DecidableEq, Repr

/-- What is known so far. -/
structure State where
  definitions : Definitions := {}
  diagnostics : List Diagnostic := []
  deriving Repr

abbrev Step := StateM State

def Mode.reserved : Mode → List String
  | .detached => []
  | .registering reserved => reserved

def register (mode : Mode) (name : String) (fields : List Field) : Step Unit :=
  match mode with
  | .detached => pure ()
  | .registering _ =>
      modify fun state =>
        { state with definitions := state.definitions.insert name (.record fields) }

def registered? (mode : Mode) (name : String) : Step (Option (List Field)) :=
  match mode with
  | .detached => pure none
  | .registering _ => do
      let state ← get
      return (state.definitions.findByBase? name).map fun found => found.2.fields

/-- The name of an inline object. A name that a definition of the document owns gets a number. -/
def inlineName (mode : Mode) (name : String) : Step String :=
  if mode.reserved.contains name then do
    let renamed := Names.firstFree mode.reserved name
    modify fun state =>
      { state with diagnostics := state.diagnostics ++
          [⟨.warning, name, "inline object renamed to `" ++ renamed ++ "`, `" ++ name ++
            "` is a document definition"⟩] }
    return renamed
  else return name

/-- Name and fields of an inline object. It is registered once; the name is taken before its fields
are resolved, so that the object precedes those inside of it. -/
def inlineObject (mode : Mode) (name : String) (fields : String → Step (List Field)) :
    Step (String × List Field) := do
  let own ← inlineName mode name
  match ← registered? mode own with
  | some known => return (own, known)
  | none =>
      register mode own []
      let found ← fields own
      register mode own found
      return (own, found)

def referenceType (mappings : Entries String) (reference : String) : ResolvedType :=
  let target := Names.ofReference reference
  let type := NamedType.parse target
  { type := (type.substitute mappings).render
    target := type.name }

/-- The type words of a schema, which are derived from its other members if it has none. -/
def effectiveWords (types : Option TypeSet) (hasProperties hasMapValues hasItems : Bool) :
    List String :=
  match types with
  | some declared => declared.words
  | none =>
      if hasProperties || hasMapValues then ["object"]
      else if hasItems then ["array"]
      else ["any"]

/-- The members of a union: each once, and null at the end if it is allowed and not there yet. -/
def unionText (members : List String) (nullable : Bool) : String :=
  let distinct := members.eraseDups
  String.intercalate " | "
    (if nullable && !distinct.contains "null" then distinct ++ ["null"] else distinct)

/-- The field for a property whose type is known. Description, format and default of a combination
with a sole member are those of the member. -/
def fieldOf (name : String) (required : Bool) (schema : Schema) (resolved : ResolvedType) : Field :=
  let facets := schema.unwrapSoleMember?.getD schema
  { name := name
    type := resolved.type
    description := facets.description.getD ""
    required := required || schema.required.flagged
    enumOption := resolved.enumOption
    target := resolved.target
    format := facets.format.getD ""
    defaultValue := facets.defaultValue
    properties := resolved.properties }

mutual

/-- The type of a schema. `name` is the name of whatever inline part of it needs one. -/
def type (mode : Mode) (mappings : Entries String) (name : String) : Schema → Step ResolvedType
  | ⟨reference, types, _, _, _, _, nullable, properties, required, additional, items, allOf,
      enumValues⟩ =>
      if reference.isNone && properties.isEmpty && allOf.length = 1 then
        firstType mode mappings name allOf
      else
        match reference with
        | some path => return referenceType mappings path
        | none =>
          if !enumValues.isEmpty then
            return { type := name, enumOption := enumValues }
          else do
            let hasProperties := !properties.isEmpty
            let hasMapValues := match additional with
              | some (.described _) => !hasProperties
              | _ => false
            let words := effectiveWords types hasProperties hasMapValues items.isSome
            let found ← words.foldlM
              (fun (found : List String × ResolvedType) word => do
                if word = "array" then
                  let inner ← itemType mode mappings name items
                  return (found.1 ++ ["Array<" ++ inner.type ++ ">"],
                    { inner with type := "" })
                else if word = "object" then
                  if hasProperties then
                    let object ← inlineObject mode name fun own => do
                      let first ← propertyFields mode mappings own required.lists [] properties
                      partFields mode mappings own required.lists first allOf
                    return (found.1 ++ [object.1],
                      { found.2 with properties := some object.2 })
                  else if hasMapValues then
                    let inner ← mapValueType mode mappings name additional
                    return (found.1 ++ ["Map<string, " ++ inner.type ++ ">"],
                      { found.2 with target := inner.target })
                  else return (found.1 ++ ["object"], found.2)
                else return (found.1 ++ [word], found.2))
              ([], {})
            return { found.2 with type := unionText found.1 (nullable = some true) }

def firstType (mode : Mode) (mappings : Entries String) (name : String) :
    List Schema → Step ResolvedType
  | [] => return {}
  | first :: _ => type mode mappings name first

def itemType (mode : Mode) (mappings : Entries String) (name : String) :
    Option Schema → Step ResolvedType
  | none => return { type := "any" }
  | some items => type mode mappings name items

def mapValueType (mode : Mode) (mappings : Entries String) (name : String) :
    Option (Additional Schema) → Step ResolvedType
  | some (.described values) => type mode mappings name values
  | _ => return { type := "any" }

/-- The fields of properties that are not among the fields so far, after these. -/
def propertyFields (mode : Mode) (mappings : Entries String) (owner : String)
    (isRequired : String → Bool) (done : List Field) :
    List (String × Schema) → Step (List Field)
  | [] => return done
  | (name, schema) :: rest => do
      if done.any fun field => field.name = name then
        propertyFields mode mappings owner isRequired done rest
      else
        let resolved ← type mode mappings (Names.synthesized owner name) schema
        let field := fieldOf name (isRequired name) schema resolved
        propertyFields mode mappings owner isRequired (done ++ [field]) rest

/-- The fields of the inline members of a combination, after the fields so far. -/
def partFields (mode : Mode) (mappings : Entries String) (owner : String)
    (isRequired : String → Bool) (done : List Field) : List Schema → Step (List Field)
  | [] => return done
  | ⟨reference, _, _, _, _, _, _, properties, required, _, _, _, _⟩ :: rest => do
      if reference.isSome then partFields mode mappings owner isRequired done rest
      else
        let extended ← propertyFields mode mappings owner
          (fun name => required.lists name || isRequired name) done properties
        partFields mode mappings owner isRequired extended rest

end

/-- The fields of an object: its own properties and then those of the inline members of its
combination, each name once. -/
def object (mode : Mode) (mappings : Entries String) (owner : String) (schema : Schema) :
    Step (List Field) := do
  let own ←
    if schema.reference.isSome then pure []
    else propertyFields mode mappings owner schema.required.lists [] schema.properties
  partFields mode mappings owner schema.required.lists own schema.allOf

def property (mode : Mode) (mappings : Entries String) (owner name : String) (required : Bool)
    (schema : Schema) : Step Field := do
  let resolved ← type mode mappings (Names.synthesized owner name) schema
  return fieldOf name required schema resolved

def detached {Value : Type} (step : Step Value) : Value := (step.run {}).1

end Resolve

end ClientGen
