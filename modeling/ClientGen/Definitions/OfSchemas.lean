import ClientGen.Resolve

/-!
The definitions of a document. All keys with one base name share one entry, which is made from the
first of them; a generic key is declared with placeholders for its arguments.
-/

set_option autoImplicit false

namespace ClientGen.Definitions

def enumeration (name : String) (schema : Schema) : Field :=
  { name := name
    type := match schema.types with
      | some types => String.intercalate " | " types.words
      | none => "string"
    description := schema.description.getD ""
    enumOption := schema.enumValues
    format := schema.format.getD ""
    defaultValue := schema.defaultValue }

def note (severity : Severity) (key message : String) : Resolve.Step Unit :=
  modify fun state =>
    { state with diagnostics := state.diagnostics ++ [⟨severity, key, message⟩] }

def put (name : String) (definition : Definition) : Resolve.Step Unit :=
  modify fun state => { state with definitions := state.definitions.insert name definition }

/-- Adds the definition under a key, and the inline objects inside of it after it. -/
def add (reserved : List String) (key : String) (schema : Schema) : Resolve.Step Unit := do
  let declared := DeclaredName.declaration key
  let state ← get
  match state.definitions.findByBase? declared.base with
  | some (existing, _) => note .info key ("collapsed into `" ++ existing ++ "`")
  | none =>
      if !schema.enumValues.isEmpty then
        put declared.name (.scalar (enumeration declared.name schema))
      else
        match schema.types.filter fun types => !types.has "object" with
        | some types => do
            note .error key
              ("expected an object definition, found type `" ++ types.describe ++ "`")
            put declared.name (.record [])
        | none => do
            put declared.name (.record [])
            let fields ←
              Resolve.object (.registering reserved) declared.mappings declared.base schema
            put declared.name (.record fields)

def addAll (reserved : List String) : Entries Schema → Resolve.Step Unit
  | [] => pure ()
  | (key, schema) :: rest => do
      add reserved key schema
      addAll reserved rest

def reservedNames (schemas : Entries Schema) : List String :=
  schemas.keys.map fun key => (DeclaredName.declaration key).base

def ofSchemas (schemas : Entries Schema) : Reported Definitions :=
  let state := ((addAll (reservedNames schemas) schemas).run {}).2
  ⟨state.definitions, state.diagnostics⟩

end ClientGen.Definitions
