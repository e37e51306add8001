import ClientGen.Field
import ClientGen.Names

/-!
The definitions of a document after resolution: records and scalars by name, in order. An index
finds an entry by its base name.
-/

set_option autoImplicit false

namespace ClientGen

/-- What a definition stands for: a record, or an enumeration or another scalar. -/
inductive Definition where
  | record (fields : List Field)
  | scalar (field : Field)
  deriving Repr

namespace Definition

def fields : Definition → List Field
  | .record fields => fields
  | .scalar _ => []

def scalar? : Definition → Option Field
  | .scalar field => some field
  | .record _ => none

def encode : Definition → Json
  | .record fields => .arr (Field.encodeList fields)
  | .scalar field => field.encode

end Definition

/-- Definitions by name, and the name of the first one inserted under each base name. -/
structure Definitions where
  entries : Entries Definition := []
  bases : Entries String := []
  deriving Repr

namespace Definitions

def get? (name : String) (definitions : Definitions) : Option Definition :=
  definitions.entries.get? name

def findByBase? (base : String) (definitions : Definitions) : Option (String × Definition) :=
  (definitions.bases.get? base).bind fun name =>
    (definitions.get? name).map fun found => (name, found)

/-- Inserts or replaces the definition under a name. A replacement keeps its place. -/
def insert (name : String) (definition : Definition) (definitions : Definitions) : Definitions :=
  let base := Names.base name
  { entries := definitions.entries.insert name definition
    bases :=
      if definitions.bases.hasKey base then definitions.bases
      else definitions.bases.insert base name }

def names (definitions : Definitions) : List String := definitions.entries.keys

def encode (definitions : Definitions) : Json :=
  Json.encodeEntries Definition.encode definitions.entries

end Definitions

end ClientGen
