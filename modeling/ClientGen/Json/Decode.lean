import ClientGen.Json
import ClientGen.Text.Quoted

/-!
Reading JSON values as the types of a model. A record is written as an object, or as an array of all
its members in order. Members are read in the order of the document, and the first one that cannot
be read decides the error; a member that is left out is noticed after all others have been read.
-/

set_option autoImplicit false

namespace ClientGen.Json

/-- The kinds of JSON values, with the value where it is short. -/
inductive Kind where
  | null
  | bool (value : Bool)
  | number (value : Number)
  | string (value : String)
  | list
  | map
  deriving DecidableEq, Repr

def kind : Json → Kind
  | .null => .null
  | .bool value => .bool value
  | .num value => .number value
  | .str value => .string value
  | .arr _ => .list
  | .obj _ => .map

def Kind.text : Kind → String
  | .null => "null"
  | .bool value => "boolean `" ++ (if value then "true" else "false") ++ "`"
  | .number (.int value) => "integer `" ++ Number.intText value ++ "`"
  | .number (.double value) => "floating point `" ++ value.text .message ++ "`"
  | .string value => "string " ++ Text.quoted value
  | .list => "sequence"
  | .map => "map"

/-- The reasons why a value is none of a type. -/
inductive DecodeError where
  | wrongKind (found : Kind) (expected : String)
  | wrongLength (length : Nat) (record : String) (size : Nat)
  | tooManyItems (length : Nat)
  | missingMember (name : String)
  | unknownChoice (found : String) (choices : List String)
  | severalChoices
  | noAlternative (union : String)
  deriving DecidableEq, Repr

def DecodeError.message : DecodeError → String
  | .wrongKind found expected => "invalid type: " ++ found.text ++ ", expected " ++ expected
  | .wrongLength length record size =>
      "invalid length " ++ toString length ++ ", expected struct " ++ record ++ " with " ++
        toString size ++ (if size = 1 then " element" else " elements")
  | .tooManyItems length =>
      "invalid length " ++ toString length ++ ", expected fewer elements in array"
  | .missingMember name => "missing field `" ++ name ++ "`"
  | .unknownChoice found choices =>
      "unknown variant `" ++ found ++ "`, expected one of " ++
        String.intercalate ", " (choices.map fun choice => "`" ++ choice ++ "`")
  | .severalChoices => "invalid value: map, expected map with a single key"
  | .noAlternative union => "data did not match any variant of untagged enum " ++ union

abbrev Decoded (Value : Type) := Except DecodeError Value

def wrongKind {Value : Type} (found : Json) (expected : String) : Decoded Value :=
  .error (.wrongKind found.kind expected)

def decodeString : Json → Decoded String
  | .str value => .ok value
  | other => wrongKind other "a string"

def decodeBool : Json → Decoded Bool
  | .bool value => .ok value
  | other => wrongKind other "a boolean"

def decodeOption {Value : Type} (decode : Json → Decoded Value) : Json → Decoded (Option Value)
  | .null => .ok none
  | other => (decode other).map some

def decodeList {Value : Type} (decode : Json → Decoded Value) : Json → Decoded (List Value)
  | .arr items => items.mapM decode
  | other => wrongKind other "a sequence"

def decodeStrings (json : Json) : Decoded (List String) := decodeList decodeString json

def decodeValues {Value Source : Type} (decode : Source → Decoded Value)
    (members : List (String × Source)) : Decoded (Entries Value) :=
  members.mapM fun member => (decode member.2).map fun value => (member.1, value)

def decodeEntries {Value : Type} (decode : Json → Decoded Value) : Json → Decoded (Entries Value)
  | .obj members => decodeValues decode members
  | other => wrongKind other "a map"

/-- The value under the chosen word of a list. The choice is a string or the only key of an object,
whose value is null. -/
def decodeChoice {Value : Type} (choices : List (String × Value)) (json : Json) : Decoded Value :=
  let find (word : String) : Decoded Value :=
    match choices.lookup word with
    | some value => .ok value
    | none => .error (.unknownChoice word (choices.map (·.1)))
  match json with
  | .str word => find word
  | .obj [(word, content)] =>
      match find word, content with
      | .ok value, .null => .ok value
      | .ok _, other => wrongKind other "unit"
      | .error error, _ => .error error
  | .obj _ => .error .severalChoices
  | other => wrongKind other "string or map"

/-- Whether a member of a record may be left out: from objects only, from arrays as well, or not at
all. -/
inductive Presence where
  | optional
  | defaulted
  | required
  deriving DecidableEq, Repr

/-- The name of a record type and its members in order. -/
structure RecordShape where
  name : String
  members : List (String × Presence)
  deriving DecidableEq, Repr

namespace RecordShape

def names (shape : RecordShape) : List String := shape.members.map (·.1)

/-- The required member that comes first among those without a value. -/
def firstMissing (shape : RecordShape) (present : List String) : Option String :=
  (shape.members.find? fun member => member.2 = .required && !present.contains member.1).map (·.1)

/-- The position of the first member behind the end of an array that has no default. -/
def firstBehind (shape : RecordShape) (length : Nat) : Option Nat :=
  ((shape.members.drop length).findIdx? fun member => member.2 ≠ .defaulted).map (length + ·)

def putAll {Record Source : Type} (put : String → Source → Record → Decoded Record) :
    Record → List (String × Source) → Decoded Record
  | record, [] => .ok record
  | record, (name, value) :: rest => do
      let next ← put name value record
      putAll put next rest

def ofMembers {Record Source : Type} (shape : RecordShape) (empty : Record)
    (put : String → Source → Record → Decoded Record) (members : List (String × Source)) :
    Decoded Record := do
  let record ← putAll put empty members
  match shape.firstMissing (members.map (·.1)) with
  | some name => .error (.missingMember name)
  | none => .ok record

def ofItems {Record Source : Type} (shape : RecordShape) (empty : Record)
    (put : String → Source → Record → Decoded Record) (items : List Source) : Decoded Record := do
  let record ← putAll put empty (shape.names.zip items)
  match shape.firstBehind items.length with
  | some index => .error (.wrongLength index shape.name shape.members.length)
  | none =>
      if shape.members.length < items.length then .error (.tooManyItems items.length)
      else .ok record

def refuse {Record : Type} (shape : RecordShape) (json : Json) : Decoded Record :=
  wrongKind json ("struct " ++ shape.name)

/-- A record from an object or an array. `put` leaves a record as it is for names that it does not
know. -/
def decode {Record : Type} (shape : RecordShape) (empty : Record)
    (put : String → Json → Record → Decoded Record) : Json → Decoded Record
  | .obj members => shape.ofMembers empty put members
  | .arr items => shape.ofItems empty put items
  | other => shape.refuse other

end RecordShape

def optionalMember {Value : Type} (name : String) (encode : Value → Json) :
    Option Value → List (String × Json)
  | none => []
  | some value => [(name, encode value)]

def listMember {Value : Type} (name : String) (encode : Value → Json) (values : List Value) :
    List (String × Json) :=
  if values.isEmpty then [] else [(name, .arr (values.map encode))]

def encodeEntries {Value : Type} (encode : Value → Json) (entries : Entries Value) : Json :=
  .obj (entries.map fun entry => (entry.1, encode entry.2))

def entriesMember {Value : Type} (name : String) (encode : Value → Json)
    (entries : Entries Value) : List (String × Json) :=
  if entries.isEmpty then [] else [(name, encodeEntries encode entries)]

end ClientGen.Json
