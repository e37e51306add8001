import ClientGen.Field
import ClientGen.Json.Writer
import ClientGen.NamedType.Parse
import ClientGen.Text.Letter

/-!
Types of the target language. The text of a resolved type is cut at the bars outside of its
brackets, and each member is read as a name with arguments. A name that still holds bars, which is
possible inside of brackets, is a union itself and is written like a type of its own. A member that
cannot be read is a name as a whole, so if it holds a bar it is written again and again: such a type
has no translation.
-/

set_option autoImplicit false

namespace ClientGen.TypeScript

/-- Cuts a type at the bars outside of brackets. `run` holds the characters since the last cut, last
character first. -/
def cutUnion (depth : Nat) (run : List Char) : List Char → List (List Char)
  | [] => [run.reverse]
  | char :: rest =>
      if Names.isOpening char then cutUnion (depth + 1) (char :: run) rest
      else if Names.isClosing char then cutUnion (depth - 1) (char :: run) rest
      else if char = '|' ∧ depth = 0 then run.reverse :: cutUnion depth [] rest
      else cutUnion depth (char :: run) rest

def unionMembers (type : String) : List String :=
  (((cutUnion 0 [] type.toList).map Text.trimChars).filter fun member => !member.isEmpty).map
    String.ofList

/-- The name of a type without arguments; `union` writes a name that is a union. -/
def plainName (union : String → Option String) (name : String) : Option String :=
  match name with
  | "integer" => some "number"
  | "number" => some "number"
  | "string" => some "string"
  | "date" => some "string"
  | "date-time" => some "string"
  | "boolean" => some "boolean"
  | "file" => some "Blob"
  | "any" => some "unknown"
  | "object" => some "Record<string, unknown>"
  | "null" => some "null"
  | other => if Text.contains other "|" then union other else some other

/-- A name applied to written arguments. Arrays and maps have a notation of their own. -/
def applied (name : String) (arguments : List String) : String :=
  match name, arguments with
  | "Array", [item] => if Text.contains item "|" then "(" ++ item ++ ")[]" else item ++ "[]"
  | "Map", [key, value] => "Record<" ++ key ++ ", " ++ value ++ ">"
  | _, _ => name ++ "<" ++ String.intercalate ", " arguments ++ ">"

mutual

/-- A type with its arguments; `plain` writes the names without arguments. -/
def ofNamed (plain : String → Option String) : NamedType → Option String
  | ⟨name, []⟩ => plain name
  | ⟨name, first :: rest⟩ => do
      let head ← ofNamed plain first
      let others ← ofNamedList plain rest
      return applied name (head :: others)

def ofNamedList (plain : String → Option String) : List NamedType → Option (List String)
  | [] => some []
  | type :: rest => do
      let head ← ofNamed plain type
      let others ← ofNamedList plain rest
      return head :: others

end

/-- A type as the target language writes it. Names that are unions are written in turn, one inside
of the other at most `fuel` times; none if that is not enough. -/
def written : Nat → String → Option String
  | 0, _ => none
  | fuel + 1, type =>
      let trimmed := Text.trim type
      if trimmed.isEmpty then some "void"
      else do
        let members ← ofNamedList (plainName (written fuel))
          ((unionMembers trimmed).map NamedType.parse)
        return String.intercalate " | " members

/-- The translation of a resolved type, if it has one. A name inside of a type that ends somewhere
is shorter than the type, so no more fuel is ever needed. -/
def ofType? (type : String) : Option String := written (type.length + 1) type

/-- A resolved type as the target language writes it. A type without a translation is left as it is,
but no client is rendered from a model that has one. -/
def ofType (type : String) : String := (ofType? type).getD type

def ofField (field : Field) : String :=
  if field.isEnum then
    let literals := String.intercalate " | " (field.enumOption.map Json.compact)
    if Text.startsWith field.type "Array<" then "(" ++ literals ++ ")[]" else literals
  else ofType field.type

def isWritable (field : Field) : Bool := field.isEnum || (ofType? field.type).isSome

def isNameChar (char : Char) : Bool := Text.isAlphanumeric char || char == '_' || char == '$'

/-- The runs of name characters; `run` is the one being read, last character first. -/
def nameRuns (run : List Char) : List Char → List (List Char)
  | [] => [run.reverse]
  | char :: rest =>
      if isNameChar char then nameRuns (char :: run) rest
      else run.reverse :: nameRuns [] rest

def capitalNames (type : String) : List String :=
  ((nameRuns [] type.toList).filter fun name =>
    match name with
    | [] => false
    | first :: _ => Text.isUppercase first).map String.ofList

end ClientGen.TypeScript
