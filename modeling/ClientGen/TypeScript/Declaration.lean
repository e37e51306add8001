import ClientGen.Definitions
import ClientGen.TypeScript.Literal
import ClientGen.TypeScript.Type

/-!
Declarations of types: interfaces for records, aliases for enumerations and for records without
fields; and the file that holds those of all definitions.
-/

set_option autoImplicit false

namespace ClientGen.TypeScript

/-- A member of an interface. -/
structure Member where
  key : String
  type : String
  required : Bool
  comment : String
  deriving DecidableEq, Repr

/-- A declaration of a type. -/
inductive Declaration where
  | interface (name : String) (members : List Member)
  | alias (name : String) (comment : String) (target : String)
  deriving DecidableEq, Repr

def Member.ofField (field : Field) : Member :=
  ⟨propertyKey field.name, TypeScript.ofField field, field.required, field.description⟩

def commentLine (indent text : String) : String :=
  if text.isEmpty then "" else indent ++ "/** " ++ commentText text ++ " */\n"

def Member.render (member : Member) : String :=
  commentLine "  " member.comment ++ "  " ++ member.key ++ (if member.required then "" else "?") ++
    ": " ++ member.type ++ ";\n"

def renderInterface (name : String) (members : List Member) : String :=
  "export interface " ++ name ++ " \x7b\n" ++ String.join (members.map Member.render) ++ "\x7d\n"

namespace Declaration

def render : Declaration → String
  | .interface name members => renderInterface name members
  | .alias name comment target =>
      commentLine "" comment ++ "export type " ++ name ++ " = " ++ target ++ ";\n"

def ofDefinition (name : String) : Definition → Declaration
  | .scalar field => .alias name field.description (TypeScript.ofField field)
  | .record [] => .alias name "" "Record<string, unknown>"
  | .record fields => .interface name (fields.map Member.ofField)

/-- Whether all types in the declaration for a definition can be written. -/
def isWritableDefinition : Definition → Bool
  | .scalar field => isWritable field
  | .record fields => fields.all isWritable

end Declaration

def definitionsFile (title : String) (definitions : Definitions) : String :=
  "// Generated by swg from " ++ title ++ ". Do not edit.\n" ++
    String.join (definitions.entries.map fun entry =>
      "\n" ++ (Declaration.ofDefinition entry.1 entry.2).render)

end ClientGen.TypeScript
