import ClientGen.Entries
import ClientGen.Names

/-!
Type names with arguments, such as `Page<Array<User>>`.
-/

set_option autoImplicit false

namespace ClientGen

/-- A type name and its arguments. A name without arguments is a plain name. -/
structure NamedType where
  name : String
  arguments : List NamedType := []
  deriving Repr

namespace NamedType

instance : Inhabited NamedType := ⟨⟨"", []⟩⟩

def plain (name : String) : NamedType := ⟨name, []⟩

def isGeneric (type : NamedType) : Bool := !type.arguments.isEmpty

def collectionNames : List String := ["List", "Set", "Collection", "Array"]

def shownName (name : String) : String :=
  if collectionNames.contains name then "Array" else name

mutual

def render : NamedType → String
  | ⟨name, []⟩ => name
  | ⟨name, first :: rest⟩ =>
      shownName name ++ "<" ++ render first ++ renderRest rest ++ ">"

def renderRest : List NamedType → String
  | [] => ""
  | argument :: rest => ", " ++ render argument ++ renderRest rest

end

mutual

/-- The plain name at the end of the last arguments: `User` in `Map<string, List<User>>`. -/
def innermost : NamedType → String
  | ⟨name, arguments⟩ => innermostOf name arguments

/-- The plain name at the end of the last of some arguments, or a given name if there are none. -/
def innermostOf (name : String) : List NamedType → String
  | [] => name
  | [argument] => innermost argument
  | _ :: next :: rest => innermostOf name (next :: rest)

end

def keyOf? (value : String) (mappings : Entries String) : Option String :=
  (mappings.find? fun entry => entry.2 = value).map (·.1)

mutual

/-- Replaces plain names by the placeholders that stand for them. -/
def substitute (mappings : Entries String) : NamedType → NamedType
  | ⟨name, []⟩ => plain ((keyOf? name mappings).getD name)
  | ⟨name, first :: rest⟩ =>
      ⟨name, substitute mappings first :: substituteAll mappings rest⟩

def substituteAll (mappings : Entries String) : List NamedType → List NamedType
  | [] => []
  | type :: rest => substitute mappings type :: substituteAll mappings rest

end

end NamedType

end ClientGen
