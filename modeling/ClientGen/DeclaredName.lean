import ClientGen.NamedType.Parse

/-!
The names under which definitions are declared and referred to. A generic definition is declared
with placeholders: the key `Page«List«User»»` declares `Page<T>`, where `T` stands for `User`, and
is referred to as `Page<Array<User>>`.
-/

set_option autoImplicit false

namespace ClientGen

/-- A name, the same name without arguments, and what its placeholders stand for. -/
structure DeclaredName where
  name : String
  base : String
  mappings : Entries String := []
  deriving DecidableEq, Repr

namespace DeclaredName

def isGeneric (declared : DeclaredName) : Bool := !declared.mappings.isEmpty

def reference (key : String) : DeclaredName :=
  let type := NamedType.parse key
  ⟨type.render, type.name, []⟩

/-- The placeholders of arguments, each with the innermost name of its argument. The first argument
has the given position. -/
def placeholders (index : Nat) : List NamedType → Entries String
  | [] => []
  | argument :: rest =>
      (Names.placeholder index, argument.innermost) :: placeholders (index + 1) rest

def declaration (key : String) : DeclaredName :=
  let type := NamedType.parse key
  if type.isGeneric then
    let mappings := placeholders 0 type.arguments
    ⟨type.name ++ "<" ++ String.intercalate ", " mappings.keys ++ ">", type.name, mappings⟩
  else ⟨type.render, type.name, []⟩

end DeclaredName

end ClientGen
