import ClientGen.Entries
import ClientGen.Number.Layout

/-!
JSON values. The members of an object keep their order, and an object holds each key once.
-/

set_option autoImplicit false

namespace ClientGen

/-- A JSON value. -/
inductive Json where
  | null
  | bool (value : Bool)
  | num (value : Number)
  | str (value : String)
  | arr (items : List Json)
  | obj (members : List (String × Json))
  deriving Repr

namespace Json

instance : Inhabited Json := ⟨.null⟩

def members? : Json → Option (Entries Json)
  | .obj members => some members
  | _ => none

def items? : Json → Option (List Json)
  | .arr items => some items
  | _ => none

def string? : Json → Option String
  | .str value => some value
  | _ => none

def member? (key : String) : Json → Option Json
  | .obj members => Entries.get? key members
  | _ => none

def nat (value : Nat) : Json := .num (.int value)

def strings (values : List String) : Json := .arr (values.map .str)

end Json

end ClientGen
