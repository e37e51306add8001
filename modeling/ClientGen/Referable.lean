import ClientGen.Json.Decode

/-!
Values that a document may write in place or refer to by a path. An object with a path as `$ref` is
a reference, whatever else it holds.
-/

set_option autoImplicit false

namespace ClientGen

open Json (Decoded)

/-- A value or the path of one. -/
inductive Referable (Value : Type) where
  | reference (path : String)
  | inline (value : Value)
  deriving DecidableEq, Repr

namespace Referable

def value? {Value : Type} : Referable Value → Option Value
  | .reference _ => none
  | .inline value => some value

/-- A reference, else a value; `union` names the pair in the error. -/
def decode {Value : Type} (union : String) (decodeValue : Json → Decoded Value) (json : Json) :
    Decoded (Referable Value) :=
  match json.member? "$ref" with
  | some (.str path) => .ok (.reference path)
  | _ =>
      match decodeValue json with
      | .ok value => .ok (.inline value)
      | .error _ => .error (.noAlternative union)

def encode {Value : Type} (encodeValue : Value → Json) : Referable Value → Json
  | .reference path => .obj [("$ref", .str path)]
  | .inline value => encodeValue value

end Referable

end ClientGen
