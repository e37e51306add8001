import ClientGen.Yaml.Token.Basic

/-!
The nodes of a YAML document. An anchor is a number, and an alias names the anchor of another node,
of which it may be a part.
-/

set_option autoImplicit false

namespace ClientGen.Yaml

abbrev Tag := List UInt8

/-- What may stand before a node: an anchor and a tag. -/
structure Properties where
  anchor : Option Nat := none
  tag : Option Tag := none

/-- A node. -/
inductive Node where
  | scalar (properties : Properties) (style : ScalarStyle) (text : String)
  | sequence (properties : Properties) (items : List Node)
  | mapping (properties : Properties) (entries : List (Node × Node))
  | alias (anchor : Nat)

instance : Inhabited Node := ⟨.alias 0⟩

namespace Node

def blank : Node := .scalar {} .plain ""

mutual

def anchored : Node → List (Nat × Node)
  | .scalar properties style text =>
      properties.anchor.toList.map fun anchor => (anchor, .scalar properties style text)
  | .sequence properties items =>
      (properties.anchor.toList.map fun anchor => (anchor, .sequence properties items)) ++
        anchoredItems items
  | .mapping properties entries =>
      (properties.anchor.toList.map fun anchor => (anchor, .mapping properties entries)) ++
        anchoredEntries entries
  | .alias _ => []

def anchoredItems : List Node → List (Nat × Node)
  | [] => []
  | item :: items => item.anchored ++ anchoredItems items

def anchoredEntries : List (Node × Node) → List (Nat × Node)
  | [] => []
  | entry :: entries => anchoredEntry entry ++ anchoredEntries entries

def anchoredEntry : Node × Node → List (Nat × Node)
  | (key, value) => key.anchored ++ value.anchored

end

mutual

/-- The number of places at which a node or its parts begin and collections end. -/
def size : Node → Nat
  | .sequence _ items => 2 + sizeItems items
  | .mapping _ entries => 2 + sizeEntries entries
  | _ => 1

def sizeItems : List Node → Nat
  | [] => 0
  | item :: items => item.size + sizeItems items

def sizeEntries : List (Node × Node) → Nat
  | [] => 0
  | entry :: entries => sizeEntry entry + sizeEntries entries

def sizeEntry : Node × Node → Nat
  | (key, value) => key.size + value.size

end

end Node

end ClientGen.Yaml
