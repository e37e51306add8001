import ClientGen.Json
import ClientGen.Yaml.Node.OfTokens
import ClientGen.Yaml.Scalar

/-!
The JSON value that a YAML document stands for. Aliases are replaced by the nodes they name, within
limits for their number and for the depth of the value.
-/

set_option autoImplicit false

namespace ClientGen.Yaml

abbrev Walk (Value : Type) := StateT Nat Option Value

/-- The nodes by their anchors, of several with the same anchor the last to begin first. -/
abbrev Anchors := List (Nat × Node)

def Anchors.follow (anchors : Anchors) : Node → Walk Node
  | .alias anchor => do
      match ← get with
      | 0 => failure
      | left + 1 =>
          set left
          match anchors.lookup anchor with
          | some node => return node
          | none => failure
  | node => return node

/-- Runs a step on a node with the aliases that a document of its size may follow. -/
def Node.walk {Value : Type} (root : Node) (step : Anchors → Node → Walk Value) : Option Value :=
  ((step root.anchored.reverse root).run (100 * root.size)).map (·.1)

def octets (text : String) : List UInt8 := text.toUTF8.data.toList

def coreTag (name : String) : Tag := octets ("tag:yaml.org,2002:" ++ name)

/-- Whether a tag is one of an application, in valid text. Such a tag may stand at no value. -/
def isLocalTag (tag : Tag) : Bool :=
  tag.head? = some 0x21 && (String.fromUTF8? ⟨tag.toArray⟩).isSome

namespace Scalar

/-- The JSON value of a scalar. An integer of more than 64 bits has none. -/
def json? : Scalar → Option Json
  | .null => some .null
  | .bool value => some (.bool value)
  | .int value => if isExactInteger value then some (.num (.int value)) else none
  | .double value => some (.num (.double value))
  | .infinite => some .null
  | .text value => some (.str value)

def ofNode? (tag : Option Tag) (style : ScalarStyle) (text : String) : Option Scalar :=
  match tag with
  | none => some (if style = .plain then ofPlain text else .text text)
  | some tag =>
      if tag = coreTag "bool" then (boolWord? text).map .bool
      else if tag = coreTag "int" then ((integer? text.toList).filter isWideInteger).map .int
      else if tag = coreTag "float" then number? text
      else if tag = coreTag "null" then if isNullWord text then some .null else none
      else if isLocalTag tag then none
      else if tag.head? = some 0x21 ∧ style = .plain then some (ofPlain text)
      else some (.text text)

end Scalar

def keyText (anchors : Anchors) (key : Node) : Walk String := do
  match ← anchors.follow key with
  | .scalar _ _ text => return text
  | _ => failure

def Properties.allowCollection (properties : Properties) : Bool :=
  !properties.tag.any isLocalTag

/-- The JSON value of a node, with at most `depth` collections in each other. Of several entries
with one key the last value counts. -/
def value (depth : Nat) (anchors : Anchors) (node : Node) : Walk Json := do
  match ← anchors.follow node, depth with
  | .scalar properties style text, _ =>
      match (Scalar.ofNode? properties.tag style text).bind Scalar.json? with
      | some json => return json
      | none => failure
  | .sequence properties items, inner + 1 =>
      if properties.allowCollection then
        return .arr (← items.mapM (value inner anchors))
      else failure
  | .mapping properties entries, inner + 1 =>
      if properties.allowCollection then
        let members ← entries.mapM fun (key, entry) => do
          return (← keyText anchors key, ← value inner anchors entry)
        return .obj (Entries.ofList members)
      else failure
  | _, _ => failure

/-- The JSON value of a text; null for a text without a document. -/
def json? (text : String) : Option Json :=
  match Node.ofText? text with
  | none => none
  | some none => some .null
  | some (some root) => root.walk (value 128)

end ClientGen.Yaml
