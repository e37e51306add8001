import ClientGen.Entries
import ClientGen.Yaml.Node
import ClientGen.Yaml.Token.Lexer

/-!
The node of a YAML text, from its tokens. A text holds one document or none.
-/

set_option autoImplicit false

namespace ClientGen.Yaml

/-- The tokens that are left, the tag handles, and the anchors by name. -/
structure Reader where
  tokens : List Token
  handles : Entries (List UInt8) := []
  anchors : Entries Nat := []

abbrev Reading (Value : Type) := StateT Reader Option Value

namespace Reader

def next? : Reading (Option Token) := do return (← get).tokens.head?

def advance : Reading Unit := modify fun reader => { reader with tokens := reader.tokens.drop 1 }

/-- Passes over a token if it is the one given, and tells whether it was. -/
def takes (token : Token) : Reading Bool := do
  if (← next?) = some token then
    advance
    return true
  return false

def expect (token : Token) : Reading Unit := do
  unless ← takes token do failure

def nextIn (tokens : List Token) : Reading Bool := do
  return (← next?).any (tokens.contains ·)

def nodeUnless (stops : List Token) (read : Reading Node) : Reading Node := do
  if ← nextIn stops then return .blank else read

/-- Takes a name for the next node. Its number is that of the names so far, so a name that is used
again may share the number of another. -/
def newAnchor (name : String) : Reading Nat := do
  let reader ← get
  let number := reader.anchors.length
  set { reader with anchors := Entries.insert name number reader.anchors }
  return number

def fullTag (handle : String) (rest : List UInt8) : Reading Tag := do
  if handle.isEmpty then return rest
  match (← get).handles.lookup handle with
  | some start => return start ++ rest
  | none => failure

def anchorIfAny : Reading (Option Nat) := do
  match ← next? with
  | some (.anchor name) =>
      advance
      return some (← newAnchor name)
  | _ => return none

def tagIfAny : Reading (Option Tag) := do
  match ← next? with
  | some (.tag handle rest) =>
      advance
      return some (← fullTag handle rest)
  | _ => return none

def properties : Reading Properties := do
  match ← anchorIfAny with
  | some anchor => return ⟨some anchor, ← tagIfAny⟩
  | none =>
      let tag ← tagIfAny
      if tag.isSome then return ⟨← anchorIfAny, tag⟩ else return {}

def bareTag : Tag := "!".toUTF8.data.toList

/-- The properties of a scalar that is written, where the mark alone says nothing. -/
def scalarProperties (found : Properties) : Properties :=
  if found.tag = some bareTag then { found with tag := none } else found

def onlyProperties (found : Properties) : Reading Node :=
  if found.anchor.isNone && found.tag.isNone then failure else return .scalar found .plain ""

/-- Where a node stands. In a field of a block mapping a sequence needs no indentation. -/
inductive Context where
  | block
  | field
  | flow
  deriving DecidableEq

mutual

def node (context : Context) : Nat → Reading Node
  | 0 => failure
  | fuel + 1 => do
      if let some (.alias name) := ← next? then
        match (← get).anchors.lookup name with
        | some anchor =>
            advance
            return .alias anchor
        | none => failure
      let found ← properties
      match ← next? with
      | some (.scalar style text) =>
          advance
          return .scalar (scalarProperties found) style text
      | some .entry =>
          if context = .field then return .sequence found (← looseItems fuel)
          else onlyProperties found
      | some .flowSequence =>
          advance
          return .sequence found (← flowItems true fuel)
      | some .flowMapping =>
          advance
          return .mapping found (← flowEntries true fuel)
      | some .blockSequence =>
          if context = .flow then onlyProperties found
          else
            advance
            return .sequence found (← blockItems fuel)
      | some .blockMapping =>
          if context = .flow then onlyProperties found
          else
            advance
            return .mapping found (← blockEntries fuel)
      | _ => onlyProperties found

def blockItems : Nat → Reading (List Node)
  | 0 => failure
  | fuel + 1 => do
      if ← takes .blockEnd then return []
      expect .entry
      let item ← nodeUnless [.entry, .blockEnd] (node .block fuel)
      return item :: (← blockItems fuel)

def looseItems : Nat → Reading (List Node)
  | 0 => failure
  | fuel + 1 => do
      if ← takes .entry then
        let item ← nodeUnless [.entry, .key, .value, .blockEnd] (node .block fuel)
        return item :: (← looseItems fuel)
      return []

def blockEntries : Nat → Reading (List (Node × Node))
  | 0 => failure
  | fuel + 1 => do
      if ← takes .blockEnd then return []
      expect .key
      let stops := [.key, .value, .blockEnd]
      let key ← nodeUnless stops (node .field fuel)
      let value ← if ← takes .value then nodeUnless stops (node .field fuel) else pure .blank
      return (key, value) :: (← blockEntries fuel)

/-- Reads the items of a sequence in brackets. An item with a key is a mapping of one entry. Where
such a key is left out, the token there is passed over. -/
def flowItems (first : Bool) : Nat → Reading (List Node)
  | 0 => failure
  | fuel + 1 => do
      if ← takes .flowSequenceEnd then return []
      unless first do expect .comma
      if ← takes .flowSequenceEnd then return []
      if ← takes .key then
        let key ← if ← nextIn [.value, .comma, .flowSequenceEnd] then
            advance
            pure .blank
          else node .flow fuel
        let value ← if ← takes .value then
            nodeUnless [.comma, .flowSequenceEnd] (node .flow fuel)
          else pure .blank
        return .mapping {} [(key, value)] :: (← flowItems false fuel)
      let item ← node .flow fuel
      return item :: (← flowItems false fuel)

/-- Reads the entries of a mapping in braces. An entry without a key sign has no value. -/
def flowEntries (first : Bool) : Nat → Reading (List (Node × Node))
  | 0 => failure
  | fuel + 1 => do
      if ← takes .flowMappingEnd then return []
      unless first do expect .comma
      if ← takes .flowMappingEnd then return []
      if ← takes .key then
        let key ← nodeUnless [.value, .comma, .flowMappingEnd] (node .flow fuel)
        let value ← if ← takes .value then
            nodeUnless [.comma, .flowMappingEnd] (node .flow fuel)
          else pure .blank
        return (key, value) :: (← flowEntries false fuel)
      let key ← node .flow fuel
      return (key, .blank) :: (← flowEntries false fuel)

end

def usualHandles : Entries (List UInt8) :=
  [("!", "!".toUTF8.data.toList), ("!!", "tag:yaml.org,2002:".toUTF8.data.toList)]

/-- Reads the directives of a document: one version at most, and handles that differ. -/
def directives (versioned : Bool) : List Token → Reading Unit
  | .version major minor :: rest => do
      if versioned || major ≠ 1 || !(minor = 1 || minor = 2) then failure
      advance
      directives true rest
  | .tagHandle handle start :: rest => do
      let reader ← get
      if (reader.handles.lookup handle).isSome then failure
      set { reader with handles := reader.handles ++ [(handle, start)] }
      advance
      directives versioned rest
  | _ => return ()

def isExplicit : Token → Bool
  | .version _ _ | .tagHandle _ _ | .documentStart => true
  | _ => false

def document (fuel : Nat) : Reading (Option Node) := do
  match ← next? with
  | none => return none
  | some first =>
      if isExplicit first then
        directives false (← get).tokens
        expect .documentStart
      modify fun reader => { reader with handles := reader.handles ++ usualHandles }
      let content ← next?
      let root ←
        if isExplicit first && content.all fun token => isExplicit token || token = .documentEnd
        then pure .blank
        else node .block fuel
      modify fun reader =>
        { reader with tokens := reader.tokens.dropWhile (· = Token.documentEnd) }
      unless (← next?).isNone do failure
      return some root

end Reader

/-- The node of a text, which is none in a text without any; none at all if the text cannot be
read. -/
def Node.ofText? (text : String) : Option (Option Node) := do
  let tokens ← Token.ofText? text
  return ((← (Reader.document (4 * tokens.length + 4)).run { tokens }).1)

end ClientGen.Yaml
