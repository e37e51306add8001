/-!
Tokens of a YAML text. Indentation shows as the starts and ends of blocks.
-/

set_option autoImplicit false

namespace ClientGen.Yaml

/-- How a scalar is written. -/
inductive ScalarStyle where
  | plain
  | singleQuoted
  | doubleQuoted
  | literal
  | folded
  deriving DecidableEq, Repr

/-- A token. A tag is a handle and the bytes of the rest, which may be encoded in the text. -/
inductive Token where
  | version (major minor : Nat)
  | tagHandle (handle : String) (start : List UInt8)
  | documentStart
  | documentEnd
  | blockSequence
  | blockMapping
  | blockEnd
  | flowSequence
  | flowSequenceEnd
  | flowMapping
  | flowMappingEnd
  | entry
  | comma
  | key
  | value
  | alias (name : String)
  | anchor (name : String)
  | tag (handle : String) (rest : List UInt8)
  | scalar (style : ScalarStyle) (text : String)
  deriving DecidableEq, Repr

end ClientGen.Yaml
