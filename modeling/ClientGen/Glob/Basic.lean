/-!
Patterns for the paths of URLs: the pieces that a pattern consists of, and what can be wrong with
it.
-/

set_option autoImplicit false

namespace ClientGen.Glob

/-- A piece of a pattern. `leading`, `between` and `trailing` are the places of a double star:
before a slash at the beginning, between two slashes, and after a slash at the end. -/
inductive Piece where
  | literal (char : Char)
  | any
  | star
  | leading
  | between
  | trailing
  | oneOf (negated : Bool) (ranges : List (Char × Char))
  | choice (alternatives : List (List Piece))
  deriving Repr

/-- The ways in which a text is not a pattern. -/
inductive Fault where
  | unclosedClass
  | emptyRange (first last : Char)
  | unopenedGroup
  | unclosedGroup
  | danglingEscape
  deriving DecidableEq, Repr

def Fault.message : Fault → String
  | .unclosedClass => "unclosed character class; missing ']'"
  | .emptyRange first last =>
      "invalid range; '" ++ first.toString ++ "' > '" ++ last.toString ++ "'"
  | .unopenedGroup =>
      "unopened alternate group; missing '\x7b' (maybe escape '\x7d' with '[\x7d]'?)"
  | .unclosedGroup =>
      "unclosed alternate group; missing '\x7d' (maybe escape '\x7b' with '[\x7b]'?)"
  | .danglingEscape => "dangling '\\'"

end ClientGen.Glob
