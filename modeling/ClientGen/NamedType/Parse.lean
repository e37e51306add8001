import ClientGen.NamedType.Basic

/-!
Reading type names with arguments. The text is cut into names, brackets and commas, and the pieces
are taken one by one, with the open argument lists on a stack. Brackets of either kind match each
other.
-/

set_option autoImplicit false

namespace ClientGen.NamedType

/-- A piece of the text of a type. -/
inductive Piece where
  | name (text : String)
  | opening
  | comma
  | closing
  deriving DecidableEq, Repr

/-- The piece that a run of characters makes: a name, or nothing if it is blank. -/
def runPiece (run : List Char) : List Piece :=
  let name := Text.trimChars run
  if name.isEmpty then [] else [.name (String.ofList name)]

/-- The pieces of a text. `run` holds the characters since the last bracket or comma, last character
first. -/
def pieces (run : List Char) : List Char → List Piece
  | [] => runPiece run.reverse
  | char :: rest =>
      if Names.isOpening char then runPiece run.reverse ++ .opening :: pieces [] rest
      else if Names.isClosing char then runPiece run.reverse ++ .closing :: pieces [] rest
      else if char = ',' then runPiece run.reverse ++ .comma :: pieces [] rest
      else pieces (char :: run) rest

/-- An argument list that is still open: the name before it and the arguments so far, last first. -/
structure Opened where
  name : String
  arguments : List NamedType

mutual

def beforeType (stack : List Opened) : List Piece → Option NamedType
  | .name name :: rest => afterName stack name rest
  | _ => none

def afterName (stack : List Opened) (name : String) : List Piece → Option NamedType
  | .opening :: rest => beforeType (⟨name, []⟩ :: stack) rest
  | .comma :: rest =>
      match stack with
      | [] => none
      | opened :: outer =>
          beforeType (⟨opened.name, plain name :: opened.arguments⟩ :: outer) rest
  | .closing :: rest =>
      match stack with
      | [] => none
      | opened :: outer =>
          afterType outer ⟨opened.name, (plain name :: opened.arguments).reverse⟩ rest
  | .name _ :: _ => none
  | [] => if stack.isEmpty then some (plain name) else none

def afterType (stack : List Opened) (type : NamedType) : List Piece → Option NamedType
  | .comma :: rest =>
      match stack with
      | [] => none
      | opened :: outer => beforeType (⟨opened.name, type :: opened.arguments⟩ :: outer) rest
  | .closing :: rest =>
      match stack with
      | [] => none
      | opened :: outer =>
          afterType outer ⟨opened.name, (type :: opened.arguments).reverse⟩ rest
  | .opening :: _ => none
  | .name _ :: _ => none
  | [] => if stack.isEmpty then some type else none

end

def parse? (text : String) : Option NamedType := beforeType [] (pieces [] text.toList)

/-- The type that a text denotes. A malformed text is a plain name as a whole. -/
def parse (text : String) : NamedType := (parse? text).getD (plain (Text.trim text))

end ClientGen.NamedType
