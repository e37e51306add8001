import ClientGen.Glob.Match
import ClientGen.Glob.Parse

/-!
Filters for paths: several patterns, all of which a path must match.
-/

set_option autoImplicit false

namespace ClientGen

/-- A pattern that is none, and what is wrong with it. -/
structure FilterError where
  pattern : String
  fault : Glob.Fault
  deriving DecidableEq, Repr

def FilterError.message (error : FilterError) : String :=
  "invalid path filter `" ++ error.pattern ++ "`: error parsing glob '" ++ error.pattern ++ "': " ++
    error.fault.message

/-- Patterns that a path must match, every one of them. -/
structure PathFilter where
  patterns : List (List Glob.Piece) := []
  deriving Repr

namespace PathFilter

/-- The filter for some patterns, or the first of them that is none. -/
def parse : List String → Except FilterError PathFilter
  | [] => .ok ⟨[]⟩
  | text :: rest =>
      match Glob.parse text with
      | .error fault => .error ⟨text, fault⟩
      | .ok pattern =>
          match parse rest with
          | .error error => .error error
          | .ok filter => .ok ⟨pattern :: filter.patterns⟩

def accepts (filter : PathFilter) (path : String) : Bool :=
  filter.patterns.all fun pattern => Glob.matchesPath pattern path

end PathFilter

end ClientGen
