/-!
Files that a run produces.
-/

set_option autoImplicit false

namespace ClientGen

/-- A file to be written, at a path below the output directory. -/
structure GeneratedFile where
  path : String
  content : String
  deriving DecidableEq, Repr

end ClientGen
