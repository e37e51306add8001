import ClientGen.Text.Search

/-!
Paths as they are written: components between slashes, where empty components and single points
count for nothing. A point at the beginning is kept.
-/

set_option autoImplicit false

namespace ClientGen.PathText

def isAbsolute (path : String) : Bool := path.toList.head? = some '/'

/-- A path below a directory. One that begins at the root stays as it is. -/
def join (base path : String) : String :=
  if isAbsolute path then path
  else if base.isEmpty || base.toList.getLast? = some '/' then base ++ path
  else base ++ "/" ++ path

/-- The beginning of a path that is no component: the root, or a point with the end of its word. -/
def splitStart : List Char → List Char × List Char
  | '/' :: rest => (['/'], rest)
  | ['.'] => (['.'], [])
  | '.' :: '/' :: rest => (['.'], '/' :: rest)
  | chars => ([], chars)

/-- Takes the last component away, from the characters in reverse order. -/
def dropComponent (reversed : List Char) : List Char :=
  (reversed.dropWhile (· ≠ '/')).drop 1

/-- Takes away what counts for nothing at the end. `fuel` bounds the number of components. -/
def dropEmpty : Nat → List Char → List Char
  | 0, reversed => reversed
  | fuel + 1, reversed =>
      let last := reversed.takeWhile (· ≠ '/')
      if reversed.isEmpty || !(last = [] || last = ['.']) then reversed
      else dropEmpty fuel (dropComponent reversed)

/-- The path of the directory around a path; none for the root and for the empty path. -/
def parent? (path : String) : Option String :=
  let (start, rest) := splitStart path.toList
  let shorten (reversed : List Char) := dropEmpty (reversed.length + 1) reversed
  let components := shorten rest.reverse
  if components.isEmpty then
    if start = ['.'] then some "" else none
  else some (String.ofList (start ++ (shorten (dropComponent components)).reverse))

/-- A path and all directories around it, the nearest first. `fuel` bounds their number. -/
def ancestorsWithin : Nat → String → List String
  | 0, path => [path]
  | fuel + 1, path =>
      match parent? path with
      | none => [path]
      | some outer => path :: ancestorsWithin fuel outer

def ancestors (path : String) : List String := ancestorsWithin path.length path

/-- The components that a path names one after the other, points included. -/
def components (path : String) : List String :=
  ((Text.split '/' path.toList).filter (!·.isEmpty)).map String.ofList

end ClientGen.PathText
