import ClientGen.Text.Search
import ClientGen.Text.Words

/-!
URLs of paths: the query that some documents put behind them, their segments and variables, and the
names of operations that are made of them.
-/

set_option autoImplicit false

namespace ClientGen.Url

/-- What stands before the first question mark, and what follows it if there is one. -/
def splitQuery (url : String) : String × Option String :=
  let (path, query) := Text.cut '?' url.toList
  (String.ofList path, query.map String.ofList)

def segments (path : List Char) : List (List Char) :=
  (Text.split '/' path).filter fun segment => !segment.isEmpty

def placeholderName? (segment : List Char) : Option (List Char) :=
  match segment with
  | '\x7b' :: rest => if rest.getLast? = some '\x7d' then some rest.dropLast else none
  | _ => none

/-- The part of a name that the path gives: its last segment. A variable is joined to the segment
before it. -/
def pathPart (conjunction : List Char) (path : List Char) : List Char :=
  match (segments path).reverse with
  | [] => []
  | last :: before =>
      match placeholderName? last, before with
      | none, _ => last
      | some name, parent :: _ =>
          (placeholderName? parent).getD parent ++ '_' :: conjunction ++ '_' :: name
      | some name, [] => conjunction ++ '_' :: name

/-- The part of a name that the query gives: its first parameter. -/
def queryPart (query : Option String) : List Char :=
  let first := (Text.cut '&' ((query.getD "").toList)).1
  if first.isEmpty then []
  else '_' :: first.map fun char => if char = ',' || char = '=' then '_' else char

/-- The name that a path and a query give to an operation; empty if nothing in them can be used. -/
def operationName (path : String) (query : Option String) (conjunction : String) : String :=
  Text.camelCase (String.ofList (pathPart conjunction.toList path.toList ++ queryPart query))

end ClientGen.Url
