/-!
The methods of HTTP requests.
-/

set_option autoImplicit false

namespace ClientGen

/-- A method of an HTTP request. -/
inductive Method where
  | get
  | put
  | post
  | delete
  | options
  | head
  | patch
  | trace
  deriving DecidableEq, Repr

namespace Method

/-- The methods in the order in which the operations of a path are listed. -/
def all : List Method := [.get, .put, .post, .delete, .options, .head, .patch, .trace]

def key : Method → String
  | .get => "get"
  | .put => "put"
  | .post => "post"
  | .delete => "delete"
  | .options => "options"
  | .head => "head"
  | .patch => "patch"
  | .trace => "trace"

def verb : Method → String
  | .get => "GET"
  | .put => "PUT"
  | .post => "POST"
  | .delete => "DELETE"
  | .options => "OPTIONS"
  | .head => "HEAD"
  | .patch => "PATCH"
  | .trace => "TRACE"

theorem mem_all (method : Method) : method ∈ all := by cases method <;> decide

end Method

end ClientGen
