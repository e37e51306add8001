import ClientGen.Document.OfText
import ClientGen.Files.Store

/-!
Loading a document from where it is. Documents on other machines are known by their address; they
are not fetched.
-/

set_option autoImplicit false

namespace ClientGen

/-- The reasons why a document cannot be loaded. -/
inductive LoadError where
  | unreadable (path : String) (fault : FileFault)
  | unreachable (address : String)
  | noDocument (error : DocumentError)
  deriving DecidableEq, Repr

namespace LoadError

def message : LoadError → String
  | .unreadable path fault => "failed to read " ++ path ++ ": " ++ fault.message
  | .unreachable address => "request to " ++ address ++ " failed"
  | .noDocument error => error.message

def cause : LoadError → Option String
  | .unreadable _ fault => some fault.message
  | .unreachable _ => none
  | .noDocument error => error.cause

end LoadError

namespace Document

def isRemote (location : String) : Bool :=
  Text.startsWith location "http://" || Text.startsWith location "https://"

def load {Step : Type → Type} [Monad Step] [FileStore Step] (location : String) :
    Step (Except LoadError (Reported Document)) := do
  if isRemote location then return .error (.unreachable location)
  match ← FileStore.readText location with
  | .error fault => return .error (.unreadable location fault)
  | .ok text => return (ofText text).mapError .noDocument

end Document

end ClientGen
