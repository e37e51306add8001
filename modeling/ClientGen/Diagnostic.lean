import ClientGen.Json
import ClientGen.Text.Search

/-!
Problems that cost one entry of a document and never the whole run, and values that come with a list
of them. Diagnostics stand in the order in which the problems were found.
-/

set_option autoImplicit false

namespace ClientGen

/-- How serious a problem is. -/
inductive Severity where
  | info
  | warning
  | error
  deriving DecidableEq, Repr

def Severity.key : Severity → String
  | .info => "info"
  | .warning => "warning"
  | .error => "error"

/-- A problem with the entry that `subject` names. -/
structure Diagnostic where
  severity : Severity
  subject : String
  message : String
  deriving DecidableEq, Repr

namespace Diagnostic

def line (diagnostic : Diagnostic) : String := diagnostic.subject ++ ": " ++ diagnostic.message

def encode (diagnostic : Diagnostic) : Json :=
  .obj [("severity", .str diagnostic.severity.key), ("subject", .str diagnostic.subject),
    ("message", .str diagnostic.message)]

def ofSeverity (severity : Severity) (diagnostics : List Diagnostic) : List Diagnostic :=
  diagnostics.filter (·.severity = severity)

@[simp] theorem ofSeverity_append (severity : Severity) (left right : List Diagnostic) :
    ofSeverity severity (left ++ right) = ofSeverity severity left ++ ofSeverity severity right :=
  List.filter_append ..

def mentions (text : String) (diagnostics : List Diagnostic) : Bool :=
  diagnostics.any fun diagnostic => Text.contains diagnostic.subject text

end Diagnostic

/-- A value and the problems that were found on the way to it. -/
structure Reported (Value : Type) where
  value : Value
  diagnostics : List Diagnostic := []
  deriving Repr

namespace Reported

def note (severity : Severity) (subject message : String) : Reported Unit :=
  ⟨(), [⟨severity, subject, message⟩]⟩

instance : Monad Reported where
  pure value := ⟨value, []⟩
  bind reported next :=
    let later := next reported.value
    ⟨later.value, reported.diagnostics ++ later.diagnostics⟩

@[simp] theorem value_pure {Value : Type} (value : Value) :
    (pure value : Reported Value).value = value := rfl

@[simp] theorem diagnostics_pure {Value : Type} (value : Value) :
    (pure value : Reported Value).diagnostics = [] := rfl

@[simp] theorem value_bind {Value Next : Type} (reported : Reported Value)
    (next : Value → Reported Next) : (reported >>= next).value = (next reported.value).value := rfl

@[simp] theorem diagnostics_bind {Value Next : Type} (reported : Reported Value)
    (next : Value → Reported Next) :
    (reported >>= next).diagnostics =
      reported.diagnostics ++ (next reported.value).diagnostics := rfl

@[simp] theorem value_map {Value Next : Type} (change : Value → Next)
    (reported : Reported Value) : (change <$> reported).value = change reported.value := rfl

@[simp] theorem diagnostics_map {Value Next : Type} (change : Value → Next)
    (reported : Reported Value) : (change <$> reported).diagnostics = reported.diagnostics :=
  List.append_nil _

instance : LawfulMonad Reported :=
  LawfulMonad.mk' Reported (fun _ => by simp [Functor.map]) (fun _ _ => rfl)
    fun _ _ _ => by simp [bind]

end Reported

end ClientGen
