import ClientGen.Files.Store
import ClientGen.Settings.OfYaml

/-!
The settings of a project: those of its settings file.
-/

set_option autoImplicit false

namespace ClientGen

/-- The reasons why there are no settings. -/
inductive SettingsError where
  | unreadable (path : String) (fault : FileFault)
  | noSettings (path : String)
  deriving DecidableEq, Repr

namespace SettingsError

def message : SettingsError → String
  | .unreadable path fault => "failed to read config " ++ path ++ ": " ++ fault.message
  | .noSettings path => "failed to parse config " ++ path

def cause : SettingsError → Option String
  | .unreadable _ fault => some fault.message
  | .noSettings _ => none

end SettingsError

def Settings.load {Step : Type → Type} [Monad Step] [FileStore Step] (path : String) :
    Step (Except SettingsError (Option Settings)) := do
  if ← FileStore.isThere path then
    match ← FileStore.readText path with
    | .error fault => return .error (.unreadable path fault)
    | .ok text =>
        match ofText? text with
        | none => return .error (.noSettings path)
        | some settings => return .ok (some settings)
  else return .ok none

end ClientGen
