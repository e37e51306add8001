import ClientGen.Document.Load
import ClientGen.Files.WriteAll
import ClientGen.Plugin.Registry

/-!
A run: the document is loaded and resolved, all plugins are set up, the selected one renders the
files, and the files are written. Nothing is written before every call up to the rendering has
succeeded.
-/

set_option autoImplicit false

namespace ClientGen

/-- The reasons why a run fails. -/
inductive RunError where
  | load (error : LoadError)
  | filter (error : FilterError)
  | plugin (error : PluginError)
  | unknownPlugin (requested : String) (registered : List String)
  | write (error : WriteError)

namespace RunError

def message : RunError → String
  | .load error => error.message
  | .filter error => error.message
  | .plugin error => error.message
  | .unknownPlugin requested registered =>
      "unknown plugin `" ++ requested ++ "` (registered: " ++
        String.intercalate ", " registered ++ ")"
  | .write error => error.message

def cause : RunError → Option String
  | .load error => error.cause
  | .write error => some error.fault.message
  | _ => none

end RunError

/-- What a run produced: the model, with all diagnostics, and the paths of the written files. -/
structure RunReport where
  model : Reported ApiModel
  written : List String

/-- Steps of a run. The registry is kept when one of them fails. -/
abbrev RunStep (Step : Type → Type) (Value : Type) :=
  ExceptT RunError (StateT Registry Step) Value

namespace Run

variable {Step : Type → Type} [Monad Step] [FileStore Step]

def selected (settings : Settings) : RunStep Step Plugin := do
  let registry ← get
  match registry.get? settings.plugin with
  | some plugin => return plugin
  | none => throw (.unknownPlugin settings.plugin registry.ids)

def setup (settings : Settings) : RunStep Step Unit := do
  let (answer, registry) := (← get).setupAll settings
  set registry
  match answer with
  | .ok () => return ()
  | .error error => throw (.plugin error)

def call (plugin : Plugin) (call : Call) : RunStep Step Output := do
  let (answer, registry) := (← get).call plugin call
  set registry
  match answer with
  | .ok output => return output
  | .error error => throw (.plugin error)

def write (settings : Settings) (files : List GeneratedFile) : RunStep Step (List String) := do
  match ← (writeAll settings.output files : Step _) with
  | .ok written => return written
  | .error error => throw (.write error)

def onDocument (settings : Settings) (document : Reported Document) :
    RunStep Step RunReport := do
  let plugin ← selected settings
  match ApiModel.ofLoaded settings.paths document with
  | .error error => throw (.filter error)
  | .ok model =>
      setup settings
      let _ ← call plugin (.load document.value)
      let _ ← call plugin (.definitions model.value.definitions)
      let _ ← call plugin (.endpoints model.value.endpoints)
      let output ← call plugin (.transform model.value)
      let written ← write settings output.files
      let _ ← call plugin .finish
      return { model, written }

def all (settings : Settings) : RunStep Step RunReport := do
  let _ ← (selected settings : RunStep Step Plugin)
  match ← (Document.load settings.input : Step _) with
  | .error error => throw (.load error)
  | .ok document => onDocument settings document

end Run

end ClientGen
