import ClientGen.CommandLine.Command
import ClientGen.Run
import ClientGen.Settings.Load
import ClientGen.TypeScript.Plugin
import ClientGen.Yaml.Writer

/-!
What each command does with the files around it, and what it prints.
-/

set_option autoImplicit false

namespace ClientGen

/-- What a command prints, and the code it exits with. -/
structure Outcome where
  exitCode : Nat := 0
  stdout : String := ""
  stderr : String := ""
  deriving DecidableEq, Repr

/-- An error as it is shown: its wording and those of the errors below it. -/
structure ShownError where
  message : String
  causes : List String := []
  deriving DecidableEq, Repr

namespace ShownError

def above (message : String) (error : String) (cause : Option String) : ShownError :=
  ⟨message, error :: cause.toList⟩

def hang (indent : Nat) (text : String) : String :=
  String.ofList <| text.toList.flatMap fun char =>
    if char = '\n' then '\n' :: List.replicate indent ' ' else [char]

def numbered (number : Nat) : List String → String
  | [] => ""
  | cause :: rest =>
      let label := toString number
      "\n" ++ String.ofList (List.replicate (5 - label.length) ' ') ++ label ++ ": " ++
        hang 7 cause ++ numbered (number + 1) rest

def text (shown : ShownError) : String :=
  let below := match shown.causes with
    | [] => ""
    | [cause] => "\n\nCaused by:\n    " ++ hang 4 cause
    | causes => "\n\nCaused by:" ++ numbered 0 causes
  "Error: " ++ shown.message ++ below ++ "\n"

def outcome (shown : ShownError) (stderr : String) : Outcome :=
  { exitCode := 1, stderr := stderr ++ shown.text }

end ShownError

namespace Command

variable {Step : Type → Type} [Monad Step] [FileStore Step]

def versionLine : String := "swg 0.3.0\n"

def projectSettings : Step (Except ShownError Settings) := do
  match ← Settings.load Settings.fileName with
  | .error error => return .error ⟨error.message, error.cause.toList⟩
  | .ok found => return .ok (found.getD {})

/-- The model of the document at a location, which defaults to that of the settings. -/
def loadModel (input : Option String) : Step (Except ShownError (Reported ApiModel)) := do
  match ← projectSettings with
  | .error shown => return .error shown
  | .ok settings =>
      let location := input.getD settings.input
      match ← Document.load location with
      | .error error =>
          return .error (.above ("failed to load " ++ location) error.message error.cause)
      | .ok document =>
          return (ApiModel.ofLoaded settings.paths document).mapError fun error =>
            ⟨error.message, []⟩

def diagnosticLines (diagnostics : List Diagnostic) : String :=
  String.join <| diagnostics.map fun diagnostic =>
    "  " ++ diagnostic.severity.key ++ ": " ++ diagnostic.line ++ "\n"

def validation (model : Reported ApiModel) : String :=
  let errors := (Diagnostic.ofSeverity .error model.diagnostics).length
  "  Definitions: " ++ toString model.value.definitions.entries.length ++ "\n" ++
    "  Operations: " ++ toString model.value.endpoints.length ++ "\n" ++
    diagnosticLines model.diagnostics ++
    (if errors = 0 then "Validation successful.\n"
      else toString errors ++ " entries will be skipped.\n")

def modelText (format : ModelFormat) (model : Reported ApiModel) : String :=
  let json := ApiModel.encodeReported model
  match format with
  | .yaml => Yaml.write json
  | .json => json.pretty 0 ++ "\n"

def announcement (settings : Settings) : String :=
  "Generating " ++ settings.input ++ " → " ++ settings.output ++ " (" ++ settings.plugin ++ ")\n"

def summary (report : RunReport) : String :=
  String.join (report.written.map fun path => "  wrote " ++ path ++ "\n") ++
    "Generated " ++ toString report.written.length ++ " files (" ++
    toString report.model.value.definitions.entries.length ++ " definitions, " ++
    toString report.model.value.endpoints.length ++ " operations, " ++
    toString report.model.diagnostics.length ++ " diagnostics)\n"

def registry : Registry := Registry.register TypeScript.plugin {}

def abortCode : Nat := 134

def generateClient (overrides : Overrides) : Step Outcome := do
  match ← projectSettings with
  | .error shown => return shown.outcome ""
  | .ok found =>
      let settings := overrides.apply found
      let (result, _) ← ((Run.all settings).run).run registry
      match result with
      | .error (.plugin (.noAnswer _)) =>
          return { exitCode := abortCode, stderr := announcement settings }
      | .error error =>
          let shown := ShownError.above ("failed to generate from " ++ settings.input)
            error.message error.cause
          return shown.outcome (announcement settings)
      | .ok report => return { stderr := announcement settings ++ summary report }

def validateDocument (input : Option String) : Step Outcome := do
  match ← loadModel input with
  | .error shown => return shown.outcome ""
  | .ok model => return { stderr := validation model }

def inspectDocument (input : Option String) (format : ModelFormat) : Step Outcome := do
  match ← loadModel input with
  | .error shown => return shown.outcome ""
  | .ok model => return { stdout := modelText format model }

/-- Writes the settings file of a new project. An old one is replaced only by force. -/
def createSettings (force : Bool) : Step Outcome := do
  let path := Settings.fileName
  let isThere ← FileStore.isThere path
  if isThere && !force then
    return ShownError.outcome ⟨path ++ " already exists. Use --force to overwrite.", []⟩ ""
  match ← FileStore.writeText path Settings.defaultFile with
  | .error fault =>
      return (ShownError.above ("failed to write " ++ path) fault.message none).outcome ""
  | .ok () => return { stderr := "Created " ++ path ++ "\n" }

def execute : Command → Step Outcome
  | .generate overrides => generateClient overrides
  | .validate input => validateDocument input
  | .inspect input format => inspectDocument input format
  | .create force => createSettings force
  | .version => return { stdout := versionLine }
  | .help => return {}

end Command

def executeLine {Step : Type → Type} [Monad Step] [FileStore Step] (words : List String) :
    Step Outcome :=
  match Command.parse words with
  | .ok command => command.execute
  | .error error => return { exitCode := 2, stderr := "error: " ++ error.message ++ "\n" }

end ClientGen
