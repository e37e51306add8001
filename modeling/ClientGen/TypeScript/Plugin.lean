import ClientGen.Plugin.Basic
import ClientGen.TypeScript.Client

/-!
The plugin that renders a typed client: the definitions, the client, one module for each tag and an
index of them all.
-/

set_option autoImplicit false

namespace ClientGen.TypeScript

def pluginId : String := "typescript"

def settings? : List Call → Option Settings
  | [] => none
  | .setup settings :: rest => (settings? rest).orElse fun _ => some settings
  | _ :: rest => settings? rest

def title? : List Call → Option String
  | [] => none
  | .load document :: rest => (title? rest).orElse fun _ => some document.info.title
  | _ :: rest => title? rest

def output (title baseUrl : String) (model : ApiModel) : Output where
  definition := definitionFiles title model.definitions
  action := actionFiles baseUrl model.definitions model.endpoints

/-- The plugin. It renders nothing before it was set up, and does not come back from a model with a
type that cannot be written. -/
def plugin : Plugin where
  id := pluginId
  answer before call :=
    match call with
    | .transform model =>
        match settings? before with
        | none => .error (.notReady pluginId)
        | some settings =>
            if isWritableClient model.definitions model.endpoints then
              .ok (output ((title? before).getD "") (settings.baseUrl.getD "") model)
            else .error (.noAnswer pluginId)
    | _ => .ok {}

end ClientGen.TypeScript
