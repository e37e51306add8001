import ClientGen.ApiModel
import ClientGen.GeneratedFile
import ClientGen.Settings

/-!
Plugins render the files of a client. A run calls a plugin several times, and the plugin answers
each call knowing those that it had before.
-/

set_option autoImplicit false

namespace ClientGen

/-- What a run tells a plugin: its settings, the document, the definitions, the operations, that the
files are to be rendered, and that all of them were written. -/
inductive Call where
  | setup (settings : Settings)
  | load (document : Document)
  | definitions (definitions : Definitions)
  | endpoints (endpoints : Entries Endpoint)
  | transform (model : ApiModel)
  | finish

/-- The files that a plugin renders. -/
structure Output where
  definition : List GeneratedFile := []
  action : List GeneratedFile := []
  deriving DecidableEq, Repr

def Output.files (output : Output) : List GeneratedFile := output.definition ++ output.action

/-- The reasons why a plugin fails. A plugin without an answer never comes back and takes the whole
process with it. -/
inductive PluginError where
  | setup (plugin message : String)
  | render (plugin message : String)
  | notReady (plugin : String)
  | noAnswer (plugin : String)
  deriving DecidableEq, Repr

def PluginError.message : PluginError → String
  | .setup plugin message => "plugin `" ++ plugin ++ "` failed during setup: " ++ message
  | .render plugin message => "plugin `" ++ plugin ++ "` failed to render: " ++ message
  | .notReady plugin => "plugin `" ++ plugin ++ "` was used before setup"
  | .noAnswer plugin => "plugin `" ++ plugin ++ "` does not answer"

/-- A plugin. Of its answers only the one to `transform` holds files that count. -/
structure Plugin where
  id : String
  answer : (before : List Call) → (call : Call) → Except PluginError Output

end ClientGen
