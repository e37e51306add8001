import ClientGen.Endpoint.OfPaths

/-!
The settings of a run, and the file that a project starts with.
-/

set_option autoImplicit false

namespace ClientGen

/-- Where the document is, where the files go, which plugin renders them and how. -/
structure Settings where
  input : String := "swagger.json"
  output : String := "src/api"
  plugin : String := "typescript"
  paths : PathOptions := {}
  timeoutSeconds : Nat := 30
  baseUrl : Option String := none
  deriving DecidableEq, Repr

namespace Settings

def fileName : String := ".swg.yaml"

/-- The settings file of a new project. It says nothing but the default settings. -/
def defaultFile : String :=
  "# swg configuration\n" ++
  "input: swagger.json     # file path or http(s) URL\n" ++
  "output: src/api\n" ++
  "plugin: typescript\n" ++
  "\n" ++
  "# Keep only paths matching every glob.\n" ++
  "filter: []\n" ++
  "  # - /pet/**\n" ++
  "\n" ++
  "# Take the output file (tag) from this path segment instead of the document tags.\n" ++
  "# tag_index: 0\n" ++
  "\n" ++
  "conjunction: By         # /user/\x7bid\x7d -> getUserById\n" ++
  "timeout_secs: 30\n" ++
  "# base_url: https://api.example.com\n"

end Settings

end ClientGen
