import ClientGen.Settings
import ClientGen.Yaml.Value

/-!
Settings from the text of a settings file. Every member may be left out, and members that are not
known are passed over.
-/

set_option autoImplicit false

namespace ClientGen

/-- The members that a settings file gives. -/
structure SettingsFile where
  input : Option String := none
  output : Option String := none
  plugin : Option String := none
  filter : Option (List String) := none
  tagIndex : Option (Option Nat) := none
  conjunction : Option String := none
  timeoutSeconds : Option Nat := none
  baseUrl : Option (Option String) := none

namespace SettingsFile

open Yaml

def text (anchors : Anchors) (node : Node) : Walk String := keyText anchors node

/-- A natural number of 64 bits, in a plain scalar or in a literal block with the tag for integers.
-/
def natural (anchors : Anchors) (node : Node) : Walk Nat := do
  match ← anchors.follow node with
  | .scalar properties style text =>
      let readable :=
        style = .plain || (style = .literal && properties.tag = some (coreTag "int"))
      match integer? text.toList with
      | some value =>
          if readable && value < Int.pow 2 64 && !text.startsWith "-" then return value.toNat
          else failure
      | none => failure
  | _ => failure

/-- Whether a scalar says that there is no value. One with the tag for nothing has to say so. -/
def isAbsent (properties : Properties) (style : ScalarStyle) (text : String) : Walk Bool :=
  if style ≠ .plain then return false
  else
    match properties.tag with
    | none => return text.isEmpty || isNullWord text
    | some tag =>
        if tag = coreTag "null" then if isNullWord text then return true else failure
        else return false

def optional {Value : Type} (read : Anchors → Node → Walk Value) (anchors : Anchors)
    (node : Node) : Walk (Option Value) := do
  let target ← anchors.follow node
  let absent ← match target with
    | .scalar properties style text => isAbsent properties style text
    | _ => pure false
  if absent then return none else return some (← read anchors target)

def isEmptyScalar : Node → Bool
  | .scalar _ style text => style = .plain && text.isEmpty
  | _ => false

def texts (anchors : Anchors) (node : Node) : Walk (List String) := do
  match ← anchors.follow node with
  | .sequence _ items => items.mapM (text anchors)
  | other => if isEmptyScalar other then return [] else failure

def once {Value : Type} (before : Option Value) (read : Walk Value) : Walk (Option Value) := do
  if before.isSome then failure
  return some (← read)

def add (anchors : Anchors) (file : SettingsFile) (entry : Node × Node) : Walk SettingsFile := do
  let (key, value) := entry
  match ← keyText anchors key with
  | "input" => return { file with input := ← once file.input (text anchors value) }
  | "output" => return { file with output := ← once file.output (text anchors value) }
  | "plugin" => return { file with plugin := ← once file.plugin (text anchors value) }
  | "filter" => return { file with filter := ← once file.filter (texts anchors value) }
  | "tag_index" =>
      return { file with tagIndex := ← once file.tagIndex (optional natural anchors value) }
  | "conjunction" =>
      return { file with conjunction := ← once file.conjunction (text anchors value) }
  | "timeout_secs" =>
      return { file with timeoutSeconds := ← once file.timeoutSeconds (natural anchors value) }
  | "base_url" => return { file with baseUrl := ← once file.baseUrl (optional text anchors value) }
  | _ => return file

def ofNode (anchors : Anchors) (node : Node) : Walk SettingsFile := do
  match ← anchors.follow node with
  | .mapping _ entries => entries.foldlM (add anchors) {}
  | other => if isEmptyScalar other then return {} else failure

def settings (file : SettingsFile) : Settings :=
  let default : Settings := {}
  { input := file.input.getD default.input
    output := file.output.getD default.output
    plugin := file.plugin.getD default.plugin
    paths :=
      { filter := file.filter.getD default.paths.filter
        tagIndex := file.tagIndex.getD default.paths.tagIndex
        conjunction := file.conjunction.getD default.paths.conjunction }
    timeoutSeconds := file.timeoutSeconds.getD default.timeoutSeconds
    baseUrl := file.baseUrl.getD default.baseUrl }

end SettingsFile

/-- The settings in the text of a settings file, if it can be read. -/
def Settings.ofText? (text : String) : Option Settings :=
  match Yaml.Node.ofText? text with
  | none => none
  | some none => some {}
  | some (some root) => (root.walk SettingsFile.ofNode).map SettingsFile.settings

end ClientGen
