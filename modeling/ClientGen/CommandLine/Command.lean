import ClientGen.CommandLine.Options
import ClientGen.Settings

/-!
The commands of the program, as they are written on a command line.
-/

set_option autoImplicit false

namespace ClientGen

/-- The formats in which a model is shown. -/
inductive ModelFormat where
  | yaml
  | json
  deriving DecidableEq, Repr

/-- What a command line says instead of the settings file. -/
structure Overrides where
  input : Option String := none
  output : Option String := none
  plugin : Option String := none
  filter : List String := []
  tagIndex : Option Nat := none
  conjunction : Option String := none
  baseUrl : Option String := none
  timeoutSeconds : Option Nat := none
  deriving DecidableEq, Repr

/-- The commands. -/
inductive Command where
  | generate (overrides : Overrides)
  | validate (input : Option String)
  | inspect (input : Option String) (format : ModelFormat)
  | create (force : Bool)
  | version
  | help
  deriving DecidableEq, Repr

def Overrides.apply (overrides : Overrides) (settings : Settings) : Settings :=
  { input := overrides.input.getD settings.input
    output := overrides.output.getD settings.output
    plugin := overrides.plugin.getD settings.plugin
    paths :=
      { filter := if overrides.filter.isEmpty then settings.paths.filter else overrides.filter
        tagIndex := overrides.tagIndex.orElse fun _ => settings.paths.tagIndex
        conjunction := overrides.conjunction.getD settings.paths.conjunction }
    timeoutSeconds := overrides.timeoutSeconds.getD settings.timeoutSeconds
    baseUrl := overrides.baseUrl.orElse fun _ => settings.baseUrl }

namespace CommandLine

def commonOptions : List OptionKind :=
  [{ name := "verbose", letter := some 'v', takesValue := false },
    { name := "help", letter := some 'h', takesValue := false, isLast := true }]

def leadingOptions : List OptionKind :=
  { name := "version", letter := some 'V', takesValue := false, isLast := true } :: commonOptions

def inputOption : OptionKind := { name := "input", letter := some 'i' }

def optionsOf : String → Option (List OptionKind)
  | "generate" => some <| commonOptions ++
      [inputOption, { name := "output", letter := some 'o' }, { name := "plugin" },
        { name := "filter", repeats := true }, { name := "tag-index" }, { name := "conjunction" },
        { name := "base-url" }, { name := "timeout" }]
  | "validate" => some (inputOption :: commonOptions)
  | "inspect" => some (inputOption :: { name := "format" } :: commonOptions)
  | "init" => some ({ name := "force", takesValue := false } :: commonOptions)
  | "help" => some []
  | _ => none

def natural? (text : String) : Option Nat :=
  let digits := ((Text.stripStart? text "+").getD text).toList
  if digits.isEmpty || !digits.all Char.isDigit then none
  else
    let value := digits.foldl (fun value digit => 10 * value + (digit.toNat - '0'.toNat)) 0
    if value < Nat.pow 2 64 then some value else none

/-- The value of an option, which may be left out but has to be of its kind. -/
def readValue {Value : Type} (given : Given) (name : String) (read : String → Option Value) :
    Except UsageError (Option Value) :=
  match given.value? name with
  | none => .ok none
  | some text =>
      match read text with
      | some value => .ok (some value)
      | none => .error (.invalidValue name text)

def formatNamed? : String → Option ModelFormat
  | "yaml" => some .yaml
  | "json" => some .json
  | _ => none

/-- What a command line says instead of the settings file. The output directory has a name. -/
def overrides (given : Given) : Except UsageError Overrides := do
  let output ← readValue given "output" fun text => if text.isEmpty then none else some text
  let tagIndex ← readValue given "tag-index" natural?
  let timeoutSeconds ← readValue given "timeout" natural?
  return {
    input := given.value? "input"
    output
    plugin := given.value? "plugin"
    filter := given.values "filter"
    tagIndex
    conjunction := given.value? "conjunction"
    baseUrl := given.value? "base-url"
    timeoutSeconds }

def commandNamed (name : String) (given : Given) : Except UsageError Command :=
  if given.has "help" then .ok .help
  else
    match name with
    | "generate" => (overrides given).map .generate
    | "validate" => .ok (.validate (given.value? "input"))
    | "inspect" =>
        (readValue given "format" formatNamed?).map fun format =>
          .inspect (given.value? "input") (format.getD .yaml)
    | "init" => .ok (.create (given.has "force"))
    | "help" => .ok .help
    | other => .error (.unknownCommand other)

end CommandLine

def Command.parse (words : List String) : Except CommandLine.UsageError Command := do
  let (leading, rest) ← CommandLine.readOptions CommandLine.leadingOptions [] words
  if leading.has "version" then return .version
  if leading.has "help" then return .help
  match rest with
  | [] => throw .missingCommand
  | name :: arguments =>
      match CommandLine.optionsOf name with
      | none => throw (.unknownCommand name)
      | some kinds =>
          let (given, others) ← CommandLine.readOptions kinds [] arguments
          match others with
          | [] => CommandLine.commandNamed name given
          | argument :: _ => throw (.unexpectedArgument argument)

end ClientGen
