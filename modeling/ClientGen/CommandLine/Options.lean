import ClientGen.Text.Search

/-!
Options on a command line: long ones behind two hyphens, short ones behind one, where several may
share a word. The value of an option stands behind an equals sign, at the end of a word of short
options, or in the next word.
-/

set_option autoImplicit false

namespace ClientGen.CommandLine

/-- An option: its long name and its letter, whether it has a value, whether it may be given again,
and whether nothing after it counts. -/
structure OptionKind where
  name : String
  letter : Option Char := none
  takesValue : Bool := true
  repeats : Bool := false
  isLast : Bool := false
  deriving DecidableEq, Repr

/-- The reasons why a command line cannot be read. -/
inductive UsageError where
  | missingCommand
  | unknownCommand (name : String)
  | unknownOption (name : String)
  | unexpectedArgument (argument : String)
  | unexpectedValue (option : String)
  | missingValue (option : String)
  | repeated (option : String)
  | invalidValue (option value : String)
  deriving DecidableEq, Repr

def UsageError.message : UsageError → String
  | .missingCommand => "a subcommand is required"
  | .unknownCommand name => "unrecognized subcommand '" ++ name ++ "'"
  | .unknownOption name => "unexpected argument '" ++ name ++ "' found"
  | .unexpectedArgument argument => "unexpected argument '" ++ argument ++ "' found"
  | .unexpectedValue option => "unexpected value for '--" ++ option ++ "' found"
  | .missingValue option => "a value is required for '--" ++ option ++ "' but none was supplied"
  | .repeated option => "the argument '--" ++ option ++ "' cannot be used multiple times"
  | .invalidValue option value => "invalid value '" ++ value ++ "' for '--" ++ option ++ "'"

/-- Options that were given, with their values; an option without a value has an empty one. -/
abbrev Given := List (String × String)

def Given.value? (name : String) (given : Given) : Option String := given.lookup name

def Given.values (name : String) (given : Given) : List String :=
  (given.filter (·.1 = name)).map (·.2)

def Given.has (name : String) (given : Given) : Bool := (given.value? name).isSome

/-- Adds an option, which must not have been given before unless it may be repeated. -/
def Given.add (kind : OptionKind) (value : String) (given : Given) : Except UsageError Given :=
  if given.has kind.name && !kind.repeats then .error (.repeated kind.name)
  else .ok (given ++ [(kind.name, value)])

def isOptionWord (word : String) : Bool := Text.startsWith word "-" && word ≠ "-"

/-- The options of a word, and the one whose value is in the next word. -/
abbrev WordOptions := Except UsageError (Given × Option OptionKind)

def readLong (kinds : List OptionKind) (given : Given) (chars : List Char) : WordOptions :=
  let (nameChars, value) := Text.cut '=' chars
  let name := String.ofList nameChars
  match kinds.find? (·.name = name), value with
  | none, _ => .error (.unknownOption ("--" ++ name))
  | some kind, some text =>
      if kind.takesValue then (given.add kind (String.ofList text)).map fun more => (more, none)
      else .error (.unexpectedValue name)
  | some kind, none =>
      if kind.takesValue then .ok (given, some kind)
      else (given.add kind "").map fun more => (more, none)

def readShort (kinds : List OptionKind) (given : Given) : List Char → WordOptions
  | [] => .ok (given, none)
  | letter :: rest =>
      match kinds.find? (·.letter = some letter) with
      | none => .error (.unknownOption (String.ofList ['-', letter]))
      | some kind =>
          if kind.takesValue then
            match rest with
            | [] => .ok (given, some kind)
            | '=' :: value => (given.add kind (String.ofList value)).map fun more => (more, none)
            | value => (given.add kind (String.ofList value)).map fun more => (more, none)
          else
            match given.add kind "" with
            | .error error => .error error
            | .ok more => if kind.isLast then .ok (more, none) else readShort kinds more rest

def readWord (kinds : List OptionKind) (given : Given) (word : String) : WordOptions :=
  match Text.stripStart? word "--" with
  | some long => readLong kinds given long.toList
  | none => readShort kinds given (word.toList.drop 1)

def isDone (kinds : List OptionKind) (given : Given) : Bool :=
  kinds.any fun kind => kind.isLast && given.has kind.name

/-- Reads options up to the first word that is no option, and returns the words from there on. -/
def readOptions (kinds : List OptionKind) (given : Given) :
    List String → Except UsageError (Given × List String)
  | [] => .ok (given, [])
  | word :: rest =>
      if word = "--" then
        match rest with
        | [] => .ok (given, [])
        | argument :: _ => .error (.unexpectedArgument argument)
      else if !isOptionWord word then .ok (given, word :: rest)
      else
        match readWord kinds given word with
        | .error error => .error error
        | .ok (more, none) =>
            if isDone kinds more then .ok (more, []) else readOptions kinds more rest
        | .ok (more, some kind) =>
            match rest with
            | [] => .error (.missingValue kind.name)
            | value :: others =>
                if isOptionWord value then .error (.missingValue kind.name)
                else
                  match more.add kind value with
                  | .error error => .error error
                  | .ok all => readOptions kinds all others

end ClientGen.CommandLine
