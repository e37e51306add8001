import ClientGen.Endpoint.Basic
import ClientGen.TypeScript.Declaration

/-!
The modules of a client: one for each tag, with a function for each operation. Inline objects that
are not among the definitions get an interface in the module that uses them.
-/

set_option autoImplicit false

namespace ClientGen.TypeScript

/-- A function that sends a request. -/
structure Function where
  name : String
  method : String
  url : String
  template : String
  summary : String
  description : String
  deprecated : Bool
  parametersName : String
  parameters : List Member
  allOptional : Bool
  query : List String
  headers : List String
  form : List String
  body : Option String
  contentType : Option String
  response : String
  deriving DecidableEq, Repr

/-- A module. -/
structure Module where
  tag : String
  name : String
  imports : List String
  interfaces : List (String × List Member)
  functions : List Function
  deriving DecidableEq, Repr

def moduleName (tag : String) : String :=
  let name := Text.kebabCase tag
  if name.isEmpty then "default" else name

/-- What is left of a type after the arrays around it are taken away; `fuel` bounds their number. -/
def withoutArrays : Nat → List Char → List Char
  | 0, type => type
  | fuel + 1, type =>
      match type with
      | 'A' :: 'r' :: 'r' :: 'a' :: 'y' :: '<' :: rest =>
          if rest.getLast? = some '>' then withoutArrays fuel (Text.trimChars rest.dropLast)
          else type
      | _ => type

/-- The name of the interface for an inline object: the first member of the type without arrays. -/
def localName (type : String) : String :=
  let first := Text.trimChars (Text.cut '|' type.toList).1
  String.ofList (withoutArrays first.length first)

abbrev Locals := List (String × List Field)

/-- Whether the object of a name needs no interface in a module. -/
def isKnown (exported : List String) (locals : Locals) (name : String) : Bool :=
  exported.contains name || locals.any fun entry => entry.1 = name

mutual

def collectField (exported : List String) : Field → Locals → Locals
  | ⟨_, type, _, _, _, _, _, _, properties⟩, locals =>
      collectProperties exported (localName type) properties locals
termination_by structural field => field

def collectProperties (exported : List String) (name : String) :
    Option (List Field) → Locals → Locals
  | none, locals => locals
  | some fields, locals =>
      if fields.isEmpty || isKnown exported locals name then locals
      else collectFields exported fields (locals ++ [(name, fields)])
termination_by structural properties => properties

def collectFields (exported : List String) : List Field → Locals → Locals
  | [], locals => locals
  | field :: rest, locals =>
      collectFields exported rest (collectField exported field locals)
termination_by structural fields => fields

end

def distinctParameters (fields : List Field) : List Field :=
  fields.foldl
    (fun done field =>
      if done.any fun other => other.name = field.name then done else done ++ [field]) []

def declaredParameters (endpoint : Endpoint) : List Field :=
  distinctParameters endpoint.parameters.all

def collectEndpoint (exported : List String) (locals : Locals) (endpoint : Endpoint) : Locals :=
  collectProperties exported (localName endpoint.response.type) (some endpoint.response.properties)
    (collectFields exported (declaredParameters endpoint) locals)

def localsOf (exported : List String) (endpoints : Entries Endpoint) : Locals :=
  endpoints.foldl (fun locals entry => collectEndpoint exported locals entry.2) []

/-- Whether all types that an operation mentions can be written. -/
def isWritableEndpoint (endpoint : Endpoint) : Bool :=
  (declaredParameters endpoint).all isWritable && (ofType? endpoint.response.type).isSome

def isWritableModule (exported : List String) (endpoints : Entries Endpoint) : Bool :=
  (endpoints.all fun entry => isWritableEndpoint entry.2) &&
    (localsOf exported endpoints).all fun entry => entry.2.all isWritable

def mentionedNames (endpoint : Endpoint) : List String :=
  ((declaredParameters endpoint).flatMap fun field => capitalNames (ofField field)) ++
    capitalNames (ofType endpoint.response.type)

def insertSorted (text : String) : List String → List String
  | [] => [text]
  | first :: rest =>
      if text < first then text :: first :: rest
      else if text = first then first :: rest
      else first :: insertSorted text rest

def sortedDistinct (texts : List String) : List String :=
  texts.foldl (fun sorted text => insertSorted text sorted) []

def Function.ofEndpoint (name : String) (endpoint : Endpoint) : Function :=
  let parameters := declaredParameters endpoint
  let keys (fields : List Field) : List String := fields.map fun field => quoted field.name
  { name := name
    method := endpoint.method.verb
    url := endpoint.url
    template := urlTemplate endpoint.url
    summary := endpoint.summary
    description := endpoint.description
    deprecated := endpoint.deprecated
    parametersName := Text.pascalCase name ++ "Params"
    parameters := parameters.map Member.ofField
    allOptional := parameters.all fun field => !field.required
    query := keys endpoint.parameters.query
    headers := keys endpoint.parameters.header
    form := keys endpoint.parameters.formData
    body := (keys endpoint.parameters.body).head?
    contentType := endpoint.requestHeaders.head?
    response := ofType endpoint.response.type }

/-- The module for the operations of a tag. `exported` are the base names of the definitions. -/
def Module.ofEndpoints (exported : List String) (tag : String) (endpoints : Entries Endpoint) :
    Module :=
  let locals := localsOf exported endpoints
  let mentioned :=
    (endpoints.flatMap fun entry => mentionedNames entry.2) ++
      locals.flatMap fun entry => entry.2.flatMap fun field => capitalNames (ofField field)
  { tag := tag
    name := moduleName tag
    imports := (sortedDistinct mentioned).filter fun name =>
      exported.contains name && !locals.any fun entry => entry.1 = name
    interfaces := locals.map fun entry => (entry.1, entry.2.map Member.ofField)
    functions := endpoints.map fun entry => Function.ofEndpoint entry.1 entry.2 }

/-- A comment line inside a block comment; nothing if there is no text. -/
def blockLine (text : String) : String :=
  if text.isEmpty then "" else " * " ++ commentText text ++ "\n"

/-- An object that reads parameters by their keys; nothing if there are none. -/
def keyedObject (name : String) (keys : List String) : String :=
  if keys.isEmpty then ""
  else
    "      " ++ name ++ ": \x7b " ++
      String.intercalate ", " (keys.map fun key => key ++ ": params[" ++ key ++ "]") ++ " \x7d,\n"

namespace Function

def argument (function : Function) : String :=
  if function.parameters.isEmpty then ""
  else
    "params: " ++ function.parametersName ++ (if function.allOptional then " = \x7b\x7d" else "") ++
      ", "

def bodyLine (function : Function) : String :=
  match function.body with
  | none => ""
  | some key => "      body: params[" ++ key ++ "],\n"

def contentLine (function : Function) : String :=
  match function.contentType with
  | none => ""
  | some media => if media.isEmpty then "" else "      contentType: \"" ++ media ++ "\",\n"

def comment (function : Function) : String :=
  "/**\n" ++ blockLine function.summary ++ blockLine function.description ++
    " * `" ++ function.method ++ " " ++ commentText function.url ++ "`\n" ++
    (if function.deprecated then " * @deprecated\n" else "") ++ " */\n"

/-- The lines of a function, after those of the interface for its parameters. -/
def render (function : Function) : String :=
  "\n" ++
    (if function.parameters.isEmpty then ""
      else renderInterface function.parametersName function.parameters ++ "\n") ++
    function.comment ++
    "export function " ++ function.name ++ "(" ++ function.argument ++
    "init?: RequestInit): Promise<" ++ function.response ++ "> \x7b\n" ++
    "  return request<" ++ function.response ++ ">(\n" ++
    "    \x7b\n" ++
    "      method: \"" ++ function.method ++ "\",\n" ++
    "      url: `" ++ function.template ++ "`,\n" ++
    keyedObject "query" function.query ++
    keyedObject "headers" function.headers ++
    keyedObject "form" function.form ++
    function.bodyLine ++ function.contentLine ++
    "    \x7d,\n    init,\n  );\n\x7d\n"

end Function

/-- The line that imports definitions; nothing if none are needed. -/
def importLine (names : List String) : String :=
  if names.isEmpty then ""
  else
    "import type \x7b " ++ String.intercalate ", " names ++ " \x7d from \"./definitions\";\n"

def Module.render (module : Module) : String :=
  "// Generated by swg. Do not edit.\n// Operations tagged `" ++ module.tag ++ "`.\n" ++
    "import \x7b request \x7d from \"./client\";\n" ++ importLine module.imports ++
    String.join (module.interfaces.map fun entry => "\n" ++ renderInterface entry.1 entry.2) ++
    String.join (module.functions.map Function.render)

end ClientGen.TypeScript
