import ClientGen.Document

/-!
Removal of malformed entries from the value of a document before it is read as a whole. Every entry
is tried on its own and the innermost first, so that a malformed property costs that property alone.
Each removal is reported as one error. The members of an object are pruned independently of each
other; only the reports have an order of their own.
-/

set_option autoImplicit false

namespace ClientGen.Prune

open Json (Decoded)

/-- Keeps the items without a problem and reports the problems of the others. -/
def retain {Item : Type} (problem? : Item → Option Diagnostic) (items : List Item) :
    Reported (List Item) :=
  ⟨items.filter fun item => (problem? item).isNone, items.filterMap problem?⟩

def problemOf {Value : Type} (subject message : String) (decoded : Decoded Value) :
    Option Diagnostic :=
  match decoded with
  | .ok _ => none
  | .error error => some ⟨.error, subject, message ++ " skipped: " ++ error.message⟩

/-- An object put together from members that were pruned one by one. A member without a value is
gone. The reports are listed by key, in the given order of keys. -/
def assemble (order : List String) (members : List (String × Reported (Option Json))) :
    Reported Json :=
  ⟨.obj (members.filterMap fun member => member.2.value.map fun value => (member.1, value)),
    order.flatMap fun key =>
      members.flatMap fun member => if member.1 = key then member.2.diagnostics else []⟩

def untouched (value : Json) : Reported (Option Json) := ⟨some value, []⟩

def checked (problem? : Json → Option Diagnostic) (pruned : Reported Json) :
    Reported (Option Json) :=
  match problem? pruned.value with
  | none => ⟨some pruned.value, pruned.diagnostics⟩
  | some problem => ⟨none, pruned.diagnostics ++ [problem]⟩

/-- Prunes the members of an object by name, and leaves a value that is no object alone. -/
def retainMembers (problem? : String → Json → Option Diagnostic) : Json → Reported Json
  | .obj members =>
      let kept := retain (fun member => problem? member.1 member.2) members
      ⟨.obj kept.value, kept.diagnostics⟩
  | other => ⟨other, []⟩

/-- Prunes the items of an array, and leaves a value that is no array alone. -/
def retainItems (problem? : Json → Option Diagnostic) : Json → Reported Json
  | .arr items =>
      let kept := retain problem? items
      ⟨.arr kept.value, kept.diagnostics⟩
  | other => ⟨other, []⟩

def always (pruned : Reported Json) : Reported (Option Json) :=
  ⟨some pruned.value, pruned.diagnostics⟩

/-- The subject of a schema under a name: after the enclosing schema and a point, if there is one.
-/
def entrySubject (owner : Option String) (name : String) : String :=
  match owner with
  | some owner => owner ++ "." ++ name
  | none => name

def schemaProblem (owner : Option String) (name : String) (value : Json) : Option Diagnostic :=
  problemOf (entrySubject owner name) "malformed schema" (Schema.decode value)

/-- Keeps the schemas among pruned values under names. What was found inside of them is reported
first. -/
def keepSchemas (owner : Option String) (pruned : List (String × Reported Json)) : Reported Json :=
  let kept := retain (fun entry => schemaProblem owner entry.1 entry.2)
    (pruned.map fun entry => (entry.1, entry.2.value))
  ⟨.obj kept.value, (pruned.flatMap fun entry => entry.2.diagnostics) ++ kept.diagnostics⟩

/-- Keeps the schemas among the pruned members of a combination. -/
def keepParts (subject : String) (pruned : List (Reported Json)) : Reported Json :=
  let kept := retain
    (fun part => problemOf subject "malformed `allOf` member" (Schema.decode part))
    (pruned.map (·.value))
  ⟨.arr kept.value, (pruned.flatMap (·.diagnostics)) ++ kept.diagnostics⟩

def keepNested (subject name : String) (pruned : Reported Json) : Reported (Option Json) :=
  checked (fun value => problemOf subject ("malformed `" ++ name ++ "`") (Schema.decode value))
    pruned

/-- The members of a schema that hold other schemas, in the order in which they are reported. -/
def schemaOrder : List String := ["properties", "items", "additionalProperties", "allOf"]

mutual

def schema (subject : String) : Json → Reported Json
  | .obj members => assemble schemaOrder (schemaMembers subject members)
  | .arr items => ⟨.arr items, []⟩
  | .null => ⟨.null, []⟩
  | .bool value => ⟨.bool value, []⟩
  | .num value => ⟨.num value, []⟩
  | .str value => ⟨.str value, []⟩

/-- Prunes the members of a schema. Items and additional properties may be Booleans. -/
def schemaMembers (subject : String) :
    List (String × Json) → List (String × Reported (Option Json))
  | [] => []
  | (name, value) :: rest =>
      (name,
        if name = "properties" then
          match value with
          | .obj inner => always (keepSchemas (some subject) (schemaEntries (some subject) inner))
          | other => untouched other
        else if name = "items" ∨ name = "additionalProperties" then
          match value with
          | .bool flag => untouched (.bool flag)
          | other => keepNested subject name (schema subject other)
        else if name = "allOf" then
          match value with
          | .arr parts => always (keepParts subject (schemaParts subject parts))
          | other => untouched other
        else untouched value) :: schemaMembers subject rest

def schemaEntries (owner : Option String) :
    List (String × Json) → List (String × Reported Json)
  | [] => []
  | (name, value) :: rest =>
      (name, schema (entrySubject owner name) value) :: schemaEntries owner rest

def schemaParts (subject : String) : List Json → List (Reported Json)
  | [] => []
  | part :: rest => schema subject part :: schemaParts subject rest

end

def definitions : Json → Reported Json
  | .obj members => keepSchemas none (schemaEntries none members)
  | other => ⟨other, []⟩

def shared {Value : Type} (kind : String) (decode : Json → Decoded Value) : Json → Reported Json :=
  retainMembers fun name value => problemOf name ("malformed " ++ kind) (decode value)

def parameterName (value : Json) : String :=
  ((value.member? "name").bind Json.string?).getD "?"

def parameters (subject : String) : Json → Reported Json :=
  retainItems fun value =>
    match Parameter.decodeReferable value with
    | .ok _ => none
    | .error _ =>
        some ⟨.error, subject,
          "malformed parameter `" ++ parameterName value ++
            "` skipped: needs `name` and `in`, or `$ref`"⟩

def responses (subject : String) : Json → Reported Json :=
  retainMembers fun status value =>
    problemOf subject ("malformed " ++ status ++ " response") (Response.decodeReferable value)

def operationMember (subject name : String) (value : Json) : Reported (Option Json) :=
  match name with
  | "parameters" => always (parameters subject value)
  | "requestBody" =>
      checked
        (fun body => problemOf subject "malformed request body" (RequestBody.decodeReferable body))
        ⟨value, []⟩
  | "responses" => always (responses subject value)
  | _ => untouched value

def operation (subject : String) : Json → Reported Json
  | .obj members =>
      assemble ["parameters", "requestBody", "responses"]
        (members.map fun member => (member.1, operationMember subject member.1 member.2))
  | other => ⟨other, []⟩

def operationSubject (method : Method) (url : String) : String := method.verb ++ " " ++ url

def pathMember (url name : String) (value : Json) : Reported (Option Json) :=
  if name = "parameters" then always (parameters url value)
  else
    match Method.all.find? fun method => method.key = name with
    | some method =>
        let subject := operationSubject method url
        checked (fun found => problemOf subject "malformed operation" (Operation.decode found))
          (operation subject value)
    | none => untouched value

def pathItem (url : String) : Json → Reported Json
  | .obj members =>
      assemble ("parameters" :: Method.all.map Method.key)
        (members.map fun member => (member.1, pathMember url member.1 member.2))
  | other => ⟨other, []⟩

/-- Prunes the paths of a document. What was found inside of them is reported first. -/
def paths : Json → Reported Json
  | .obj members =>
      let pruned := members.map fun member => (member.1, pathItem member.1 member.2)
      let kept := retain
        (fun entry => problemOf entry.1 "malformed path" (PathItem.decode entry.2))
        (pruned.map fun entry => (entry.1, entry.2.value))
      ⟨.obj kept.value, (pruned.flatMap fun entry => entry.2.diagnostics) ++ kept.diagnostics⟩
  | other => ⟨other, []⟩

def componentsMember (name : String) (value : Json) : Reported (Option Json) :=
  match name with
  | "schemas" => always (definitions value)
  | "parameters" => always (shared "parameter" Parameter.decode value)
  | "requestBodies" => always (shared "request body" RequestBody.decode value)
  | "responses" => always (shared "response" Response.decode value)
  | _ => untouched value

def components : Json → Reported Json
  | .obj members =>
      assemble ["schemas", "parameters", "requestBodies", "responses"]
        (members.map fun member => (member.1, componentsMember member.1 member.2))
  | other => ⟨other, []⟩

def documentMember (name : String) (value : Json) : Reported (Option Json) :=
  match name with
  | "definitions" => always (definitions value)
  | "parameters" => always (shared "parameter" Parameter.decode value)
  | "responses" => always (shared "response" Response.decode value)
  | "components" => always (components value)
  | "paths" => always (paths value)
  | _ => untouched value

def document : Json → Reported Json
  | .obj members =>
      assemble ["definitions", "parameters", "responses", "components", "paths"]
        (members.map fun member => (member.1, documentMember member.1 member.2))
  | other => ⟨other, []⟩

end ClientGen.Prune
