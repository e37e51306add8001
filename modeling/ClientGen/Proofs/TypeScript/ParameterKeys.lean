import ClientGen.Proofs.TypeScript.Interfaces

/-!
The parameters that a function of a client reads, as its text shows them, and those that its
interface declares. Variables of the URL are read whether or not they are declared, and of the
fields for a body only the first one is read.
-/

set_option autoImplicit false

namespace ClientGen.TypeScript

/-! ## Keys in code -/

/-- Whether code goes on with the key of a parameter. `before` is what was read of it, last
character first. -/
def accessesParameter (before : List Char) : Bool := "params[".toList.reverse.isPrefixOf before

mutual

/-- The string literals in code that are keys of parameters. -/
def keysRead (before : List Char) : List Char → List (List Char)
  | [] => []
  | char :: rest =>
      if char = '"' then keysInside (accessesParameter before) [] rest
      else keysRead (char :: before) rest

/-- The same for code that starts inside of a string literal; `read` is what was read of it. -/
def keysInside (access : Bool) (read : List Char) : List Char → List (List Char)
  | [] => []
  | '\\' :: char :: rest => keysInside access (char :: read) rest
  | char :: rest =>
      if char = '"' then
        (if access && rest.head? = some ']' then [read.reverse] else []) ++ keysRead [] rest
      else keysInside access (char :: read) rest

end

def codeKeys (code : String) : List String := (keysRead [] code.toList).map String.ofList

/-- A place in a template literal: in its text, where `dollar` tells whether the last character was
a dollar sign, or in a substitution. -/
inductive TemplatePlace where
  | text (dollar : Bool)
  | code (read : List Char)

/-- The code in the substitutions of a template literal. -/
def substitutions : TemplatePlace → List Char → List (List Char)
  | _, [] => []
  | .text dollar, char :: rest =>
      if dollar && char = '\x7b' then substitutions (.code []) rest
      else substitutions (.text (char = '$')) rest
  | .code read, char :: rest =>
      if char = '\x7d' then read.reverse :: substitutions (.text false) rest
      else substitutions (.code (char :: read)) rest

def templateKeys (template : String) : List String :=
  ((substitutions (.text false) template.toList).flatMap (keysRead [])).map String.ofList

section Code

variable {before : List Char}

theorem keysRead_unquoted {chars : List Char} (unquoted : '"' ∉ chars) (rest : List Char) :
    keysRead before (chars ++ rest) = keysRead (chars.reverse ++ before) rest := by
  induction chars generalizing before with
  | nil => rfl
  | cons char others ih =>
      rw [List.mem_cons, not_or] at unquoted
      rw [List.cons_append, keysRead, if_neg (Ne.symm unquoted.1), ih unquoted.2,
        List.reverse_cons, List.append_assoc, List.singleton_append]

theorem keysRead_of_unquoted {chars : List Char} (unquoted : '"' ∉ chars) :
    keysRead before chars = [] := by
  have all : keysRead before (chars ++ []) = _ := keysRead_unquoted unquoted []
  rwa [List.append_nil, keysRead] at all

theorem keysInside_quoted (access : Bool) (read name rest : List Char) :
    keysInside access read (name.flatMap quotedChar ++ '"' :: rest) =
      (if access && rest.head? = some ']' then [read.reverse ++ name] else []) ++
        keysRead [] rest := by
  induction name generalizing read with
  | nil => simp [keysInside]
  | cons char name ih =>
      by_cases backslash : char = '\\'
      · simp [quotedChar, backslash, keysInside, ih]
      · by_cases quote : char = '"'
        · simp [quotedChar, quote, keysInside, ih]
        · simp [quotedChar, backslash, quote, keysInside, ih]

theorem keysRead_quoted (name rest : List Char) :
    keysRead before (quotedChars name ++ rest) =
      (if accessesParameter before && rest.head? = some ']' then [name] else []) ++
        keysRead [] rest := by
  have inside := keysInside_quoted (accessesParameter before) [] name rest
  simpa [quotedChars, keysRead] using inside

/-- What reads a parameter, as the name of a member and its value. -/
def accessText (name : String) : String := quoted name ++ ": params[" ++ quoted name ++ "]"

theorem keysRead_accessText (name : String) (rest : List Char) :
    keysRead before ((accessText name).toList ++ rest) = name.toList :: keysRead [] (']' :: rest) := by
  have chars : (accessText name).toList ++ rest = quotedChars name.toList ++
      (": params[".toList ++ (quotedChars name.toList ++ ']' :: rest)) := by
    simp [accessText, quoted]
  have key : keysRead [] (": params[".toList ++ (quotedChars name.toList ++ ']' :: rest)) =
      name.toList :: keysRead [] (']' :: rest) := by
    rw [keysRead_unquoted (by decide), keysRead_quoted]
    rfl
  rw [chars, keysRead_quoted, key]
  simp

theorem keysRead_accesses (first : String) (names : List String) {after : List Char}
    (unquoted : '"' ∉ after) :
    keysRead before
        ((String.intercalate ", " ((first :: names).map accessText)).toList ++ after) =
      (first :: names).map String.toList := by
  induction names generalizing before first with
  | nil =>
      have rest : keysRead [] (']' :: after) = [] :=
        keysRead_of_unquoted (by simpa using unquoted)
      rw [String.toList_intercalate, List.map_singleton, List.map_singleton,
        List.intercalate_singleton, keysRead_accessText, rest]
      rfl
  | cons second names ih =>
      have split : (String.intercalate ", " ((first :: second :: names).map accessText)).toList =
          (accessText first).toList ++ (", ".toList ++
            (String.intercalate ", " ((second :: names).map accessText)).toList) := by
        simp only [String.toList_intercalate, List.map_cons, List.intercalate_cons_cons,
          List.append_assoc]
      have next : keysRead [] (']' :: (", ".toList ++
          ((String.intercalate ", " ((second :: names).map accessText)).toList ++ after))) =
            (second :: names).map String.toList := by
        have separator : '"' ∉ ']' :: ", ".toList := by decide
        rw [← List.cons_append, keysRead_unquoted separator]
        exact ih second
      rw [split, List.append_assoc, List.append_assoc, keysRead_accessText, next]
      rfl

theorem codeKeys_keyedObject {label : String} (unquoted : '"' ∉ label.toList)
    (names : List String) : codeKeys (keyedObject label (names.map quoted)) = names := by
  cases names with
  | nil => rfl
  | cons first names =>
      have chars : (keyedObject label ((first :: names).map quoted)).toList =
          ("      " ++ label ++ ": \x7b ").toList ++
            ((String.intercalate ", " ((first :: names).map accessText)).toList ++
              " \x7d,\n".toList) := by
        simp [keyedObject, accessText, Function.comp_def]
      have start : '"' ∉ ("      " ++ label ++ ": \x7b ").toList := by simpa using unquoted
      have ending : '"' ∉ " \x7d,\n".toList := by decide
      rw [codeKeys, chars, keysRead_unquoted start, keysRead_accesses first names ending,
        List.map_map]
      simp

theorem codeKeys_bodyLine {function : Function} {name : Option String}
    (body : function.body = name.map quoted) : codeKeys function.bodyLine = name.toList := by
  unfold Function.bodyLine
  rw [body]
  cases name with
  | none => rfl
  | some name =>
      have chars : ("      body: params[" ++ quoted name ++ "],\n").toList =
          "      body: params[".toList ++ (quotedChars name.toList ++ "],\n".toList) := by
        simp [quoted]
      have ending : keysRead [] "],\n".toList = [] := keysRead_of_unquoted (by decide)
      simp only [Option.map_some]
      rw [codeKeys, chars, keysRead_unquoted (by decide), keysRead_quoted, ending]
      simp [accessesParameter]

end Code

/-! ## Variables of a URL -/

/-- The variables of a URL: what stands between an opening brace and the next closing one. `name`
holds what was read of one, last character first. -/
def variablesFrom (name : Option (List Char)) : List Char → List (List Char)
  | [] => []
  | char :: rest =>
      match name with
      | none => if char = '\x7b' then variablesFrom (some []) rest else variablesFrom none rest
      | some read =>
          if char = '\x7d' then read.reverse :: variablesFrom none rest
          else variablesFrom (some (char :: read)) rest

def urlVariables (url : String) : List String := (variablesFrom none url.toList).map String.ofList

def variableCode (name : List Char) : List Char :=
  "encodeURIComponent(String(params[".toList ++ quotedChars name ++ "]))".toList

theorem keysRead_variableCode (name : List Char) : keysRead [] (variableCode name) = [name] := by
  have ending : keysRead [] "]))".toList = [] := keysRead_of_unquoted (by decide)
  unfold variableCode
  rw [List.append_assoc, keysRead_unquoted (by decide), keysRead_quoted, ending]
  simp [accessesParameter]

theorem substitutions_of_unclosed {chars : List Char} (unclosed : '\x7d' ∉ chars)
    (place : TemplatePlace) : substitutions place chars = [] := by
  induction chars generalizing place with
  | nil => cases place <;> rfl
  | cons char rest ih =>
      rw [List.mem_cons, not_or] at unclosed
      cases place with
      | text dollar =>
          rw [substitutions]
          split <;> exact ih unclosed.2 _
      | code read =>
          rw [substitutions, if_neg (Ne.symm unclosed.1)]
          exact ih unclosed.2 _

theorem substitutions_code {code : List Char} (unclosed : '\x7d' ∉ code) (read rest : List Char) :
    substitutions (.code read) (code ++ '\x7d' :: rest) =
      (read.reverse ++ code) :: substitutions (.text false) rest := by
  induction code generalizing read with
  | nil => simp [substitutions]
  | cons char code ih =>
      rw [List.mem_cons, not_or] at unclosed
      rw [List.cons_append, substitutions, if_neg (Ne.symm unclosed.1), ih unclosed.2]
      simp

theorem not_mem_quotedChars {name : List Char} (plain : '\x7d' ∉ name) :
    '\x7d' ∉ quotedChars name := by
  intro member
  simp only [quotedChars, List.mem_cons, List.mem_append, List.mem_flatMap, List.not_mem_nil,
    or_false] at member
  rcases member with quote | ⟨char, inName, inQuoted⟩ | quote
  · cases quote
  · unfold quotedChar at inQuoted
    split at inQuoted
    · simp at inQuoted
    · split at inQuoted
      · simp at inQuoted
      · exact plain (List.mem_singleton.mp inQuoted ▸ inName)
  · cases quote

theorem substitutions_variable {name : List Char} (plain : '\x7d' ∉ name) (dollar : Bool)
    (rest : List Char) :
    substitutions (.text dollar) (variableExpression name ++ rest) =
      variableCode name :: substitutions (.text false) rest := by
  have opening : "$\x7bencodeURIComponent(String(params[".toList =
      '$' :: '\x7b' :: "encodeURIComponent(String(params[".toList := by decide
  have closing : "]))\x7d".toList = "]))".toList ++ ['\x7d'] := by decide
  have unclosed : '\x7d' ∉ variableCode name := by
    unfold variableCode
    simp only [List.mem_append, not_or]
    exact ⟨⟨by decide, not_mem_quotedChars plain⟩, by decide⟩
  have chars : variableExpression name ++ rest =
      '$' :: '\x7b' :: (variableCode name ++ '\x7d' :: rest) := by
    unfold variableExpression variableCode
    rw [opening, closing]
    simp only [List.append_assoc, List.cons_append, List.nil_append]
  rw [chars, substitutions, if_neg (by simp), substitutions, if_pos (by simp),
    substitutions_code unclosed]
  rfl

theorem not_mem_templateChar {chars : List Char} (unclosed : '\x7d' ∉ chars) :
    '\x7d' ∉ chars.flatMap templateChar := by
  intro member
  obtain ⟨char, inChars, inTemplate⟩ := List.mem_flatMap.mp member
  unfold templateChar at inTemplate
  split at inTemplate
  · simp at inTemplate
  · exact unclosed (List.mem_singleton.mp inTemplate ▸ inChars)

theorem substitutions_templateChars {name : Option (List Char)} (unclosed : '\x7d' ∉ name.getD [])
    (dollar : Bool) (url : List Char) :
    substitutions (.text dollar) (templateChars name url) =
      (variablesFrom name url).map variableCode := by
  induction url generalizing name dollar with
  | nil =>
      cases name with
      | none => rfl
      | some read =>
          -- After a dollar sign the brace opens a substitution, but one that never ends.
          apply substitutions_of_unclosed
          apply not_mem_templateChar
          simpa using unclosed
  | cons char rest ih =>
      cases name with
      | none =>
          by_cases opens : char = '\x7b'
          · rw [templateChars, if_pos opens, variablesFrom, if_pos opens]
            exact ih (by simp) dollar
          · rw [templateChars, if_neg opens, variablesFrom, if_neg opens, templateChar]
            split
            · simp [substitutions, ih]
            · simp [substitutions, opens, ih]
      | some read =>
          by_cases closes : char = '\x7d'
          · rw [templateChars, if_pos closes, variablesFrom, if_pos closes,
              substitutions_variable (by simpa using unclosed), ih (by simp), List.map_cons]
          · rw [templateChars, if_neg closes, variablesFrom, if_neg closes]
            apply ih
            simpa [Ne.symm closes] using unclosed

/-- The text of a URL reads the variables of the URL and nothing else. -/
theorem templateKeys_urlTemplate (url : String) :
    templateKeys (urlTemplate url) = urlVariables url := by
  have read : (variablesFrom none url.toList).flatMap (fun name => keysRead [] (variableCode name)) =
      variablesFrom none url.toList := by
    simp only [keysRead_variableCode, List.flatMap_singleton']
  rw [templateKeys, urlTemplate, String.toList_ofList, substitutions_templateChars (by simp),
    List.flatMap_map, read, urlVariables]

/-! ## Keys that are read and keys that are declared -/

namespace Function

/-- The names of the members of the interface for the parameters. -/
def declaredKeys (function : Function) : List String :=
  function.parameters.map fun member => keyName member.key

/-- The line of a member: its key, and whether it may be left out. -/
def memberLine (member : Member) : String :=
  (if member.comment.isEmpty then "" else "  /** " ++ commentText member.comment ++ " */\n") ++
    "  " ++ member.key ++ (if member.required then "" else "?") ++ ": " ++ member.type ++ ";\n"

/-- The interface for the parameters; nothing if there are none. -/
def interfaceText (function : Function) : String :=
  if function.parameters.isEmpty then ""
  else
    "export interface " ++ function.parametersName ++ " \x7b\n" ++
      String.join (function.parameters.map memberLine) ++ "\x7d\n" ++ "\n"

/-- The lines that hand on query, headers, form and body. -/
def sendingLines (function : Function) : List String :=
  [keyedObject "query" function.query, keyedObject "headers" function.headers,
    keyedObject "form" function.form, function.bodyLine]

/-- The keys of parameters in the URL and in the lines that hand on the rest. -/
def readKeys (function : Function) : List String :=
  templateKeys function.template ++ function.sendingLines.flatMap codeKeys

theorem exists_beforeUrl (function : Function) :
    ∃ between, function.beforeUrl = "\n" ++ function.interfaceText ++ between := by
  have opening : function.opening = "\n" ++ function.interfaceText ++ function.comment ++
      "export function " ++ function.name ++ "(" := rfl
  rw [beforeUrl, opening]
  simp only [String.append_assoc]
  exact ⟨_, rfl⟩

theorem exists_render (function : Function) : ∃ between after, function.render =
    "\n" ++ function.interfaceText ++ between ++ "      url: `" ++ function.template ++ "`,\n" ++
      String.join function.sendingLines ++ after := by
  obtain ⟨between, beforeUrl⟩ := function.exists_beforeUrl
  rw [render_eq, beforeUrl]
  refine ⟨between, function.contentLine ++ "    \x7d,\n    init,\n  );\n\x7d\n", ?_⟩
  simp only [sendingLines, String.join_cons, String.join_nil, String.append_assoc,
    String.append_empty]

theorem argument_eq_empty_iff (function : Function) :
    function.argument = "" ↔ function.declaredKeys = [] := by
  unfold argument declaredKeys
  rw [List.map_eq_nil_iff, ← List.isEmpty_iff]
  split
  · next empty => simp [empty]
  · next some =>
      simp only [some, Bool.false_eq_true, iff_false]
      intro none
      have chars := congrArg String.toList none
      simp at chars

end Function

/-- The names of the fields that the lines after the URL read: of the body, the first only. -/
def sentNames (endpoint : Endpoint) : List String :=
  (endpoint.parameters.query ++ endpoint.parameters.header ++ endpoint.parameters.formData ++
    endpoint.parameters.body.take 1).map Field.name

variable (name : String) (endpoint : Endpoint)

theorem readKeys_ofEndpoint : (Function.ofEndpoint name endpoint).readKeys =
    urlVariables endpoint.url ++ sentNames endpoint := by
  have quotedNames (fields : List Field) :
      (fields.map fun field => quoted field.name) = (fields.map Field.name).map quoted := by
    rw [List.map_map]
    rfl
  have template : (Function.ofEndpoint name endpoint).template = urlTemplate endpoint.url := rfl
  have query : (Function.ofEndpoint name endpoint).query =
      (endpoint.parameters.query.map Field.name).map quoted := quotedNames _
  have headers : (Function.ofEndpoint name endpoint).headers =
      (endpoint.parameters.header.map Field.name).map quoted := quotedNames _
  have form : (Function.ofEndpoint name endpoint).form =
      (endpoint.parameters.formData.map Field.name).map quoted := quotedNames _
  have body : (Function.ofEndpoint name endpoint).body =
      (endpoint.parameters.body.map Field.name).head?.map quoted := by
    rw [← List.head?_map, ← quotedNames]
    rfl
  have first : (endpoint.parameters.body.map Field.name).head?.toList =
      (endpoint.parameters.body.take 1).map Field.name := by
    cases endpoint.parameters.body <;> rfl
  unfold Function.readKeys Function.sendingLines sentNames
  rw [template, templateKeys_urlTemplate, query, headers, form]
  simp only [List.flatMap_cons, List.flatMap_nil, List.append_nil, List.map_append,
    List.append_assoc]
  rw [codeKeys_keyedObject (by decide), codeKeys_keyedObject (by decide),
    codeKeys_keyedObject (by decide), codeKeys_bodyLine body, first]

theorem mem_declaredKeys_ofEndpoint (key : String) :
    key ∈ (Function.ofEndpoint name endpoint).declaredKeys ↔
      key ∈ endpoint.parameters.all.map Field.name := by
  have keys : (Function.ofEndpoint name endpoint).declaredKeys =
      (declaredParameters endpoint).map Field.name := by
    simp [Function.declaredKeys, Function.ofEndpoint, Member.ofField, keyName_propertyKey]
  rw [keys, List.mem_map, List.mem_map]
  constructor
  · rintro ⟨field, declared, same⟩
    exact ⟨field, distinctParameters_subset _ declared, same⟩
  · rintro ⟨field, member, same⟩
    obtain ⟨shown, declared, alike⟩ := exists_distinct member
    exact ⟨shown, declared, alike.trans same⟩

/-- Whether all variables of the URL are declared, and the names of the path parameters and of all
fields for a body after the first are those of variables or of something else that is sent. -/
structure Balanced (endpoint : Endpoint) : Prop where
  declared : ∀ name ∈ urlVariables endpoint.url, name ∈ endpoint.parameters.all.map Field.name
  used : ∀ field ∈ endpoint.parameters.path ++ endpoint.parameters.body.drop 1,
    field.name ∈ urlVariables endpoint.url ++ sentNames endpoint

theorem sentNames_subset : sentNames endpoint ⊆ endpoint.parameters.all.map Field.name := by
  apply List.map_subset
  intro field member
  simp only [List.mem_append] at member
  simp only [Buckets.all, List.mem_append]
  rcases member with ((query | header) | formData) | body
  · exact .inl (.inl (.inl (.inr query)))
  · exact .inr header
  · exact .inl (.inr formData)
  · exact .inl (.inl (.inr (List.mem_of_mem_take body)))

theorem unsent_or_sent {field : Field} (member : field ∈ endpoint.parameters.all) :
    field ∈ endpoint.parameters.path ++ endpoint.parameters.body.drop 1 ∨
      field.name ∈ sentNames endpoint := by
  have sent : field ∈ endpoint.parameters.query ++ endpoint.parameters.header ++
      endpoint.parameters.formData ++ endpoint.parameters.body.take 1 →
        field.name ∈ sentNames endpoint := List.mem_map_of_mem
  simp only [Buckets.all, List.mem_append] at member sent
  rcases member with (((path | query) | body) | formData) | header
  · exact .inl (List.mem_append_left _ path)
  · exact .inr (sent (.inl (.inl (.inl query))))
  · rw [← List.take_append_drop 1 endpoint.parameters.body, List.mem_append] at body
    cases body with
    | inl first => exact .inr (sent (.inr first))
    | inr later => exact .inl (List.mem_append_right _ later)
  · exact .inr (sent (.inl (.inr formData)))
  · exact .inr (sent (.inl (.inl (.inr header))))

/-- The text of a function starts with an interface, and it reads parameters in the URL and in the
lines after it. They are those that the interface declares exactly if the variables of the URL and the fields for a body are
balanced. There is an argument to read them from exactly if the interface has members. -/
theorem read_keys_declared_iff :
    (∃ between after, (Function.ofEndpoint name endpoint).render =
      "\n" ++ (Function.ofEndpoint name endpoint).interfaceText ++ between ++
        "      url: `" ++ (Function.ofEndpoint name endpoint).template ++ "`,\n" ++
        String.join (Function.ofEndpoint name endpoint).sendingLines ++ after) ∧
    ((Function.ofEndpoint name endpoint).argument = "" ↔
      (Function.ofEndpoint name endpoint).declaredKeys = []) ∧
    ((∀ key, key ∈ (Function.ofEndpoint name endpoint).readKeys ↔
        key ∈ (Function.ofEndpoint name endpoint).declaredKeys) ↔ Balanced endpoint) := by
  refine ⟨Function.exists_render _, Function.argument_eq_empty_iff _, ?_⟩
  simp only [readKeys_ofEndpoint, mem_declaredKeys_ofEndpoint]
  constructor
  · intro same
    constructor
    · intro key isVariable
      exact (same key).mp (List.mem_append_left _ isVariable)
    · intro field member
      apply (same field.name).mpr
      apply List.mem_map_of_mem
      simp only [Buckets.all, List.mem_append] at member ⊢
      cases member with
      | inl path => exact .inl (.inl (.inl (.inl path)))
      | inr body => exact .inl (.inl (.inr (List.mem_of_mem_drop body)))
  · intro balanced key
    constructor
    · intro isRead
      cases List.mem_append.mp isRead with
      | inl isVariable => exact balanced.declared key isVariable
      | inr isSent => exact sentNames_subset endpoint isSent
    · intro declared
      obtain ⟨field, member, rfl⟩ := List.mem_map.mp declared
      cases unsent_or_sent endpoint member with
      | inl unsent => exact balanced.used field unsent
      | inr sent => exact List.mem_append_right _ sent

/-- Operations of a document: a URL with a variable that no parameter declares, and a request body
with two media types. -/
def unbalancedPaths : Entries PathItem :=
  [("/pets/\x7bpetId\x7d", { get := some { operationId := some "getPet", tags := ["pet"] } }),
    ("/pets", { post := some {
      operationId := some "addPet"
      tags := ["pet"]
      requestBody := some (.inline { content :=
        [("application/json", { schema := some { reference := some "#/definitions/Pet" } }),
          ("application/xml", { schema := some { reference := some "#/definitions/Order" } })] }) } })]

theorem unbalanced_keys_differ :
    (Endpoint.ofPaths {} unbalancedPaths).value.map (fun entry =>
        ((Function.ofEndpoint entry.1 entry.2).argument,
          (Function.ofEndpoint entry.1 entry.2).readKeys,
          (Function.ofEndpoint entry.1 entry.2).declaredKeys)) =
      [("", ["petId"], []), ("params: AddPetParams = \x7b\x7d, ", ["pet"], ["pet", "order"])] := by
  decide +kernel

end ClientGen.TypeScript
