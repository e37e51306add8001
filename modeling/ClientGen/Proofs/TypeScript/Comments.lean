import ClientGen.ApiModel
import ClientGen.Proofs.Text.Trimmed
import ClientGen.Proofs.TypeScript.Modules

/-!
Comments in the files of a client. Comments in delimiters hold text of the document only after it is
escaped, and end where they should. Comments up to the end of a line hold the title and the tags as
they are, and end too early if these have line breaks.
-/

set_option autoImplicit false

namespace ClientGen.TypeScript

/-! ## Reading comments -/

/-- The characters that end a line of code. -/
def isLineBreak (char : Char) : Bool :=
  char == '\n' || char == '\r' || char == '\u2028' || char == '\u2029'

def afterLine : List Char → List Char
  | [] => []
  | char :: rest => if isLineBreak char then rest else afterLine rest

/-- What follows the first terminator of a comment in delimiters. -/
def afterBlock? : List Char → Option (List Char)
  | [] => none
  | '*' :: '/' :: rest => some rest
  | _ :: rest => afterBlock? rest

/-- What a reader of a file finds after the comment at its start. -/
def afterComment? : List Char → Option (List Char)
  | '/' :: '/' :: rest => some (afterLine rest)
  | '/' :: '*' :: rest => afterBlock? rest
  | _ => none

/-- Code; or a whole comment, `line` with the end of its line or `block` with its delimiters. -/
inductive Piece where
  | code (text : String)
  | line (text : String)
  | block (text : String)
  deriving DecidableEq, Repr

namespace Piece

@[simp] def text : Piece → String
  | code text | line text | block text => text

def isCode : Piece → Bool
  | code _ => true
  | line _ | block _ => false

def renderAll (pieces : List Piece) : String := String.join (pieces.map text)

/-- Whether a comment ends, for who reads the file, where it was meant to, whatever follows it. -/
def IsClosed (piece : Piece) : Prop :=
  piece.isCode = false → ∀ rest, afterComment? (piece.text.toList ++ rest) = some rest

@[simp] theorem renderAll_nil : renderAll [] = "" := rfl

@[simp] theorem renderAll_cons (piece : Piece) (pieces : List Piece) :
    renderAll (piece :: pieces) = piece.text ++ renderAll pieces := by
  simp [renderAll]

@[simp] theorem renderAll_append (before after : List Piece) :
    renderAll (before ++ after) = renderAll before ++ renderAll after := by
  simp [renderAll]

theorem renderAll_flatMap {α : Type} {pieces : α → List Piece} {text : α → String}
    (same : ∀ item, renderAll (pieces item) = text item) (items : List α) :
    renderAll (items.flatMap pieces) = String.join (items.map text) := by
  induction items with
  | nil => rfl
  | cons item rest ih => simp [same, ih]

end Piece

/-! ## The pieces of a file -/

def commentLinePieces (indent text : String) : List Piece :=
  if text.isEmpty then []
  else [.code indent, .block ("/** " ++ commentText text ++ " */"), .code "\n"]

def Member.pieces (member : Member) : List Piece :=
  commentLinePieces "  " member.comment ++
    [.code ("  " ++ member.key ++ (if member.required then "" else "?") ++ ": " ++ member.type ++
      ";\n")]

def interfacePieces (name : String) (members : List Member) : List Piece :=
  .code ("export interface " ++ name ++ " \x7b\n") :: members.flatMap Member.pieces ++
    [.code "\x7d\n"]

def Declaration.pieces : Declaration → List Piece
  | .interface name members => interfacePieces name members
  | .alias name comment target =>
      commentLinePieces "" comment ++ [.code ("export type " ++ name ++ " = " ++ target ++ ";\n")]

/-- The comment at the start of the file with the definitions. -/
def titleLine (title : String) : Piece :=
  .line ("// Generated by swg from " ++ title ++ ". Do not edit.\n")

/-- The comment at the start of a module, after the one that all modules have. -/
def tagLine (tag : String) : Piece := .line ("// Operations tagged `" ++ tag ++ "`.\n")

def definitionsPieces (title : String) (definitions : Definitions) : List Piece :=
  titleLine title :: definitions.entries.flatMap fun entry =>
    .code "\n" :: (Declaration.ofDefinition entry.1 entry.2).pieces

namespace Function

/-- The comment of a function without the end of its last line. -/
def commentBlock (function : Function) : String :=
  "/**\n" ++ blockLine function.summary ++ blockLine function.description ++
    " * `" ++ function.method ++ " " ++ commentText function.url ++ "`\n" ++
    (if function.deprecated then " * @deprecated\n" else "") ++ " */"

def code (function : Function) : String :=
  "export function " ++ function.name ++ "(" ++ function.argument ++
    "init?: RequestInit): Promise<" ++ function.response ++ "> \x7b\n" ++
    "  return request<" ++ function.response ++ ">(\n" ++
    "    \x7b\n" ++
    "      method: \"" ++ function.method ++ "\",\n" ++
    "      url: `" ++ function.template ++ "`,\n" ++
    keyedObject "query" function.query ++
    keyedObject "headers" function.headers ++
    keyedObject "form" function.form ++
    function.bodyLine ++ function.contentLine ++
    "    \x7d,\n    init,\n  );\n\x7d\n"

def pieces (function : Function) : List Piece :=
  .code "\n" ::
    (if function.parameters.isEmpty then []
      else interfacePieces function.parametersName function.parameters ++ [.code "\n"]) ++
    [.block function.commentBlock, .code "\n", .code function.code]

end Function

def Module.pieces (module : Module) : List Piece :=
  .line "// Generated by swg. Do not edit.\n" :: tagLine module.tag ::
    .code ("import \x7b request \x7d from \"./client\";\n" ++ importLine module.imports) ::
    module.interfaces.flatMap (fun entry => .code "\n" :: interfacePieces entry.1 entry.2) ++
    module.functions.flatMap Function.pieces

/-- The path and the pieces of each file of a client. No comment of the file that sends requests,
or of the index, holds text of the document. -/
def filePieces (title baseUrl : String) (model : ApiModel) : List (String × List Piece) :=
  let found := modules model.definitions model.endpoints
  ("definitions.ts", definitionsPieces title model.definitions) ::
    ("client.ts", [.code (clientFile baseUrl)]) ::
    found.map (fun module => (module.name ++ ".ts", module.pieces)) ++
    [("index.ts", [.code (indexFile (found.map Module.name))])]

open Piece (renderAll renderAll_nil renderAll_cons renderAll_append renderAll_flatMap)

theorem renderAll_commentLine (indent text : String) :
    renderAll (commentLinePieces indent text) = commentLine indent text := by
  have closing : " */\n" = " */" ++ "\n" := by decide
  unfold commentLinePieces commentLine
  split
  · rfl
  · rw [closing]
    simp only [renderAll_cons, renderAll_nil, Piece.text, String.append_assoc, String.append_empty]

theorem Member.renderAll_pieces (member : Member) :
    renderAll member.pieces = member.render := by
  unfold pieces render
  simp only [renderAll_append, renderAll_commentLine, renderAll_cons, renderAll_nil, Piece.text,
    String.append_assoc, String.append_empty]

theorem renderAll_interface (name : String) (members : List Member) :
    renderAll (interfacePieces name members) = renderInterface name members := by
  unfold interfacePieces renderInterface
  simp only [List.cons_append, renderAll_cons, renderAll_nil, renderAll_append,
    renderAll_flatMap Member.renderAll_pieces, Piece.text, String.append_assoc, String.append_empty]

theorem Declaration.renderAll_pieces (declaration : Declaration) :
    renderAll declaration.pieces = declaration.render := by
  cases declaration with
  | interface name members => exact renderAll_interface name members
  | «alias» name comment target =>
      unfold pieces render
      simp only [renderAll_append, renderAll_commentLine, renderAll_cons, renderAll_nil, Piece.text,
        String.append_assoc, String.append_empty]

theorem renderAll_definitions (title : String) (definitions : Definitions) :
    renderAll (definitionsPieces title definitions) = definitionsFile title definitions := by
  unfold definitionsPieces definitionsFile
  rw [renderAll_cons, renderAll_flatMap]
  · rfl
  · intro entry
    rw [renderAll_cons, Declaration.renderAll_pieces]
    rfl

theorem Function.renderAll_pieces (function : Function) :
    renderAll function.pieces = function.render := by
  have closing : " */\n" = " */" ++ "\n" := by decide
  unfold pieces render comment commentBlock code
  rw [closing]
  split
  · simp only [List.cons_append, List.nil_append, renderAll_cons, renderAll_nil, Piece.text,
      String.append_assoc, String.append_empty]
  · simp only [List.cons_append, renderAll_cons, renderAll_nil, renderAll_append,
      renderAll_interface, Piece.text, String.append_assoc, String.append_empty]

theorem Module.renderAll_pieces (module : Module) :
    renderAll module.pieces = module.render := by
  have opening : "// Generated by swg. Do not edit.\n// Operations tagged `" =
      "// Generated by swg. Do not edit.\n" ++ "// Operations tagged `" := by decide +kernel
  have interface : ∀ entry : String × List Member,
      renderAll (.code "\n" :: interfacePieces entry.1 entry.2) =
        "\n" ++ renderInterface entry.1 entry.2 := by
    intro entry
    rw [renderAll_cons, renderAll_interface]
    rfl
  unfold pieces render tagLine
  rw [opening]
  simp only [List.cons_append, renderAll_cons, renderAll_append, renderAll_flatMap interface,
    renderAll_flatMap Function.renderAll_pieces, Piece.text, String.append_assoc]

/-- Each file of a client is made of its pieces. -/
theorem files_eq_pieces (title baseUrl : String) (model : ApiModel) :
    (output title baseUrl model).files =
      (filePieces title baseUrl model).map fun file => ⟨file.1, renderAll file.2⟩ := by
  simp [Output.files, output, definitionFiles, actionFiles, filePieces, Module.file,
    renderAll_definitions, Module.renderAll_pieces, Function.comp_def]

/-! ## Where comments end -/

theorem afterLine_eq_iff (text rest : List Char) :
    afterLine (text ++ '\n' :: rest) = rest ↔ ∀ char ∈ text, isLineBreak char = false := by
  induction text with
  | nil => simp [afterLine, isLineBreak]
  | cons char text ih =>
      by_cases ends : isLineBreak char = true
      · have longer : text ++ '\n' :: rest ≠ rest := by
          intro same
          have lengths := congrArg List.length same
          simp only [List.length_append, List.length_cons] at lengths
          omega
        simp [afterLine, ends, longer]
      · simp [afterLine, ends, ih]

theorem afterBlock?_cons {char : Char} {rest : List Char}
    (apart : char = '*' → rest.head? ≠ some '/') :
    afterBlock? (char :: rest) = afterBlock? rest := by
  rw [afterBlock?]
  rintro tail rfl rfl
  exact apart rfl rfl

theorem afterBlock?_cons_eq_none {char : Char} {rest : List Char}
    (opened : afterBlock? (char :: rest) = none) :
    (char = '*' → rest.head? ≠ some '/') ∧ afterBlock? rest = none := by
  have apart : char = '*' → rest.head? ≠ some '/' := by
    rintro rfl slash
    cases rest with
    | nil => cases slash
    | cons second rest =>
        cases slash
        cases opened
  exact ⟨apart, (afterBlock?_cons apart).symm.trans opened⟩

/-- A part of a comment in delimiters that neither ends it nor completes an end begun before. -/
structure Inside (chars : List Char) : Prop where
  start : chars.head? ≠ some '/'
  opened : afterBlock? chars = none

theorem afterBlock?_append {first second : List Char} (opened : afterBlock? first = none)
    (start : second.head? ≠ some '/') : afterBlock? (first ++ second) = afterBlock? second := by
  induction first with
  | nil => rfl
  | cons char rest ih =>
      obtain ⟨apart, opened⟩ := afterBlock?_cons_eq_none opened
      rw [List.cons_append, afterBlock?_cons, ih opened]
      intro star
      cases rest with
      | nil => exact start
      | cons second rest => exact apart star

theorem Inside.append {first second : List Char} (before : Inside first) (after : Inside second) :
    Inside (first ++ second) where
  start := by
    cases first with
    | nil => exact after.start
    | cons char rest => exact before.start
  opened := (afterBlock?_append before.opened after.start).trans after.opened

theorem head?_replaceFrom (chars : List Char) :
    (Text.replaceFrom ['*', '/'] ['*', '\\', '/'] 0 chars).head? = chars.head? := by
  cases chars with
  | nil => rfl
  | cons char rest =>
      unfold Text.replaceFrom
      split
      · next found =>
          by_cases star : '*' = char
          · rw [← star]; rfl
          · simp [Text.afterStart?, star] at found
      · rfl

theorem afterBlock?_replaceFrom (skip : Nat) (chars : List Char) :
    afterBlock? (Text.replaceFrom ['*', '/'] ['*', '\\', '/'] skip chars) = none := by
  induction chars generalizing skip with
  | nil => cases skip <;> rfl
  | cons char rest ih =>
      cases skip with
      | succ skip => exact ih skip
      | zero =>
          unfold Text.replaceFrom
          split
          -- The star is followed by a backslash now, and the slash is passed over.
          · exact ih 1
          -- A star stays as it is only if what follows it does not start with a slash.
          · next missing =>
              rw [afterBlock?_cons, ih 0]
              rintro rfl
              rw [head?_replaceFrom]
              intro slash
              cases rest with
              | nil => cases slash
              | cons second rest =>
                  cases slash
                  exact missing rfl

theorem inside_commentText (text : String) : Inside (' ' :: (commentText text).toList) where
  start := by simp
  opened := by
    rw [afterBlock?_cons (by simp), commentText, String.toList_ofList]
    exact afterBlock?_replaceFrom 0 text.toList

/-! ## Which comments end where they should -/

/-- Whether a text has no line break. -/
def IsSingleLine (text : String) : Prop := ∀ char ∈ text.toList, isLineBreak char = false

namespace Piece

theorem isClosed_code (text : String) : (code text).IsClosed := by
  intro comment
  cases comment

theorem isClosed_block {text : String} {inside : List Char} (holds : Inside inside)
    (shape : text.toList = '/' :: '*' :: (inside ++ ['*', '/'])) : (block text).IsClosed := by
  intro _ rest
  have ends : afterBlock? (inside ++ '*' :: '/' :: rest) = some rest :=
    afterBlock?_append holds.opened (by simp)
  simpa [afterComment?, shape] using ends

theorem isClosed_line_iff {text : String} {before inside after : List Char}
    (plain : ∀ char ∈ before ++ after, isLineBreak char = false)
    (shape : text.toList = '/' :: '/' :: (before ++ inside ++ after ++ ['\n'])) :
    (line text).IsClosed ↔ ∀ char ∈ inside, isLineBreak char = false := by
  have ends : ∀ rest, afterComment? (text.toList ++ rest) = some rest ↔
      ∀ char ∈ inside, isLineBreak char = false := by
    intro rest
    have chars := afterLine_eq_iff (before ++ inside ++ after) rest
    simp only [shape, List.cons_append, List.append_assoc, List.nil_append, afterComment?,
      Option.some.injEq] at chars ⊢
    rw [chars]
    simp only [List.mem_append] at plain ⊢
    constructor
    · intro all char member
      exact all char (.inr (.inl member))
    · rintro all char (member | member | member)
      · exact plain char (.inl member)
      · exact all char member
      · exact plain char (.inr member)
  constructor
  · intro closed
    exact (ends []).mp (closed rfl [])
  · intro all _ rest
    exact (ends rest).mpr all

end Piece

open Piece (isClosed_code isClosed_block isClosed_line_iff)

theorem titleLine_isClosed_iff (title : String) :
    (titleLine title).IsClosed ↔ IsSingleLine title := by
  have plain : ∀ char ∈ " Generated by swg from ".toList ++ ". Do not edit.".toList,
      isLineBreak char = false := Text.forall_of_all (by decide)
  exact isClosed_line_iff plain (by simp)

theorem tagLine_isClosed_iff (tag : String) : (tagLine tag).IsClosed ↔ IsSingleLine tag := by
  have plain : ∀ char ∈ " Operations tagged `".toList ++ "`.".toList, isLineBreak char = false :=
    Text.forall_of_all (by decide)
  exact isClosed_line_iff plain (by simp)

theorem isClosed_commentLine {indent text : String} {piece : Piece}
    (member : piece ∈ commentLinePieces indent text) : piece.IsClosed := by
  unfold commentLinePieces at member
  split at member
  · cases member
  · have star : Inside ['*'] := ⟨by decide, rfl⟩
    have space : Inside [' '] := ⟨by decide, rfl⟩
    have closed : (Piece.block ("/** " ++ commentText text ++ " */")).IsClosed :=
      isClosed_block (star.append ((inside_commentText text).append space)) (by simp)
    simp only [List.mem_cons, List.not_mem_nil, or_false] at member
    rcases member with rfl | rfl | rfl
    · exact isClosed_code indent
    · exact closed
    · exact isClosed_code "\n"

theorem isClosed_interface {name : String} {members : List Member} {piece : Piece}
    (listed : piece ∈ interfacePieces name members) : piece.IsClosed := by
  simp only [interfacePieces, List.cons_append, List.mem_cons, List.mem_append, List.mem_flatMap,
    Member.pieces, List.not_mem_nil, or_false] at listed
  rcases listed with rfl | ⟨member, -, isComment | rfl⟩ | rfl
  · exact isClosed_code _
  · exact isClosed_commentLine isComment
  · exact isClosed_code _
  · exact isClosed_code _

theorem Declaration.isClosed_pieces {declaration : Declaration} {piece : Piece}
    (listed : piece ∈ declaration.pieces) : piece.IsClosed := by
  cases declaration with
  | interface name members => exact isClosed_interface listed
  | «alias» name comment target =>
      rcases List.mem_append.mp listed with isComment | isCode
      · exact isClosed_commentLine isComment
      · cases List.mem_singleton.mp isCode
        exact isClosed_code _

theorem inside_blockLine (text : String) : Inside (blockLine text).toList := by
  unfold blockLine
  split
  · exact ⟨by decide, rfl⟩
  · have star : Inside [' ', '*'] := ⟨by decide, rfl⟩
    have lineEnd : Inside ['\n'] := ⟨by decide, rfl⟩
    simpa using (star.append (inside_commentText text)).append lineEnd

theorem inside_verb (method : Method) : Inside method.verb.toList := by
  cases method <;> exact ⟨by decide, rfl⟩

namespace Function

theorem isClosed_commentBlock {function : Function} (method : Inside function.method.toList) :
    (Piece.block function.commentBlock).IsClosed := by
  have start : Inside ['*', '\n'] := ⟨by decide, rfl⟩
  have quote : Inside [' ', '*', ' ', '`'] := ⟨by decide, rfl⟩
  have unquote : Inside ['`', '\n'] := ⟨by decide, rfl⟩
  have space : Inside [' '] := ⟨by decide, rfl⟩
  have deprecated :
      Inside (if function.deprecated then " * @deprecated\n" else "").toList := by
    split <;> exact ⟨by decide, rfl⟩
  have texts := (inside_blockLine function.summary).append (inside_blockLine function.description)
  have sent := quote.append (method.append ((inside_commentText function.url).append unquote))
  have inside := start.append (texts.append (sent.append (deprecated.append space)))
  apply isClosed_block inside
  unfold commentBlock
  simp only [String.toList_append, String.reduceToList, List.cons_append, List.nil_append,
    List.append_assoc]

theorem isClosed_pieces {function : Function} (method : Inside function.method.toList)
    {piece : Piece} (listed : piece ∈ function.pieces) : piece.IsClosed := by
  simp only [pieces, List.cons_append, List.mem_cons, List.mem_append, List.not_mem_nil,
    or_false] at listed
  rcases listed with rfl | inInterface | rfl | rfl | rfl
  · exact isClosed_code _
  · split at inInterface
    · cases inInterface
    · rcases List.mem_append.mp inInterface with isInterface | isCode
      · exact isClosed_interface isInterface
      · cases List.mem_singleton.mp isCode
        exact isClosed_code _
  · exact isClosed_commentBlock method
  · exact isClosed_code _
  · exact isClosed_code _

end Function

open Endpoint (tags)

variable {title baseUrl : String} {model : ApiModel}

theorem mem_definitionsPieces {definitions : Definitions} {piece : Piece}
    (listed : piece ∈ definitionsPieces title definitions) :
    piece = titleLine title ∨ piece.IsClosed := by
  rcases List.mem_cons.mp listed with isTitle | inEntry
  · exact .inl isTitle
  · right
    obtain ⟨entry, -, inEntry⟩ := List.mem_flatMap.mp inEntry
    rcases List.mem_cons.mp inEntry with rfl | inDeclaration
    · exact isClosed_code _
    · exact Declaration.isClosed_pieces inDeclaration

theorem module_of_mem {module : Module}
    (isModule : module ∈ modules model.definitions model.endpoints) :
    module.tag ∈ tags model.endpoints ∧ ∀ function ∈ module.functions,
      ∃ entry : String × Endpoint, function = Function.ofEndpoint entry.1 entry.2 := by
  obtain ⟨tag, listed, rfl⟩ := exists_tag_of_mem isModule
  obtain ⟨same, -, functions, -⟩ := ofEndpoints_parts (model.definitions.names.map Names.base) tag
    (Endpoint.tagged model.endpoints tag)
  rw [same, functions]
  refine ⟨listed, fun function member => ?_⟩
  obtain ⟨entry, -, rfl⟩ := List.mem_map.mp member
  exact ⟨entry, rfl⟩

theorem isClosed_generated : (Piece.line "// Generated by swg. Do not edit.\n").IsClosed :=
  fun _ _ => rfl

theorem mem_modulePieces {module : Module} {piece : Piece}
    (isModule : module ∈ modules model.definitions model.endpoints)
    (listed : piece ∈ module.pieces) : piece = tagLine module.tag ∨ piece.IsClosed := by
  simp only [Module.pieces, List.cons_append, List.mem_cons, List.mem_append,
    List.mem_flatMap] at listed
  rcases listed with
    rfl | rfl | rfl | ⟨entry, -, rfl | inInterface⟩ | ⟨function, isFunction, inFunction⟩
  · exact .inr isClosed_generated
  · exact .inl rfl
  · exact .inr (isClosed_code _)
  · exact .inr (isClosed_code _)
  · exact .inr (isClosed_interface inInterface)
  · obtain ⟨entry, rfl⟩ := (module_of_mem isModule).2 function isFunction
    right
    apply Function.isClosed_pieces _ inFunction
    exact inside_verb entry.2.method

/-- Each comment is closed, or it is the one that holds the title, or one that holds a tag. -/
theorem mem_filePieces {file : String × List Piece} {piece : Piece}
    (isFile : file ∈ filePieces title baseUrl model) (listed : piece ∈ file.2) :
    piece = titleLine title ∨ (∃ tag ∈ tags model.endpoints, piece = tagLine tag) ∨
      piece.IsClosed := by
  simp only [filePieces, List.cons_append, List.mem_cons, List.mem_append, List.mem_map,
    List.not_mem_nil, or_false] at isFile
  rcases isFile with rfl | rfl | ⟨module, isModule, rfl⟩ | rfl
  · cases mem_definitionsPieces listed with
    | inl isTitle => exact .inl isTitle
    | inr closed => exact .inr (.inr closed)
  · cases List.mem_singleton.mp listed
    exact .inr (.inr (isClosed_code _))
  · cases mem_modulePieces isModule listed with
    | inl isTag => exact .inr (.inl ⟨module.tag, (module_of_mem isModule).1, isTag⟩)
    | inr closed => exact .inr (.inr closed)
  · cases List.mem_singleton.mp listed
    exact .inr (.inr (isClosed_code _))

theorem titleLine_mem (title baseUrl : String) (model : ApiModel) :
    ∃ file ∈ filePieces title baseUrl model, titleLine title ∈ file.2 :=
  ⟨_, List.mem_append_left _ List.mem_cons_self, List.mem_cons_self⟩

theorem tagLine_mem (title baseUrl : String) {tag : String} (listed : tag ∈ tags model.endpoints) :
    ∃ file ∈ filePieces title baseUrl model, tagLine tag ∈ file.2 := by
  obtain ⟨entry, member, rfl⟩ := List.mem_map.mp listed
  obtain ⟨module, isModule, same, -, -⟩ := exists_module model.definitions member
  refine ⟨(module.name ++ ".ts", module.pieces), ?_, ?_⟩
  · apply List.mem_append_left
    exact .tail _ (.tail _ (List.mem_map.mpr ⟨module, isModule, rfl⟩))
  · rw [← same]
    exact .tail _ List.mem_cons_self

/-- The files of a client consist of code and comments. All comments in delimiters end where they
should, and all others do exactly if neither the title nor a tag has a line break. -/
theorem comments_closed_iff (title baseUrl : String) (model : ApiModel) :
    (output title baseUrl model).files =
        (filePieces title baseUrl model).map (fun file => ⟨file.1, renderAll file.2⟩) ∧
      (∀ file ∈ filePieces title baseUrl model, ∀ text, .block text ∈ file.2 →
        (Piece.block text).IsClosed) ∧
      ((∀ file ∈ filePieces title baseUrl model, ∀ piece ∈ file.2, piece.IsClosed) ↔
        IsSingleLine title ∧ ∀ tag ∈ tags model.endpoints, IsSingleLine tag) := by
  refine ⟨files_eq_pieces title baseUrl model, ?_, ?_, ?_⟩
  · intro file isFile text listed
    rcases mem_filePieces isFile listed with isTitle | ⟨tag, -, isTag⟩ | closed
    · cases isTitle
    · cases isTag
    · exact closed
  · intro closed
    constructor
    · obtain ⟨file, isFile, listed⟩ := titleLine_mem title baseUrl model
      exact (titleLine_isClosed_iff title).mp (closed file isFile _ listed)
    · intro tag isTag
      obtain ⟨file, isFile, listed⟩ := tagLine_mem title baseUrl isTag
      exact (tagLine_isClosed_iff tag).mp (closed file isFile _ listed)
  · rintro ⟨singleTitle, singleTags⟩ file isFile piece listed
    rcases mem_filePieces isFile listed with rfl | ⟨tag, isTag, rfl⟩ | closed
    · exact (titleLine_isClosed_iff title).mpr singleTitle
    · exact (tagLine_isClosed_iff tag).mpr (singleTags tag isTag)
    · exact closed

/-- The model with one operation, whose tag has two lines. -/
def twoLineModel : ApiModel where
  endpoints := [("listPets", { url := "/pets", method := .get, tag := "pet\nstore" })]

/-- The second line of a title, or of a tag, is read as code. -/
theorem second_line_read_as_code :
    (¬ ∀ file ∈ filePieces "Pets\nStore" "" twoLineModel, ∀ piece ∈ file.2, piece.IsClosed) ∧
      (afterComment? (definitionsFile "Pets\nStore" twoLineModel.definitions).toList).map
          String.ofList = some "Store. Do not edit.\n" ∧
      (afterComment? (tagLine "pet\nstore").text.toList).map String.ofList = some "store`.\n" := by
  refine ⟨?_, ?_, ?_⟩
  · intro closed
    obtain ⟨file, isFile, listed⟩ := titleLine_mem "Pets\nStore" "" twoLineModel
    have single := (titleLine_isClosed_iff "Pets\nStore").mp (closed file isFile _ listed)
    exact absurd (single '\n' (by decide)) (by decide)
  · decide +kernel
  · decide +kernel

end ClientGen.TypeScript
