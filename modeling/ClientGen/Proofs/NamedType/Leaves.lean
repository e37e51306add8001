import ClientGen.NamedType.Parse
import ClientGen.Proofs.Text.Trimmed

/-!
The names in a type, plain or with arguments. Reading a text makes every name from a part of the text
that lies between two brackets or commas, unless the text is malformed and is a plain name as a whole.
-/

set_option autoImplicit false

namespace ClientGen.Names

theorem isOpening_iff {char : Char} : isOpening char = true ↔ char ∈ ['<', '«'] := by
  simp [isOpening]

theorem isClosing_iff {char : Char} : isClosing char = true ↔ char ∈ ['>', '»'] := by
  simp [isClosing]

end ClientGen.Names

namespace ClientGen.NamedType

mutual

/-- The plain names in a type, from left to right. -/
def leaves : NamedType → List String
  | ⟨name, []⟩ => [name]
  | ⟨_, first :: rest⟩ => leaves first ++ leavesOfAll rest

def leavesOfAll : List NamedType → List String
  | [] => []
  | type :: rest => leaves type ++ leavesOfAll rest

end

theorem mem_leavesOfAll {types : List NamedType} {leaf : String} :
    leaf ∈ leavesOfAll types ↔ ∃ type ∈ types, leaf ∈ type.leaves := by
  induction types with
  | nil => simp [leavesOfAll]
  | cons type rest ih => simp [leavesOfAll, ih]

@[simp] theorem leaves_plain (name : String) : (plain name).leaves = [name] := by
  simp [plain, leaves]

mutual

/-- The names in a type, those that have arguments included. -/
def names : NamedType → List String
  | ⟨name, arguments⟩ => name :: namesOfAll arguments

def namesOfAll : List NamedType → List String
  | [] => []
  | type :: rest => names type ++ namesOfAll rest

end

theorem mem_namesOfAll {types : List NamedType} {name : String} :
    name ∈ namesOfAll types ↔ ∃ type ∈ types, name ∈ type.names := by
  induction types with
  | nil => simp [namesOfAll]
  | cons type rest ih => simp [namesOfAll, ih]

theorem name_mem_names (type : NamedType) : type.name ∈ type.names := by
  obtain ⟨name, arguments⟩ := type
  simp [names]

@[simp] theorem names_plain (name : String) : (plain name).names = [name] := by
  simp [plain, names, namesOfAll]

mutual

theorem leaves_subset_names : ∀ type : NamedType, type.leaves ⊆ type.names
  | ⟨name, []⟩ => by simp [leaves, names]
  | ⟨name, first :: rest⟩ => by
      rw [leaves, names, namesOfAll]
      apply List.subset_cons_of_subset
      exact List.append_subset.mpr
        ⟨List.subset_append_of_subset_left _ (leaves_subset_names first),
          List.subset_append_of_subset_right _ (leavesOfAll_subset_names rest)⟩

theorem leavesOfAll_subset_names : ∀ types : List NamedType, leavesOfAll types ⊆ namesOfAll types
  | [] => by simp [leavesOfAll]
  | type :: rest => by
      rw [leavesOfAll, namesOfAll]
      exact List.append_subset.mpr
        ⟨List.subset_append_of_subset_left _ (leaves_subset_names type),
          List.subset_append_of_subset_right _ (leavesOfAll_subset_names rest)⟩

end

/-! ## Pieces -/

/-- A bracket or a comma: a character that is part of no name. -/
def isMark (char : Char) : Bool := ['<', '«', '>', '»', ','].contains char

theorem isMark_eq (char : Char) :
    isMark char = (Names.isOpening char || Names.isClosing char || char == ',') := by
  rw [Bool.eq_iff_iff]
  simp [isMark, Names.isOpening, Names.isClosing, or_assoc]

private theorem runPiece_name {run : List Char} {text : String}
    (member : Piece.name text ∈ runPiece run) : text.toList <:+: run := by
  simp only [runPiece] at member
  split at member
  · simp at member
  · have same : text = String.ofList (Text.trimChars run) := by simpa using member
    simpa [same] using Text.trimChars_infix run

theorem pieces_name {run chars : List Char} {text : String}
    (member : Piece.name text ∈ pieces run chars)
    (unmarked : ∀ char ∈ run, isMark char = false) :
    text.toList <:+: run.reverse ++ chars ∧ ∀ char ∈ text.toList, isMark char = false := by
  induction chars generalizing run with
  | nil =>
      have part := runPiece_name (by simpa [pieces] using member)
      refine ⟨by simpa using part, fun char inText => unmarked char ?_⟩
      simpa using part.subset inText
  | cons char rest ih =>
      -- A mark ends the run; what follows is read with an empty one.
      have ended (mark : Piece) (notName : ∀ text, mark ≠ .name text)
          (parts : Piece.name text ∈ runPiece run.reverse ++ mark :: pieces [] rest) :
          text.toList <:+: run.reverse ++ char :: rest ∧
            ∀ char ∈ text.toList, isMark char = false := by
        rcases List.mem_append.mp parts with inRun | inRest
        · have part := runPiece_name inRun
          refine ⟨part.trans (List.prefix_append _ _).isInfix, fun other inText => unmarked other ?_⟩
          simpa using part.subset inText
        · rcases List.mem_cons.mp inRest with isMark | later
          · exact absurd isMark.symm (notName text)
          · obtain ⟨part, plain⟩ := ih later (by simp)
            refine ⟨?_, plain⟩
            have tail : rest <:+ run.reverse ++ char :: rest :=
              ⟨run.reverse ++ [char], by simp⟩
            exact (by simpa using part : text.toList <:+: rest).trans tail.isInfix
      simp only [pieces] at member
      split at member
      · exact ended .opening (by simp) member
      · split at member
        · exact ended .closing (by simp) member
        · split at member
          · exact ended .comma (by simp) member
          · next notOpening notClosing notComma =>
              have step := ih member (by
                intro other inRun
                rcases List.mem_cons.mp inRun with rfl | earlier
                · simp [isMark_eq, notOpening, notClosing, notComma]
                · exact unmarked other earlier)
              simpa using step

/-- A name among the pieces is what is left of a run without the blanks around it. -/
theorem pieces_run {run chars : List Char} {text : String}
    (member : Piece.name text ∈ pieces run chars) :
    text ≠ "" ∧ Text.trimChars text.toList = text.toList := by
  have ofRun {run : List Char} (inRun : Piece.name text ∈ runPiece run) :
      text ≠ "" ∧ Text.trimChars text.toList = text.toList := by
    simp only [runPiece] at inRun
    split at inRun
    · cases inRun
    · next solid =>
        have same : text = String.ofList (Text.trimChars run) := by simpa using inRun
        subst same
        exact ⟨by simpa using solid, by simp [Text.trimChars_trimChars]⟩
  induction chars generalizing run with
  | nil => exact ofRun member
  | cons char rest ih =>
      have ended (mark : Piece) (notName : mark ≠ .name text)
          (parts : Piece.name text ∈ runPiece run.reverse ++ mark :: pieces [] rest) :
          text ≠ "" ∧ Text.trimChars text.toList = text.toList := by
        rcases List.mem_append.mp parts with inRun | inRest
        · exact ofRun inRun
        · rcases List.mem_cons.mp inRest with isMark | later
          · exact absurd isMark.symm notName
          · exact ih later
      simp only [pieces] at member
      split at member
      · exact ended .opening (by simp) member
      · split at member
        · exact ended .closing (by simp) member
        · split at member
          · exact ended .comma (by simp) member
          · exact ih member

/-! ## Reading -/

/-- Where reading stands when it takes the next piece. -/
inductive ReadState where
  | beforeType (stack : List Opened)
  | afterName (stack : List Opened) (name : String)
  | afterType (stack : List Opened) (type : NamedType)

/-- What is read from the pieces that are left. -/
def ReadState.read : ReadState → List Piece → Option NamedType
  | .beforeType stack => NamedType.beforeType stack
  | .afterName stack name => NamedType.afterName stack name
  | .afterType stack type => NamedType.afterType stack type

/-- The readings that succeed with a type, step by step. A name that no list of arguments follows is
a type of its own. -/
inductive Reads (result : NamedType) : ReadState → List Piece → Prop where
  | name {stack name left} : Reads result (.afterName stack name) left →
      Reads result (.beforeType stack) (.name name :: left)
  | opening {stack name left} : Reads result (.beforeType (⟨name, []⟩ :: stack)) left →
      Reads result (.afterName stack name) (.opening :: left)
  | plain {stack name left} : Reads result (.afterType stack (plain name)) left →
      Reads result (.afterName stack name) left
  | comma {opened outer type left} :
      Reads result (.beforeType (⟨opened.name, type :: opened.arguments⟩ :: outer)) left →
      Reads result (.afterType (opened :: outer) type) (.comma :: left)
  | closing {opened outer type left} :
      Reads result (.afterType outer ⟨opened.name, (type :: opened.arguments).reverse⟩) left →
      Reads result (.afterType (opened :: outer) type) (.closing :: left)
  | complete : Reads result (.afterType [] result) []

theorem afterName_eq_afterType {left : List Piece} (other : left.head? ≠ some .opening)
    (stack : List Opened) (name : String) :
    afterName stack name left = afterType stack (plain name) left := by
  cases left with
  | nil => rfl
  | cons piece rest =>
      cases piece with
      | name text => rfl
      | opening => exact absurd rfl other
      | comma => cases stack <;> rfl
      | closing => cases stack <;> rfl

theorem reads_of_read {result : NamedType} {state : ReadState} {left : List Piece}
    (read : state.read left = some result) : Reads result state left := by
  induction left generalizing state with
  | nil =>
      have complete : ∀ stack type, afterType stack type [] = some result →
          Reads result (.afterType stack type) [] := by
        intro stack type read
        cases stack with
        | nil =>
            cases read
            exact .complete
        | cons => cases read
      cases state with
      | beforeType => cases read
      | afterName stack name => exact .plain (complete stack _ read)
      | afterType stack type => exact complete stack type read
  | cons piece rest ih =>
      have further : ∀ stack type, afterType stack type (piece :: rest) = some result →
          Reads result (.afterType stack type) (piece :: rest) := by
        intro stack type read
        cases stack with
        | nil => cases piece <;> cases read
        | cons opened outer =>
            cases piece with
            | name => cases read
            | opening => cases read
            | comma => exact .comma (ih read)
            | closing => exact .closing (ih read)
      cases state with
      | beforeType stack =>
          cases piece with
          | name text => exact .name (ih read)
          | opening => cases read
          | comma => cases read
          | closing => cases read
      | afterName stack name =>
          by_cases opens : piece = .opening
          · subst opens
            exact .opening (ih read)
          · refine .plain (further stack _ ?_)
            rwa [← afterName_eq_afterType (by simpa using opens)]
      | afterType stack type => exact further stack type read

theorem reads_of_parse? {text : String} {type : NamedType} (read : parse? text = some type) :
    Reads type (.beforeType []) (pieces [] text.toList) :=
  reads_of_read read

/-- A property of all names in the open argument lists. -/
private def StackHolds (holds : String → Prop) (stack : List Opened) : Prop :=
  ∀ opened ∈ stack, holds opened.name ∧ ∀ name ∈ namesOfAll opened.arguments, holds name

private theorem StackHolds.push {holds : String → Prop} {stack : List Opened}
    (known : StackHolds holds stack) {name : String} (named : holds name) :
    StackHolds holds (⟨name, []⟩ :: stack) := by
  intro opened member
  rcases List.mem_cons.mp member with rfl | below
  · exact ⟨named, by simp [namesOfAll]⟩
  · exact known opened below

private theorem StackHolds.add {holds : String → Prop} {opened : Opened} {outer : List Opened}
    (known : StackHolds holds (opened :: outer)) {type : NamedType}
    (new : ∀ name ∈ type.names, holds name) :
    StackHolds holds (⟨opened.name, type :: opened.arguments⟩ :: outer) := by
  intro other member
  rcases List.mem_cons.mp member with rfl | below
  · refine ⟨(known opened (.head _)).1, fun name inNames => ?_⟩
    rcases List.mem_append.mp (by simpa [namesOfAll] using inNames) with inNew | inOld
    · exact new name inNew
    · exact (known opened (.head _)).2 name inOld
  · exact known other (.tail _ below)

private theorem StackHolds.close {holds : String → Prop} {opened : Opened} {outer : List Opened}
    (known : StackHolds holds (opened :: outer)) {type : NamedType}
    (new : ∀ name ∈ type.names, holds name) :
    ∀ name ∈ names ⟨opened.name, (type :: opened.arguments).reverse⟩, holds name := by
  intro name member
  obtain ⟨named, arguments⟩ := known.add new _ (.head _)
  rw [names] at member
  rcases List.mem_cons.mp member with rfl | inside
  · exact named
  · obtain ⟨argument, inArguments, inNames⟩ := mem_namesOfAll.mp inside
    exact arguments name (mem_namesOfAll.mpr ⟨argument, List.mem_reverse.mp inArguments, inNames⟩)

/-- A property of all names that were read so far. -/
private def ReadState.Holds (holds : String → Prop) : ReadState → Prop
  | .beforeType stack => StackHolds holds stack
  | .afterName stack name => StackHolds holds stack ∧ holds name
  | .afterType stack type => StackHolds holds stack ∧ ∀ name ∈ type.names, holds name

/-- Every name in a type comes from a piece that is a name. -/
private theorem Reads.names {holds : String → Prop} {result : NamedType} {state : ReadState}
    {left : List Piece} (reads : Reads result state left)
    (known : ∀ text, Piece.name text ∈ left → holds text) (soFar : state.Holds holds) :
    ∀ name ∈ result.names, holds name := by
  induction reads with
  | name _ ih =>
      exact ih (fun text member => known text (.tail _ member)) ⟨soFar, known _ (.head _)⟩
  | opening _ ih =>
      exact ih (fun text member => known text (.tail _ member)) (soFar.1.push soFar.2)
  | plain _ ih => exact ih known ⟨soFar.1, by simpa using soFar.2⟩
  | comma _ ih =>
      exact ih (fun text member => known text (.tail _ member)) (soFar.1.add soFar.2)
  | closing _ ih =>
      exact ih (fun text member => known text (.tail _ member))
        ⟨fun opened member => soFar.1 opened (.tail _ member), soFar.1.close soFar.2⟩
  | complete => exact soFar.2

/-- A name that is read as it stands. -/
structure Readable (name : String) : Prop where
  nonempty : name ≠ ""
  unmarked : ∀ char ∈ name.toList, isMark char = false
  trimmed : Text.trimChars name.toList = name.toList

/-- A part of a text between two brackets or commas, without the blanks around it. -/
structure IsName (text name : String) : Prop extends Readable name where
  part : name.toList <:+: text.toList

theorem name_of_parse? {text : String} {type : NamedType} (read : parse? text = some type)
    {name : String} (member : name ∈ type.names) : IsName text name := by
  have known (piece : String) (isPiece : Piece.name piece ∈ pieces [] text.toList) :
      IsName text piece := by
    obtain ⟨part, unmarked⟩ := pieces_name isPiece (by simp)
    obtain ⟨nonempty, trimmed⟩ := pieces_run isPiece
    exact ⟨⟨nonempty, unmarked, trimmed⟩, by simpa using part⟩
  exact (reads_of_parse? read).names known (fun opened none => nomatch none) name member

/-- A plain name in a well-formed text is a part of it without brackets and commas. -/
theorem leaf_of_parse? {text : String} {type : NamedType} (read : parse? text = some type)
    {leaf : String} (member : leaf ∈ type.leaves) :
    leaf.toList <:+: text.toList ∧ ∀ char ∈ leaf.toList, isMark char = false := by
  have isName := name_of_parse? read (leaves_subset_names type member)
  exact ⟨isName.part, isName.unmarked⟩

theorem parse_of_parse? {text : String} {type : NamedType} (read : parse? text = some type) :
    parse text = type := by
  simp [parse, read]

theorem parse_of_malformed {text : String} (malformed : parse? text = none) :
    parse text = plain (Text.trim text) := by
  simp [parse, malformed]

/-- A plain name in any text is a part of it. -/
theorem leaf_infix {text leaf : String} (member : leaf ∈ (parse text).leaves) :
    leaf.toList <:+: text.toList := by
  cases read : parse? text with
  | some type => exact (leaf_of_parse? read (parse_of_parse? read ▸ member)).1
  | none =>
      rw [parse_of_malformed read, leaves_plain, List.mem_singleton] at member
      rw [member, Text.toList_trim]
      exact Text.trimChars_infix text.toList

end ClientGen.NamedType
