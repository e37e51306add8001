import ClientGen.Proofs.NamedType.Rendered

/-!
The grammar of types with arguments. A type is a name, alone or followed by a list of types between
brackets, and white space may stand around every part of it. Reading accepts the texts of this grammar
and no others, and whatever derivation a text has, the type that it denotes is the one that is read.
-/

set_option autoImplicit false

namespace ClientGen.NamedType

/-! ## Derivations -/

/-- A run of characters that are neither brackets nor commas and not all blank. -/
structure IsRun (run : List Char) : Prop where
  unmarked : ∀ char ∈ run, isMark char = false
  solid : ∃ char ∈ run, Text.isBlank char = false

/-- White space beside the run of a name, up to the next bracket, comma or end of the text. A run that
is as long as possible reaches that far itself, so that no white space is left beside it. -/
structure IsBeside (maximal : Bool) (blanks : List Char) : Prop where
  blank : ∀ char ∈ blanks, Text.isBlank char = true
  none : maximal = true → blanks = []

/-- The name that a run stands for: the run without the blanks at its ends. -/
def nameOf (run : List Char) : String := String.ofList (Text.trimChars run)

mutual

/-- The types that a text denotes, one for each derivation of the text from the grammar. `maximal`
tells whether the run of every name has to be as long as possible. -/
inductive Derives (maximal : Bool) : List Char → NamedType → Prop where
  | plain {before run after : List Char} : IsBeside maximal before → IsRun run →
      IsBeside maximal after → Derives maximal (before ++ run ++ after) (plain (nameOf run))
  | applied {before run between inside after : List Char} {opening closing : Char}
      {arguments : List NamedType} : IsBeside maximal before → IsRun run →
      IsBeside maximal between → opening ∈ ['<', '«'] →
      DerivesList maximal inside arguments → closing ∈ ['>', '»'] →
      (∀ char ∈ after, Text.isBlank char = true) →
      Derives maximal (before ++ run ++ between ++ opening :: (inside ++ closing :: after))
        ⟨nameOf run, arguments⟩

/-- The same for one or more types with commas between them. -/
inductive DerivesList (maximal : Bool) : List Char → List NamedType → Prop where
  | single {chars : List Char} {type : NamedType} : Derives maximal chars type →
      DerivesList maximal chars [type]
  | more {chars rest : List Char} {type : NamedType} {types : List NamedType} :
      Derives maximal chars type → DerivesList maximal rest types →
      DerivesList maximal (chars ++ ',' :: rest) (type :: types)

end

variable {maximal : Bool}

/-! ## The pieces of a derived text -/

theorem runPiece_run {run : List Char} (isRun : IsRun run) : runPiece run = [.name (nameOf run)] := by
  have solid : Text.trimChars run ≠ [] := by
    intro nothing
    obtain ⟨char, member, solid⟩ := isRun.solid
    rw [Text.trimChars_eq_nil_iff.mp nothing char member] at solid
    cases solid
  simp [runPiece, solid, nameOf]

/-- The piece that a bracket or a comma makes. -/
def markPiece (char : Char) : Piece :=
  if Names.isOpening char then .opening else if Names.isClosing char then .closing else .comma

theorem pieces_mark {char : Char} (mark : isMark char = true) (rest : List Char) :
    pieces [] (char :: rest) = markPiece char :: pieces [] rest := by
  have none : runPiece [] = [] := rfl
  simp only [isMark_eq, Bool.or_eq_true, beq_iff_eq] at mark
  rw [pieces, markPiece, List.reverse_nil, none]
  split
  · rfl
  · split
    · rfl
    · next notOpening notClosing =>
        have comma : char = ',' := by simpa [notOpening, notClosing] using mark
        rw [if_pos comma]
        rfl

theorem cuts_mark {char : Char} (mark : isMark char = true) (rest : List Char) :
    Cuts (char :: rest) := by
  rintro _ ⟨⟩
  exact mark

theorem isOpening_of_isClosing {char : Char} (closes : Names.isClosing char = true) :
    Names.isOpening char = false := by
  simp only [Names.isClosing, Bool.or_eq_true, beq_iff_eq] at closes
  cases closes with
  | inl angle => subst angle; decide
  | inr guillemet => subst guillemet; decide

/-- A text is cut apart where a bracket or a comma follows. -/
theorem pieces_append {after : List Char} (cuts : Cuts after) (run chars : List Char) :
    pieces run (chars ++ after) = pieces run chars ++ pieces [] after := by
  induction chars generalizing run with
  | nil => exact pieces_cut cuts run
  | cons char rest ih =>
      rw [List.cons_append, pieces, pieces]
      split
      · simp [ih]
      · split
        · simp [ih]
        · split
          · simp [ih]
          · exact ih _

theorem pieces_of_unmarked {chars : List Char} (unmarked : ∀ char ∈ chars, isMark char = false) :
    pieces [] chars = runPiece chars := by
  have passed := pieces_unmarked unmarked [] []
  rw [List.append_nil, List.append_nil] at passed
  rw [passed, pieces, List.reverse_reverse]

theorem piecesOf_applied {name : String} {arguments : List NamedType} {inside : List Piece}
    (list : piecesOfRest arguments = .comma :: inside) :
    piecesOf ⟨name, arguments⟩ = .name name :: .opening :: inside := by
  cases arguments with
  | nil => simp [piecesOfRest] at list
  | cons first rest =>
      rw [piecesOfRest, List.cons.injEq] at list
      rw [piecesOf, list.2]

theorem IsRun.pieces_beside {run before after : List Char} (isRun : IsRun run)
    (blankBefore : ∀ char ∈ before, Text.isBlank char = true)
    (blankAfter : ∀ char ∈ after, Text.isBlank char = true) :
    pieces [] (before ++ run ++ after) = [.name (nameOf run)] := by
  have unmarked : ∀ char ∈ before ++ run ++ after, isMark char = false := by
    intro char member
    rcases List.mem_append.mp member with inFront | inAfter
    · cases List.mem_append.mp inFront with
      | inl inBefore => exact isMark_of_isBlank (blankBefore char inBefore)
      | inr inRun => exact isRun.unmarked char inRun
    · exact isMark_of_isBlank (blankAfter char inAfter)
  have solid : ∃ char ∈ before ++ run ++ after, Text.isBlank char = false := by
    obtain ⟨char, member, solid⟩ := isRun.solid
    exact ⟨char, by simp [member], solid⟩
  have named : nameOf (before ++ run ++ after) = nameOf run := by
    rw [nameOf, nameOf, Text.trimChars_blank_around run blankBefore blankAfter]
  rw [pieces_of_unmarked unmarked, runPiece_run ⟨unmarked, solid⟩, named]

mutual

/-- A text is cut into the pieces of any type that it denotes. -/
theorem Derives.pieces_eq : ∀ {chars : List Char} {type : NamedType}, Derives maximal chars type →
    pieces [] chars = piecesOf type
  | _, _, .plain before isRun after => by
      rw [isRun.pieces_beside before.blank after.blank]
      rfl
  | _, _, @Derives.applied _ _ _ _ inside after opening closing arguments before isRun between
      isOpening list isClosing blank => by
      have opens := Names.isOpening_iff.mpr isOpening
      have closes := Names.isClosing_iff.mpr isClosing
      have opened : isMark opening = true := by simp [isMark_eq, opens]
      have closed : isMark closing = true := by simp [isMark_eq, closes]
      have notOpening : Names.isOpening closing = false := isOpening_of_isClosing closes
      have last : pieces [] after = [] := by
        rw [pieces_of_unmarked fun char member => isMark_of_isBlank (blank char member)]
        exact runPiece_blank blank
      have inner := list.pieces_eq
      rw [pieces_append (cuts_mark opened _), isRun.pieces_beside before.blank between.blank,
        pieces_mark opened, pieces_append (cuts_mark closed _), pieces_mark closed, last, markPiece,
        if_pos opens, markPiece, notOpening, closes]
      exact (piecesOf_applied inner.symm).symm

theorem DerivesList.pieces_eq : ∀ {chars : List Char} {types : List NamedType},
    DerivesList maximal chars types →
    .comma :: (pieces [] chars ++ [.closing]) = piecesOfRest types
  | _, _, .single only => by
      rw [only.pieces_eq]
      rfl
  | _, _, .more first others => by
      have comma : isMark ',' = true := by decide
      rw [pieces_append (cuts_mark comma _), pieces_mark comma, first.pieces_eq, piecesOfRest,
        ← others.pieces_eq]
      simp [markPiece, Names.isOpening, Names.isClosing]

end

theorem parse?_of_derives {text : String} {type : NamedType}
    (derived : Derives maximal text.toList type) : parse? text = some type := by
  have read := beforeType_piecesOf type [] [] (by simp [Follows])
  rw [List.append_nil] at read
  rw [parse?, derived.pieces_eq, read]
  rfl

theorem Readable.isRun {name : String} (readable : Readable name) : IsRun name.toList where
  unmarked := readable.unmarked
  solid := by
    by_contra none
    have blank : ∀ char ∈ name.toList, Text.isBlank char = true := by simpa using none
    have empty := Text.trimChars_eq_nil_iff.mpr blank
    rw [readable.trimmed] at empty
    exact readable.nonempty (by simpa using empty)

theorem Readable.nameOf_toList {name : String} (readable : Readable name) :
    nameOf name.toList = name := by
  rw [nameOf, readable.trimmed, String.ofList_toList]

theorem isBeside_nil : IsBeside maximal [] := ⟨by simp, fun _ => rfl⟩

theorem IsRun.derives {run : List Char} (isRun : IsRun run) :
    Derives maximal run (NamedType.plain (nameOf run)) := by
  have derived : Derives maximal ([] ++ run ++ []) (NamedType.plain (nameOf run)) :=
    .plain isBeside_nil isRun isBeside_nil
  rwa [List.nil_append, List.append_nil] at derived

theorem IsRun.derives_applied {run inside after : List Char} {opening closing : Char}
    {arguments : List NamedType} (isRun : IsRun run) (opens : opening ∈ ['<', '«'])
    (list : DerivesList maximal inside arguments) (closes : closing ∈ ['>', '»'])
    (blank : ∀ char ∈ after, Text.isBlank char = true) :
    Derives maximal (run ++ opening :: (inside ++ closing :: after)) ⟨nameOf run, arguments⟩ := by
  have derived : Derives maximal ([] ++ run ++ [] ++ opening :: (inside ++ closing :: after))
      ⟨nameOf run, arguments⟩ := .applied isBeside_nil isRun isBeside_nil opens list closes blank
  rwa [List.nil_append, List.append_nil] at derived

theorem Readable.derives {name : String} (readable : Readable name) :
    Derives maximal name.toList (NamedType.plain name) := by
  have derived : Derives maximal name.toList _ := readable.isRun.derives
  rwa [readable.nameOf_toList] at derived

theorem Readable.derives_applied {name : String} (readable : Readable name) {inside : String}
    {arguments : List NamedType} (list : DerivesList maximal inside.toList arguments) :
    Derives maximal (name ++ "<" ++ inside ++ ">").toList ⟨name, arguments⟩ := by
  have none : ∀ char ∈ ([] : List Char), Text.isBlank char = true := by simp
  have opens : '<' ∈ ['<', '«'] := List.mem_cons_self
  have closes : '>' ∈ ['>', '»'] := List.mem_cons_self
  have derived := readable.isRun.derives_applied opens list closes none
  rw [readable.nameOf_toList] at derived
  simpa using derived

/-! ## The pieces of a type that was read -/

/-- The pieces read so far, as the argument lists that are still open tell them. -/
def piecesBefore : List Opened → List Piece
  | [] => []
  | ⟨name, arguments⟩ :: outer =>
      piecesBefore outer ++ .name name :: .opening ::
        arguments.reverse.flatMap fun argument => piecesOf argument ++ [.comma]

theorem piecesBefore_add (opened : Opened) (type : NamedType) (outer : List Opened)
    (left : List Piece) :
    piecesBefore (⟨opened.name, type :: opened.arguments⟩ :: outer) ++ left =
      piecesBefore (opened :: outer) ++ (piecesOf type ++ .comma :: left) := by
  obtain ⟨name, arguments⟩ := opened
  simp [piecesBefore]

theorem piecesOfRest_append (done : List NamedType) (last : NamedType) :
    piecesOfRest (done ++ [last]) =
      .comma :: (done.flatMap (fun argument => piecesOf argument ++ [.comma]) ++
        (piecesOf last ++ [.closing])) := by
  induction done with
  | nil => rfl
  | cons first rest ih =>
      rw [List.cons_append, piecesOfRest, ih]
      simp

theorem piecesBefore_close (opened : Opened) (type : NamedType) (outer : List Opened)
    (left : List Piece) :
    piecesBefore outer ++ (piecesOf ⟨opened.name, (type :: opened.arguments).reverse⟩ ++ left) =
      piecesBefore (opened :: outer) ++ (piecesOf type ++ .closing :: left) := by
  obtain ⟨name, arguments⟩ := opened
  rw [List.reverse_cons, piecesOf_applied (piecesOfRest_append arguments.reverse type), piecesBefore]
  simp

/-- The pieces read so far. -/
def ReadState.pieces : ReadState → List Piece
  | .beforeType stack => piecesBefore stack
  | .afterName stack name => piecesBefore stack ++ [.name name]
  | .afterType stack type => piecesBefore stack ++ piecesOf type

/-- What was read so far and the pieces that are left make up the pieces of the result. -/
theorem Reads.pieces {result : NamedType} {state : ReadState} {left : List Piece}
    (reads : Reads result state left) : state.pieces ++ left = piecesOf result := by
  induction reads with
  | name _ ih => simpa [ReadState.pieces] using ih
  | opening _ ih => simpa [ReadState.pieces, piecesBefore] using ih
  | plain _ ih => simpa [ReadState.pieces, NamedType.plain, piecesOf] using ih
  | comma _ ih => rwa [ReadState.pieces, piecesBefore_add, ← List.append_assoc] at ih
  | closing _ ih =>
      rwa [ReadState.pieces, List.append_assoc, piecesBefore_close, ← List.append_assoc] at ih
  | complete => simp [ReadState.pieces, piecesBefore]

theorem pieces_of_parse? {text : String} {type : NamedType} (read : parse? text = some type) :
    pieces [] text.toList = piecesOf type :=
  (reads_of_parse? read).pieces

/-! ## Derivations from pieces -/

/-- Every text starts with a run, if an empty one, that a bracket, a comma or the end follows. -/
theorem exists_run (chars : List Char) :
    ∃ run after, chars = run ++ after ∧ (∀ char ∈ run, isMark char = false) ∧ Cuts after ∧
      pieces [] chars = runPiece run ++ pieces [] after := by
  have split := List.takeWhile_append_dropWhile (p := fun char => !isMark char) (l := chars)
  have unmarked : ∀ char ∈ chars.takeWhile fun char => !isMark char, isMark char = false :=
    fun char member => by simpa using List.mem_takeWhile_imp member
  have cuts : Cuts (chars.dropWhile fun char => !isMark char) := by
    intro char first
    have stopped := List.head?_dropWhile_not (fun char => !isMark char) chars
    rw [first] at stopped
    simpa using stopped
  refine ⟨_, _, split.symm, unmarked, cuts, ?_⟩
  rw [← pieces_of_unmarked unmarked, ← pieces_append cuts, split]

theorem exists_mark {after : List Char} (cuts : Cuts after) {piece : Piece} {left : List Piece}
    (starts : pieces [] after = piece :: left) :
    ∃ char rest, after = char :: rest ∧ isMark char = true ∧ markPiece char = piece ∧
      pieces [] rest = left := by
  cases after with
  | nil => cases starts
  | cons char rest =>
      have mark := cuts char rfl
      rw [pieces_mark mark, List.cons.injEq] at starts
      exact ⟨char, rest, rfl, mark, starts⟩

theorem opening_of_markPiece {char : Char} (opens : markPiece char = .opening) :
    char ∈ ['<', '«'] := by
  unfold markPiece at opens
  split at opens
  · next isOpening => exact Names.isOpening_iff.mp isOpening
  · split at opens <;> cases opens

theorem closing_of_markPiece {char : Char} (closes : markPiece char = .closing) :
    char ∈ ['>', '»'] := by
  unfold markPiece at closes
  split at closes
  · cases closes
  · split at closes
    · next isClosing => exact Names.isClosing_iff.mp isClosing
    · cases closes

theorem eq_comma_of_markPiece {char : Char} (mark : isMark char = true)
    (separates : markPiece char = .comma) : char = ',' := by
  unfold markPiece at separates
  split at separates
  · cases separates
  · split at separates
    · cases separates
    · next notOpening notClosing => simpa [isMark_eq, notOpening, notClosing] using mark

/-- A text whose first piece is a name starts with a run of that name. -/
theorem exists_name {chars : List Char} {name : String} {left : List Piece}
    (starts : pieces [] chars = .name name :: left) :
    ∃ run after, chars = run ++ after ∧ IsRun run ∧ nameOf run = name ∧ Cuts after ∧
      pieces [] after = left := by
  obtain ⟨run, after, split, unmarked, cuts, cut⟩ := exists_run chars
  rw [starts] at cut
  by_cases blank : ∀ char ∈ run, Text.isBlank char = true
  · rw [runPiece_blank blank, List.nil_append] at cut
    obtain ⟨char, _, -, -, isName, -⟩ := exists_mark cuts cut.symm
    unfold markPiece at isName
    split at isName
    · cases isName
    · split at isName <;> cases isName
  · have solid : ∃ char ∈ run, Text.isBlank char = false := by simpa using blank
    have isRun : IsRun run := ⟨unmarked, solid⟩
    rw [runPiece_run isRun, List.singleton_append, List.cons.injEq, Piece.name.injEq] at cut
    exact ⟨run, after, split, isRun, cut.1.symm, cuts, cut.2.symm⟩

/-- Before a comma, a closing bracket or the end there may be blanks, which make no piece. -/
theorem exists_blank_before {chars : List Char} (follows : Follows (pieces [] chars)) :
    ∃ blanks after, chars = blanks ++ after ∧ (∀ char ∈ blanks, Text.isBlank char = true) ∧
      Cuts after ∧ pieces [] after = pieces [] chars := by
  obtain ⟨run, after, split, unmarked, cuts, cut⟩ := exists_run chars
  by_cases blank : ∀ char ∈ run, Text.isBlank char = true
  · rw [runPiece_blank blank, List.nil_append] at cut
    exact ⟨run, after, split, blank, cuts, cut.symm⟩
  · have solid : ∃ char ∈ run, Text.isBlank char = false := by simpa using blank
    rw [cut, runPiece_run ⟨unmarked, solid⟩] at follows
    rcases follows _ rfl with comma | closing
    · cases comma
    · cases closing

mutual

/-- A text that starts with the pieces of a type starts with a text that denotes it. -/
theorem exists_derives : ∀ (type : NamedType) {chars : List Char} {left : List Piece},
    Follows left → pieces [] chars = piecesOf type ++ left →
    ∃ part after, chars = part ++ after ∧ Derives maximal part type ∧ Cuts after ∧
      pieces [] after = left
  | ⟨name, []⟩, chars, left, _, cut => by
      rw [piecesOf] at cut
      obtain ⟨run, after, split, isRun, rfl, cuts, further⟩ := exists_name cut
      exact ⟨run, after, split, isRun.derives, cuts, further⟩
  | ⟨name, first :: rest⟩, chars, left, follows, cut => by
      rw [piecesOf] at cut
      obtain ⟨run, after, rfl, isRun, rfl, cuts, further⟩ := exists_name cut
      obtain ⟨opening, others, rfl, -, opens, inside⟩ := exists_mark cuts further
      have listed : .comma :: pieces [] others = piecesOfRest (first :: rest) ++ left := by
        rw [inside, piecesOfRest]
        simp
      obtain ⟨inner, closing, last, rfl, list, closes, ended⟩ :=
        exists_derivesList (first :: rest) listed
      obtain ⟨blanks, after, rfl, blank, cuts, same⟩ := exists_blank_before (ended ▸ follows)
      have derived := isRun.derives_applied (opening_of_markPiece opens) list closes blank
      exact ⟨_, after, by simp, derived, cuts, same.trans ended⟩

theorem exists_derivesList : ∀ (types : List NamedType) {chars : List Char} {left : List Piece},
    .comma :: pieces [] chars = piecesOfRest types ++ left →
    ∃ inside closing after, chars = inside ++ closing :: after ∧
      DerivesList maximal inside types ∧ closing ∈ ['>', '»'] ∧ pieces [] after = left
  | [], chars, left, cut => by simp [piecesOfRest] at cut
  | type :: rest, chars, left, cut => by
      rw [piecesOfRest, List.cons_append, List.cons.injEq, List.append_assoc] at cut
      obtain ⟨part, after, rfl, derived, cuts, further⟩ :=
        exists_derives type (follows_piecesOfRest rest left) cut.2
      cases rest with
      | nil =>
          rw [piecesOfRest] at further
          obtain ⟨closing, last, rfl, -, closes, ended⟩ := exists_mark cuts further
          exact ⟨part, closing, last, rfl, .single derived, closing_of_markPiece closes, ended⟩
      | cons next others =>
          rw [piecesOfRest] at further
          obtain ⟨comma, tail, rfl, mark, separates, inside⟩ := exists_mark cuts further
          have same := eq_comma_of_markPiece mark separates
          subst same
          have listed : .comma :: pieces [] tail = piecesOfRest (next :: others) ++ left := by
            rw [inside, piecesOfRest]
            simp
          obtain ⟨inner, closing, last, rfl, list, closes, ended⟩ :=
            exists_derivesList (next :: others) listed
          exact ⟨part ++ ',' :: inner, closing, last, by simp, .more derived list, closes, ended⟩

end

/-- A text is read as a type exactly if it denotes it. -/
theorem parse?_eq_some_iff {text : String} {type : NamedType} :
    parse? text = some type ↔ Derives maximal text.toList type := by
  constructor
  · intro read
    have cut := pieces_of_parse? read
    rw [← List.append_nil (piecesOf type)] at cut
    obtain ⟨part, after, split, derived, cuts, ended⟩ := exists_derives type (by simp [Follows]) cut
    cases after with
    | nil =>
        rw [List.append_nil] at split
        rw [split]
        exact derived
    | cons char rest =>
        rw [pieces_mark (cuts char rfl)] at ended
        cases ended
  · exact parse?_of_derives

/-- Reading accepts the texts of the grammar and no others. All derivations of a text denote the type
that is read from it, and a text without a derivation is read as a plain name. -/
theorem parse_follows_grammar (maximal : Bool) (text : String) :
    (∀ type, Derives maximal text.toList type →
      parse text = type ∧ ∀ other, Derives maximal text.toList other → other = type) ∧
    ((¬ ∃ type, Derives maximal text.toList type) → parse text = plain (Text.trim text)) := by
  constructor
  · intro type derived
    have read := parse?_of_derives derived
    refine ⟨parse_of_parse? read, fun other alike => ?_⟩
    have same := parse?_of_derives alike
    rw [read, Option.some.injEq] at same
    exact same.symm
  · intro underivable
    apply parse_of_malformed
    cases read : parse? text with
    | none => rfl
    | some type => exact absurd ⟨type, parse?_eq_some_iff.mp read⟩ underivable

theorem parse_follows_grammar_pages :
    let pages : NamedType := ⟨"Page", [⟨"Map", [plain "string", ⟨"List", [plain "User"]⟩]⟩]⟩
    Derives true "Page« Map<string, List«User»> »".toList pages ∧
      parse "Page« Map<string, List«User»> »" = pages ∧
      (¬ ∃ type, Derives true "Page«User»s".toList type) ∧
      parse "Page«User»s" = plain "Page«User»s" := by
  have derived : Derives true "Page« Map<string, List«User»> »".toList
      ⟨"Page", [⟨"Map", [plain "string", ⟨"List", [plain "User"]⟩]⟩]⟩ :=
    parse?_eq_some_iff.mp (by cbv)
  have underivable : ¬ ∃ type, Derives true "Page«User»s".toList type := by
    rintro ⟨type, alike⟩
    have malformed : parse? "Page«User»s" = none := by cbv
    rw [parse?_eq_some_iff.mpr alike] at malformed
    cases malformed
  exact ⟨derived, ((parse_follows_grammar true _).1 _ derived).1, underivable,
    (parse_follows_grammar true _).2 underivable⟩

end ClientGen.NamedType
