import ClientGen.Proofs.NamedType.Reading

/-!
A type whose names are read as they stand is read back from its text, whatever its arguments are.
-/

set_option autoImplicit false

namespace ClientGen.NamedType

mutual

/-- Whether the names in a type are read and shown as they stand. -/
def IsExact : NamedType → Prop
  | ⟨name, []⟩ => Readable name
  | ⟨name, first :: rest⟩ =>
      Readable name ∧ shownName name = name ∧ IsExact first ∧ AllExact rest

def AllExact : List NamedType → Prop
  | [] => True
  | type :: rest => IsExact type ∧ AllExact rest

end

theorem allExact_iff {types : List NamedType} : AllExact types ↔ ∀ type ∈ types, IsExact type := by
  induction types with
  | nil => simp [AllExact]
  | cons type rest ih => simp [AllExact, ih]

mutual

/-- The pieces that the text of a type is cut into. -/
def piecesOf : NamedType → List Piece
  | ⟨name, []⟩ => [.name name]
  | ⟨name, first :: rest⟩ => .name name :: .opening :: (piecesOf first ++ piecesOfRest rest)

def piecesOfRest : List NamedType → List Piece
  | [] => [.closing]
  | type :: rest => .comma :: (piecesOf type ++ piecesOfRest rest)

end

/-! ## Cutting a text -/

/-- A text that does not go on with the name before it. -/
def Cuts (after : List Char) : Prop := ∀ char ∈ after.head?, isMark char = true

theorem pieces_cut {after : List Char} (cuts : Cuts after) (run : List Char) :
    pieces run after = runPiece run.reverse ++ pieces [] after := by
  have blank : runPiece [] = [] := rfl
  cases after with
  | nil => simp [pieces, blank]
  | cons char rest =>
      have mark := cuts char rfl
      simp only [isMark_eq, Bool.or_eq_true, beq_iff_eq] at mark
      rw [pieces, pieces.eq_2 []]
      split
      · simp [blank]
      · split
        · simp [blank]
        · next notOpening notClosing =>
            have comma : char = ',' := by simpa [notOpening, notClosing] using mark
            simp [comma, blank]

theorem pieces_name_cut {name : String} (readable : Readable name) {before : List Char}
    (blank : ∀ char ∈ before, Text.isBlank char = true) {after : List Char} (cuts : Cuts after) :
    pieces [] (before ++ (name.toList ++ after)) = .name name :: pieces [] after := by
  have unmarked : ∀ char ∈ before ++ name.toList, isMark char = false := by
    intro char member
    cases List.mem_append.mp member with
    | inl inBefore => exact isMark_of_isBlank (blank char inBefore)
    | inr inName => exact readable.unmarked char inName
  rw [← List.append_assoc, pieces_unmarked unmarked, List.append_nil, pieces_cut cuts,
    List.reverse_reverse, runPiece_readable readable blank]
  rfl

theorem cuts_renderRest (types : List NamedType) (after : List Char) :
    Cuts ((renderRest types).toList ++ '>' :: after) := by
  intro char first
  cases types with
  | nil =>
      rw [renderRest] at first
      cases first
      rfl
  | cons type rest =>
      rw [renderRest] at first
      simp only [String.toList_append, List.append_assoc] at first
      cases first
      rfl

mutual

theorem pieces_render : ∀ type : NamedType, type.IsExact → ∀ before after : List Char,
    (∀ char ∈ before, Text.isBlank char = true) → Cuts after →
    pieces [] (before ++ (type.render.toList ++ after)) = piecesOf type ++ pieces [] after
  | ⟨name, []⟩, exact, before, after, blank, cuts => by
      rw [IsExact] at exact
      rw [render, piecesOf]
      exact pieces_name_cut exact blank cuts
  | ⟨name, first :: rest⟩, exact, before, after, blank, cuts => by
      rw [IsExact] at exact
      obtain ⟨readable, shown, inFirst, inRest⟩ := exact
      have chars : (render ⟨name, first :: rest⟩).toList ++ after = name.toList ++
          '<' :: ([] ++ (first.render.toList ++ ((renderRest rest).toList ++ '>' :: after))) := by
        rw [render, shown]
        simp
      have opens : Cuts ('<' ::
          ([] ++ (first.render.toList ++ ((renderRest rest).toList ++ '>' :: after)))) := by
        intro char isFirst
        cases isFirst
        rfl
      have inside := pieces_render first inFirst [] _ (by simp) (cuts_renderRest rest after)
      have further := pieces_renderRest rest inRest after
      rw [chars, pieces_name_cut readable blank opens, pieces, if_pos (by decide), inside, further,
        piecesOf]
      simp [runPiece, Text.trimChars, Text.trimStart, Text.trimEnd]

theorem pieces_renderRest : ∀ types : List NamedType, AllExact types → ∀ after : List Char,
    pieces [] ((renderRest types).toList ++ '>' :: after) = piecesOfRest types ++ pieces [] after
  | [], _, after => by
      rw [renderRest, piecesOfRest]
      rfl
  | type :: rest, exact, after => by
      rw [AllExact] at exact
      have chars : (renderRest (type :: rest)).toList ++ '>' :: after = ',' ::
          ([' '] ++ (type.render.toList ++ ((renderRest rest).toList ++ '>' :: after))) := by
        rw [renderRest]
        simp
      have blank : ∀ char ∈ [' '], Text.isBlank char = true := Text.forall_of_all (by decide)
      have inside := pieces_render type exact.1 [' '] _ blank (cuts_renderRest rest after)
      have further := pieces_renderRest rest exact.2 after
      rw [chars, pieces, if_neg (by decide), if_neg (by decide), if_pos rfl, inside, further,
        piecesOfRest]
      simp [runPiece, Text.trimChars, Text.trimStart, Text.trimEnd]

end

/-! ## Reading the pieces -/

/-- Pieces before which an argument may end. -/
def Follows (after : List Piece) : Prop :=
  ∀ piece ∈ after.head?, piece = .comma ∨ piece = .closing

theorem follows_piecesOfRest (types : List NamedType) (after : List Piece) :
    Follows (piecesOfRest types ++ after) := by
  intro piece first
  cases types with
  | nil =>
      rw [piecesOfRest] at first
      cases first
      exact .inr rfl
  | cons type rest =>
      rw [piecesOfRest] at first
      cases first
      exact .inl rfl

theorem Follows.ne_opening {after : List Piece} (follows : Follows after) :
    after.head? ≠ some .opening := by
  intro opens
  rcases follows _ opens with same | same <;> cases same

mutual

theorem beforeType_piecesOf : ∀ (type : NamedType) (stack : List Opened) (after : List Piece),
    Follows after → beforeType stack (piecesOf type ++ after) = afterType stack type after
  | ⟨name, []⟩, stack, after, follows => by
      rw [piecesOf]
      exact afterName_eq_afterType follows.ne_opening stack name
  | ⟨name, first :: rest⟩, stack, after, follows => by
      have inside := beforeType_piecesOf first (⟨name, []⟩ :: stack) _
        (follows_piecesOfRest rest after)
      have further := afterType_piecesOfRest rest name first [] stack after
      rw [piecesOf]
      simp only [List.cons_append, List.append_assoc]
      rw [beforeType, afterName, inside, further]
      rfl

theorem afterType_piecesOfRest : ∀ (types : List NamedType) (name : String) (type : NamedType)
    (done : List NamedType) (stack : List Opened) (after : List Piece),
    afterType (⟨name, done⟩ :: stack) type (piecesOfRest types ++ after) =
      afterType stack ⟨name, done.reverse ++ type :: types⟩ after
  | [], name, type, done, stack, after => by
      rw [piecesOfRest, List.singleton_append, afterType]
      simp
  | next :: rest, name, type, done, stack, after => by
      have inside := beforeType_piecesOf next (⟨name, type :: done⟩ :: stack) _
        (follows_piecesOfRest rest after)
      have further := afterType_piecesOfRest rest name next (type :: done) stack after
      rw [piecesOfRest]
      simp only [List.cons_append, List.append_assoc]
      rw [afterType, inside, further]
      simp

end

theorem parse?_render {type : NamedType} (exact : type.IsExact) : parse? type.render = some type := by
  have cut := pieces_render type exact [] [] (by simp) (by simp [Cuts])
  have read := beforeType_piecesOf type [] [] (by simp [Follows])
  have ended : pieces [] [] = [] := rfl
  rw [List.nil_append, List.append_nil, ended] at cut
  rw [parse?, cut, read]
  rfl

theorem parse_render {type : NamedType} (exact : type.IsExact) : parse type.render = type :=
  parse_of_parse? (parse?_render exact)

end ClientGen.NamedType
