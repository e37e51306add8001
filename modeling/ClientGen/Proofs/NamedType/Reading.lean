import ClientGen.Proofs.NamedType.Leaves

/-!
Reading a name with plain arguments back from its text, with or without blanks around it.
-/

set_option autoImplicit false

namespace ClientGen.NamedType

theorem isMark_of_isBlank {char : Char} (blank : Text.isBlank char = true) : isMark char = false := by
  by_contra mark
  simp only [isMark_eq, Names.isOpening, Names.isClosing, Bool.not_eq_false, Bool.or_eq_true,
    beq_iff_eq] at mark
  rcases mark with ((same | same) | (same | same)) | same <;> subst same <;> revert blank <;> decide

/-! ## Pieces -/

theorem pieces_unmarked {part : List Char} (unmarked : ∀ char ∈ part, isMark char = false)
    (run rest : List Char) : pieces run (part ++ rest) = pieces (part.reverse ++ run) rest := by
  induction part generalizing run with
  | nil => rfl
  | cons char part ih =>
      have plain := unmarked char (.head _)
      simp only [isMark_eq, Bool.or_eq_false_iff, beq_eq_false_iff_ne] at plain
      obtain ⟨⟨notOpening, notClosing⟩, notComma⟩ := plain
      rw [List.cons_append, pieces, if_neg (by simp [notOpening]), if_neg (by simp [notClosing]),
        if_neg notComma, ih (fun other member => unmarked other (.tail _ member))]
      simp

theorem runPiece_blank {run : List Char} (blank : ∀ char ∈ run, Text.isBlank char = true) :
    runPiece run = [] := by
  have nothing : Text.trimChars run = [] := by
    rw [Text.trimChars, Text.trimStart, List.dropWhile_eq_nil_iff.mpr blank]
    rfl
  rw [runPiece, nothing]
  rfl

theorem runPiece_readable {name : String} (readable : Readable name) {before : List Char}
    (blank : ∀ char ∈ before, Text.isBlank char = true) :
    runPiece (before ++ name.toList) = [.name name] := by
  have solid : name.toList ≠ [] := by simpa using readable.nonempty
  have trimmed : Text.trimChars (before ++ name.toList) = name.toList := by
    have around := Text.trimChars_around readable.trimmed solid blank
      (fun char (member : char ∈ []) => nomatch member)
    rwa [List.append_nil] at around
  rw [runPiece, trimmed]
  simp [solid]

theorem pieces_name_mark {name : String} (readable : Readable name) {before : List Char}
    (blank : ∀ char ∈ before, Text.isBlank char = true) (mark : Char) (rest : List Char) :
    pieces [] (before ++ name.toList ++ mark :: rest) =
      pieces (before ++ name.toList).reverse (mark :: rest) := by
  have unmarked : ∀ char ∈ before ++ name.toList, isMark char = false := by
    intro char member
    rcases List.mem_append.mp member with inBefore | inName
    · exact isMark_of_isBlank (blank char inBefore)
    · exact readable.unmarked char inName
  rw [pieces_unmarked unmarked, List.append_nil]

theorem pieces_arguments {name : String} {names : List String} (first : Readable name)
    (rest : ∀ other ∈ names, Readable other) {before after : List Char}
    (blankBefore : ∀ char ∈ before, Text.isBlank char = true)
    (blankAfter : ∀ char ∈ after, Text.isBlank char = true) :
    pieces [] (before ++ (String.intercalate ", " (name :: names)).toList ++ '>' :: after) =
      .name name :: (names.flatMap fun other => [.comma, .name other]) ++ [.closing] := by
  induction names generalizing name before with
  | nil =>
      have ended : pieces [] after = [] := by
        have passed := pieces_unmarked (fun char member => isMark_of_isBlank (blankAfter char member))
          [] []
        rw [List.append_nil, List.append_nil] at passed
        rw [passed, pieces, List.reverse_reverse]
        exact runPiece_blank blankAfter
      rw [String.toList_intercalate, List.map_cons, List.map_nil, List.intercalate_singleton,
        pieces_name_mark first blankBefore]
      simp [pieces, Names.isOpening, Names.isClosing, runPiece_readable first blankBefore, ended]
  | cons next names ih =>
      have blank : ∀ char ∈ [' '], Text.isBlank char = true := by
        intro char member
        cases List.mem_singleton.mp member
        decide
      have later := ih (rest next (.head _)) (fun other member => rest other (.tail _ member)) blank
      have split : before ++ (String.intercalate ", " (name :: next :: names)).toList ++ '>' :: after =
          before ++ name.toList ++ ',' ::
            ([' '] ++ (String.intercalate ", " (next :: names)).toList ++ '>' :: after) := by
        rw [String.toList_intercalate, String.toList_intercalate, List.map_cons, List.map_cons,
          List.intercalate_cons_cons]
        simp
      rw [split, pieces_name_mark first blankBefore, pieces, if_neg (by decide),
        if_neg (by decide), if_pos rfl, List.reverse_reverse, runPiece_readable first blankBefore,
        later]
      rfl

/-! ## Types -/

theorem beforeType_arguments (base name : String) (names : List String)
    (arguments : List NamedType) :
    beforeType [⟨base, arguments⟩]
        (.name name :: (names.flatMap fun other => [.comma, .name other]) ++ [.closing]) =
      some ⟨base, arguments.reverse ++ (name :: names).map plain⟩ := by
  induction names generalizing name arguments with
  | nil => simp [beforeType, afterName, afterType]
  | cons next names ih =>
      have later := ih next (plain name :: arguments)
      simpa [beforeType, afterName] using later

/-- A name with plain arguments is read from its text and from what differs from it by blanks. -/
theorem parse?_of_trimChars {base name : String} {names : List String} (readable : Readable base)
    (first : Readable name) (rest : ∀ other ∈ names, Readable other) {text : String}
    (trimmed : Text.trimChars text.toList =
      base.toList ++ '<' :: ((String.intercalate ", " (name :: names)).toList ++ ['>'])) :
    parse? text = some ⟨base, (name :: names).map plain⟩ := by
  obtain ⟨before, after, around, blankBefore, blankAfter⟩ := Text.exists_blank_around text.toList
  have split : text.toList = before ++ base.toList ++ '<' ::
      ([] ++ (String.intercalate ", " (name :: names)).toList ++ '>' :: after) := by
    rw [around, trimmed]
    simp
  have none : ∀ char ∈ ([] : List Char), Text.isBlank char = true := by simp
  rw [parse?, split, pieces_name_mark readable blankBefore, pieces, if_pos (by decide),
    List.reverse_reverse, runPiece_readable readable blankBefore,
    pieces_arguments first rest none blankAfter]
  exact beforeType_arguments base name names []

end ClientGen.NamedType
