import ClientGen.Text.Blank
import Mathlib.Data.List.DropRight

/-!
Trimming takes blanks away from both ends of a text and nothing else, so that trimming a second time
changes nothing.
-/

set_option autoImplicit false

namespace ClientGen.Text

/-- What holds of all characters of a closed text is seen by testing these, and no others. -/
theorem forall_of_all {chars : List Char} {holds : Char → Prop} [DecidablePred holds]
    (all : (chars.all fun char => decide (holds char)) = true) : ∀ char ∈ chars, holds char :=
  fun char member => of_decide_eq_true (List.all_eq_true.mp all char member)

private theorem exists_blank_before (chars : List Char) :
    ∃ before, chars = before ++ trimStart chars ∧ ∀ char ∈ before, isBlank char = true :=
  ⟨chars.takeWhile isBlank, (List.takeWhile_append_dropWhile).symm,
    fun _ member => List.mem_takeWhile_imp member⟩

private theorem exists_blank_after (chars : List Char) :
    ∃ after, chars = trimEnd chars ++ after ∧ ∀ char ∈ after, isBlank char = true := by
  obtain ⟨before, split, blank⟩ := exists_blank_before chars.reverse
  refine ⟨before.reverse, ?_, fun char member => blank char (List.mem_reverse.mp member)⟩
  have reversed := congrArg List.reverse split
  simpa [trimStart, trimEnd] using reversed

theorem exists_blank_around (chars : List Char) :
    ∃ before after, chars = before ++ trimChars chars ++ after ∧
      (∀ char ∈ before, isBlank char = true) ∧ ∀ char ∈ after, isBlank char = true := by
  obtain ⟨before, started, blankBefore⟩ := exists_blank_before chars
  obtain ⟨after, ended, blankAfter⟩ := exists_blank_after (trimStart chars)
  refine ⟨before, after, ?_, blankBefore, blankAfter⟩
  calc chars = before ++ trimStart chars := started
    _ = before ++ (trimEnd (trimStart chars) ++ after) := by rw [← ended]
    _ = before ++ trimChars chars ++ after := by simp [trimChars]

theorem trimChars_infix (chars : List Char) : trimChars chars <:+: chars := by
  obtain ⟨before, after, split, -, -⟩ := exists_blank_around chars
  exact ⟨before, after, split.symm⟩

/-- What is left after the leading blanks starts with none, and neither does any part from its
start. -/
private theorem trimStart_of_start {chars part : List Char}
    (starts : part <+: trimStart chars) : trimStart part = part := by
  refine List.dropWhile_eq_self_iff.mpr fun nonempty => ?_
  have longer : 0 < (trimStart chars).length := nonempty.trans_le starts.length_le
  have same : part[0] = (trimStart chars)[0] := starts.getElem nonempty
  have solid := List.dropWhile_eq_self_iff.mp (List.dropWhile_idempotent isBlank chars) longer
  rw [same]
  exact solid

theorem trimChars_trimChars (chars : List Char) : trimChars (trimChars chars) = trimChars chars := by
  have starts : trimChars chars <+: trimStart chars :=
    List.rdropWhile_prefix isBlank (trimStart chars)
  calc trimChars (trimChars chars) = trimEnd (trimStart (trimChars chars)) := rfl
    _ = trimEnd (trimEnd (trimStart chars)) := by rw [trimStart_of_start starts]; rfl
    _ = trimChars chars := List.rdropWhile_idempotent isBlank (trimStart chars)

theorem trimStart_of_trimChars {chars : List Char} (trimmed : trimChars chars = chars) :
    trimStart chars = chars := by
  have starts : trimChars chars <+: trimStart chars :=
    List.rdropWhile_prefix isBlank (trimStart chars)
  rw [trimmed] at starts
  exact trimStart_of_start starts

theorem trimEnd_of_trimChars {chars : List Char} (trimmed : trimChars chars = chars) :
    trimEnd chars = chars := by
  rw [← trimmed]
  exact List.rdropWhile_idempotent isBlank (trimStart chars)

theorem trimChars_of_solid {chars : List Char} (solid : ∀ char ∈ chars, isBlank char = false) :
    trimChars chars = chars := by
  obtain ⟨before, after, around, blankBefore, blankAfter⟩ := exists_blank_around chars
  have nothing {part : List Char} (blank : ∀ char ∈ part, isBlank char = true)
      (inside : part ⊆ chars) : part = [] := by
    refine List.eq_nil_iff_forall_not_mem.mpr fun char member => ?_
    have mixed := solid char (inside member)
    rw [blank char member] at mixed
    cases mixed
  have noneBefore : before = [] := nothing blankBefore fun char member => by
    rw [around]
    exact List.mem_append_left _ (List.mem_append_left _ member)
  have noneAfter : after = [] := nothing blankAfter fun char member => by
    rw [around]
    exact List.mem_append_right _ member
  rw [noneBefore, noneAfter, List.append_nil, List.nil_append] at around
  exact around.symm

/-- Nothing but the blanks around is taken away. -/
theorem trimChars_around {before core after : List Char} (trimmed : trimChars core = core)
    (solid : core ≠ []) (blankBefore : ∀ char ∈ before, isBlank char = true)
    (blankAfter : ∀ char ∈ after, isBlank char = true) :
    trimChars (before ++ core ++ after) = core := by
  have started : trimStart (before ++ core ++ after) = core ++ after := by
    have inside := trimStart_of_trimChars trimmed
    have passed : before.dropWhile isBlank = [] := List.dropWhile_eq_nil_iff.mpr blankBefore
    unfold trimStart at inside ⊢
    rw [List.append_assoc, List.dropWhile_append, passed, List.dropWhile_append, inside]
    simp [solid]
  have ended : trimEnd (core ++ after) = core := by
    have inside := trimEnd_of_trimChars trimmed
    have passed : after.reverse.dropWhile isBlank = [] :=
      List.dropWhile_eq_nil_iff.mpr fun char member => blankAfter char (List.mem_reverse.mp member)
    unfold trimEnd at inside ⊢
    rw [List.reverse_append, List.dropWhile_append, passed]
    exact inside
  rw [trimChars, started, ended]

theorem trimChars_eq_nil_iff {chars : List Char} :
    trimChars chars = [] ↔ ∀ char ∈ chars, isBlank char = true := by
  constructor
  · intro nothing char member
    obtain ⟨before, after, around, blankBefore, blankAfter⟩ := exists_blank_around chars
    rw [nothing, List.append_nil] at around
    rw [around, List.mem_append] at member
    cases member with
    | inl inBefore => exact blankBefore char inBefore
    | inr inAfter => exact blankAfter char inAfter
  · intro blank
    rw [trimChars, trimStart, List.dropWhile_eq_nil_iff.mpr blank]
    rfl

/-- More blanks around a text are taken away with those that it has. -/
theorem trimChars_blank_around {before after : List Char} (chars : List Char)
    (blankBefore : ∀ char ∈ before, isBlank char = true)
    (blankAfter : ∀ char ∈ after, isBlank char = true) :
    trimChars (before ++ chars ++ after) = trimChars chars := by
  by_cases nothing : trimChars chars = []
  · have blank := trimChars_eq_nil_iff.mp nothing
    rw [nothing, trimChars_eq_nil_iff]
    simp only [List.mem_append]
    rintro char ((inBefore | inside) | inAfter)
    · exact blankBefore char inBefore
    · exact blank char inside
    · exact blankAfter char inAfter
  · obtain ⟨start, rest, around, blankStart, blankRest⟩ := exists_blank_around chars
    have split : before ++ chars ++ after =
        (before ++ start) ++ trimChars chars ++ (rest ++ after) := by
      conv_lhs => rw [around]
      simp only [List.append_assoc]
    rw [split]
    apply trimChars_around (trimChars_trimChars chars) nothing
    · exact List.forall_mem_append.mpr ⟨blankBefore, blankStart⟩
    · exact List.forall_mem_append.mpr ⟨blankRest, blankAfter⟩

/-- What starts and ends with trimmed parts is trimmed. -/
theorem trimChars_between {first last : List Char} (trimmedFirst : trimChars first = first)
    (trimmedLast : trimChars last = last) (solidFirst : first ≠ []) (solidLast : last ≠ [])
    (middle : List Char) : trimChars (first ++ middle ++ last) = first ++ middle ++ last := by
  have started : trimStart (first ++ middle ++ last) = first ++ middle ++ last := by
    have inside := trimStart_of_trimChars trimmedFirst
    unfold trimStart at inside ⊢
    rw [List.append_assoc, List.dropWhile_append, inside]
    simp [solidFirst]
  have ended : trimEnd (first ++ middle ++ last) = first ++ middle ++ last := by
    have inside := congrArg List.reverse (trimEnd_of_trimChars trimmedLast)
    unfold trimEnd at inside ⊢
    rw [List.reverse_reverse] at inside
    rw [List.reverse_append, List.dropWhile_append, inside]
    simp [solidLast]
  rw [trimChars, started, ended]

@[simp] theorem toList_trim (text : String) : (trim text).toList = trimChars text.toList := by
  simp [trim]

end ClientGen.Text
