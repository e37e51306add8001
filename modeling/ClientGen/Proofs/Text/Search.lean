import ClientGen.Text.Search
import Mathlib.Data.List.TakeWhile

/-!
Parts of texts: what stands around a separator, and what a text becomes when every occurrence of a
part is replaced, from left to right.
-/

set_option autoImplicit false

namespace ClientGen.Text

/-! ## Separators -/

section Separators

variable {separator : Char} {chars : List Char}

theorem cut_of_not_mem (absent : separator ∉ chars) : cut separator chars = (chars, none) := by
  induction chars with
  | nil => rfl
  | cons char rest ih =>
      rw [List.mem_cons, not_or] at absent
      rw [cut, if_neg (Ne.symm absent.1), ih absent.2]

theorem cut_append_cons (absent : separator ∉ chars) (after : List Char) :
    cut separator (chars ++ separator :: after) = (chars, some after) := by
  induction chars with
  | nil => rw [List.nil_append, cut, if_pos rfl]
  | cons char rest ih =>
      rw [List.mem_cons, not_or] at absent
      rw [List.cons_append, cut, if_neg (Ne.symm absent.1), ih absent.2]

theorem split_eq_splitOn (separator : Char) (chars : List Char) :
    split separator chars = chars.splitOn separator := by
  induction chars with
  | nil => rfl
  | cons char rest ih =>
      rw [split, List.splitOn_cons_eq_if_modifyHead, ih]
      by_cases same : char = separator
      · simp [same]
      · cases parts : rest.splitOn separator with
        | nil => exact absurd parts (List.splitOn_ne_nil _ _)
        | cons part more => simp [same]

end Separators

/-! ## The last separator -/

theorem not_mem_afterLast (separator : Char) (chars : List Char) :
    separator ∉ afterLast separator chars := by
  intro member
  have apart := List.mem_takeWhile_imp (List.mem_reverse.mp member)
  simp at apart

private theorem apart_of_plain {separator : Char} {chars : List Char}
    (plain : separator ∉ chars) : ∀ char ∈ chars.reverse, decide (char ≠ separator) = true := by
  intro char member
  rw [decide_eq_true_eq]
  rintro rfl
  exact plain (List.mem_reverse.mp member)

theorem afterLast_of_plain {separator : Char} {chars : List Char} (plain : separator ∉ chars) :
    afterLast separator chars = chars := by
  rw [afterLast, List.takeWhile_eq_self_iff.mpr (apart_of_plain plain), List.reverse_reverse]

theorem afterLast_append_cons {separator : Char} (before : List Char) {last : List Char}
    (plain : separator ∉ last) : afterLast separator (before ++ separator :: last) = last := by
  have reversed : (before ++ separator :: last).reverse =
      last.reverse ++ separator :: before.reverse := by simp
  rw [afterLast, reversed, List.takeWhile_append_of_pos (apart_of_plain plain),
    List.takeWhile_cons_of_neg (by simp), List.append_nil, List.reverse_reverse]

/-- A list of characters is what follows its last separator, or has a separator before that. -/
theorem afterLast_cases (separator : Char) (chars : List Char) :
    afterLast separator chars = chars ∨
      ∃ before, chars = before ++ separator :: afterLast separator chars := by
  by_cases present : separator ∈ chars.reverse
  · right
    obtain ⟨after, before, split, plain⟩ := List.eq_append_cons_of_mem present
    have chars_eq : chars = before.reverse ++ separator :: after.reverse := by
      rw [← List.reverse_reverse chars, split]
      simp
    refine ⟨before.reverse, ?_⟩
    rw [chars_eq, afterLast_append_cons _ (by simpa using plain)]
  · left
    exact afterLast_of_plain (by simpa using present)

/-! ## Replacing a part -/

theorem afterStart?_append (start rest : List Char) :
    afterStart? start (start ++ rest) = some rest := by
  induction start with
  | nil => rfl
  | cons first more ih => rw [List.cons_append, afterStart?, if_pos rfl, ih]

section Replace

variable {part replacement : List Char}

theorem replaceFrom_eq_drop (skip : Nat) (chars : List Char) :
    replaceFrom part replacement skip chars = replaceAll part replacement (chars.drop skip) := by
  induction chars generalizing skip with
  | nil => cases skip <;> rfl
  | cons char rest ih =>
      cases skip with
      | zero => rfl
      | succ skip => exact ih skip

theorem replaceAll_append_start (nonempty : part ≠ []) (rest : List Char) :
    replaceAll part replacement (part ++ rest) =
      replacement ++ replaceAll part replacement rest := by
  cases part with
  | nil => exact absurd rfl nonempty
  | cons first more =>
      have starts := afterStart?_append (first :: more) rest
      rw [List.cons_append] at starts ⊢
      rw [replaceAll, replaceFrom, starts]
      simp [replaceFrom_eq_drop]

theorem replaceAll_cons {char : Char} {rest : List Char}
    (apart : afterStart? part (char :: rest) = none) :
    replaceAll part replacement (char :: rest) = char :: replaceAll part replacement rest := by
  rw [replaceAll, replaceFrom, apart]
  rfl

theorem replaceAll_cons_of_ne {first char : Char} {more rest : List Char} (other : char ≠ first) :
    replaceAll (first :: more) replacement (char :: rest) =
      char :: replaceAll (first :: more) replacement rest := by
  apply replaceAll_cons
  rw [afterStart?, if_neg (Ne.symm other)]

theorem replaceAll_singleton (char : Char) (chars : List Char) :
    replaceAll [char] replacement chars =
      chars.flatMap fun other => if other = char then replacement else [other] := by
  induction chars with
  | nil => rfl
  | cons first rest ih =>
      by_cases same : first = char
      · have replaced : replaceAll [char] replacement ([char] ++ rest) = _ :=
          replaceAll_append_start (by simp) rest
        rw [List.flatMap_cons, if_pos same, ← ih, ← replaced, same]
        rfl
      · rw [List.flatMap_cons, if_neg same, replaceAll_cons_of_ne same, ih]
        rfl

end Replace

end ClientGen.Text
