import ClientGen.Proofs.Names.FirstFree
import ClientGen.Proofs.Text.Unmarked

/-!
Names without an opening bracket: each of them is its own base, and neither a property's name nor a
number that is put after it brings a bracket in.
-/

set_option autoImplicit false

namespace ClientGen.Names

/-- A name that holds no opening bracket. -/
def Unbracketed (name : String) : Prop := ∀ char ∈ name.toList, char ∉ ['<', '«']

instance (name : String) : Decidable (Unbracketed name) :=
  List.decidableBAll (fun char => char ∉ ['<', '«']) name.toList

theorem not_opening_iff {char : Char} : isOpening char = false ↔ char ∉ ['<', '«'] := by
  rw [← isOpening_iff, Bool.not_eq_true]

theorem not_opening_of_unmarked {char : Char} (unmarked : NamedType.isMark char = false) :
    char ∉ ['<', '«'] := by
  simp only [NamedType.isMark_eq, Bool.or_eq_false_iff] at unmarked
  exact not_opening_iff.mp unmarked.1.1

theorem Unbracketed.not_opening {name : String} (plain : Unbracketed name) {char : Char}
    (member : char ∈ name.toList) : isOpening char = false :=
  not_opening_iff.mpr (plain char member)

theorem Unbracketed.append {name suffix : String} (plain : Unbracketed name)
    (alike : Unbracketed suffix) : Unbracketed (name ++ suffix) := by
  intro char member
  rw [String.toList_append] at member
  rcases List.mem_append.mp member with inName | inSuffix
  · exact plain char inName
  · exact alike char inSuffix

theorem base_of_unbracketed {name : String} (plain : Unbracketed name) : base name = name := by
  have none : name.toList.any isOpening = false := by
    rw [List.any_eq_false]
    intro char member
    simp [plain.not_opening member]
  rw [base, none]
  simp

/-- What stands before the first opening bracket is the base, if it ends with no blanks. -/
theorem base_of_bracketed {name : String} (plain : Unbracketed name)
    (trimmed : Text.trimEnd name.toList = name.toList) (arguments : String) :
    base (name ++ "<" ++ arguments) = name := by
  have split : (name ++ "<" ++ arguments).toList = name.toList ++ '<' :: arguments.toList := by
    simp
  have opened : (name ++ "<" ++ arguments).toList.any isOpening = true := by
    rw [split]
    simp [isOpening]
  have taken : (name.toList ++ '<' :: arguments.toList).takeWhile (fun char => !isOpening char) =
      name.toList := by
    rw [List.takeWhile_append_of_pos (fun char member => by simp [plain.not_opening member])]
    simp [isOpening]
  rw [base, if_pos opened, split, taken, trimmed, String.ofList_toList]

/-- No base holds an opening bracket. -/
theorem base_unbracketed (name : String) : Unbracketed (base name) := by
  by_cases opened : name.toList.any isOpening = true
  · rw [base, if_pos opened]
    intro char member
    rw [String.toList_ofList, Text.trimEnd, List.mem_reverse] at member
    have taken := (List.dropWhile_sublist _).subset member
    apply not_opening_iff.mp
    simpa using List.mem_takeWhile_imp (List.mem_reverse.mp taken)
  · rw [base, if_neg opened]
    intro char member
    have closed := List.any_eq_false.mp (Bool.eq_false_iff.mpr opened) char member
    exact not_opening_iff.mp (Bool.eq_false_iff.mpr closed)

/-- What is put behind an opening bracket does not change the base. -/
theorem base_append {name : String} (bracketed : ¬ Unbracketed name) (suffix : String) :
    base (name ++ suffix) = base name := by
  obtain ⟨bracket, member, opening⟩ : ∃ char ∈ name.toList, isOpening char = true := by
    simpa only [Unbracketed, ← isOpening_iff, not_forall, not_not, exists_prop] using bracketed
  have opened : name.toList.any isOpening = true := List.any_eq_true.mpr ⟨bracket, member, opening⟩
  have shorter : (name.toList.takeWhile fun char => !isOpening char).length ≠
      name.toList.length := by
    intro whole
    have all := (List.takeWhile_prefix fun char => !isOpening char).eq_of_length whole
    have closed := List.mem_takeWhile_imp (all ▸ member)
    simp [opening] at closed
  rw [base, base, String.toList_append, List.any_append, opened, Bool.true_or, if_pos rfl,
    if_pos rfl, List.takeWhile_append, if_neg shorter]

theorem isDigit_number (number : Nat) : ∀ char ∈ (toString number).toList, char.isDigit = true := by
  intro char member
  rw [Nat.toString_eq_ofList_toDigits, String.toList_ofList] at member
  exact Nat.isDigit_of_mem_toDigits (by decide) (by decide) member

theorem unmarked_number (number : Nat) :
    ∀ char ∈ (toString number).toList, NamedType.isMark char = false := by
  intro char member
  have digit := isDigit_number number char member
  by_contra mark
  simp only [NamedType.isMark_eq, isOpening, isClosing, Bool.not_eq_false, Bool.or_eq_true,
    beq_iff_eq] at mark
  rcases mark with ((same | same) | (same | same)) | same <;> subst same <;> revert digit <;> decide

theorem unbracketed_number (number : Nat) : Unbracketed (toString number) :=
  fun char member => not_opening_of_unmarked (unmarked_number number char member)

theorem Unbracketed.synthesized {owner : String} (plain : Unbracketed owner) (property : String) :
    Unbracketed (synthesized owner property) :=
  plain.append fun _ member => not_opening_of_unmarked (Text.pascalCase_unmarked property member)

theorem Unbracketed.firstFree {name : String} (plain : Unbracketed name) (taken : List String) :
    Unbracketed (firstFree taken name) := by
  obtain ⟨number, -, same, -, -⟩ := firstFree_spec taken name
  rw [same]
  exact plain.append (unbracketed_number number)

end ClientGen.Names
