import ClientGen.Proofs.Resolve.Carriers
import ClientGen.Proofs.Text.Search
import ClientGen.Proofs.Text.Trimmed
import ClientGen.Proofs.Text.Unmarked
import ClientGen.TypeScript.Module

/-!
The name under which an inline object is declared is read off the type of its value. It is that of
the object if this comes first in the type, in any number of arrays.
-/

set_option autoImplicit false

namespace ClientGen.TypeScript

open Text (isSeparator isBlank)

/-- A name without separators, such as those made from words. -/
def Solid (name : String) : Prop := ∀ char ∈ name.toList, isSeparator char = false

theorem Solid.append {first second : String} (solid : Solid first) (other : Solid second) :
    Solid (first ++ second) := by
  intro char member
  rw [String.toList_append, List.mem_append] at member
  cases member with
  | inl inFirst => exact solid char inFirst
  | inr inSecond => exact other char inSecond

theorem Solid.synthesized {owner : String} (solid : Solid owner) (property : String) :
    Solid (Names.synthesized owner property) :=
  solid.append fun _ => Text.pascalCase_plain property

theorem solid_pascalCase (name : String) : Solid (Text.pascalCase name) :=
  fun _ => Text.pascalCase_plain name

theorem Solid.response {owner : String} (solid : Solid owner) : Solid (owner ++ "Response") := by
  refine solid.append fun char member => ?_
  have all : "Response".toList.all (fun char => !isSeparator char) = true := by decide
  simpa using List.all_eq_true.mp all char member

variable {name : String}

theorem mem_inArrays {char : Char} {depth : Nat} (member : char ∈ (inArrays depth name).toList) :
    char ∈ name.toList ∨ char ∈ "Array<>".toList := by
  induction depth with
  | zero => exact .inl member
  | succ depth ih =>
      have opening : "Array<".toList ⊆ "Array<>".toList := by decide
      have closing : ">".toList ⊆ "Array<>".toList := by decide
      rw [inArrays, String.toList_append, String.toList_append, List.mem_append,
        List.mem_append] at member
      rcases member with (before | inside) | after
      · exact .inr (opening before)
      · exact ih inside
      · exact .inr (closing after)

theorem not_blank_of_mem_inArrays (solid : Solid name) (depth : Nat) :
    ∀ char ∈ (inArrays depth name).toList, isBlank char = false := by
  intro char member
  rcases mem_inArrays member with inName | around
  · exact Text.isBlank_of_not_separator (solid char inName)
  · have none : "Array<>".toList.all (fun char => !isBlank char) = true := by decide
    simpa using List.all_eq_true.mp none char around

theorem bar_not_mem_inArrays (solid : Solid name) (depth : Nat) :
    '|' ∉ (inArrays depth name).toList := by
  intro member
  rcases mem_inArrays member with inName | around
  · have plain := solid '|' inName
    revert plain
    decide
  · revert around
    decide

theorem withoutArrays_of_solid {chars : List Char}
    (solid : ∀ char ∈ chars, isSeparator char = false) (fuel : Nat) :
    withoutArrays fuel chars = chars := by
  cases fuel with
  | zero => rfl
  | succ fuel =>
      unfold withoutArrays
      split
      · have bracket : isSeparator '<' = true := by decide
        rw [solid '<' (by simp)] at bracket
        cases bracket
      · rfl

theorem withoutArrays_inArrays (solid : Solid name) (depth fuel : Nat) :
    withoutArrays (depth + fuel) (inArrays depth name).toList = name.toList := by
  induction depth with
  | zero => exact withoutArrays_of_solid solid _
  | succ depth ih =>
      have chars : (inArrays (depth + 1) name).toList =
          'A' :: 'r' :: 'r' :: 'a' :: 'y' :: '<' :: ((inArrays depth name).toList ++ ['>']) := by
        simp [inArrays]
      have trimmed := Text.trimChars_of_solid (not_blank_of_mem_inArrays solid depth)
      rw [chars, Nat.add_right_comm, withoutArrays, List.getLast?_concat, if_pos rfl,
        List.dropLast_concat, trimmed, ih]

theorem depth_le_length (name : String) (depth : Nat) : depth ≤ (inArrays depth name).toList.length := by
  induction depth with
  | zero => exact Nat.zero_le _
  | succ depth ih =>
      rw [inArrays, String.toList_append, String.toList_append, List.length_append,
        List.length_append]
      have opening : "Array<".toList.length = 6 := by decide
      omega

/-- The name that comes first in a type is the one that is found. -/
theorem localName_of_headedBy (solid : Solid name) {type : String} (headed : HeadedBy name type) :
    localName type = name := by
  obtain ⟨depth, head⟩ := headed
  have noBlank := not_blank_of_mem_inArrays solid depth
  have first : Text.trimChars (Text.cut '|' type.toList).1 = (inArrays depth name).toList := by
    have noBar := bar_not_mem_inArrays solid depth
    rcases head with same | ⟨others, split⟩
    · rw [same, Text.cut_of_not_mem noBar]
      exact Text.trimChars_of_solid noBlank
    · have noBar : '|' ∉ (inArrays depth name).toList ++ [' '] := by
        simpa using noBar
      have chars : type.toList =
          ((inArrays depth name).toList ++ [' ']) ++ '|' :: ' ' :: others.toList := by
        simp [split]
      rw [chars, Text.cut_append_cons noBar]
      by_cases empty : (inArrays depth name).toList = []
      · rw [empty]
        rfl
      · have nothing : ∀ char ∈ [], isBlank char = true := by simp
        have blank : ∀ char ∈ [' '], isBlank char = true := by
          intro char member
          rw [List.mem_singleton.mp member]
          rfl
        have around := Text.trimChars_around (Text.trimChars_of_solid noBlank) empty nothing blank
        exact around
  obtain ⟨fuel, length⟩ := Nat.exists_eq_add_of_le (depth_le_length name depth)
  simp only [localName]
  rw [first, length, withoutArrays_inArrays solid, String.ofList_toList]

end ClientGen.TypeScript
