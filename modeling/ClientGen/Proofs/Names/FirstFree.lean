import ClientGen.Names
import Mathlib.Data.List.Nodup
import Mathlib.Data.Finset.Card

/-!
Numbered names. Different numbers make different names, so a list of taken names cannot hold all of
them, and the search for a free one ends with the smallest number whose name is free.
-/

set_option autoImplicit false

namespace ClientGen.Names

theorem numbered_injective (name : String) {left right : Nat}
    (same : name ++ toString left = name ++ toString right) : left = right := by
  have digits : Nat.toDigits 10 left = Nat.toDigits 10 right := by
    simpa [← String.toList_inj, Nat.toString_eq_ofList_toDigits] using same
  simpa using congrArg (fun read => Nat.ofDigitChars 10 read 0) digits

/-- A name that is `base`, or `base` with the smallest number from 2 on with which it is free, if it
is taken itself. -/
def IsFirstFree (taken : List String) (base name : String) : Prop :=
  (base ∉ taken ∧ name = base) ∨
    base ∈ taken ∧ ∃ number, 2 ≤ number ∧ name = base ++ toString number ∧ name ∉ taken ∧
      ∀ smaller, 2 ≤ smaller → smaller < number → base ++ toString smaller ∈ taken

theorem IsFirstFree.not_mem {taken : List String} {base name : String}
    (free : IsFirstFree taken base name) : name ∉ taken := by
  rcases free with ⟨unused, same⟩ | ⟨-, -, -, -, unused, -⟩
  · rwa [same]
  · exact unused

private theorem exists_free_number (taken : List String) (name : String) :
    ∃ index < taken.length + 1, name ++ toString (index + 2) ∉ taken := by
  by_contra none
  have all : (List.range (taken.length + 1)).map (fun index => name ++ toString (index + 2)) ⊆
      taken := by
    intro candidate member
    obtain ⟨index, small, same⟩ := List.mem_map.mp member
    by_contra free
    exact none ⟨index, List.mem_range.mp small, same ▸ free⟩
  have distinct :
      ((List.range (taken.length + 1)).map fun index => name ++ toString (index + 2)).Nodup := by
    refine List.Nodup.map_on (fun left _ right _ same => ?_) List.nodup_range
    have equal := numbered_injective name same
    omega
  -- There are more candidates than names that are taken.
  have small := (distinct.subperm all).length_le
  simp only [List.length_map, List.length_range] at small
  omega

/-- The search ends with the smallest number whose name is free. -/
theorem firstFree_spec (taken : List String) (name : String) :
    ∃ number, 2 ≤ number ∧ firstFree taken name = name ++ toString number ∧
      firstFree taken name ∉ taken ∧
      ∀ smaller, 2 ≤ smaller → smaller < number → name ++ toString smaller ∈ taken := by
  obtain ⟨index, small, free⟩ := exists_free_number taken name
  have found : ((List.range (taken.length + 1)).find?
      fun index => !taken.contains (name ++ toString (index + 2))).isSome := by
    rw [List.find?_isSome]
    exact ⟨index, List.mem_range.mpr small, by simpa using free⟩
  obtain ⟨first, isFirst⟩ := Option.isSome_iff_exists.mp found
  have chosen : firstFree taken name = name ++ toString (first + 2) := by
    simp only [firstFree, List.find?_map, Function.comp_def, isFirst, Option.map_some,
      Option.getD_some]
  obtain ⟨isFree, -, before⟩ := List.find?_range_eq_some.mp isFirst
  refine ⟨first + 2, by omega, chosen, by simpa [chosen] using isFree, fun smaller low high => ?_⟩
  have passed := before (smaller - 2) (by omega)
  have number : smaller - 2 + 2 = smaller := by omega
  simpa [number] using passed

end ClientGen.Names
