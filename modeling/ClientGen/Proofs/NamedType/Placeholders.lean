import ClientGen.DeclaredName
import ClientGen.Proofs.Definitions.Index
import ClientGen.Proofs.Names.FirstFree
import ClientGen.Proofs.Names.Unbracketed
import ClientGen.Proofs.NamedType.Replacement

/-!
Placeholders and the arguments that they stand for. A declaration replaces the innermost names of the
arguments of a key by placeholders, and an instance replaces the placeholders by the arguments. Both
together give a type back just if the plain names in it are not affected.
-/

set_option autoImplicit false

namespace ClientGen.Names

private def letter (number : Nat) : Char := ['T', 'K', 'U'].getD number 'U'

private theorem letter_injective : ∀ left < 3, ∀ right < 3, letter left = letter right →
    left = right := by
  decide

private theorem toList_placeholder (index : Nat) : (placeholder index).toList =
    letter (index % 3) :: if index < 3 then [] else (toString (index / 3)).toList := by
  have cases : index % 3 = 0 ∨ index % 3 = 1 ∨ index % 3 = 2 := by omega
  by_cases small : index < 3
  · rcases cases with rest | rest | rest <;> simp only [placeholder, rest, small, if_true] <;> rfl
  · rcases cases with rest | rest | rest <;>
      simp only [placeholder, rest, small, if_false, String.toList_append] <;> rfl

theorem placeholder_injective {left right : Nat} (same : placeholder left = placeholder right) :
    left = right := by
  have split := congrArg String.toList same
  rw [toList_placeholder, toList_placeholder, List.cons.injEq] at split
  obtain ⟨letters, numbers⟩ := split
  have rests := letter_injective _ (Nat.mod_lt left (by decide)) _ (Nat.mod_lt right (by decide))
    letters
  have filled (number : Nat) : (toString number).toList ≠ [] := by simp
  split at numbers
  · split at numbers
    · omega
    · exact absurd numbers.symm (filled _)
  · split at numbers
    · exact absurd numbers (filled _)
    · have quotients : left / 3 = right / 3 :=
        numbered_injective "" (by rw [String.toList_inj.mp numbers])
      omega

/-- A placeholder is made of a letter and digits. -/
theorem placeholder_plain (index : Nat) :
    ∀ char ∈ (placeholder index).toList, Text.isSeparator char = false := by
  have letters : ∀ rest < 3, Text.isSeparator (letter rest) = false := by decide
  intro char member
  rw [toList_placeholder] at member
  rcases List.mem_cons.mp member with rfl | digits
  · exact letters _ (Nat.mod_lt index (by decide))
  · split at digits
    · cases digits
    · exact Text.not_separator_of_isDigit (isDigit_number _ char digits)

theorem placeholder_unmarked (index : Nat) :
    ∀ char ∈ (placeholder index).toList, NamedType.isMark char = false :=
  fun char member => Text.isMark_of_not_separator (placeholder_plain index char member)

theorem placeholder_nonempty (index : Nat) : placeholder index ≠ "" := by
  intro empty
  have chars := toList_placeholder index
  rw [empty] at chars
  cases chars

theorem placeholder_readable (index : Nat) : NamedType.Readable (placeholder index) where
  nonempty := placeholder_nonempty index
  unmarked := placeholder_unmarked index
  trimmed := Text.trimChars_of_solid fun char member =>
    Text.isBlank_of_not_separator (placeholder_plain index char member)

end ClientGen.Names

namespace ClientGen.NamedType

open DeclaredName (placeholders)

/-- The arguments of a key by the placeholders that stand for them. The first argument has the given
position. -/
def bindings (index : Nat) : List NamedType → Entries NamedType
  | [] => []
  | argument :: rest => (Names.placeholder index, argument) :: bindings (index + 1) rest

/-- Replaces the placeholders in a type by the arguments that they stand for. -/
def instantiate (arguments : List NamedType) (type : NamedType) : NamedType :=
  type.mapLeaves fun leaf => ((bindings 0 arguments).get? leaf).getD (plain leaf)

/-- Whether a plain name comes back when the arguments of a key are put in place of placeholders: the
first argument of which it is the innermost name is nothing but that name, or there is none and the
name is no placeholder itself. -/
def Restored (arguments : List NamedType) (leaf : String) : Prop :=
  (∀ argument, arguments.find? (fun argument => argument.innermost = leaf) = some argument →
    argument.arguments = []) ∧
  ((∀ argument ∈ arguments, argument.innermost ≠ leaf) → leaf ∉ (bindings 0 arguments).keys)

theorem exists_position {index : Nat} {arguments : List NamedType} {placeholder : String}
    {argument : NamedType} (member : (placeholder, argument) ∈ bindings index arguments) :
    argument ∈ arguments ∧ ∃ position, index ≤ position ∧ placeholder = Names.placeholder position := by
  induction arguments generalizing index with
  | nil => cases member
  | cons first rest ih =>
      rcases List.mem_cons.mp member with now | later
      · cases now
        exact ⟨.head _, index, Nat.le_refl _, rfl⟩
      · obtain ⟨inRest, position, after, same⟩ := ih later
        exact ⟨.tail _ inRest, position, Nat.le_of_succ_le after, same⟩

theorem bindings_distinct (index : Nat) (arguments : List NamedType) :
    (bindings index arguments).keys.Nodup := by
  induction arguments generalizing index with
  | nil => exact List.nodup_nil
  | cons first rest ih =>
      rw [bindings, Entries.keys, List.map_cons, List.nodup_cons]
      refine ⟨fun member => ?_, ih (index + 1)⟩
      obtain ⟨argument, inRest⟩ := Entries.exists_of_mem_keys member
      obtain ⟨-, position, after, same⟩ := exists_position inRest
      have equal := Names.placeholder_injective same
      omega

/-- The placeholder for an innermost name stands for the first argument that has it. -/
theorem keyOf?_placeholders (leaf : String) (index : Nat) (arguments : List NamedType) :
    (keyOf? leaf (placeholders index arguments) = none ∧
      ∀ argument ∈ arguments, argument.innermost ≠ leaf) ∨
    ∃ placeholder argument, keyOf? leaf (placeholders index arguments) = some placeholder ∧
      arguments.find? (fun argument => argument.innermost = leaf) = some argument ∧
      (placeholder, argument) ∈ bindings index arguments := by
  induction arguments generalizing index with
  | nil =>
      left
      exact ⟨rfl, by simp⟩
  | cons first rest ih =>
      by_cases same : first.innermost = leaf
      · right
        refine ⟨Names.placeholder index, first, ?_, ?_, .head _⟩
        · simp [keyOf?, placeholders, same]
        · simp [same]
      · have passed : keyOf? leaf (placeholders index (first :: rest)) =
            keyOf? leaf (placeholders (index + 1) rest) := by
          simp [keyOf?, placeholders, same]
        rw [passed]
        rcases ih (index + 1) with ⟨none, apart⟩ | ⟨placeholder, argument, found, isFirst, bound⟩
        · left
          refine ⟨none, fun argument member => ?_⟩
          rcases List.mem_cons.mp member with rfl | later
          · exact same
          · exact apart argument later
        · right
          refine ⟨placeholder, argument, found, ?_, .tail _ bound⟩
          simpa [same] using isFirst

mutual

theorem innermost_mem_names : ∀ type : NamedType, type.innermost ∈ type.names
  | ⟨name, arguments⟩ => by
      rw [innermost, names]
      rcases innermostOf_mem_names name arguments with same | inside
      · rw [same]
        exact .head _
      · exact .tail _ inside

theorem innermostOf_mem_names (name : String) : ∀ arguments : List NamedType,
    innermostOf name arguments = name ∨ innermostOf name arguments ∈ namesOfAll arguments
  | [] => by
      left
      rw [innermostOf]
  | [argument] => by
      right
      rw [innermostOf, namesOfAll]
      exact List.mem_append_left _ (innermost_mem_names argument)
  | first :: next :: rest => by
      rw [innermostOf, namesOfAll]
      refine (innermostOf_mem_names name (next :: rest)).imp_right fun inside => ?_
      exact List.mem_append_right _ inside

end

/-- Among types without brackets in their names, only a plain name has its innermost name as its
text. -/
theorem render_eq_innermost_iff {type : NamedType} {leaf : String}
    (unmarked : ∀ char ∈ leaf.toList, isMark char = false) :
    type.render = leaf ↔ type.innermost = leaf ∧ type.arguments = [] := by
  obtain ⟨name, arguments⟩ := type
  cases arguments with
  | nil => simp [render, innermost, innermostOf]
  | cons first rest =>
      have opened : '<' ∈ (render ⟨name, first :: rest⟩).toList := by
        rw [render]
        simp
      constructor
      · intro same
        have mark := unmarked '<' (same ▸ opened)
        cases mark
      · rintro ⟨-, none⟩
        cases none

section Instantiate

variable {arguments : List NamedType} (unmarked : ∀ argument ∈ arguments, argument.Unmarked)

def restored (arguments : List NamedType) (leaf : String) : NamedType :=
  instantiate arguments (plain ((keyOf? leaf (placeholders 0 arguments)).getD leaf))

theorem instantiate_substitute (arguments : List NamedType) (type : NamedType) :
    (type.substitute (placeholders 0 arguments)).instantiate arguments =
      type.mapLeaves (restored arguments) := by
  rw [substitute_eq_mapLeaves, instantiate, mapLeaves_mapLeaves]
  rfl

theorem instantiate_plain (arguments : List NamedType) (name : String) :
    instantiate arguments (plain name) = ((bindings 0 arguments).get? name).getD (plain name) := by
  rw [instantiate, mapLeaves_plain]

include unmarked

theorem restored_render_eq_iff (leaf : String) :
    (restored arguments leaf).render = leaf ↔ Restored arguments leaf := by
  unfold restored Restored
  rcases keyOf?_placeholders leaf 0 arguments with ⟨none, apart⟩ | ⟨_, argument, found, isFirst, bound⟩
  · have unfound : arguments.find? (fun argument => argument.innermost = leaf) = .none := by
      simpa using apart
    rw [none, Option.getD_none, instantiate_plain, unfound]
    cases bound : (bindings 0 arguments).get? leaf with
    | none =>
        have free := (Entries.get?_eq_none_iff _ _).mp bound
        simp [plain, render, free]
    | some argument =>
        have member := (Entries.get?_eq_some_iff (bindings_distinct 0 arguments)).mp bound
        obtain ⟨isArgument, position, -, same⟩ := exists_position member
        have plainLeaf : ∀ char ∈ leaf.toList, isMark char = false :=
          same ▸ Names.placeholder_unmarked position
        rw [Option.getD_some, render_eq_innermost_iff plainLeaf]
        constructor
        · rintro ⟨same, -⟩
          exact absurd same (apart argument isArgument)
        · rintro ⟨-, free⟩
          exact absurd (Entries.mem_keys member) (free apart)
  · have isArgument := List.mem_of_find?_eq_some isFirst
    have innermost : argument.innermost = leaf := by simpa using List.find?_some isFirst
    have plainLeaf : ∀ char ∈ leaf.toList, isMark char = false :=
      innermost ▸ unmarked argument isArgument _ (innermost_mem_names argument)
    have looked := (Entries.get?_eq_some_iff (bindings_distinct 0 arguments)).mpr bound
    rw [found, Option.getD_some, instantiate_plain, looked, Option.getD_some, isFirst,
      render_eq_innermost_iff plainLeaf]
    constructor
    · rintro ⟨-, none⟩
      refine ⟨?_, fun apart => absurd innermost (apart argument isArgument)⟩
      rintro _ ⟨⟩
      exact none
    · rintro ⟨first, -⟩
      exact ⟨innermost, first argument rfl⟩

theorem restored_unmarked {leaf : String} (plainLeaf : ∀ char ∈ leaf.toList, isMark char = false) :
    (restored arguments leaf).Unmarked := by
  have single {name : String} (plainName : ∀ char ∈ name.toList, isMark char = false) :
      (plain name).Unmarked := by
    intro other member
    rw [names_plain, List.mem_singleton] at member
    exact member ▸ plainName
  rw [restored, instantiate_plain]
  cases bound : (bindings 0 arguments).get? ((keyOf? leaf (placeholders 0 arguments)).getD leaf) with
  | some argument =>
      have member := (Entries.get?_eq_some_iff (bindings_distinct 0 arguments)).mp bound
      exact unmarked argument (exists_position member).1
  | none =>
      rcases keyOf?_placeholders leaf 0 arguments with ⟨none, -⟩ | ⟨_, argument, found, -, known⟩
      · rw [none]
        exact single plainLeaf
      · rw [found, Option.getD_some] at bound
        have looked := (Entries.get?_eq_some_iff (bindings_distinct 0 arguments)).mpr known
        rw [looked] at bound
        cases bound

/-- The text of a reference is the same again just if that of each plain name in it is. -/
theorem render_instantiate_substitute_iff (text : String) :
    (((parse text).substitute (placeholders 0 arguments)).instantiate arguments).render =
        (parse text).render ↔
      ∀ leaf ∈ (parse text).leaves, Restored arguments leaf := by
  have leafwise : (((parse text).mapLeaves (restored arguments)).render = (parse text).render ↔
      ∀ leaf ∈ (parse text).leaves, (restored arguments leaf).render = leaf) := by
    cases read : parse? text with
    | some type =>
        rw [parse_of_parse? read]
        have inType := unmarked_of_parse? read
        exact render_mapLeaves_eq_iff inType fun leaf member =>
          restored_unmarked unmarked (inType leaf (leaves_subset_names type member))
    | none =>
        have shown : (plain (Text.trim text)).render = Text.trim text := by rw [plain, render]
        rw [parse_of_malformed read, mapLeaves_plain, leaves_plain, shown]
        simp
  rw [instantiate_substitute, leafwise]
  exact forall₂_congr fun leaf _ => restored_render_eq_iff unmarked leaf

end Instantiate

end ClientGen.NamedType
