import ClientGen.Proofs.Definitions.Index
import ClientGen.Proofs.Names.Unbracketed
import ClientGen.Proofs.Resolve.Visits

/-!
What visits of inline objects leave alone. No inline object has a name that ends with a bracket, so a
definition under such a name stays as it is, whatever brackets the names of owners hold.
-/

set_option autoImplicit false

namespace ClientGen

/-! ## One name and all bases -/

namespace Definitions

/-- Every base in the index leads to a definition. -/
def Rooted (definitions : Definitions) : Prop :=
  ∀ base name, definitions.bases.get? base = some name → (definitions.get? name).isSome

theorem Rooted.empty : Rooted {} := by
  intro base name listed
  cases listed

/-- What stands under a name is the same later on, and all bases that are known stay known. -/
structure Keeps (name : String) (first last : Definitions) : Prop where
  same : last.get? name = first.get? name
  bases : ∀ base, first.bases.hasKey base = true → last.bases.hasKey base = true
  rooted : first.Rooted → last.Rooted

theorem Keeps.refl (name : String) (definitions : Definitions) :
    Keeps name definitions definitions :=
  ⟨rfl, fun _ => id, id⟩

theorem Keeps.trans {name : String} {first middle last : Definitions}
    (before : Keeps name first middle) (after : Keeps name middle last) : Keeps name first last :=
  ⟨after.same.trans before.same, fun base known => after.bases base (before.bases base known),
    fun rooted => after.rooted (before.rooted rooted)⟩

section Insert

variable (definitions : Definitions) (name : String) (definition : Definition)

theorem hasKey_insert (base : String) (known : definitions.bases.hasKey base = true) :
    (definitions.insert name definition).bases.hasKey base = true := by
  unfold insert
  simp only
  split
  · exact known
  · rw [Entries.hasKey, Entries.get?_insert]
    split
    · rfl
    · exact known

theorem hasKey_base_insert :
    (definitions.insert name definition).bases.hasKey (Names.base name) = true := by
  unfold insert
  simp only
  split
  · next known => exact known
  · rw [Entries.hasKey, Entries.get?_insert, if_pos rfl]
    rfl

theorem Rooted.insert (rooted : definitions.Rooted) :
    (definitions.insert name definition).Rooted := by
  have present (other : String) (found : (definitions.get? other).isSome) :
      ((definitions.insert name definition).get? other).isSome := by
    rw [get?_insert]
    split
    · rfl
    · exact found
  intro base other listed
  unfold Definitions.insert at listed
  simp only at listed
  split at listed
  · exact present other (rooted base other listed)
  · rw [Entries.get?_insert] at listed
    split at listed
    · cases listed
      rw [get?_insert, if_pos rfl]
      rfl
    · exact present other (rooted base other listed)

theorem keeps_insert {other : String} (apart : other ≠ name) :
    Keeps name definitions (definitions.insert other definition) := by
  constructor
  · rw [get?_insert, if_neg apart]
  · intro base
    exact hasKey_insert definitions other definition base
  · exact Rooted.insert definitions other definition

end Insert

theorem Rooted.isSome_findByBase? {definitions : Definitions} (rooted : definitions.Rooted)
    (base : String) : (definitions.findByBase? base).isSome ↔ definitions.bases.hasKey base = true := by
  unfold findByBase? Entries.hasKey
  cases listed : definitions.bases.get? base with
  | none => simp
  | some name =>
      have found := rooted base name listed
      simpa using found

end Definitions

namespace Resolve

open Definitions (Keeps keeps_insert)

/-! ## Names without a bracket at the end -/

def Unclosed (name : String) : Prop := name.toList.getLast? ≠ some '>'

theorem unclosed_append {suffix : String}
    (unmarked : ∀ char ∈ suffix.toList, NamedType.isMark char = false) (name : String)
    (open_or : suffix = "" → Unclosed name) : Unclosed (name ++ suffix) := by
  by_cases empty : suffix = ""
  · rw [empty, String.append_empty]
    exact open_or empty
  · have solid : suffix.toList ≠ [] := by simpa using empty
    intro closed
    rw [String.toList_append, List.getLast?_append_of_ne_nil _ solid] at closed
    have mark := unmarked '>' (List.mem_of_getLast? closed)
    cases mark

/-- Whether a name is reserved or does not end with a bracket. The names asked for are like that, and
the names under which objects are registered are of the second kind. -/
def Asking (reserved : List String) (name : String) : Prop := name ∈ reserved ∨ Unclosed name

theorem Asking.ownName {reserved : List String} {name : String} (asking : Asking reserved name) :
    Unclosed (ownName reserved name) := by
  unfold Resolve.ownName
  split
  · obtain ⟨number, -, same, -, -⟩ := Names.firstFree_spec reserved name
    rw [same]
    refine unclosed_append (Names.unmarked_number number) name fun empty => ?_
    have digits := congrArg String.toList empty
    simp at digits
  · next free => exact asking.resolve_left (by simpa using free)

theorem Asking.synthesized {reserved : List String} {owner : String} (asking : Asking reserved owner)
    (property : String) : Asking reserved (Names.synthesized owner property) := by
  unfold Names.synthesized
  by_cases empty : Text.pascalCase property = ""
  · rw [empty, String.append_empty]
    exact asking
  · right
    exact unclosed_append (fun _ member => Text.pascalCase_unmarked property member) owner
      fun same => absurd same empty

/-- Visits leave alone what stands under a name with a bracket at the end. -/
theorem Visits.keeps {reserved : List String} {mappings : Entries String}
    {asked : String → Schema → Prop} {first last : State}
    (visits : Visits reserved mappings asked first last) {name : String} (closed : ¬ Unclosed name)
    (asking : ∀ other schema, asked other schema → Asking reserved other) :
    Keeps name first.definitions last.definitions := by
  induction visits with
  | done state => exact .refl name _
  | known _ _ _ ih => exact ih asking
  | @new asked other schema fields state inner last isAsked _ _ _ _ inside later =>
      have own := (asking other schema isAsked).ownName
      have apart : ownName reserved other ≠ name := fun same => closed (same ▸ own)
      have taken : Keeps name state.definitions (state.taken reserved other).definitions :=
        keeps_insert _ name _ apart
      have nested := inside (by
        rintro _ object ⟨entry, -, rfl, -⟩
        exact Asking.synthesized (.inr own) entry.1)
      have put : Keeps name inner.definitions
          (inner.put (ownName reserved other) (.record fields)).definitions :=
        keeps_insert _ name _ apart
      exact taken.trans (nested.trans (put.trans (later asking)))

/-- Bases that are known stay known while objects are visited. -/
theorem Visits.hasKey {reserved : List String} {mappings : Entries String}
    {asked : String → Schema → Prop} {first last : State}
    (visits : Visits reserved mappings asked first last) {base : String}
    (known : first.definitions.bases.hasKey base = true) :
    last.definitions.bases.hasKey base = true := by
  induction visits with
  | done => exact known
  | known _ _ _ ih => exact ih known
  | new _ _ _ _ _ inside later =>
      have taken := inside (Definitions.hasKey_insert _ _ _ base known)
      exact later (Definitions.hasKey_insert _ _ _ base taken)

end Resolve

end ClientGen
