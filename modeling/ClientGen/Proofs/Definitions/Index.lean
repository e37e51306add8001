import ClientGen.Definitions
import Mathlib.Data.List.Nodup

/-!
The index of definitions by base name. As long as a definition is put under a name that is known or
whose base is not, the index leads from every base to the one definition with it.
-/

set_option autoImplicit false

namespace ClientGen

namespace Entries

variable {Value : Type}

theorem get?_eq_some_iff {entries : Entries Value} (distinct : entries.keys.Nodup) {key : String}
    {value : Value} : entries.get? key = some value ↔ (key, value) ∈ entries := by
  induction entries with
  | nil => simp
  | cons entry rest ih =>
      obtain ⟨first, found⟩ := entry
      simp only [keys, List.map_cons, List.nodup_cons] at distinct
      rw [get?_cons]
      split
      · next same =>
          subst same
          constructor
          · intro equal
            cases equal
            exact .head _
          · intro member
            rcases List.mem_cons.mp member with now | later
            · cases now
              rfl
            · exact absurd (List.mem_map_of_mem (f := (·.1)) later) distinct.1
      · next different =>
          rw [ih distinct.2, List.mem_cons]
          constructor
          · exact .inr
          · rintro (now | later)
            · cases now
              exact absurd rfl different
            · exact later

theorem mem_keys {entries : Entries Value} {key : String} {value : Value}
    (member : (key, value) ∈ entries) : key ∈ entries.keys :=
  List.mem_map_of_mem (f := (·.1)) member

theorem exists_of_mem_keys {entries : Entries Value} {key : String} (member : key ∈ entries.keys) :
    ∃ value, (key, value) ∈ entries := by
  obtain ⟨⟨_, value⟩, inEntries, rfl⟩ := List.mem_map.mp member
  exact ⟨value, inEntries⟩

/-- Whatever the keys are, an entry after an insertion is the new one or an old one. -/
theorem mem_of_mem_insert {key other : String} {value found : Value} {entries : Entries Value}
    (member : (other, found) ∈ insert key value entries) :
    (other = key ∧ found = value) ∨ (other, found) ∈ entries := by
  induction entries with
  | nil =>
      simp only [insert, List.mem_singleton, Prod.mk.injEq] at member
      exact .inl member
  | cons entry rest ih =>
      simp only [insert] at member
      split at member
      · cases member with
        | head => exact .inl ⟨rfl, rfl⟩
        | tail _ later => exact .inr (.tail _ later)
      · cases member with
        | head => exact .inr (.head _)
        | tail _ later => exact (ih later).imp_right (.tail _)

/-- An insertion under a known key replaces the value in its place. -/
theorem insert_of_split {before after : Entries Value} {key : String} {old : Value}
    (fresh : key ∉ before.keys) (value : Value) :
    insert key value (before ++ (key, old) :: after) = before ++ (key, value) :: after := by
  induction before with
  | nil => simp [insert]
  | cons entry before ih =>
      simp only [keys, List.map_cons, List.mem_cons, not_or] at fresh
      have different : entry.1 ≠ key := fun same => fresh.1 same.symm
      simp [insert, different, ih fresh.2]

/-- An insertion under a known key changes places with one under another key. -/
theorem insert_comm {entries : Entries Value} {key other : String}
    (known : key ∈ entries.keys) (apart : other ≠ key) (value added : Value) :
    (entries.insert other added).insert key value =
      (entries.insert key value).insert other added := by
  induction entries with
  | nil => cases known
  | cons entry rest ih =>
      obtain ⟨first, old⟩ := entry
      by_cases here : first = key
      · subst here
        simp [insert, Ne.symm apart]
      · have later : key ∈ keys rest := by
          cases known with
          | head => exact absurd rfl here
          | tail _ inRest => exact inRest
        by_cases there : first = other
        · subst there
          simp [insert, here]
        · simp [insert, here, there, ih later]

theorem insert_insert (entries : Entries Value) (key : String) (old value : Value) :
    (entries.insert key old).insert key value = entries.insert key value := by
  induction entries with
  | nil => simp [insert]
  | cons entry rest ih =>
      by_cases same : entry.1 = key
      · simp [insert, same]
      · simp [insert, same, ih]

end Entries

namespace Definitions

/-- The index leads from the base of every definition to it, and nowhere else. -/
structure Indexed (definitions : Definitions) : Prop where
  distinct : definitions.names.Nodup
  found : ∀ name ∈ definitions.names, definitions.bases.get? (Names.base name) = some name
  known : ∀ base name, definitions.bases.get? base = some name →
    name ∈ definitions.names ∧ Names.base name = base

variable {definitions : Definitions}

theorem names_insert (name : String) (definition : Definition) (definitions : Definitions) :
    (definitions.insert name definition).names =
      if name ∈ definitions.names then definitions.names else definitions.names ++ [name] :=
  Entries.keys_insert name definition definitions.entries

theorem get?_insert (name : String) (definition : Definition) (definitions : Definitions)
    (other : String) : (definitions.insert name definition).get? other =
      if name = other then some definition else definitions.get? other :=
  Entries.get?_insert name definition definitions.entries other

theorem mem_names_insert {name other : String} {definition : Definition} :
    other ∈ (definitions.insert name definition).names ↔ other ∈ definitions.names ∨ other = name := by
  rw [names_insert]
  split
  · next known =>
      constructor
      · exact .inl
      · rintro (old | rfl)
        · exact old
        · exact known
  · rw [List.mem_append, List.mem_singleton]

/-- A base that is in the index stays as it is. -/
theorem bases_insert (name : String) (definition : Definition) (definitions : Definitions)
    (base : String) : (definitions.insert name definition).bases.get? base =
      if definitions.bases.hasKey (Names.base name) = true then definitions.bases.get? base
      else if Names.base name = base then some name else definitions.bases.get? base := by
  simp only [insert]
  split
  · rfl
  · exact Entries.get?_insert _ _ _ _

namespace Indexed

theorem empty : Indexed {} := by
  constructor
  · exact List.nodup_nil
  · intro name member
    simp [names, Entries.keys] at member
  · intro base name found
    simp at found

theorem get?_eq_some_iff (indexed : Indexed definitions) {name : String} {definition : Definition} :
    definitions.get? name = some definition ↔ (name, definition) ∈ definitions.entries :=
  Entries.get?_eq_some_iff indexed.distinct

theorem findByBase?_eq_some_iff (indexed : Indexed definitions) {base name : String}
    {definition : Definition} :
    definitions.findByBase? base = some (name, definition) ↔
      (name, definition) ∈ definitions.entries ∧ Names.base name = base := by
  simp only [findByBase?, Option.bind_eq_some_iff, Option.map_eq_some_iff]
  constructor
  · rintro ⟨other, listed, value, present, equal⟩
    cases equal
    exact ⟨indexed.get?_eq_some_iff.mp present, (indexed.known base name listed).2⟩
  · rintro ⟨member, same⟩
    subst same
    exact ⟨name, indexed.found name (Entries.mem_keys member), definition,
      indexed.get?_eq_some_iff.mpr member, rfl⟩

theorem findByBase?_eq_none_iff (indexed : Indexed definitions) {base : String} :
    definitions.findByBase? base = none ↔ ∀ name ∈ definitions.names, Names.base name ≠ base := by
  constructor
  · intro none name member same
    obtain ⟨definition, inEntries⟩ := Entries.exists_of_mem_keys member
    rw [indexed.findByBase?_eq_some_iff.mpr ⟨inEntries, same⟩] at none
    cases none
  · intro apart
    by_contra some
    obtain ⟨⟨name, definition⟩, found⟩ := Option.ne_none_iff_exists'.mp some
    obtain ⟨member, same⟩ := indexed.findByBase?_eq_some_iff.mp found
    exact apart name (Entries.mem_keys member) same

/-- A definition whose base is not known comes last. -/
theorem entries_insert_new (indexed : Indexed definitions) {name : String}
    (fresh : definitions.findByBase? (Names.base name) = none) (definition : Definition) :
    (definitions.insert name definition).entries = definitions.entries ++ [(name, definition)] :=
  Entries.insert_of_not_mem fun member => indexed.findByBase?_eq_none_iff.mp fresh name member rfl

theorem insert_new (indexed : Indexed definitions) {name : String}
    (fresh : definitions.findByBase? (Names.base name) = none) (definition : Definition) :
    Indexed (definitions.insert name definition) := by
  have apart := indexed.findByBase?_eq_none_iff.mp fresh
  have unknown : name ∉ definitions.names := fun member => apart name member rfl
  have unlisted : definitions.bases.get? (Names.base name) = none := by
    by_contra some
    obtain ⟨other, listed⟩ := Option.ne_none_iff_exists'.mp some
    obtain ⟨member, same⟩ := indexed.known _ other listed
    exact apart other member same
  have names : (definitions.insert name definition).names = definitions.names ++ [name] := by
    rw [names_insert, if_neg unknown]
  have bases (base : String) : (definitions.insert name definition).bases.get? base =
      if Names.base name = base then some name else definitions.bases.get? base := by
    simp [bases_insert, Entries.hasKey, unlisted]
  constructor
  · rw [names]
    exact indexed.distinct.append (List.nodup_singleton _) (by simpa using unknown)
  · intro other member
    rw [bases]
    rw [names, List.mem_append, List.mem_singleton] at member
    rcases member with old | rfl
    · rw [if_neg fun same => apart other old same.symm]
      exact indexed.found other old
    · rw [if_pos rfl]
  · intro base other listed
    rw [bases] at listed
    rw [names]
    split at listed
    · next same =>
        cases listed
        exact ⟨List.mem_append_right _ (.head _), same⟩
    · obtain ⟨member, same⟩ := indexed.known base other listed
      exact ⟨List.mem_append_left _ member, same⟩

/-- A new definition under a known name changes nothing but what stands under it. -/
theorem insert_known (indexed : Indexed definitions) {name : String}
    (known : name ∈ definitions.names) (definition : Definition) :
    Indexed (definitions.insert name definition) := by
  have names : (definitions.insert name definition).names = definitions.names := by
    rw [names_insert, if_pos known]
  have bases : (definitions.insert name definition).bases = definitions.bases := by
    simp [insert, Entries.hasKey, indexed.found name known]
  exact ⟨names ▸ indexed.distinct, by rw [names, bases]; exact indexed.found,
    by rw [names, bases]; exact indexed.known⟩

theorem entries_insert_known (indexed : Indexed definitions) {before after : Entries Definition}
    {name : String} {old : Definition}
    (split : definitions.entries = before ++ (name, old) :: after) (definition : Definition) :
    (definitions.insert name definition).entries = before ++ (name, definition) :: after := by
  have fresh : name ∉ before.keys := by
    intro member
    have distinct := indexed.distinct
    simp only [names, split, Entries.keys, List.map_append, List.map_cons] at distinct
    exact (List.nodup_append.mp distinct).2.2 name member name (.head _) rfl
  change definitions.entries.insert name definition = _
  rw [split, Entries.insert_of_split fresh]

end Indexed

end Definitions

end ClientGen
