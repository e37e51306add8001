/-!
Key-value lists in insertion order. A key stands at the place where it was first inserted; a later
insertion under the same key replaces the value there. The laws at the end describe the keys and the
look-ups after an insertion, and later proofs need no more than these.
-/

set_option autoImplicit false

namespace ClientGen

abbrev Entries (Value : Type) := List (String × Value)

namespace Entries

variable {Value : Type}

def get? (key : String) : Entries Value → Option Value
  | [] => none
  | (other, value) :: rest => if other = key then some value else get? key rest

def hasKey (key : String) (entries : Entries Value) : Bool := (entries.get? key).isSome

/-- Puts a value under a key: in the place of the old value, else at the end. -/
def insert (key : String) (value : Value) : Entries Value → Entries Value
  | [] => [(key, value)]
  | (other, old) :: rest =>
      if other = key then (key, value) :: rest else (other, old) :: insert key value rest

def keys (entries : Entries Value) : List String := entries.map (·.1)

def values (entries : Entries Value) : List Value := entries.map (·.2)

/-- The entries of a list that may repeat keys; the last value of a key wins, in the place of the
first. -/
def ofList (pairs : List (String × Value)) : Entries Value :=
  pairs.foldl (fun entries pair => entries.insert pair.1 pair.2) []

@[simp] theorem get?_nil (key : String) : get? key ([] : Entries Value) = none := rfl

theorem get?_cons (key other : String) (value : Value) (rest : Entries Value) :
    get? key ((other, value) :: rest) = if other = key then some value else get? key rest := rfl

theorem get?_append (key : String) (first second : Entries Value) :
    (first ++ second).get? key = (first.get? key).or (second.get? key) := by
  induction first with
  | nil => rfl
  | cons entry rest ih =>
      rw [List.cons_append, get?_cons, get?_cons, ih]
      split <;> rfl

theorem get?_insert (key : String) (value : Value) (entries : Entries Value) (other : String) :
    get? other (insert key value entries) =
      if key = other then some value else get? other entries := by
  induction entries with
  | nil => simp [insert, get?]
  | cons entry rest ih =>
      obtain ⟨first, old⟩ := entry
      by_cases same : first = key
      · subst same
        by_cases equal : first = other <;> simp [insert, get?, equal]
      · by_cases equal : first = other
        · subst equal
          have different : key ≠ first := fun h => same h.symm
          simp [insert, get?, same, different]
        · simp [insert, get?, same, equal, ih]

theorem get?_eq_none_iff (key : String) (entries : Entries Value) :
    get? key entries = none ↔ key ∉ keys entries := by
  induction entries with
  | nil => simp [keys]
  | cons entry rest ih =>
      obtain ⟨first, old⟩ := entry
      by_cases same : first = key
      · simp [get?, keys, same]
      · have different : key ≠ first := fun h => same h.symm
        simp only [keys] at ih
        simp [get?, keys, same, different, ih]

theorem keys_insert (key : String) (value : Value) (entries : Entries Value) :
    keys (insert key value entries) =
      if key ∈ keys entries then keys entries else keys entries ++ [key] := by
  induction entries with
  | nil => simp [insert, keys]
  | cons entry rest ih =>
      obtain ⟨first, old⟩ := entry
      simp only [keys] at ih
      by_cases same : first = key
      · simp [insert, keys, same]
      · have different : key ≠ first := fun h => same h.symm
        by_cases present : key ∈ rest.map (·.1)
        · simp only [present, if_true] at ih
          have inCons : key ∈ List.map (·.1) ((first, old) :: rest) := by simp [present]
          simp only [insert, same, if_false, keys, inCons, if_true]
          simp [ih]
        · simp only [present, if_false] at ih
          have notInCons : key ∉ List.map (·.1) ((first, old) :: rest) := by
            simp only [List.map_cons, List.mem_cons, not_or]
            exact ⟨different, present⟩
          simp only [insert, same, if_false, keys, notInCons]
          simp [ih]

theorem mem_keys_insert (key : String) (value : Value) (entries : Entries Value) :
    key ∈ keys (insert key value entries) := by
  rw [keys_insert]
  split
  · assumption
  · exact List.mem_append_right _ (.head _)

theorem insert_of_not_mem {key : String} {value : Value} {entries : Entries Value}
    (fresh : key ∉ keys entries) : insert key value entries = entries ++ [(key, value)] := by
  induction entries with
  | nil => rfl
  | cons entry rest ih =>
      simp only [keys, List.map_cons, List.mem_cons, not_or] at fresh
      have different : entry.1 ≠ key := fun same => fresh.1 same.symm
      simp [insert, different, ih fresh.2]

/-- After an insertion the key has the new value only, where keys are distinct. -/
theorem mem_insert {key other : String} {value found : Value} {entries : Entries Value}
    (distinct : entries.keys.Nodup) (member : (other, found) ∈ insert key value entries) :
    (other = key ∧ found = value) ∨ (other ≠ key ∧ (other, found) ∈ entries) := by
  induction entries with
  | nil =>
      simp only [insert, List.mem_singleton, Prod.mk.injEq] at member
      exact .inl member
  | cons entry rest ih =>
      obtain ⟨first, old⟩ := entry
      simp only [keys, List.map_cons, List.nodup_cons] at distinct
      simp only [insert] at member
      split at member
      · next same =>
          subst same
          rcases List.mem_cons.mp member with now | inRest
          · exact .inl (by simpa using now)
          · refine .inr ⟨fun repeated => distinct.1 ?_, .tail _ inRest⟩
            exact repeated ▸ List.mem_map_of_mem inRest
      · next different =>
          rcases List.mem_cons.mp member with now | inRest
          · simp only [Prod.mk.injEq] at now
            exact .inr ⟨fun same => different (now.1 ▸ same), by simp [now]⟩
          · rcases ih distinct.2 inRest with changed | ⟨elsewhere, inOld⟩
            · exact .inl changed
            · exact .inr ⟨elsewhere, .tail _ inOld⟩

/-- Insertions under fresh and distinct keys put the entries at the end, in order. -/
theorem foldl_insert {entries added : Entries Value}
    (distinct : (entries.keys ++ added.keys).Nodup) :
    added.foldl (fun found entry => insert entry.1 entry.2 found) entries = entries ++ added := by
  induction added generalizing entries with
  | nil => simp
  | cons entry rest ih =>
      have fresh : entry.1 ∉ entries.keys := by
        intro known
        exact (List.nodup_append.mp distinct).2.2 _ known _ (.head _) rfl
      rw [List.foldl_cons, insert_of_not_mem fresh, ih]
      · simp
      · simpa [keys] using distinct

end Entries

end ClientGen
