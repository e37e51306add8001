import ClientGen.Entries
import Mathlib.Data.List.Basic
import Mathlib.Data.List.Induction

/-!
Lists of names without repetitions, and the entries that give each of them the value of a function.
-/

set_option autoImplicit false

namespace ClientGen

theorem eraseDups_concat (names : List String) (name : String) :
    (names ++ [name]).eraseDups =
      if name ∈ names then names.eraseDups else names.eraseDups ++ [name] := by
  rw [List.eraseDups_append]
  split
  · next present => simp [List.removeAll, present]
  · next absent => simp [List.removeAll, absent, List.eraseDups_cons]

theorem nodup_eraseDups (names : List String) : names.eraseDups.Nodup := by
  induction names using List.reverseRecOn with
  | nil => exact List.nodup_nil
  | append_singleton names name ih =>
      rw [eraseDups_concat]
      split
      · exact ih
      · next absent =>
          refine List.nodup_append.mpr ⟨ih, by simp, fun other member new same => ?_⟩
          cases List.mem_singleton.mp same
          rintro rfl
          exact absent (List.mem_eraseDups.mp member)

theorem filter_eraseDups {Item : Type} [BEq Item] [LawfulBEq Item] (keep : Item → Bool)
    (items : List Item) : items.eraseDups.filter keep = (items.filter keep).eraseDups := by
  cases items with
  | nil => rfl
  | cons first rest =>
      rw [List.eraseDups_cons, List.filter_cons, List.filter_cons, filter_eraseDups,
        List.filter_filter]
      split
      · rw [List.eraseDups_cons, List.filter_filter]
        simp only [Bool.and_comm]
      · next dropped =>
          -- The first item does not pass, so it makes no difference that its copies are dropped.
          congr 1
          refine List.filter_congr fun item _ => ?_
          by_cases same : item = first
          · simp [same, dropped]
          · simp [same]
termination_by items.length
decreasing_by exact Nat.lt_succ_of_le (List.length_filter_le _ _)

namespace Entries

variable {Value : Type}

/-- The entries that give some keys the value of a function. -/
def tabulate (value : String → Value) (keys : List String) : Entries Value :=
  keys.map fun key => (key, value key)

theorem get?_tabulate (value : String → Value) (keys : List String) (key : String) :
    (tabulate value keys).get? key = if key ∈ keys then some (value key) else none := by
  induction keys with
  | nil => rfl
  | cons first rest ih =>
      rw [tabulate, List.map_cons, get?_cons]
      by_cases same : first = key
      · subst same
        simp
      · rw [if_neg same, ← tabulate, ih]
        simp [Ne.symm same]

/-- An insertion changes the function at one key. -/
theorem insert_tabulate {value other : String → Value} {keys : List String} {key : String}
    (distinct : keys.Nodup) (elsewhere : ∀ name ∈ keys, name ≠ key → other name = value name) :
    (tabulate value keys).insert key (other key) =
      tabulate other (if key ∈ keys then keys else keys ++ [key]) := by
  induction keys with
  | nil => rfl
  | cons first rest ih =>
      obtain ⟨absent, distinct⟩ := List.nodup_cons.mp distinct
      rw [tabulate, List.map_cons, insert]
      by_cases same : first = key
      · subst same
        have kept : rest.map (fun name => (name, value name)) =
            rest.map fun name => (name, other name) := by
          refine List.map_congr_left fun name member => ?_
          rw [elsewhere name (.tail _ member) fun same => absent (same ▸ member)]
        simp [tabulate, kept]
      · have later := ih distinct fun name member => elsewhere name (.tail _ member)
        rw [if_neg same, ← tabulate, later, ← elsewhere first (.head _) same]
        by_cases member : key ∈ rest <;> simp [tabulate, member, Ne.symm same]

end Entries

end ClientGen
