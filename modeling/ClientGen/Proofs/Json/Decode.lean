import ClientGen.Json.Decode
import Mathlib.Data.List.Basic

/-!
Reading succeeds on a whole when it succeeds on every part. A list needs each of its items, an
object under names each of its values, and a record each of its members and no other required one.
-/

set_option autoImplicit false

namespace ClientGen.Json

variable {Item Value Record : Type}

theorem exists_mapM_ok {decode : Item → Decoded Value} {items : List Item}
    (each : ∀ item ∈ items, ∃ value, decode item = .ok value) :
    ∃ values, items.mapM decode = .ok values := by
  induction items with
  | nil => exact ⟨[], rfl⟩
  | cons item rest ih =>
      obtain ⟨value, first⟩ := each item (.head _)
      obtain ⟨values, later⟩ := ih fun other member => each other (.tail _ member)
      exact ⟨value :: values, by simp [List.mapM_cons, first, later, bind, Except.bind, pure,
        Except.pure]⟩

theorem exists_decodeStrings_ok (texts : List String) :
    ∃ values, decodeStrings (.strings texts) = .ok values := by
  refine exists_mapM_ok fun item member => ?_
  obtain ⟨text, -, rfl⟩ := List.mem_map.mp member
  exact ⟨text, rfl⟩

theorem exists_decodeEntries_ok {decode : Json → Decoded Value} {members : List (String × Json)}
    (each : ∀ member ∈ members, ∃ value, decode member.2 = .ok value) :
    ∃ entries, decodeEntries decode (.obj members) = .ok entries := by
  refine exists_mapM_ok fun member inMembers => ?_
  obtain ⟨value, decoded⟩ := each member inMembers
  exact ⟨(member.1, value), by rw [decoded]; rfl⟩

/-- A member of a record is put if its value can be read. -/
theorem exists_build_ok {decoded : Decoded Value} (build : Value → Record)
    (read : ∃ value, decoded = .ok value) :
    ∃ record, (do return build (← decoded) : Decoded Record) = .ok record := by
  obtain ⟨value, rfl⟩ := read
  exact ⟨build value, rfl⟩

namespace RecordShape

theorem exists_putAll_ok {put : String → Item → Record → Decoded Record}
    {members : List (String × Item)}
    (each : ∀ member ∈ members, ∀ record, ∃ next, put member.1 member.2 record = .ok next)
    (record : Record) : ∃ last, putAll put record members = .ok last := by
  induction members generalizing record with
  | nil => exact ⟨record, rfl⟩
  | cons member rest ih =>
      obtain ⟨next, first⟩ := each member (.head _) record
      obtain ⟨last, later⟩ := ih (fun other inRest => each other (.tail _ inRest)) next
      exact ⟨last, by simp [putAll, first, later, bind, Except.bind]⟩

/-- An object is read as a record if each of its members can be put and no required member is left
out. -/
theorem exists_decode_ok {shape : RecordShape} {put : String → Json → Record → Decoded Record}
    {members : List (String × Json)}
    (each : ∀ member ∈ members, ∀ record, ∃ next, put member.1 member.2 record = .ok next)
    (complete : shape.firstMissing (members.map (·.1)) = none) (empty : Record) :
    ∃ record, shape.decode empty put (.obj members) = .ok record := by
  obtain ⟨last, all⟩ := exists_putAll_ok each empty
  exact ⟨last, by simp [decode, ofMembers, all, complete, bind, Except.bind]⟩

end RecordShape

end ClientGen.Json
