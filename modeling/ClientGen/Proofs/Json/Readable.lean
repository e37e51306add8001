import ClientGen.Proofs.Json.Decode
import Mathlib.Data.Set.List

/-!
Which values can be read, as conditions on their parts: a list on its items, an object under names
on its values, and a record on its members. What a member of a record needs does not depend on the
members before it.
-/

set_option autoImplicit false

namespace ClientGen.Json

variable {Item Value Record : Type}

/-- Whether a value can be read in some way. -/
def Reads (decode : Json → Decoded Value) (json : Json) : Prop :=
  ∃ value, decode json = .ok value

theorem exists_map_ok_iff {Result : Type} (change : Value → Result) {decoded : Decoded Value} :
    (∃ result, decoded.map change = .ok result) ↔ ∃ value, decoded = .ok value := by
  cases decoded with
  | error error => simp [Except.map]
  | ok value => simp [Except.map]

theorem exists_mapM_ok_iff {decode : Item → Decoded Value} {items : List Item} :
    (∃ values, items.mapM decode = .ok values) ↔
      ∀ item ∈ items, ∃ value, decode item = .ok value := by
  refine ⟨fun all => ?_, exists_mapM_ok⟩
  induction items with
  | nil => simp
  | cons item rest ih =>
      obtain ⟨values, all⟩ := all
      rw [List.mapM_cons] at all
      cases first : decode item with
      | error error =>
          rw [first] at all
          cases all
      | ok value =>
          cases later : rest.mapM decode with
          | error error =>
              rw [first, later] at all
              cases all
          | ok others => exact List.forall_mem_cons.mpr ⟨⟨value, first⟩, ih ⟨others, later⟩⟩

theorem exists_decodeValues_ok_iff {decode : Item → Decoded Value}
    {members : List (String × Item)} : (∃ entries, decodeValues decode members = .ok entries) ↔
      ∀ member ∈ members, ∃ value, decode member.2 = .ok value := by
  rw [decodeValues, exists_mapM_ok_iff]
  exact forall₂_congr fun member _ => exists_map_ok_iff _

theorem reads_option_iff {decode : Json → Decoded Value} {json : Json} :
    Reads (decodeOption decode) json ↔ json = .null ∨ Reads decode json := by
  cases json with
  | null => exact ⟨fun _ => .inl rfl, fun _ => ⟨none, rfl⟩⟩
  | _ => simp [Reads, decodeOption, exists_map_ok_iff]

theorem reads_list_iff {decode : Json → Decoded Value} {json : Json} :
    Reads (decodeList decode) json ↔
      ∃ items, json = .arr items ∧ ∀ item ∈ items, Reads decode item := by
  cases json with
  | arr items => simp [Reads, decodeList, exists_mapM_ok_iff]
  | _ => simp [Reads, decodeList, wrongKind]

theorem reads_entries_iff {decode : Json → Decoded Value} {json : Json} :
    Reads (decodeEntries decode) json ↔
      ∃ members, json = .obj members ∧ ∀ member ∈ members, Reads decode member.2 := by
  cases json with
  | obj members => simp [Reads, decodeEntries, exists_decodeValues_ok_iff]
  | _ => simp [Reads, decodeEntries, wrongKind]

theorem reads_string_iff {json : Json} : Reads decodeString json ↔ ∃ text, json = .str text := by
  cases json with
  | str text => simp [Reads, decodeString]
  | _ => simp [Reads, decodeString, wrongKind]

theorem reads_bool_iff {json : Json} : Reads decodeBool json ↔ ∃ flag, json = .bool flag := by
  cases json with
  | bool flag => simp [Reads, decodeBool]
  | _ => simp [Reads, decodeBool, wrongKind]

theorem reads_strings_iff {json : Json} :
    Reads decodeStrings json ↔ ∃ texts, json = .strings texts := by
  rw [show decodeStrings = decodeList decodeString from rfl, reads_list_iff]
  constructor
  · rintro ⟨items, rfl, each⟩
    have written : items ∈ Set.range (List.map Json.str) := by
      rw [Set.range_list_map]
      intro item member
      obtain ⟨text, same⟩ := reads_string_iff.mp (each item member)
      exact ⟨text, same.symm⟩
    obtain ⟨texts, same⟩ := written
    exact ⟨texts, by rw [strings, same]⟩
  · rintro ⟨texts, rfl⟩
    exact ⟨_, rfl, by simp [reads_string_iff]⟩

/-- A member of a record can be put just if its value can be read. -/
theorem exists_build_ok_iff {decoded : Decoded Value} (build : Value → Record) :
    (∃ record, (do return build (← decoded) : Decoded Record) = .ok record) ↔
      ∃ value, decoded = .ok value := by
  refine ⟨fun built => ?_, exists_build_ok build⟩
  cases decoded with
  | error error =>
      obtain ⟨record, built⟩ := built
      cases built
  | ok value => exact ⟨value, rfl⟩

namespace RecordShape

variable {shape : RecordShape} {empty : Record}

theorem exists_put_ok {put : String → Item → Record → Decoded Record}
    {members : List (String × Item)} {member : String × Item} (isMember : member ∈ members)
    {record : Record} (all : ∃ last, putAll put record members = .ok last) :
    ∃ before next, put member.1 member.2 before = .ok next := by
  induction members generalizing record with
  | nil => cases isMember
  | cons first rest ih =>
      obtain ⟨last, all⟩ := all
      rw [putAll] at all
      cases step : put first.1 first.2 record with
      | error error =>
          rw [step] at all
          cases all
      | ok next =>
          cases isMember with
          | head => exact ⟨record, next, step⟩
          | tail _ later =>
              rw [step] at all
              exact ih later ⟨last, all⟩

/-- What each member needs to be put does not depend on the record here. -/
theorem exists_putAll_ok_iff {put : String → Item → Record → Decoded Record}
    {members : List (String × Item)} {reads : String × Item → Prop}
    (each : ∀ member ∈ members, ∀ record,
      (∃ next, put member.1 member.2 record = .ok next) ↔ reads member) {record : Record} :
    (∃ last, putAll put record members = .ok last) ↔ ∀ member ∈ members, reads member := by
  constructor
  · intro all member isMember
    obtain ⟨before, step⟩ := exists_put_ok isMember all
    exact (each member isMember before).mp step
  · intro all
    exact exists_putAll_ok (fun member isMember record =>
      (each member isMember record).mpr (all member isMember)) record

theorem exists_ofMembers_ok_iff {put : String → Item → Record → Decoded Record}
    {members : List (String × Item)} :
    (∃ record, shape.ofMembers empty put members = .ok record) ↔
      (∃ last, putAll put empty members = .ok last) ∧
        shape.firstMissing (members.map (·.1)) = none := by
  rw [ofMembers]
  cases putAll put empty members with
  | error error => simp [bind, Except.bind]
  | ok record =>
      cases missing : shape.firstMissing (members.map (·.1)) with
      | none => simp [bind, Except.bind]
      | some name => simp [bind, Except.bind]

/-- The value of a member that a record knows can be read, if the record can. -/
theorem reads_member {put : String → Json → Record → Decoded Record} {name : String}
    {decode : Json → Decoded Value} {build : Record → Value → Record}
    (puts : ∀ value record, put name value record = do return build record (← decode value))
    {members : List (String × Json)} (reads : Reads (shape.decode empty put) (.obj members))
    {value : Json} (member : (name, value) ∈ members) : Reads decode value := by
  obtain ⟨before, next, step⟩ := exists_put_ok member (exists_ofMembers_ok_iff.mp reads).1
  rw [puts] at step
  exact (exists_build_ok_iff (build before)).mp ⟨next, step⟩

theorem not_reads_null {put : String → Json → Record → Decoded Record} :
    ¬ Reads (shape.decode empty put) .null := by
  rintro ⟨record, decoded⟩
  cases decoded

end RecordShape

end ClientGen.Json
