import ClientGen.Proofs.Json.Readable
import ClientGen.Schema.Codec

/-!
Which objects can be read as schemas: those whose members each hold what their name asks for. The
members do not depend on each other, and none of them is required.
-/

set_option autoImplicit false

namespace ClientGen.Schema

open Json (Reads Decoded decodeOption decodeString decodeBool decodeEntries decodeList)

theorem value_read (value : Json) : (read value).value = value := by
  cases value <;> rfl

theorem readMembers_eq_map (members : List (String × Json)) :
    readMembers members = members.map fun member => (member.1, read member.2) := by
  induction members with
  | nil => rfl
  | cons member rest ih => rw [readMembers, ih, List.map_cons]

theorem readItems_eq_map (items : List Json) : readItems items = items.map read := by
  induction items with
  | nil => rfl
  | cons item rest ih => rw [readItems, ih, List.map_cons]

theorem exists_entries_ok_iff {value : Json} :
    (∃ entries, (read value).entries = .ok entries) ↔ Reads (decodeEntries decode) value := by
  rw [Json.reads_entries_iff]
  cases value with
  | obj members =>
      simp only [read, Json.exists_decodeValues_ok_iff, readMembers_eq_map, List.forall_mem_map]
      simp [Reads, decode]
  | _ => simp [read, Reading.leaf, Json.wrongKind]

theorem exists_list_ok_iff {value : Json} :
    (∃ schemas, (read value).list = .ok schemas) ↔ Reads (decodeList decode) value := by
  rw [Json.reads_list_iff]
  cases value with
  | arr items =>
      simp only [read, Json.exists_mapM_ok_iff, readItems_eq_map]
      simp [Reads, decode]
  | _ => simp [read, Reading.leaf, Json.wrongKind]

theorem exists_option_ok_iff {Value : Type} {value : Json} {decoded : Decoded Value} :
    (∃ found, (read value).option decoded = .ok found) ↔
      value = .null ∨ ∃ found, decoded = .ok found := by
  rw [Reading.option, value_read]
  cases value with
  | null => simp
  | _ => simp [Json.exists_map_ok_iff]

theorem exists_additional_ok_iff {value : Json} :
    (∃ found, (read value).additional = .ok found) ↔
      (∃ flag, value = .bool flag) ∨ Reads decode value := by
  rw [Reads, decode, Reading.additional, value_read]
  cases value with
  | bool flag => simp
  | _ => cases (read _).schema <;> simp

theorem reads_typeSet_iff {value : Json} : Reads TypeSet.decode value ↔
    (∃ word, value = .str word) ∨ ∃ words, value = .strings words := by
  rw [← Json.reads_strings_iff]
  cases value with
  | str word => exact iff_of_true ⟨.one word, rfl⟩ (.inl ⟨word, rfl⟩)
  | _ =>
      simp only [Reads, TypeSet.decode]
      cases Json.decodeStrings _ <;> simp

theorem reads_required_iff {value : Json} : Reads Required.decode value ↔
    (∃ flag, value = .bool flag) ∨ ∃ names, value = .strings names := by
  rw [← Json.reads_strings_iff]
  cases value with
  | bool flag => exact iff_of_true ⟨.flag flag, rfl⟩ (.inl ⟨flag, rfl⟩)
  | _ =>
      simp only [Reads, Required.decode]
      cases Json.decodeStrings _ <;> simp

/-- What the value under a name must be for an object to be read as a schema with it. -/
def MemberReads (name : String) (value : Json) : Prop :=
  match name with
  | "$ref" => Reads (decodeOption decodeString) value
  | "type" => Reads (decodeOption TypeSet.decode) value
  | "format" => Reads (decodeOption decodeString) value
  | "title" => Reads (decodeOption decodeString) value
  | "description" => Reads (decodeOption decodeString) value
  | "nullable" => Reads (decodeOption decodeBool) value
  | "properties" => Reads (decodeEntries decode) value
  | "required" => Reads Required.decode value
  | "additionalProperties" => value = .null ∨ (∃ flag, value = .bool flag) ∨ Reads decode value
  | "items" => value = .null ∨ Reads decode value
  | "allOf" => Reads (decodeList decode) value
  | "enum" => Reads (decodeList .ok) value
  | _ => True

theorem reads_any (value : Json) : Reads (decodeOption .ok) value := by
  cases value <;> exact ⟨_, rfl⟩

theorem exists_put_ok_iff {name : String} {value : Json} {schema : Schema} :
    (∃ next, put name (read value) schema = .ok next) ↔ MemberReads name value := by
  unfold put
  split
  case h_6 =>
    rw [Json.exists_build_ok_iff, value_read]
    exact iff_true_intro (reads_any value)
  case h_8 => exact (Json.exists_build_ok_iff _).trans exists_entries_ok_iff
  case h_10 =>
    rw [Json.exists_build_ok_iff, exists_option_ok_iff, exists_additional_ok_iff]
    rfl
  case h_11 => exact (Json.exists_build_ok_iff _).trans exists_option_ok_iff
  case h_12 => exact (Json.exists_build_ok_iff _).trans exists_list_ok_iff
  case h_14 =>
    refine iff_of_true ⟨schema, rfl⟩ ?_
    unfold MemberReads
    split
    case h_13 => trivial
    all_goals contradiction
  all_goals
    rw [Json.exists_build_ok_iff, value_read]
    rfl

theorem firstMissing_shape (names : List String) : shape.firstMissing names = none := rfl

/-- An object is read as a schema just if each of its members is as its name asks. -/
theorem reads_obj_iff {members : List (String × Json)} :
    Reads decode (.obj members) ↔ ∀ member ∈ members, MemberReads member.1 member.2 := by
  have each : ∀ member ∈ members.map fun member => (member.1, read member.2), ∀ schema,
      (∃ next, put member.1 member.2 schema = .ok next) ↔
        MemberReads member.1 member.2.value := by
    intro member isMember schema
    obtain ⟨written, -, rfl⟩ := List.mem_map.mp isMember
    rw [value_read]
    exact exists_put_ok_iff
  rw [Reads, decode, read, Json.RecordShape.exists_ofMembers_ok_iff, readMembers_eq_map,
    firstMissing_shape, eq_self, and_true, Json.RecordShape.exists_putAll_ok_iff each,
    List.forall_mem_map]
  exact forall₂_congr fun member _ => by rw [value_read]

end ClientGen.Schema
