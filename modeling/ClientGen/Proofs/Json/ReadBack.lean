import ClientGen.Json.Decode
import Mathlib.Data.List.Forall2

/-!
Values that can be read again from what they are written as. A record is written member by member,
and is put together again in the same order: a member that is left out must have had the value that
an empty record has there. Values read from null are the only ones that are not read back as parts.
-/

set_option autoImplicit false

namespace ClientGen.Json

variable {Item Value Record : Type}

/-- A value is written as an object, from which it is read again. -/
structure ReadsBack (decode : Json → Decoded Value) (encode : Value → Json) (value : Value) :
    Prop where
  written : ∃ members, encode value = .obj members
  reads : decode (encode value) = .ok value

/-- Whatever is read is read back from what it is written as. -/
def RoundTrips (decode : Json → Decoded Value) (encode : Value → Json) : Prop :=
  ∀ json value, decode json = .ok value → ReadsBack decode encode value

/-! ## Reading the parts of a value -/

/-- Whether a value stands directly inside of another. -/
inductive Inside (part : Json) : Json → Prop where
  | member {name members} : (name, part) ∈ members → Inside part (.obj members)
  | item {items} : part ∈ items → Inside part (.arr items)

theorem Inside.sizeOf_lt {part json : Json} (inside : Inside part json) :
    sizeOf part < sizeOf json := by
  cases inside with
  | member found =>
      have smaller := List.sizeOf_lt_of_mem found
      simp only [Json.obj.sizeOf_spec, Prod.mk.sizeOf_spec] at smaller ⊢
      omega
  | item found =>
      have smaller := List.sizeOf_lt_of_mem found
      simp only [Json.arr.sizeOf_spec]
      omega

theorem exists_of_bind {decoded : Decoded Value} {next : Value → Decoded Record} {record : Record}
    (bound : decoded >>= next = .ok record) :
    ∃ value, decoded = .ok value ∧ next value = .ok record := by
  cases decoded with
  | error error => cases bound
  | ok value => exact ⟨value, rfl, bound⟩

theorem eq_of_build {decoded : Decoded Value} {build : Value → Record} {record : Record}
    (built : (do return build (← decoded) : Decoded Record) = .ok record) :
    ∃ value, decoded = .ok value ∧ record = build value := by
  obtain ⟨value, decoded, built⟩ := exists_of_bind built
  cases built
  exact ⟨value, decoded, rfl⟩

theorem eq_of_builds {decoded : Decoded Value} {build other : Value → Record} {record last : Record}
    (built : (do return build (← decoded) : Decoded Record) = .ok record)
    (again : (do return other (← decoded) : Decoded Record) = .ok last) :
    ∃ value, record = build value ∧ last = other value := by
  obtain ⟨value, found, same⟩ := eq_of_build built
  obtain ⟨sameValue, foundAgain, sameLast⟩ := eq_of_build again
  cases found.symm.trans foundAgain
  exact ⟨value, same, sameLast⟩

theorem eq_of_map {Error Result : Type} {decoded : Except Error Value} {change : Value → Result}
    {result : Result} (mapped : decoded.map change = .ok result) :
    ∃ value, decoded = .ok value ∧ result = change value := by
  cases decoded with
  | error error => cases mapped
  | ok value =>
      cases mapped
      exact ⟨value, rfl, rfl⟩

theorem mapM_eq_ok_iff {decode : Item → Decoded Value} {items : List Item} {values : List Value} :
    items.mapM decode = .ok values ↔
      List.Forall₂ (fun item value => decode item = .ok value) items values := by
  induction items generalizing values with
  | nil =>
      rw [List.mapM_nil, List.forall₂_nil_left_iff]
      constructor
      · intro same
        cases same
        rfl
      · rintro rfl
        rfl
  | cons item rest ih =>
      rw [List.mapM_cons, List.forall₂_cons_left_iff]
      constructor
      · intro all
        obtain ⟨value, first, all⟩ := exists_of_bind all
        obtain ⟨others, later, same⟩ := exists_of_bind all
        cases same
        exact ⟨value, others, first, ih.mp later, rfl⟩
      · rintro ⟨value, others, first, later, rfl⟩
        rw [first, ih.mpr later]
        rfl

theorem exists_item_of_mapM {decode : Item → Decoded Value} {items : List Item}
    {values : List Value} {value : Value} (all : items.mapM decode = .ok values)
    (member : value ∈ values) : ∃ item ∈ items, decode item = .ok value := by
  have related := mapM_eq_ok_iff.mp all
  clear all
  induction related with
  | nil => cases member
  | cons first _ ih =>
      cases member with
      | head => exact ⟨_, .head _, first⟩
      | tail _ later =>
          obtain ⟨item, found, read⟩ := ih later
          exact ⟨item, .tail _ found, read⟩

section Parts

variable {holds : Value → Prop} {decode : Json → Decoded Value} {json : Json}

theorem forall_of_decodeOption {option : Option Value}
    (each : ∀ value, json ≠ .null → decode json = .ok value → holds value)
    (decoded : decodeOption decode json = .ok option) : ∀ value ∈ option, holds value := by
  by_cases null : json = .null
  · subst null
    cases decoded
    simp
  · rw [decodeOption] at decoded
    · obtain ⟨value, read, rfl⟩ := eq_of_map decoded
      rintro _ ⟨⟩
      exact each value null read
    · exact null

theorem forall_of_decodeList {values : List Value}
    (each : ∀ part value, Inside part json → decode part = .ok value → holds value)
    (decoded : decodeList decode json = .ok values) : ∀ value ∈ values, holds value := by
  cases json with
  | arr items =>
      intro value member
      obtain ⟨part, inside, read⟩ := exists_item_of_mapM decoded member
      exact each part value (.item inside) read
  | _ => cases decoded

theorem forall_of_decodeEntries {entries : Entries Value}
    (each : ∀ part value, Inside part json → decode part = .ok value → holds value)
    (decoded : decodeEntries decode json = .ok entries) : ∀ entry ∈ entries, holds entry.2 := by
  cases json with
  | obj members =>
      intro entry member
      obtain ⟨part, inside, mapped⟩ := exists_item_of_mapM decoded member
      obtain ⟨value, read, rfl⟩ := eq_of_map mapped
      exact each part.2 value (.member inside) read
  | _ => cases decoded

end Parts

/-! ## Reading what was written -/

section Written

variable {decode : Json → Decoded Value} {encode : Value → Json}

theorem ReadsBack.option {value : Value} (back : ReadsBack decode encode value) :
    decodeOption decode (encode value) = .ok (some value) := by
  obtain ⟨⟨members, written⟩, reads⟩ := back
  rw [written] at reads ⊢
  rw [decodeOption, reads]
  · rfl
  · simp

theorem decodeList_map {values : List Value}
    (each : ∀ value ∈ values, decode (encode value) = .ok value) :
    decodeList decode (.arr (values.map encode)) = .ok values := by
  rw [decodeList, mapM_eq_ok_iff, List.forall₂_map_left_iff, List.forall₂_same]
  exact each

theorem decodeEntries_map {entries : Entries Value}
    (each : ∀ entry ∈ entries, decode (encode entry.2) = .ok entry.2) :
    decodeEntries decode (encodeEntries encode entries) = .ok entries := by
  rw [encodeEntries, decodeEntries, decodeValues, mapM_eq_ok_iff, List.forall₂_map_left_iff,
    List.forall₂_same]
  intro entry member
  rw [each entry member]
  rfl

end Written

theorem decodeOption_ok {json : Json} (some : json ≠ .null) :
    decodeOption .ok json = .ok (.some json) := by
  cases json with
  | null => exact absurd rfl some
  | _ => rfl

theorem decodeStrings_strings (texts : List String) :
    decodeStrings (.arr (texts.map .str)) = .ok texts :=
  decodeList_map fun _ _ => rfl

/-! ## Records -/

/-- Members are put into a record one after the other. -/
def Puts (put : String → Item → Record → Decoded Record) (before : Record)
    (members : List (String × Item)) (after : Record) : Prop :=
  RecordShape.putAll put before members = .ok after

namespace Puts

variable {put : String → Item → Record → Decoded Record} {before next after : Record}

theorem cons_iff {member : String × Item} {rest : List (String × Item)} :
    Puts put before (member :: rest) after ↔
      ∃ next, put member.1 member.2 before = .ok next ∧ Puts put next rest after := by
  constructor
  · intro puts
    exact exists_of_bind puts
  · rintro ⟨next, first, later⟩
    rw [Puts, RecordShape.putAll, first]
    exact later

theorem nil : Puts put before [] before := rfl

theorem last {members : List (String × Item)} (puts : Puts put before members next)
    (same : next = after) : Puts put before members after := same ▸ puts

theorem append {first second : List (String × Item)} (earlier : Puts put before first next)
    (later : Puts put next second after) : Puts put before (first ++ second) after := by
  induction first generalizing before with
  | nil =>
      cases earlier
      exact later
  | cons member rest ih =>
      obtain ⟨middle, step, earlier⟩ := cons_iff.mp earlier
      exact cons_iff.mpr ⟨middle, step, ih earlier⟩

theorem cons {member : String × Item} {rest : List (String × Item)}
    (first : Puts put before [member] next) (later : Puts put next rest after) :
    Puts put before (member :: rest) after :=
  first.append later

/-- What every put member keeps holds in the end. -/
theorem holds {holds : Record → Prop} {members : List (String × Item)}
    (puts : Puts put before members after)
    (step : ∀ member ∈ members, ∀ before after,
      put member.1 member.2 before = .ok after → holds before → holds after)
    (start : holds before) : holds after := by
  induction members generalizing before with
  | nil =>
      cases puts
      exact start
  | cons member rest ih =>
      obtain ⟨next, first, later⟩ := cons_iff.mp puts
      refine ih later (fun other found => step other (.tail _ found)) ?_
      exact step member (.head _) before next first start

end Puts

namespace Puts

variable {put : String → Json → Record → Decoded Record} {before : Record} {name : String}

/-- A member that is always written. -/
theorem always {decode : Json → Decoded Value} {json : Json} {value : Value}
    (set : Record → Value → Record)
    (puts : ∀ json, put name json before = do return set before (← decode json))
    (reads : decode json = .ok value) : Puts put before [(name, json)] (set before value) := by
  rw [Puts, RecordShape.putAll, puts, reads]
  rfl

/-- A member that is written if it has a value. -/
theorem optional {decode : Json → Decoded (Option Value)} {encode : Value → Json}
    {option : Option Value} (set : Record → Option Value → Record)
    (absent : set before none = before)
    (puts : ∀ json, put name json before = do return set before (← decode json))
    (reads : ∀ value ∈ option, decode (encode value) = .ok (some value)) :
    Puts put before (optionalMember name encode option) (set before option) := by
  cases option with
  | none =>
      rw [absent]
      rfl
  | some value => exact always set puts (reads value rfl)

/-- A list that is written if it is not empty. -/
theorem list {decode : Json → Decoded (List Value)} {encode : Value → Json} {values : List Value}
    (set : Record → List Value → Record) (absent : set before [] = before)
    (puts : ∀ json, put name json before = do return set before (← decode json))
    (reads : decode (.arr (values.map encode)) = .ok values) :
    Puts put before (listMember name encode values) (set before values) := by
  cases values with
  | nil =>
      rw [absent]
      rfl
  | cons first rest => exact always set puts reads

/-- Values under names that are written if there are any. -/
theorem entries {decode : Json → Decoded (Entries Value)} {encode : Value → Json}
    {entries : Entries Value} (set : Record → Entries Value → Record)
    (absent : set before [] = before)
    (puts : ∀ json, put name json before = do return set before (← decode json))
    (reads : decode (encodeEntries encode entries) = .ok entries) :
    Puts put before (entriesMember name encode entries) (set before entries) := by
  cases entries with
  | nil =>
      rw [absent]
      rfl
  | cons first rest => exact always set puts reads

end Puts

namespace RecordShape

variable {shape : RecordShape} {empty record : Record}
variable {put : String → Json → Record → Decoded Record}

/-- What every member keeps holds of a record that is read, from an object or from an array. -/
theorem holds_of_decode {holds : Record → Prop} {json : Json}
    (decoded : shape.decode empty put json = .ok record)
    (step : ∀ name part before after, Inside part json →
      put name part before = .ok after → holds before → holds after)
    (start : holds empty) : holds record := by
  cases json with
  | obj members =>
      obtain ⟨last, puts, complete⟩ := exists_of_bind decoded
      have same : last = record := by
        split at complete
        · cases complete
        · exact Except.ok.inj complete
      subst same
      exact Puts.holds puts (fun member found before after =>
        step member.1 member.2 before after (.member found)) start
  | arr items =>
      obtain ⟨last, puts, complete⟩ := exists_of_bind decoded
      have same : last = record := by
        split at complete
        · cases complete
        · split at complete
          · cases complete
          · exact Except.ok.inj complete
      subst same
      exact Puts.holds puts (fun member found before after =>
        step member.1 member.2 before after (.item (List.of_mem_zip found).2)) start
  | _ => cases decoded

theorem decode_of_puts {members : List (String × Json)}
    (complete : shape.firstMissing (members.map (·.1)) = none)
    (puts : Puts put empty members record) :
    shape.decode empty put (.obj members) = .ok record := by
  rw [Puts] at puts
  simp only [decode, ofMembers, puts, bind, Except.bind, complete]

end RecordShape

end ClientGen.Json
