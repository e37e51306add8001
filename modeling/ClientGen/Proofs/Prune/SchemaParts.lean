import ClientGen.Proofs.Prune.Tidy
import ClientGen.Proofs.Schema.Readable

/-!
What the malformed parts of a schema cost. A part is a schema inside of another one; it is kept just
if it can be read once it has been pruned itself, and all else stays as it is. An object whose own
keywords are well-typed can be read then, unless its items are a Boolean: pruning passes over that,
and reading refuses it.
-/

set_option autoImplicit false

namespace ClientGen

/-- What stands in a value under keys that are followed one after the other. -/
def Json.At : Json → List String → Json → Prop
  | value, [], part => value = part
  | value, key :: rest, part =>
      ∃ members inner, value = .obj members ∧ (key, inner) ∈ members ∧ inner.At rest part

theorem Json.at_one_iff {value part : Json} {key : String} :
    value.At [key] part ↔ ∃ members, value = .obj members ∧ (key, part) ∈ members := by
  constructor
  · rintro ⟨members, inner, same, member, rfl⟩
    exact ⟨members, same, member⟩
  · rintro ⟨members, same, member⟩
    exact ⟨members, part, same, member, rfl⟩

theorem Json.at_cons_iff {value part : Json} {key : String} {rest : List String} :
    value.At (key :: rest) part ↔ ∃ inner, value.At [key] inner ∧ inner.At rest part := by
  simp only [Json.at_one_iff]
  constructor
  · rintro ⟨members, inner, same, member, inside⟩
    exact ⟨inner, ⟨members, same, member⟩, inside⟩
  · rintro ⟨inner, ⟨members, same, member⟩, inside⟩
    exact ⟨members, inner, same, member, inside⟩

theorem Json.AllMembers.of_at {value part : Json} {key : String}
    {holds : String → Json → Prop} (all : value.AllMembers holds) (here : value.At [key] part) :
    holds key part := by
  obtain ⟨members, rfl, member⟩ := Json.at_one_iff.mp here
  exact all _ member

namespace Prune

open Json (Reads)

/-! ## What is kept -/

section Kept

variable {members : List (String × Json)} {name : String} {value kept : Json}

theorem at_assembled {order : List String} {prune : String → Json → Reported (Option Json)}
    (member : (name, value) ∈ members) (isKept : (prune name value).value = some kept) :
    (assembled order prune members).value.At [name] kept := by
  refine Json.at_one_iff.mpr ⟨_, rfl, ?_⟩
  rw [List.filterMap_map]
  exact List.mem_filterMap.mpr ⟨_, member, by simp [isKept]⟩

theorem at_keepMembers {problem? : String → Json → Option Diagnostic}
    {prune : String → Json → Reported Json} (member : (name, value) ∈ members)
    (clean : problem? name (prune name value).value = none) :
    (keepMembers problem? prune members).value.At [name] (prune name value).value := by
  have pruned : (name, (prune name value).value) ∈
      members.map fun member => (named member.1 (prune member.1 member.2)).value :=
    List.mem_map.mpr ⟨_, member, rfl⟩
  refine Json.at_one_iff.mpr ⟨_, rfl, List.mem_filter.mpr ⟨pruned, ?_⟩⟩
  exact Option.isNone_iff_eq_none.mpr clean

end Kept

/-! ## The parts of a schema -/

section Parts

variable {subject name key : String} {value part kept : Json}

theorem schema_at (here : value.At [name] part)
    (isKept : (schemaMember subject name part).value = some kept) :
    (schema subject value).value.At [name] kept := by
  obtain ⟨members, rfl, member⟩ := Json.at_one_iff.mp here
  rw [schema_obj]
  exact at_assembled member isKept

theorem reads_of_inMember_schema (here : (schema subject value).value.At [name] kept)
    (inside : InMember part name kept) : Reads Schema.decode part := by
  obtain ⟨members, same, member⟩ := Json.at_one_iff.mp here
  have tidy : Tidy (schema subject value).value := tidy_schema
  rw [same] at tidy
  exact (tidy_iff.mp tidy part (.intro member inside)).1

theorem property_kept_iff (here : value.At ["properties", key] part) :
    (schema subject value).value.At ["properties", key]
        (schema (entrySubject (some subject) key) part).value ↔
      Reads Schema.decode (schema (entrySubject (some subject) key) part).value := by
  constructor
  · intro found
    obtain ⟨kept, there, inside⟩ := Json.at_cons_iff.mp found
    obtain ⟨inner, rfl, member⟩ := Json.at_one_iff.mp inside
    exact reads_of_inMember_schema there (.property key inner rfl rfl member)
  · intro reads
    obtain ⟨properties, there, inside⟩ := Json.at_cons_iff.mp here
    obtain ⟨inner, rfl, member⟩ := Json.at_one_iff.mp inside
    refine Json.at_cons_iff.mpr ⟨_, schema_at there (by rw [schemaMember_properties]; rfl), ?_⟩
    exact at_keepMembers member (schemaProblem_eq_none_iff.mpr reads)

theorem schema_ne_bool (noFlag : ∀ flag, part ≠ .bool flag) (flag : Bool) :
    (schema subject part).value ≠ .bool flag := by
  intro same
  cases part with
  | bool other => exact noFlag other rfl
  | _ => cases same

theorem alone_kept_iff (isAlone : IsAlone name) (noFlag : ∀ flag, part ≠ .bool flag)
    (here : value.At [name] part) :
    (schema subject value).value.At [name] (schema subject part).value ↔
      Reads Schema.decode (schema subject part).value := by
  constructor
  · intro found
    exact reads_of_inMember_schema found (.alone isAlone (schema_ne_bool noFlag) rfl)
  · intro reads
    refine schema_at here ?_
    rw [schemaMember_alone subject isAlone noFlag, keepNested, checked,
      problemOf_eq_none_iff.mpr reads]

theorem part_kept_iff {parts : List Json} (here : value.At ["allOf"] (.arr parts)) :
    ∃ left, (schema subject value).value.At ["allOf"] (.arr left) ∧ ∀ part ∈ parts,
      ((schema subject part).value ∈ left ↔ Reads Schema.decode (schema subject part).value) := by
  refine ⟨_, schema_at here (by rw [schemaMember_combined]; rfl), fun part isPart => ?_⟩
  constructor
  · intro isLeft
    obtain ⟨-, clean⟩ := List.mem_filter.mp isLeft
    exact problemOf_eq_none_iff.mp (Option.isNone_iff_eq_none.mp clean)
  · intro reads
    refine List.mem_filter.mpr ⟨List.mem_map_of_mem isPart, ?_⟩
    exact Option.isNone_iff_eq_none.mpr (problemOf_eq_none_iff.mpr reads)

theorem rest_kept (here : value.At [name] part) (plain : ∀ inner, ¬ InMember inner name part) :
    (schema subject value).value.At [name] part := by
  refine schema_at here ?_
  have same : schemaMember subject name part = untouched part :=
    (schemaMember_eq_untouched_iff fun _ _ _ => schema_eq_self_iff).mpr
      fun inner inside => absurd inside (plain inner)
  rw [same]
  rfl

end Parts

/-- What is left of a value that is pruned as a schema. Each schema inside of it is kept just if it
can be read once it is pruned itself, and the members without a schema stay as they are. -/
structure KeepsParts (subject : String) (value kept : Json) : Prop where
  property : ∀ key part, value.At ["properties", key] part →
    (kept.At ["properties", key] (schema (entrySubject (some subject) key) part).value ↔
      Reads Schema.decode (schema (entrySubject (some subject) key) part).value)
  alone : ∀ name, IsAlone name → ∀ part, value.At [name] part → (∀ flag, part ≠ .bool flag) →
    (kept.At [name] (schema subject part).value ↔ Reads Schema.decode (schema subject part).value)
  combined : ∀ parts, value.At ["allOf"] (.arr parts) →
    ∃ left, kept.At ["allOf"] (.arr left) ∧ ∀ part ∈ parts,
      ((schema subject part).value ∈ left ↔ Reads Schema.decode (schema subject part).value)
  rest : ∀ name part, value.At [name] part → (∀ inner, ¬ InMember inner name part) →
    kept.At [name] part

theorem schema_keepsParts (subject : String) (value : Json) :
    KeepsParts subject value (schema subject value).value where
  property _ _ here := property_kept_iff here
  alone _ isAlone _ here noFlag := alone_kept_iff isAlone noFlag here
  combined _ here := part_kept_iff here
  rest _ _ here plain := rest_kept here plain

/-! ## Objects with well-typed keywords -/

/-- What a keyword of a schema must hold, apart from the schemas inside of it. -/
def KeywordTyped (name : String) (value : Json) : Prop :=
  match name with
  | "$ref" => value = .null ∨ ∃ text, value = .str text
  | "format" => value = .null ∨ ∃ text, value = .str text
  | "title" => value = .null ∨ ∃ text, value = .str text
  | "description" => value = .null ∨ ∃ text, value = .str text
  | "type" => value = .null ∨ (∃ word, value = .str word) ∨ ∃ words, value = .strings words
  | "nullable" => value = .null ∨ ∃ flag, value = .bool flag
  | "required" => (∃ flag, value = .bool flag) ∨ ∃ names, value = .strings names
  | "enum" => ∃ items, value = .arr items
  | "allOf" => ∃ parts, value = .arr parts
  | "properties" => ∃ inner, value = .obj inner
  | _ => True

/-- A member in which no schema stands is read unless it is a Boolean in the place of the items. -/
theorem memberReads_plain_iff {name : String} {value : Json} (typed : KeywordTyped name value)
    (noProperties : ∀ inner, (name, value) ≠ ("properties", .obj inner))
    (isFlag : IsAlone name → ∃ flag, value = .bool flag)
    (noParts : ∀ parts, (name, value) ≠ ("allOf", .arr parts)) :
    Schema.MemberReads name value ↔ ∀ flag, (name, value) ≠ ("items", .bool flag) := by
  have text (typed : value = .null ∨ ∃ text, value = .str text) :
      Reads (Json.decodeOption Json.decodeString) value :=
    Json.reads_option_iff.mpr (typed.imp_right Json.reads_string_iff.mpr)
  unfold KeywordTyped at typed
  split at typed
  · exact iff_of_true (text typed) (by simp)
  · exact iff_of_true (text typed) (by simp)
  · exact iff_of_true (text typed) (by simp)
  · exact iff_of_true (text typed) (by simp)
  · have read := Json.reads_option_iff.mpr (typed.imp_right Schema.reads_typeSet_iff.mpr)
    exact iff_of_true read (by simp)
  · have read := Json.reads_option_iff.mpr (typed.imp_right Json.reads_bool_iff.mpr)
    exact iff_of_true read (by simp)
  · exact iff_of_true (Schema.reads_required_iff.mpr typed) (by simp)
  · obtain ⟨items, rfl⟩ := typed
    exact iff_of_true (Json.reads_list_iff.mpr ⟨items, rfl, fun item _ => ⟨item, rfl⟩⟩) (by simp)
  · obtain ⟨parts, rfl⟩ := typed
    exact absurd rfl (noParts parts)
  · obtain ⟨inner, rfl⟩ := typed
    exact absurd rfl (noProperties inner)
  · by_cases isAlone : IsAlone name
    · obtain ⟨flag, rfl⟩ := isFlag isAlone
      rcases isAlone with rfl | rfl
      · refine iff_of_false ?_ fun clean => clean flag rfl
        rintro (null | ⟨schema, decoded⟩)
        · cases null
        · cases decoded
      · exact iff_of_true (.inr (.inl ⟨flag, rfl⟩)) (by simp)
    · obtain ⟨noItems, noAdditional⟩ := not_or.mp isAlone
      refine iff_of_true ?_ (by simp [noItems])
      unfold Schema.MemberReads
      split
      case h_13 => trivial
      all_goals contradiction

theorem memberReads_kept_iff {subject name : String} {value kept : Json}
    (typed : KeywordTyped name value)
    (isKept : (schemaMember subject name value).value = some kept) :
    Schema.MemberReads name kept ↔ ∀ flag, (name, value) ≠ ("items", .bool flag) := by
  cases memberForm name value with
  | properties inner =>
      refine iff_of_true ?_ (by simp)
      rw [schemaMember_properties] at isKept
      cases isKept
      refine Json.reads_entries_iff.mpr ⟨_, rfl, fun member isMember => ?_⟩
      obtain ⟨-, clean⟩ := List.mem_filter.mp isMember
      exact schemaProblem_eq_none_iff.mp (Option.isNone_iff_eq_none.mp clean)
  | alone isAlone noFlag =>
      rw [schemaMember_alone subject isAlone noFlag] at isKept
      obtain ⟨-, clean⟩ := checked_value_eq_some isKept
      have reads : Reads Schema.decode kept := problemOf_eq_none_iff.mp clean
      refine iff_of_true ?_ fun flag same => noFlag flag (congrArg Prod.snd same)
      rcases isAlone with rfl | rfl
      · exact .inr reads
      · exact .inr (.inr reads)
  | combined parts =>
      refine iff_of_true ?_ (by simp)
      rw [schemaMember_combined] at isKept
      cases isKept
      refine Json.reads_list_iff.mpr ⟨_, rfl, fun part isPart => ?_⟩
      obtain ⟨-, clean⟩ := List.mem_filter.mp isPart
      exact problemOf_eq_none_iff.mp (Option.isNone_iff_eq_none.mp clean)
  | plain noProperties isFlag noParts =>
      rw [schemaMember_plain subject noProperties isFlag noParts] at isKept
      cases isKept
      exact memberReads_plain_iff typed noProperties isFlag noParts

def ItemsUnflagged (members : List (String × Json)) : Prop :=
  ∀ flag, ("items", .bool flag) ∉ members

theorem schema_reads_iff {members : List (String × Json)}
    (typed : ∀ member ∈ members, KeywordTyped member.1 member.2) (subject : String) :
    Reads Schema.decode (schema subject (.obj members)).value ↔ ItemsUnflagged members := by
  have reads : Reads Schema.decode (schema subject (.obj members)).value ↔
      (schema subject (.obj members)).value.AllMembers Schema.MemberReads := by
    rw [schema_obj]
    exact Schema.reads_obj_iff
  rw [reads, schema_obj, allMembers_assembled_iff]
  constructor
  · intro all flag isFlag
    have read := all _ isFlag (.bool flag) rfl
    have untouched : (schemaMember subject "items" (.bool flag)).value = some (.bool flag) := rfl
    exact (memberReads_kept_iff (typed _ isFlag) untouched).mp read flag rfl
  · intro clean member isMember kept isKept
    refine (memberReads_kept_iff (typed member isMember) isKept).mpr fun flag same => ?_
    exact clean flag (same ▸ isMember)

/-! ## Definitions -/

/-- The ways to the maps of shared schemas in a document of either dialect. -/
def definitionPaths : List (List String) := [["definitions"], ["components", "schemas"]]

section Definitions

variable {json entries part kept : Json} {name key : String}

theorem document_at (here : json.At [key] part)
    (isKept : (documentMember key part).value = some kept) :
    (document json).value.At [key] kept := by
  obtain ⟨members, rfl, member⟩ := Json.at_one_iff.mp here
  rw [document_eq]
  exact at_assembled member isKept

theorem components_at (here : json.At [key] part)
    (isKept : (componentsMember key part).value = some kept) :
    (components json).value.At [key] kept := by
  obtain ⟨members, rfl, member⟩ := Json.at_one_iff.mp here
  rw [components_eq]
  exact at_assembled member isKept

theorem definitions_at (here : entries.At [name] part)
    (reads : Reads Schema.decode (schema name part).value) :
    (definitions entries).value.At [name] (schema name part).value := by
  obtain ⟨members, rfl, member⟩ := Json.at_one_iff.mp here
  rw [definitions_obj]
  exact at_keepMembers member (schemaProblem_eq_none_iff.mpr reads)

theorem reads_of_definition {path : List String} (isPath : path ∈ definitionPaths)
    (here : (document json).value.At (path ++ [name]) part) : Reads Schema.decode part := by
  have tidy : DocumentTidy (document json).value := settles_document.settled json
  simp only [definitionPaths, List.mem_cons, List.not_mem_nil, or_false] at isPath
  rcases isPath with rfl | rfl
  · obtain ⟨entries, there, entry⟩ := Json.at_cons_iff.mp here
    have schemas : SchemasTidy entries := tidy.of_at there
    exact (schemas.of_at entry).2
  · obtain ⟨parts, there, inside⟩ := Json.at_cons_iff.mp here
    obtain ⟨entries, inside, entry⟩ := Json.at_cons_iff.mp inside
    have components : ComponentsTidy parts := tidy.of_at there
    have schemas : SchemasTidy entries := components.of_at inside
    exact (schemas.of_at entry).2

theorem definition_kept_iff {path : List String} (isPath : path ∈ definitionPaths)
    (here : json.At (path ++ [name]) part) :
    (document json).value.At (path ++ [name]) (schema name part).value ↔
      Reads Schema.decode (schema name part).value := by
  refine ⟨reads_of_definition isPath, fun reads => ?_⟩
  simp only [definitionPaths, List.mem_cons, List.not_mem_nil, or_false] at isPath
  rcases isPath with rfl | rfl
  · obtain ⟨entries, there, entry⟩ := Json.at_cons_iff.mp here
    exact Json.at_cons_iff.mpr ⟨_, document_at there rfl, definitions_at entry reads⟩
  · obtain ⟨parts, there, inside⟩ := Json.at_cons_iff.mp here
    obtain ⟨entries, inside, entry⟩ := Json.at_cons_iff.mp inside
    refine Json.at_cons_iff.mpr ⟨_, document_at there rfl, Json.at_cons_iff.mpr ?_⟩
    exact ⟨_, components_at inside rfl, definitions_at entry reads⟩

end Definitions

/-- An object with well-typed keywords is kept wherever it stands as a schema, unless its items are
a Boolean: under its name in a document, and as a property or as a member of a combination in any
other schema. Of what stands inside of it, it loses the schemas that cannot be read, and those
alone. -/
theorem well_typed_schema_kept_iff {members : List (String × Json)}
    (typed : ∀ member ∈ members, KeywordTyped member.1 member.2) :
    (∀ json name, ∀ path ∈ definitionPaths, json.At (path ++ [name]) (.obj members) →
      ((document json).value.At (path ++ [name]) (schema name (.obj members)).value ↔
        ItemsUnflagged members)) ∧
    (∀ subject owner key, owner.At ["properties", key] (.obj members) →
      ((schema subject owner).value.At ["properties", key]
        (schema (entrySubject (some subject) key) (.obj members)).value ↔
          ItemsUnflagged members)) ∧
    (∀ subject owner parts, owner.At ["allOf"] (.arr parts) → .obj members ∈ parts →
      ∃ left, (schema subject owner).value.At ["allOf"] (.arr left) ∧
        ((schema subject (.obj members)).value ∈ left ↔ ItemsUnflagged members)) ∧
    ∀ subject, KeepsParts subject (.obj members) (schema subject (.obj members)).value := by
  refine ⟨?_, ?_, ?_, fun subject => schema_keepsParts subject _⟩
  · intro json name path isPath here
    exact (definition_kept_iff isPath here).trans (schema_reads_iff typed name)
  · intro subject owner key here
    exact (property_kept_iff here).trans (schema_reads_iff typed _)
  · intro subject owner parts here isPart
    obtain ⟨left, there, each⟩ := @part_kept_iff subject owner parts here
    exact ⟨left, there, (each _ isPart).trans (schema_reads_iff typed subject)⟩

/-- A list is kept although its items are a string and one of its combined schemas is null. -/
theorem well_typed_schema_kept_list :
    let members : List (String × Json) :=
      [("type", .str "array"), ("items", .str "Pet"), ("allOf", .arr [.null, .obj []])]
    let json : Json := .obj [("definitions", .obj [("Pets", .obj members)])]
    (∀ member ∈ members, KeywordTyped member.1 member.2) ∧
      (document json).value.At ["definitions", "Pets"]
        (.obj [("type", .str "array"), ("allOf", .arr [.obj []])]) := by
  intro members json
  have typed : ∀ member ∈ members, KeywordTyped member.1 member.2 := by
    simp [members, KeywordTyped]
  refine ⟨typed, ?_⟩
  have here : json.At ["definitions", "Pets"] (.obj members) := by
    simp [json, Json.At]
  have kept := (well_typed_schema_kept_iff typed).1 json "Pets" ["definitions"] (.head _) here
  exact kept.mpr (by simp [ItemsUnflagged, members])

/-- Items that are a Boolean cost the whole schema. -/
theorem flagged_items_cost_the_schema :
    let members : List (String × Json) := [("type", .str "array"), ("items", .bool true)]
    (∀ member ∈ members, KeywordTyped member.1 member.2) ∧
      document (.obj [("definitions", .obj [("Pets", .obj members)])]) =
        ⟨.obj [("definitions", .obj [])], [⟨.error, "Pets", "malformed schema skipped: " ++
          "invalid type: boolean `true`, expected struct RawSchema"⟩]⟩ := by
  intro members
  exact ⟨by simp [members, KeywordTyped], rfl⟩

end Prune

end ClientGen
