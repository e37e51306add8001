import ClientGen.Dialect
import ClientGen.Proofs.Json.Decode

/-!
A malformed entry never fails a document. Whatever stands in the maps of a document is read after it
has been pruned: each map keeps just the entries that can be read on their own, after everything
inside of them has been pruned, so that the map can be read as a whole.
-/

set_option autoImplicit false

namespace ClientGen.Prune

open Json (Decoded decodeEntries)

/-! ## Pruned maps -/

theorem problemOf_eq_none {Value : Type} {subject message : String} {decoded : Decoded Value} :
    problemOf subject message decoded = none ↔ ∃ value, decoded = .ok value := by
  cases decoded <;> simp [problemOf]

/-- The entries that are kept because they can be read are read as a map. -/
theorem exists_retain_ok {Value : Type} {decode : Json → Decoded Value}
    (subject message : String × Json → String) (members : List (String × Json)) :
    ∃ entries, decodeEntries decode (.obj (retain (fun member =>
      problemOf (subject member) (message member) (decode member.2)) members).value) =
        .ok entries := by
  refine Json.exists_decodeEntries_ok fun member kept => ?_
  obtain ⟨-, clean⟩ := List.mem_filter.mp kept
  exact problemOf_eq_none.mp (Option.isNone_iff_eq_none.mp clean)

theorem exists_definitions_ok (members : List (String × Json)) :
    ∃ entries, decodeEntries Schema.decode (definitions (.obj members)).value = .ok entries :=
  exists_retain_ok (fun entry => entrySubject none entry.1) (fun _ => "malformed schema") _

theorem exists_shared_ok {Value : Type} (kind : String) (decode : Json → Decoded Value)
    (members : List (String × Json)) :
    ∃ entries, decodeEntries decode (shared kind decode (.obj members)).value = .ok entries :=
  exists_retain_ok (·.1) (fun _ => "malformed " ++ kind) _

theorem exists_paths_ok (members : List (String × Json)) :
    ∃ entries, decodeEntries PathItem.decode (paths (.obj members)).value = .ok entries :=
  exists_retain_ok (·.1) (fun _ => "malformed path") _

/-! ## Pruned records -/

/-- A record of maps keeps all of its members. -/
theorem assemble_value (order : List String) {prune : String → Json → Reported (Option Json)}
    (stays : ∀ name value, (prune name value).value.isSome) (members : List (String × Json)) :
    (assemble order (members.map fun member => (member.1, prune member.1 member.2))).value =
      .obj (members.map fun member =>
        (member.1, (prune member.1 member.2).value.getD .null)) := by
  simp only [assemble]
  induction members with
  | nil => rfl
  | cons member rest ih =>
      obtain ⟨value, kept⟩ := Option.isSome_iff_exists.mp (stays member.1 member.2)
      simp only [Json.obj.injEq] at ih
      simp [kept, ih]

theorem componentsMember_isSome (name : String) (value : Json) :
    (componentsMember name value).value.isSome := by
  unfold componentsMember
  split <;> rfl

theorem documentMember_isSome (name : String) (value : Json) :
    (documentMember name value).value.isSome := by
  unfold documentMember
  split <;> rfl

end ClientGen.Prune

namespace ClientGen

open Json (Decoded decodeEntries)

/-- A value that holds others under names. -/
def Json.IsMap (value : Json) : Prop := ∃ members, value = .obj members

/-- The components are null or keep their values in maps. -/
def Components.WellShaped (value : Json) : Prop :=
  value = .null ∨ ∃ members, value = .obj members ∧
    ∀ name ∈ ["schemas", "parameters", "requestBodies", "responses"], ∀ part,
      (name, part) ∈ members → part.IsMap

/-- The members of a document have the right shape on the outside. Nothing is said of what its maps
hold. -/
structure Source.WellShaped (members : List (String × Json)) : Prop where
  maps : ∀ name ∈ ["definitions", "parameters", "responses", "paths"], ∀ value,
    (name, value) ∈ members → value.IsMap
  components : ∀ value, ("components", value) ∈ members → Components.WellShaped value
  info : ∀ value, ("info", value) ∈ members → ∃ info, Info.decode value = .ok info
  basePath : ∀ value, ("basePath", value) ∈ members →
    value = .null ∨ ∃ text, value = .str text
  media : ∀ name ∈ ["consumes", "produces"], ∀ value, (name, value) ∈ members →
    ∃ texts, value = .strings texts

theorem Components.exists_put_ok {members : List (String × Json)} {name : String} {part : Json}
    (maps : ∀ name ∈ ["schemas", "parameters", "requestBodies", "responses"], ∀ part,
      (name, part) ∈ members → part.IsMap)
    (member : (name, part) ∈ members) (components : Components) :
    ∃ next, put name ((Prune.componentsMember name part).value.getD .null) components =
      .ok next := by
  unfold put
  split
  · obtain ⟨inner, rfl⟩ := maps "schemas" (by simp) part member
    exact Json.exists_build_ok _ (Prune.exists_definitions_ok inner)
  · obtain ⟨inner, rfl⟩ := maps "parameters" (by simp) part member
    exact Json.exists_build_ok _ (Prune.exists_shared_ok _ _ inner)
  · obtain ⟨inner, rfl⟩ := maps "requestBodies" (by simp) part member
    exact Json.exists_build_ok _ (Prune.exists_shared_ok _ _ inner)
  · obtain ⟨inner, rfl⟩ := maps "responses" (by simp) part member
    exact Json.exists_build_ok _ (Prune.exists_shared_ok _ _ inner)
  · exact ⟨components, rfl⟩

theorem Components.exists_decode_ok {value : Json} (shaped : Components.WellShaped value) :
    ∃ components, Json.decodeOption Components.decode (Prune.components value).value =
      .ok components := by
  rcases shaped with rfl | ⟨members, rfl, maps⟩
  · exact ⟨none, rfl⟩
  · obtain ⟨components, decoded⟩ : ∃ components,
        Components.decode (Prune.components (.obj members)).value = .ok components := by
      rw [Prune.components, Prune.assemble_value _ Prune.componentsMember_isSome]
      refine Json.RecordShape.exists_decode_ok (fun member pruned record => ?_) (by rfl) _
      obtain ⟨⟨name, part⟩, inMembers, rfl⟩ := List.mem_map.mp pruned
      exact exists_put_ok maps inMembers record
    -- Pruned components are an object again, so they are not taken for null.
    refine ⟨some components, ?_⟩
    change (Components.decode (Prune.components (.obj members)).value).map some = _
    rw [decoded]
    rfl

namespace Source

variable {members : List (String × Json)} {name : String} {value : Json}

private theorem exists_basePath_ok (shaped : value = .null ∨ ∃ text, value = .str text) :
    ∃ path, Json.decodeOption Json.decodeString value = .ok path := by
  rcases shaped with rfl | ⟨text, rfl⟩
  · exact ⟨none, rfl⟩
  · exact ⟨some text, rfl⟩

theorem exists_put_swagger_ok (shaped : WellShaped members)
    (version : ∀ value, ("swagger", value) ∈ members → ∃ text, value = .str text)
    (member : (name, value) ∈ members) (document : SwaggerDocument) :
    ∃ next, SwaggerDocument.put name ((Prune.documentMember name value).value.getD .null)
      document = .ok next := by
  unfold SwaggerDocument.put
  split
  · obtain ⟨text, rfl⟩ := version value member
    exact Json.exists_build_ok _ ⟨text, rfl⟩
  · exact Json.exists_build_ok _ (shaped.info value member)
  · exact Json.exists_build_ok _ (exists_basePath_ok (shaped.basePath value member))
  · obtain ⟨inner, rfl⟩ := shaped.maps "paths" (by simp) value member
    exact Json.exists_build_ok _ (Prune.exists_paths_ok inner)
  · obtain ⟨inner, rfl⟩ := shaped.maps "definitions" (by simp) value member
    exact Json.exists_build_ok _ (Prune.exists_definitions_ok inner)
  · obtain ⟨inner, rfl⟩ := shaped.maps "parameters" (by simp) value member
    exact Json.exists_build_ok _ (Prune.exists_shared_ok _ _ inner)
  · obtain ⟨inner, rfl⟩ := shaped.maps "responses" (by simp) value member
    exact Json.exists_build_ok _ (Prune.exists_shared_ok _ _ inner)
  · obtain ⟨texts, rfl⟩ := shaped.media "consumes" (by simp) value member
    exact Json.exists_build_ok _ (Json.exists_decodeStrings_ok texts)
  · obtain ⟨texts, rfl⟩ := shaped.media "produces" (by simp) value member
    exact Json.exists_build_ok _ (Json.exists_decodeStrings_ok texts)
  · exact ⟨document, rfl⟩

theorem exists_put_openApi_ok (shaped : WellShaped members)
    (version : ∀ value, ("openapi", value) ∈ members → ∃ text, value = .str text)
    (member : (name, value) ∈ members) (document : OpenApiDocument) :
    ∃ next, OpenApiDocument.put name ((Prune.documentMember name value).value.getD .null)
      document = .ok next := by
  unfold OpenApiDocument.put
  split
  · obtain ⟨text, rfl⟩ := version value member
    exact Json.exists_build_ok _ ⟨text, rfl⟩
  · exact Json.exists_build_ok _ (shaped.info value member)
  · obtain ⟨inner, rfl⟩ := shaped.maps "paths" (by simp) value member
    exact Json.exists_build_ok _ (Prune.exists_paths_ok inner)
  · exact Json.exists_build_ok _ (Components.exists_decode_ok (shaped.components value member))
  · exact ⟨document, rfl⟩

/-- The version member does not matter for the shape. -/
theorem WellShaped.insert {key : String} (shaped : WellShaped members)
    (distinct : (Entries.keys members).Nodup) (isVersion : key ∈ ["swagger", "openapi"])
    (version : String) : WellShaped (Entries.insert key (.str version) members) := by
  have old : ∀ name value, name ∉ ["swagger", "openapi"] →
      (name, value) ∈ Entries.insert key (.str version) members → (name, value) ∈ members := by
    intro name value other member
    rcases Entries.mem_insert distinct member with ⟨same, -⟩ | ⟨-, inMembers⟩
    · exact absurd (same ▸ isVersion) other
    · exact inMembers
  constructor
  case maps =>
    intro name listed value member
    refine shaped.maps name listed value (old name value (fun version => ?_) member)
    simp only [List.mem_cons, List.not_mem_nil, or_false] at listed version
    rcases version with rfl | rfl <;> simp at listed
  case components => exact fun value member => shaped.components value (old _ _ (by simp) member)
  case info => exact fun value member => shaped.info value (old _ _ (by simp) member)
  case basePath => exact fun value member => shaped.basePath value (old _ _ (by simp) member)
  case media =>
    intro name listed value member
    refine shaped.media name listed value (old name value (fun version => ?_) member)
    simp only [List.mem_cons, List.not_mem_nil, or_false] at listed version
    rcases version with rfl | rfl <;> simp at listed

/-- A document is read if each of its members can be put after it was pruned. -/
theorem exists_decodeAs_ok {Record : Type} {shape : Json.RecordShape} {empty : Record}
    {put : String → Json → Record → Decoded Record} {key version start : String}
    (understood : Text.startsWith version start = true)
    (complete : ∀ names : List String, key ∈ names → shape.firstMissing names = none)
    (each : ∀ name value, (name, value) ∈ Entries.insert key (.str version) members → ∀ record,
      ∃ next, put name ((Prune.documentMember name value).value.getD .null) record = .ok next) :
    ∃ reported, decodeAs key version start (shape.decode empty put) (.obj members) =
      .ok reported := by
  obtain ⟨record, decoded⟩ : ∃ record, shape.decode empty put
      (Prune.document (withVersion key version (.obj members))).value = .ok record := by
    rw [withVersion, Prune.document, Prune.assemble_value _ Prune.documentMember_isSome]
    refine Json.RecordShape.exists_decode_ok (fun member pruned record => ?_) ?_ _
    · obtain ⟨⟨name, value⟩, inMembers, rfl⟩ := List.mem_map.mp pruned
      exact each name value inMembers record
    · have present := Entries.mem_keys_insert key (.str version : Json) members
      rw [List.map_map]
      exact complete (Entries.keys (Entries.insert key (.str version) members)) present
  exact ⟨_, by rw [decodeAs, if_pos understood]; simp only [decoded]; rfl⟩

private theorem version_is_text {key version : String} (distinct : (Entries.keys members).Nodup)
    (member : (key, value) ∈ Entries.insert key (.str version) members) :
    ∃ text, value = .str text := by
  rcases Entries.mem_insert distinct member with ⟨-, same⟩ | ⟨different, -⟩
  · exact ⟨version, same⟩
  · exact absurd rfl different

theorem exists_swagger_ok (distinct : (Entries.keys members).Nodup) (shaped : WellShaped members)
    {version : String} (understood : Text.startsWith version "2." = true) :
    ∃ reported, decodeAs "swagger" version "2." SwaggerDocument.decode (.obj members) =
      .ok reported := by
  have shape := shaped.insert distinct (.head _) version
  refine exists_decodeAs_ok understood (fun names present => ?_) fun name value member record => ?_
  · simp [Json.RecordShape.firstMissing, SwaggerDocument.shape, present]
  · exact exists_put_swagger_ok shape (fun _ => version_is_text distinct) member record

theorem exists_openApi_ok (distinct : (Entries.keys members).Nodup) (shaped : WellShaped members)
    {version : String} (understood : Text.startsWith version "3." = true) :
    ∃ reported, decodeAs "openapi" version "3." OpenApiDocument.decode (.obj members) =
      .ok reported := by
  have shape := shaped.insert distinct (.tail _ (.head _)) version
  refine exists_decodeAs_ok understood (fun names present => ?_) fun name value member record => ?_
  · simp [Json.RecordShape.firstMissing, OpenApiDocument.shape, present]
  · exact exists_put_openApi_ok shape (fun _ => version_is_text distinct) member record

/-- A document whose members have the right shape on the outside is read in the dialect of its
version member, whatever its maps hold. -/
theorem malformed_entries_never_fail (distinct : (Entries.keys members).Nodup)
    (shaped : WellShaped members) :
    (∀ version, version? "swagger" (.obj members) = some version →
      Text.startsWith version "2." = true →
      ∃ document diagnostics, detect (.obj members) = .ok ⟨.swagger document, diagnostics⟩) ∧
    (version? "swagger" (.obj members) = none →
      ∀ version, version? "openapi" (.obj members) = some version →
      Text.startsWith version "3." = true →
      ∃ document diagnostics, detect (.obj members) = .ok ⟨.openApi document, diagnostics⟩) := by
  constructor
  · intro version found understood
    obtain ⟨reported, read⟩ := exists_swagger_ok distinct shaped understood
    exact ⟨reported.value, reported.diagnostics, by simp only [detect, found, read]; rfl⟩
  · intro other version found understood
    obtain ⟨reported, read⟩ := exists_openApi_ok distinct shaped understood
    exact ⟨reported.value, reported.diagnostics, by simp only [detect, other, found, read]; rfl⟩

/-- A document is read although one of its schemas and one of its paths are strings. -/
theorem malformed_entries_never_fail_strings :
    let members := [("swagger", .str "2.0"), ("definitions", .obj [("Pet", .str "cat")]),
      ("paths", .obj [("/pets", .str "all"), ("/users", .obj [])])]
    (Entries.keys members).Nodup ∧ WellShaped members ∧
      version? "swagger" (.obj members) = some "2.0" ∧ Text.startsWith "2.0" "2." = true ∧
      ∃ document diagnostics, detect (.obj members) = .ok ⟨.swagger document, diagnostics⟩ := by
  intro members
  have distinct : (Entries.keys members).Nodup := by decide
  have shaped : WellShaped members := by
    constructor <;> simp [members, Json.IsMap]
  refine ⟨distinct, shaped, rfl, by decide, ?_⟩
  exact (malformed_entries_never_fail distinct shaped).1 "2.0" rfl (by decide)

end Source

end ClientGen
