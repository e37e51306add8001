import ClientGen.Proofs.Prune.Tidy
import ClientGen.Proofs.Schema.Readable
import Mathlib.Logic.Relation

/-!
Which documents that can be read as they are keep everything when they are pruned. Pruning asks more
than reading in two ways. A member that may be null is read, yet null on its own is refused; and the
maps of the other dialect are tried as well, although nothing reads them.
-/

set_option autoImplicit false

namespace ClientGen.Prune

open Json (Decoded Reads decodeEntries decodeOption decodeList)

theorem allMembers_congr {left right : String → Json → Prop} {value : Json}
    (each : ∀ members, value = .obj members → ∀ name part, (name, part) ∈ members →
      (left name part ↔ right name part)) :
    value.AllMembers left ↔ value.AllMembers right := by
  cases value with
  | obj members => exact forall₂_congr fun member => each members rfl member.1 member.2
  | _ => exact Iff.rfl

theorem entriesRead_of_reads {Value : Type} {decode : Json → Decoded Value} {value : Json}
    (reads : Reads (decodeEntries decode) value) : EntriesRead decode value := by
  obtain ⟨members, rfl, each⟩ := Json.reads_entries_iff.mp reads
  exact each

theorem parametersRead_of_reads {value : Json}
    (reads : Reads (decodeList Parameter.decodeReferable) value) : ParametersRead value := by
  obtain ⟨items, rfl, each⟩ := Json.reads_list_iff.mp reads
  exact each

/-- Null is refused on its own where a record is asked for, but a record may be left out. -/
theorem reads_iff_ne_null {Value : Type} {decode : Json → Decoded Value} {value : Json}
    (reads : Reads (decodeOption decode) value) (refuses : ¬ Reads decode .null) :
    Reads decode value ↔ value ≠ .null := by
  rcases Json.reads_option_iff.mp reads with rfl | reads
  · exact iff_of_false refuses (not_not_intro rfl)
  · exact iff_of_true reads fun null => refuses (null ▸ reads)

/-! ## Schemas -/

/-- Whether null stands as a schema inside of a value, at any depth. -/
def HoldsNull (value : Json) : Prop := Relation.TransGen Nested .null value

theorem not_reads_schema_null : ¬ Reads Schema.decode .null := by
  rintro ⟨schema, decoded⟩
  cases decoded

theorem reads_of_nested {part value : Json} (reads : Reads Schema.decode value)
    (nested : Nested part value) : part = .null ∨ Reads Schema.decode part := by
  cases nested with
  | intro member inside =>
      have here := Schema.reads_obj_iff.mp reads _ member
      cases inside with
      | property key inner named same isEntry =>
          subst named same
          exact .inr (entriesRead_of_reads here _ isEntry)
      | alone isAlone noFlag same =>
          subst same
          rcases isAlone with rfl | rfl
          · exact here
          · rcases here with null | ⟨flag, same⟩ | reads
            · exact .inl null
            · exact absurd same (noFlag flag)
            · exact .inr reads
      | combined parts named same isPart =>
          subst named same
          obtain ⟨_, same, each⟩ := Json.reads_list_iff.mp here
          cases same
          exact .inr (each part isPart)

theorem Tidy.reads_of_inside {part value : Json} (inside : Relation.TransGen Nested part value)
    (tidy : Tidy value) : Reads Schema.decode part := by
  induction inside with
  | single nested => exact (tidy_iff.mp tidy _ nested).1
  | tail _ nested ih => exact ih (tidy_iff.mp tidy _ nested).2

theorem tidy_iff_not_holdsNull {value : Json} (reads : Reads Schema.decode value) :
    Tidy value ↔ ¬ HoldsNull value := by
  constructor
  · exact fun tidy null => not_reads_schema_null (tidy.reads_of_inside null)
  · intro free
    -- A schema that can be read holds schemas that can be read and nulls, and there are no nulls.
    induction value using nested_induction with
    | step value ih =>
        refine tidy_iff.mpr fun part nested => ?_
        rcases reads_of_nested reads nested with rfl | partReads
        · exact absurd (.single nested) free
        · exact ⟨partReads, ih part nested partReads fun null => free (null.tail nested)⟩

def SchemasNullFree : Json → Prop := Json.AllMembers fun _ value => ¬ HoldsNull value

theorem schemasTidy_iff {value : Json} (reads : Reads (decodeEntries Schema.decode) value) :
    SchemasTidy value ↔ SchemasNullFree value := by
  obtain ⟨members, rfl, each⟩ := Json.reads_entries_iff.mp reads
  refine forall₂_congr fun member isMember => (and_iff_left (each member isMember)).trans ?_
  exact tidy_iff_not_holdsNull (each member isMember)

/-! ## Paths -/

theorem not_reads_body_null : ¬ Reads RequestBody.decodeReferable .null := by
  rintro ⟨body, decoded⟩
  cases decoded

def OperationNullFree : Json → Prop :=
  Json.AllMembers fun name value => name = "requestBody" → value ≠ .null

theorem operationTidy_iff {value : Json} (reads : Reads Operation.decode value) :
    OperationTidy value ↔ OperationNullFree value := by
  refine allMembers_congr fun members same name part isMember => ?_
  subst same
  unfold OperationMemberTidy
  split
  · have read := Json.RecordShape.reads_member (fun _ _ => rfl) reads isMember
    exact iff_of_true (parametersRead_of_reads read) (by simp)
  · have read := Json.RecordShape.reads_member (fun _ _ => rfl) reads isMember
    have free := reads_iff_ne_null read not_reads_body_null
    exact free.trans ⟨fun present _ => present, fun present => present rfl⟩
  · have read := Json.RecordShape.reads_member (fun _ _ => rfl) reads isMember
    exact iff_of_true (entriesRead_of_reads read) (by simp)
  · next other _ => exact iff_of_true trivial fun same => absurd same other

def PathItemNullFree : Json → Prop :=
  Json.AllMembers fun name value =>
    ∀ method : Method, name = method.key → value ≠ .null ∧ OperationNullFree value

theorem pathItemTidy_iff {value : Json} (reads : Reads PathItem.decode value) :
    PathItemTidy value ↔ PathItemNullFree value := by
  refine allMembers_congr fun members same name part isMember => ?_
  subst same
  have parameters : name = "parameters" → ParametersRead part := by
    rintro rfl
    exact parametersRead_of_reads (Json.RecordShape.reads_member (fun _ _ => rfl) reads isMember)
  rw [PathMemberTidy, and_iff_right parameters]
  refine forall₂_congr fun method named => ?_
  subst named
  have puts : ∀ part item, PathItem.putMember method.key part item = do
      return item.withOperation method (← decodeOption Operation.decode part) := by
    intro part item
    rw [PathItem.putMember, if_neg (key_ne_parameters method)]
    simp only [find?_key]
  have read := Json.RecordShape.reads_member puts reads isMember
  rw [reads_iff_ne_null read Json.RecordShape.not_reads_null]
  rcases Json.reads_option_iff.mp read with rfl | read
  · simp
  · rw [operationTidy_iff read, and_comm]

def PathsNullFree : Json → Prop := Json.AllMembers fun _ value => PathItemNullFree value

theorem pathsTidy_iff {value : Json} (reads : Reads (decodeEntries PathItem.decode) value) :
    PathsTidy value ↔ PathsNullFree value := by
  obtain ⟨members, rfl, each⟩ := Json.reads_entries_iff.mp reads
  refine forall₂_congr fun member isMember => (and_iff_left (each member isMember)).trans ?_
  exact pathItemTidy_iff (each member isMember)

/-! ## Documents -/

def ComponentsNullFree : Json → Prop :=
  Json.AllMembers fun name value => name = "schemas" → SchemasNullFree value

theorem componentsTidy_iff {value : Json} (reads : Reads (decodeOption Components.decode) value) :
    ComponentsTidy value ↔ ComponentsNullFree value := by
  refine allMembers_congr fun members same name part isMember => ?_
  subst same
  obtain reads : Reads Components.decode (.obj members) := by
    simpa using Json.reads_option_iff.mp reads
  unfold ComponentsMemberTidy
  split
  · have read := Json.RecordShape.reads_member (fun _ _ => rfl) reads isMember
    exact (schemasTidy_iff read).trans ⟨fun free _ => free, fun free => free rfl⟩
  · have read := Json.RecordShape.reads_member (fun _ _ => rfl) reads isMember
    exact iff_of_true (entriesRead_of_reads read) (by simp)
  · have read := Json.RecordShape.reads_member (fun _ _ => rfl) reads isMember
    exact iff_of_true (entriesRead_of_reads read) (by simp)
  · have read := Json.RecordShape.reads_member (fun _ _ => rfl) reads isMember
    exact iff_of_true (entriesRead_of_reads read) (by simp)
  · next other _ _ _ => exact iff_of_true trivial fun same => absurd same other

inductive Dialect where
  | swagger
  | openApi

def Dialect.Reads : Dialect → Json → Prop
  | .swagger => Json.Reads SwaggerDocument.decode
  | .openApi => Json.Reads OpenApiDocument.decode

/-- What pruning asks of a member of a document that can be read. Where the dialect reads the
member, no null may stand as a schema, an operation or a body; in the maps that only the other
dialect reads, every entry has to be one that could be read. -/
def Dialect.MemberUntouched (dialect : Dialect) (name : String) (value : Json) : Prop :=
  match dialect with
  | .swagger =>
      match name with
      | "definitions" => SchemasNullFree value
      | "paths" => PathsNullFree value
      | "components" => ComponentsTidy value
      | _ => True
  | .openApi =>
      match name with
      | "components" => ComponentsNullFree value
      | "paths" => PathsNullFree value
      | "definitions" => SchemasTidy value
      | "parameters" => EntriesRead Parameter.decode value
      | "responses" => EntriesRead Response.decode value
      | _ => True

theorem documentTidy_swagger_iff {json : Json} (reads : Json.Reads SwaggerDocument.decode json) :
    DocumentTidy json ↔ json.AllMembers Dialect.swagger.MemberUntouched := by
  refine allMembers_congr fun members same name part isMember => ?_
  subst same
  unfold DocumentMemberTidy
  split
  · exact schemasTidy_iff (Json.RecordShape.reads_member (fun _ _ => rfl) reads isMember)
  · have read := Json.RecordShape.reads_member (fun _ _ => rfl) reads isMember
    exact iff_of_true (entriesRead_of_reads read) trivial
  · have read := Json.RecordShape.reads_member (fun _ _ => rfl) reads isMember
    exact iff_of_true (entriesRead_of_reads read) trivial
  · exact Iff.rfl
  · exact pathsTidy_iff (Json.RecordShape.reads_member (fun _ _ => rfl) reads isMember)
  · exact iff_of_true trivial (by simp [Dialect.MemberUntouched])

theorem documentTidy_openApi_iff {json : Json} (reads : Json.Reads OpenApiDocument.decode json) :
    DocumentTidy json ↔ json.AllMembers Dialect.openApi.MemberUntouched := by
  refine allMembers_congr fun members same name part isMember => ?_
  subst same
  unfold DocumentMemberTidy
  split
  · exact Iff.rfl
  · exact Iff.rfl
  · exact Iff.rfl
  · exact componentsTidy_iff (Json.RecordShape.reads_member (fun _ _ => rfl) reads isMember)
  · exact pathsTidy_iff (Json.RecordShape.reads_member (fun _ _ => rfl) reads isMember)
  · exact iff_of_true trivial (by simp [Dialect.MemberUntouched])

/-- A document that can be read as it is stays as it is, without a report, just if null stands for
none of its schemas, operations and bodies, and the maps that its dialect does not read hold nothing
that could not be read either. -/
theorem readable_document_untouched_iff {dialect : Dialect} {json : Json}
    (reads : dialect.Reads json) :
    document json = ⟨json, []⟩ ↔ json.AllMembers dialect.MemberUntouched := by
  rw [settles_document.fixed]
  cases dialect with
  | swagger => exact documentTidy_swagger_iff reads
  | openApi => exact documentTidy_openApi_iff reads

/-- A document with a list of strings. -/
theorem readable_document_untouched_list :
    let json : Json := .obj [("swagger", .str "2.0"), ("definitions", .obj [
      ("Names", .obj [("type", .str "array"), ("items", .obj [("type", .str "string")])])])]
    Dialect.swagger.Reads json ∧ document json = ⟨json, []⟩ ∧
      json.AllMembers Dialect.swagger.MemberUntouched := by
  intro json
  have reads : Dialect.swagger.Reads json := ⟨_, rfl⟩
  have same : document json = ⟨json, []⟩ := rfl
  exact ⟨reads, same, (readable_document_untouched_iff reads).mp same⟩

/-- Items that are null are read as none, but pruning takes them out. -/
theorem null_items_pruned :
    let json : Json := .obj [("swagger", .str "2.0"), ("definitions", .obj [
      ("Pets", .obj [("type", .str "array"), ("items", .null)])])]
    Source.version? "swagger" json = some "2.0" ∧ Json.Reads SwaggerDocument.decode json ∧
      document json = ⟨.obj [("swagger", .str "2.0"), ("definitions", .obj [
        ("Pets", .obj [("type", .str "array")])])], [⟨.error, "Pets",
          "malformed `items` skipped: invalid type: null, expected struct RawSchema"⟩]⟩ := by
  intro json
  exact ⟨rfl, ⟨_, rfl⟩, rfl⟩

end ClientGen.Prune
