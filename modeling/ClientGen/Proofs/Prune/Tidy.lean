import ClientGen.Proofs.Prune.Nested

/-!
Tidy values: those in which every part that pruning tries can be read. Pruning leaves exactly the
tidy values alone, and it leads to one of them. Each part of a document has a predicate of its own.
-/

set_option autoImplicit false

namespace ClientGen.Prune

open Json (Decoded Reads)

/-! ## Schemas -/

/-- Whether all that stands as a schema inside of a value, at any depth, can be read. -/
inductive Tidy : Json → Prop where
  | intro {value} : (∀ part, Nested part value → Reads Schema.decode part) →
      (∀ part, Nested part value → Tidy part) → Tidy value

theorem tidy_iff {value : Json} :
    Tidy value ↔ ∀ part, Nested part value → Reads Schema.decode part ∧ Tidy part := by
  constructor
  · intro tidy part nested
    cases tidy with
    | intro reads inside => exact ⟨reads part nested, inside part nested⟩
  · intro each
    exact .intro (fun part nested => (each part nested).1) fun part nested => (each part nested).2

section Schema

variable {subject name : String} {value : Json}

theorem schemaMember_eq_untouched_iff
    (leaves : ∀ part, InMember part name value → ∀ subject,
      schema subject part = ⟨part, []⟩ ↔ Tidy part) :
    schemaMember subject name value = untouched value ↔
      ∀ part, InMember part name value → Reads Schema.decode part ∧ Tidy part := by
  cases memberForm name value with
  | properties inner =>
      simp only [inMember_properties_iff] at leaves ⊢
      rw [schemaMember_properties, always_eq_untouched_iff, keepMembers_eq_self_iff]
      constructor
      · rintro each part ⟨key, member⟩
        obtain ⟨same, clean⟩ := each _ member
        exact ⟨schemaProblem_eq_none_iff.mp clean, (leaves part ⟨key, member⟩ _).mp same⟩
      · intro each member isMember
        obtain ⟨reads, tidy⟩ := each member.2 ⟨member.1, isMember⟩
        exact ⟨(leaves _ ⟨_, isMember⟩ _).mpr tidy, schemaProblem_eq_none_iff.mpr reads⟩
  | alone isAlone noFlag =>
      simp only [inMember_alone_iff isAlone noFlag, forall_eq] at leaves ⊢
      rw [schemaMember_alone subject isAlone noFlag, keepNested, checked_eq_untouched_iff,
        problemOf_eq_none_iff, leaves, and_comm]
  | combined parts =>
      simp only [inMember_combined_iff] at leaves ⊢
      rw [schemaMember_combined, always_eq_untouched_iff, keepItems_eq_self_iff]
      refine forall₂_congr fun part isPart => ?_
      rw [leaves part isPart, problemOf_eq_none_iff, and_comm]
  | plain noProperties flag noParts =>
      refine iff_of_true (schemaMember_plain subject noProperties flag noParts) ?_
      exact fun part inside => absurd inside (not_inMember_of_plain noProperties flag noParts)

theorem tidy_of_inMember {kept part : Json}
    (tidies : ∀ part, InMember part name value → ∀ subject, Tidy (schema subject part).value)
    (isKept : (schemaMember subject name value).value = some kept)
    (inside : InMember part name kept) : Reads Schema.decode part ∧ Tidy part := by
  cases memberForm name value with
  | properties inner =>
      simp only [inMember_properties_iff] at tidies
      rw [schemaMember_properties, always, Option.some.injEq] at isKept
      have tidy : kept.AllMembers fun name value =>
          Tidy value ∧ schemaProblem (some subject) name value = none := by
        rw [← isKept]
        exact allMembers_keepMembers fun member isMember => tidies member.2 ⟨_, isMember⟩ _
      subst isKept
      obtain ⟨key, member⟩ := inMember_properties_iff.mp inside
      obtain ⟨partTidy, clean⟩ := tidy (key, part) member
      exact ⟨schemaProblem_eq_none_iff.mp clean, partTidy⟩
  | alone isAlone noFlag =>
      rw [schemaMember_alone subject isAlone noFlag] at isKept
      obtain ⟨same, clean⟩ := checked_value_eq_some isKept
      rw [inside.eq_of_isAlone isAlone, ← same]
      refine ⟨?_, tidies value (.alone isAlone noFlag rfl) subject⟩
      exact same ▸ problemOf_eq_none_iff.mp clean
  | combined parts =>
      simp only [inMember_combined_iff] at tidies
      rw [schemaMember_combined, always, Option.some.injEq] at isKept
      have tidy : kept.AllItems fun part => Tidy part ∧
          problemOf subject "malformed `allOf` member" (Schema.decode part) = none := by
        rw [← isKept]
        exact allItems_keepItems fun part isPart => tidies part isPart subject
      subst isKept
      obtain ⟨partTidy, clean⟩ := tidy part (inMember_combined_iff.mp inside)
      exact ⟨problemOf_eq_none_iff.mp clean, partTidy⟩
  | plain noProperties flag noParts =>
      rw [schemaMember_plain subject noProperties flag noParts] at isKept
      cases isKept
      exact absurd inside (not_inMember_of_plain noProperties flag noParts)

theorem schemaMember_unordered (unordered : name ∉ schemaOrder) :
    schemaMember subject name = untouched := by
  simp only [schemaOrder, List.mem_cons, List.not_mem_nil, or_false, not_or] at unordered
  obtain ⟨noProperties, noItems, noAdditional, noParts⟩ := unordered
  funext value
  refine schemaMember_plain subject (fun inner same => ?_) (fun isAlone => ?_) fun parts same => ?_
  · exact noProperties (congrArg Prod.fst same)
  · exact absurd isAlone (not_or.mpr ⟨noItems, noAdditional⟩)
  · exact noParts (congrArg Prod.fst same)

theorem nested_obj_iff {members : List (String × Json)} {part : Json} :
    Nested part (.obj members) ↔ ∃ member ∈ members, InMember part member.1 member.2 := by
  constructor
  · rintro ⟨member, inside⟩
    exact ⟨_, member, inside⟩
  · rintro ⟨member, isMember, inside⟩
    exact .intro isMember inside

theorem tidy_of_no_object (plain : ∀ members, value ≠ .obj members) : Tidy value := by
  refine tidy_iff.mpr fun part nested => ?_
  cases nested with
  | intro => exact absurd rfl (plain _)

theorem schema_eq_self_iff : schema subject value = ⟨value, []⟩ ↔ Tidy value := by
  induction value using nested_induction generalizing subject with
  | step value ih =>
      cases value with
      | obj members =>
          rw [schema_obj, assembled_eq_self_iff fun _ => schemaMember_unordered, tidy_iff]
          simp only [nested_obj_iff] at ih ⊢
          constructor
          · rintro each part ⟨member, isMember, inside⟩
            exact (schemaMember_eq_untouched_iff fun part inside _ =>
              ih part ⟨member, isMember, inside⟩).mp (each member isMember) part inside
          · intro each member isMember
            refine (schemaMember_eq_untouched_iff fun part inside _ =>
              ih part ⟨member, isMember, inside⟩).mpr fun part inside => ?_
            exact each part ⟨member, isMember, inside⟩
      | _ => exact iff_of_true rfl (tidy_of_no_object (by simp))

theorem tidy_schema : Tidy (schema subject value).value := by
  induction value using nested_induction generalizing subject with
  | step value ih =>
      cases value with
      | obj members =>
          have tidy : (schema subject (.obj members)).value.AllMembers fun name kept =>
              ∀ part, InMember part name kept → Reads Schema.decode part ∧ Tidy part := by
            rw [schema_obj]
            refine allMembers_assembled_iff.mpr fun member isMember kept isKept part => ?_
            exact tidy_of_inMember
              (fun part inside _ => ih part (nested_obj_iff.mpr ⟨member, isMember, inside⟩)) isKept
          rw [schema_obj] at tidy ⊢
          refine tidy_iff.mpr fun part nested => ?_
          obtain ⟨member, isMember, inside⟩ := nested_obj_iff.mp nested
          exact tidy member isMember part inside
      | _ => exact tidy_of_no_object (by simp [schema])

end Schema

theorem settles_schema (subject : String) : Settles (schema subject) Tidy :=
  ⟨schema_eq_self_iff, fun _ => tidy_schema⟩

/-- Whether all entries of a map of schemas can be read, and all that they hold. -/
def SchemasTidy : Json → Prop :=
  Json.AllMembers fun _ value => Tidy value ∧ Reads Schema.decode value

theorem definitions_eq : definitions =
    onMembers (keepMembers (schemaProblem none) fun name => schema (entrySubject none name)) := by
  funext value
  cases value with
  | obj members => exact definitions_obj members
  | _ => rfl

theorem settles_definitions : Settles definitions SchemasTidy := by
  rw [definitions_eq]
  exact settles_keepMembers (fun name => settles_schema _) fun _ _ => schemaProblem_eq_none_iff

/-! ## Entries of which no part is pruned -/

def EntriesRead {Value : Type} (decode : Json → Decoded Value) : Json → Prop :=
  Json.AllMembers fun _ value => Reads decode value

theorem settles_self : Settles (fun value => ⟨value, []⟩) fun _ => True :=
  ⟨iff_of_true rfl trivial, fun _ => trivial⟩

theorem settles_shared {Value : Type} (kind : String) (decode : Json → Decoded Value) :
    Settles (shared kind decode) (EntriesRead decode) :=
  settles_retainMembers fun _ _ => problemOf_eq_none_iff

theorem settles_body (subject : String) :
    MemberSettles (operationMember subject "requestBody")
      (Reads RequestBody.decodeReferable) := by
  have clean : ∀ value, problemOf subject "malformed request body"
      (RequestBody.decodeReferable value) = none ↔ Reads RequestBody.decodeReferable value :=
    fun _ => problemOf_eq_none_iff
  have settles : MemberSettles (operationMember subject "requestBody")
      fun value => True ∧ Reads RequestBody.decodeReferable value := settles_self.checked clean
  simpa only [true_and] using settles

theorem settles_responses (subject : String) :
    Settles (responses subject) (EntriesRead Response.decodeReferable) :=
  settles_retainMembers fun _ _ => problemOf_eq_none_iff

def ParametersRead : Json → Prop := Json.AllItems (Reads Parameter.decodeReferable)

theorem settles_parameters (subject : String) : Settles (parameters subject) ParametersRead := by
  refine settles_retainItems fun value => ?_
  rw [Reads]
  cases Parameter.decodeReferable value <;> simp

/-! ## Paths -/

def OperationMemberTidy (name : String) (value : Json) : Prop :=
  match name with
  | "parameters" => ParametersRead value
  | "requestBody" => Reads RequestBody.decodeReferable value
  | "responses" => EntriesRead Response.decodeReferable value
  | _ => True

def OperationTidy : Json → Prop := Json.AllMembers OperationMemberTidy

def operationOrder : List String := ["parameters", "requestBody", "responses"]

theorem operationMember_unordered {subject name : String} (unordered : name ∉ operationOrder) :
    operationMember subject name = untouched ∧ OperationMemberTidy name = fun _ => True := by
  simp only [operationOrder, List.mem_cons, List.not_mem_nil, or_false, not_or] at unordered
  constructor
  · funext value
    simp [operationMember, unordered]
  · funext value
    simp [OperationMemberTidy, unordered]

theorem settles_operationMember (subject name : String) :
    MemberSettles (operationMember subject name) (OperationMemberTidy name) := by
  by_cases ordered : name ∈ operationOrder
  · simp only [operationOrder, List.mem_cons, List.not_mem_nil, or_false] at ordered
    rcases ordered with rfl | rfl | rfl
    · exact (settles_parameters subject).always
    · exact settles_body subject
    · exact (settles_responses subject).always
  · obtain ⟨same, tidy⟩ := operationMember_unordered ordered
    rw [same, tidy]
    exact settles_untouched

theorem operation_eq (subject : String) :
    operation subject = onMembers (assembled operationOrder (operationMember subject)) := by
  funext value
  cases value <;> rfl

theorem settles_operation (subject : String) : Settles (operation subject) OperationTidy := by
  rw [operation_eq]
  exact settles_assembled (settles_operationMember subject) fun _ unordered =>
    (operationMember_unordered unordered).1

theorem find?_key (method : Method) :
    (Method.all.find? fun other => other.key = method.key) = some method := by
  cases method <;> rfl

theorem key_ne_parameters (method : Method) : method.key ≠ "parameters" := by
  cases method <;> decide

def PathMemberTidy (name : String) (value : Json) : Prop :=
  (name = "parameters" → ParametersRead value) ∧
    ∀ method : Method, name = method.key → OperationTidy value ∧ Reads Operation.decode value

def PathItemTidy : Json → Prop := Json.AllMembers PathMemberTidy

def pathOrder : List String := "parameters" :: Method.all.map Method.key

theorem pathMember_key (url : String) (method : Method) :
    pathMember url method.key = fun value =>
      checked (fun found => problemOf (operationSubject method url) "malformed operation"
        (Operation.decode found)) (operation (operationSubject method url) value) := by
  funext value
  rw [pathMember, if_neg (key_ne_parameters method)]
  simp only [find?_key]

theorem pathMember_unordered {url name : String} (unordered : name ∉ pathOrder) :
    pathMember url name = untouched ∧ PathMemberTidy name = fun _ => True := by
  rw [pathOrder, List.mem_cons, not_or] at unordered
  obtain ⟨other, noKey⟩ := unordered
  have foreign : ∀ method : Method, name ≠ method.key := by
    rintro method rfl
    exact noKey (List.mem_map_of_mem method.mem_all)
  constructor
  · funext value
    have none : (Method.all.find? fun method => method.key = name) = none :=
      List.find?_eq_none.mpr fun method _ => by simpa using (foreign method).symm
    rw [pathMember, if_neg other, none]
  · funext value
    simp [PathMemberTidy, other, foreign]

theorem settles_pathMember (url name : String) :
    MemberSettles (pathMember url name) (PathMemberTidy name) := by
  by_cases ordered : name ∈ pathOrder
  · rw [pathOrder, List.mem_cons, List.mem_map] at ordered
    rcases ordered with rfl | ⟨method, -, rfl⟩
    · have tidy : PathMemberTidy "parameters" = ParametersRead := by
        funext value
        simp [PathMemberTidy, (key_ne_parameters _).symm]
      rw [tidy]
      exact (settles_parameters url).always
    · have tidy : PathMemberTidy method.key =
          fun value => OperationTidy value ∧ Reads Operation.decode value := by
        funext value
        refine propext ⟨fun tidy => tidy.2 method rfl, fun tidy => ?_⟩
        refine ⟨fun same => absurd same (key_ne_parameters method), fun other same => tidy⟩
      rw [tidy, pathMember_key]
      exact (settles_operation _).checked fun _ => problemOf_eq_none_iff
  · obtain ⟨same, tidy⟩ := pathMember_unordered ordered
    rw [same, tidy]
    exact settles_untouched

theorem pathItem_eq (url : String) :
    pathItem url = onMembers (assembled pathOrder (pathMember url)) := by
  funext value
  cases value <;> rfl

theorem settles_pathItem (url : String) : Settles (pathItem url) PathItemTidy := by
  rw [pathItem_eq]
  exact settles_assembled (settles_pathMember url) fun _ unordered =>
    (pathMember_unordered unordered).1

def PathsTidy : Json → Prop :=
  Json.AllMembers fun _ value => PathItemTidy value ∧ Reads PathItem.decode value

theorem paths_eq : paths = onMembers (keepMembers
    (fun url value => problemOf url "malformed path" (PathItem.decode value)) pathItem) := by
  funext value
  cases value with
  | obj members =>
      simp only [paths, onMembers, keepMembers, keepAll, named, List.map_map, List.flatMap_map]
      rfl
  | _ => rfl

theorem settles_paths : Settles paths PathsTidy := by
  rw [paths_eq]
  exact settles_keepMembers settles_pathItem fun _ _ => problemOf_eq_none_iff

/-! ## Documents -/

def ComponentsMemberTidy (name : String) (value : Json) : Prop :=
  match name with
  | "schemas" => SchemasTidy value
  | "parameters" => EntriesRead Parameter.decode value
  | "requestBodies" => EntriesRead RequestBody.decode value
  | "responses" => EntriesRead Response.decode value
  | _ => True

def ComponentsTidy : Json → Prop := Json.AllMembers ComponentsMemberTidy

def componentsOrder : List String := ["schemas", "parameters", "requestBodies", "responses"]

theorem componentsMember_unordered {name : String} (unordered : name ∉ componentsOrder) :
    componentsMember name = untouched ∧ ComponentsMemberTidy name = fun _ => True := by
  simp only [componentsOrder, List.mem_cons, List.not_mem_nil, or_false, not_or] at unordered
  constructor
  · funext value
    simp [componentsMember, unordered]
  · funext value
    simp [ComponentsMemberTidy, unordered]

theorem settles_componentsMember (name : String) :
    MemberSettles (componentsMember name) (ComponentsMemberTidy name) := by
  by_cases ordered : name ∈ componentsOrder
  · simp only [componentsOrder, List.mem_cons, List.not_mem_nil, or_false] at ordered
    rcases ordered with rfl | rfl | rfl | rfl
    · exact settles_definitions.always
    · exact (settles_shared "parameter" Parameter.decode).always
    · exact (settles_shared "request body" RequestBody.decode).always
    · exact (settles_shared "response" Response.decode).always
  · obtain ⟨same, tidy⟩ := componentsMember_unordered ordered
    rw [same, tidy]
    exact settles_untouched

theorem components_eq :
    components = onMembers (assembled componentsOrder componentsMember) := by
  funext value
  cases value <;> rfl

theorem settles_components : Settles components ComponentsTidy := by
  rw [components_eq]
  exact settles_assembled settles_componentsMember fun _ unordered =>
    (componentsMember_unordered unordered).1

def DocumentMemberTidy (name : String) (value : Json) : Prop :=
  match name with
  | "definitions" => SchemasTidy value
  | "parameters" => EntriesRead Parameter.decode value
  | "responses" => EntriesRead Response.decode value
  | "components" => ComponentsTidy value
  | "paths" => PathsTidy value
  | _ => True

/-- Whether every part of a document that pruning tries can be read. -/
def DocumentTidy : Json → Prop := Json.AllMembers DocumentMemberTidy

def documentOrder : List String :=
  ["definitions", "parameters", "responses", "components", "paths"]

theorem documentMember_unordered {name : String} (unordered : name ∉ documentOrder) :
    documentMember name = untouched ∧ DocumentMemberTidy name = fun _ => True := by
  simp only [documentOrder, List.mem_cons, List.not_mem_nil, or_false, not_or] at unordered
  constructor
  · funext value
    simp [documentMember, unordered]
  · funext value
    simp [DocumentMemberTidy, unordered]

theorem settles_documentMember (name : String) :
    MemberSettles (documentMember name) (DocumentMemberTidy name) := by
  by_cases ordered : name ∈ documentOrder
  · simp only [documentOrder, List.mem_cons, List.not_mem_nil, or_false] at ordered
    rcases ordered with rfl | rfl | rfl | rfl | rfl
    · exact settles_definitions.always
    · exact (settles_shared "parameter" Parameter.decode).always
    · exact (settles_shared "response" Response.decode).always
    · exact settles_components.always
    · exact settles_paths.always
  · obtain ⟨same, tidy⟩ := documentMember_unordered ordered
    rw [same, tidy]
    exact settles_untouched

theorem document_eq : document = onMembers (assembled documentOrder documentMember) := by
  funext value
  cases value <;> rfl

theorem settles_document : Settles document DocumentTidy := by
  rw [document_eq]
  exact settles_assembled settles_documentMember fun _ unordered =>
    (documentMember_unordered unordered).1

end ClientGen.Prune
