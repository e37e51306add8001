import ClientGen.Proofs.Prune.Tidy

/-!
Pruning as a run of deletions. Each takes one member out of an object or one item out of an array,
wherever the object or the array stands, and leaves all else in its place. The reports of pruning
are those of the deletions, in the order in which these happen.
-/

set_option autoImplicit false

namespace ClientGen.Prune

open Json (Decoded)

/-- A value loses one member or one item, at any depth. -/
inductive Deletion (removed : Json) : Json → Json → Prop where
  | member (before after : List (String × Json)) (name : String) :
      Deletion removed (.obj (before ++ (name, removed) :: after)) (.obj (before ++ after))
  | item (before after : List Json) :
      Deletion removed (.arr (before ++ removed :: after)) (.arr (before ++ after))
  | inMember (before after : List (String × Json)) (name : String) {old new : Json} :
      Deletion removed old new → Deletion removed (.obj (before ++ (name, old) :: after))
        (.obj (before ++ (name, new) :: after))
  | inItem (before after : List Json) {old new : Json} :
      Deletion removed old new →
        Deletion removed (.arr (before ++ old :: after)) (.arr (before ++ new :: after))

/-- A report on a value that one of the readers refuses. -/
inductive Refused (removed : Json) : Diagnostic → Prop where
  | schema {subject message report} :
      problemOf subject message (Schema.decode removed) = some report → Refused removed report
  | parameter {subject message report} :
      problemOf subject message (Parameter.decode removed) = some report → Refused removed report
  | body {subject message report} :
      problemOf subject message (RequestBody.decode removed) = some report → Refused removed report
  | response {subject message report} :
      problemOf subject message (Response.decode removed) = some report → Refused removed report
  | referableParameter {subject error} :
      Parameter.decodeReferable removed = .error error →
        Refused removed ⟨.error, subject, "malformed parameter `" ++ parameterName removed ++
          "` skipped: needs `name` and `in`, or `$ref`"⟩
  | referableBody {subject message report} :
      problemOf subject message (RequestBody.decodeReferable removed) = some report →
        Refused removed report
  | referableResponse {subject message report} :
      problemOf subject message (Response.decodeReferable removed) = some report →
        Refused removed report
  | operation {subject message report} :
      problemOf subject message (Operation.decode removed) = some report → Refused removed report
  | pathItem {subject message report} :
      problemOf subject message (PathItem.decode removed) = some report → Refused removed report

/-- A run of deletions with one report for each of them, on the value that it takes away. -/
inductive Deletes : Json → List Diagnostic → Json → Prop where
  | refl (value : Json) : Deletes value [] value
  | step {removed before middle after : Json} {report : Diagnostic} {reports : List Diagnostic} :
      Deletion removed before middle → Refused removed report → Deletes middle reports after →
        Deletes before (report :: reports) after

namespace Deletes

variable {before middle after : Json} {reports others : List Diagnostic}

theorem trans (first : Deletes before reports middle) (later : Deletes middle others after) :
    Deletes before (reports ++ others) after := by
  induction first with
  | refl => exact later
  | step deletion refused _ ih => exact .step deletion refused (ih later)

theorem inside (context : Json → Json) (run : Deletes before reports after)
    (deletes : ∀ {removed old new}, Deletion removed old new →
      Deletion removed (context old) (context new)) :
    Deletes (context before) reports (context after) := by
  induction run with
  | refl value => exact .refl (context value)
  | step deletion refused _ ih => exact .step (deletes deletion) refused ih

theorem eq_of_silent (run : Deletes before [] after) : after = before := by
  cases run
  rfl

end Deletes

theorem severity_of_problemOf {Value : Type} {subject message : String} {decoded : Decoded Value}
    {report : Diagnostic} (found : problemOf subject message decoded = some report) :
    report.severity = .error := by
  cases decoded with
  | ok value => cases found
  | error error =>
      cases found
      rfl

theorem Refused.severity {removed : Json} {report : Diagnostic} (refused : Refused removed report) :
    report.severity = .error := by
  cases refused with
  | referableParameter => rfl
  | schema found | parameter found | body found | response found | referableBody found
  | referableResponse found | operation found | pathItem found =>
      exact severity_of_problemOf found

theorem Deletes.severity {before after : Json} {reports : List Diagnostic}
    (run : Deletes before reports after) : ∀ report ∈ reports, report.severity = .error := by
  induction run with
  | refl => exact List.forall_mem_nil _
  | step _ refused _ ih => exact List.forall_mem_cons.mpr ⟨refused.severity, ih⟩

/-! ## Stretches of members and items -/

/-- The deletions that lead from one stretch of members or items to another, whatever stands on
either side of it. -/
def Clears {Item : Type} (build : List Item → Json) (before : List Item)
    (reports : List Diagnostic) (after : List Item) : Prop :=
  ∀ left right, Deletes (build (left ++ before ++ right)) reports (build (left ++ after ++ right))

section Clears

variable {Item Source : Type} {build : List Item → Json} {before middle after : List Item}
variable {reports others : List Diagnostic}

theorem Clears.refl (items : List Item) : Clears build items [] items :=
  fun _ _ => .refl _

theorem Clears.trans (first : Clears build before reports middle)
    (later : Clears build middle others after) : Clears build before (reports ++ others) after :=
  fun left right => (first left right).trans (later left right)

theorem Clears.whole (clears : Clears build before reports after) :
    Deletes (build before) reports (build after) := by
  simpa using clears [] []

theorem Clears.append {next last : List Item} (first : Clears build before reports after)
    (second : Clears build next others last) :
    Clears build (before ++ next) (reports ++ others) (after ++ last) := by
  intro left right
  have here := first left (next ++ right)
  have there := second (left ++ after) right
  simp only [List.append_assoc] at here there ⊢
  exact here.trans there

theorem clears_flatMap {sources : List Source} {old new : Source → List Item}
    {reports : Source → List Diagnostic}
    (each : ∀ source ∈ sources, Clears build (old source) (reports source) (new source)) :
    Clears build (sources.flatMap old) (sources.flatMap reports) (sources.flatMap new) := by
  induction sources with
  | nil => exact .refl []
  | cons source rest ih =>
      simp only [List.flatMap_cons]
      refine (each source (.head _)).append (ih fun other member => each other (.tail _ member))

theorem Clears.obj_member {name : String} {old new : Json} {reports : List Diagnostic}
    (run : Deletes old reports new) : Clears .obj [(name, old)] reports [(name, new)] := by
  intro left right
  simp only [List.append_assoc, List.singleton_append]
  exact run.inside (fun value => .obj (left ++ (name, value) :: right))
    fun deletion => .inMember left right name deletion

theorem Clears.arr_item {old new : Json} {reports : List Diagnostic}
    (run : Deletes old reports new) : Clears .arr [old] reports [new] := by
  intro left right
  simp only [List.append_assoc, List.singleton_append]
  exact run.inside (fun value => .arr (left ++ value :: right))
    fun deletion => .inItem left right deletion

theorem Clears.obj_removed {name : String} {removed : Json} {report : Diagnostic}
    (refused : Refused removed report) : Clears .obj [(name, removed)] [report] [] := by
  intro left right
  simp only [List.append_assoc, List.singleton_append, List.nil_append]
  exact .step (.member left right name) refused (.refl _)

theorem Clears.arr_removed {removed : Json} {report : Diagnostic}
    (refused : Refused removed report) : Clears .arr [removed] [report] [] := by
  intro left right
  simp only [List.append_assoc, List.singleton_append, List.nil_append]
  exact .step (.item left right) refused (.refl _)

theorem clears_retain {problem? : Item → Option Diagnostic}
    (remove : ∀ item report, problem? item = some report → Clears build [item] [report] [])
    (items : List Item) :
    Clears build items (retain problem? items).diagnostics (retain problem? items).value := by
  induction items with
  | nil => exact .refl []
  | cons item rest ih =>
      cases found : problem? item with
      | none =>
          have kept : Clears build [item] [] [item] := .refl [item]
          simpa [retain, found] using kept.append ih
      | some report => simpa [retain, found] using (remove item report found).append ih

theorem clears_keepAll {problem? : Item → Option Diagnostic} {prune : Item → Reported Item}
    {items : List Item}
    (inside : ∀ item ∈ items, Clears build [item] (prune item).diagnostics [(prune item).value])
    (remove : ∀ item report, problem? item = some report → Clears build [item] [report] []) :
    Clears build items (keepAll problem? prune items).diagnostics
      (keepAll problem? prune items).value := by
  have first := clears_flatMap inside
  rw [← List.map_eq_flatMap, ← List.map_eq_flatMap, List.map_id'] at first
  exact first.trans (clears_retain remove _)

end Clears

/-! ## The steps of pruning -/

/-- The reports on a value are those of the deletions that lead to its pruned form. -/
def Accounted (value : Json) (pruned : Reported Json) : Prop :=
  Deletes value pruned.diagnostics pruned.value

/-- The same for a member, which may itself be taken out of the object. -/
def MemberAccounted (value : Json) (pruned : Reported (Option Json)) : Prop :=
  ∀ name : String, Clears .obj [(name, value)] pruned.diagnostics
    (pruned.value.map fun kept => (name, kept)).toList

section Accounted

variable {value : Json} {pruned : Reported Json} {members : List (String × Json)}

theorem accounted_untouched (value : Json) : MemberAccounted value (untouched value) :=
  fun _ => .refl _

theorem Accounted.always (accounted : Accounted value pruned) :
    MemberAccounted value (Prune.always pruned) :=
  fun _ => .obj_member accounted

theorem Accounted.checked {problem? : Json → Option Diagnostic} (accounted : Accounted value pruned)
    (refused : ∀ removed report, problem? removed = some report → Refused removed report) :
    MemberAccounted value (Prune.checked problem? pruned) := by
  intro name
  rw [Prune.checked]
  cases found : problem? pruned.value with
  | none => exact .obj_member accounted
  | some report =>
      have inside : Clears .obj [(name, value)] pruned.diagnostics [(name, pruned.value)] :=
        .obj_member accounted
      exact inside.trans (.obj_removed (refused _ report found))

theorem accounted_retainMembers {problem? : String → Json → Option Diagnostic}
    (refused : ∀ name removed report, problem? name removed = some report →
      Refused removed report) (value : Json) : Accounted value (retainMembers problem? value) := by
  cases value with
  | obj members =>
      have clears : Clears .obj members (members.filterMap fun member => problem? member.1 member.2)
          (members.filter fun member => (problem? member.1 member.2).isNone) :=
        clears_retain (fun member report found => .obj_removed (refused _ _ report found)) members
      exact clears.whole
  | _ => exact .refl _

theorem accounted_retainItems {problem? : Json → Option Diagnostic}
    (refused : ∀ removed report, problem? removed = some report → Refused removed report)
    (value : Json) : Accounted value (retainItems problem? value) := by
  cases value with
  | arr items =>
      have clears : Clears .arr items (items.filterMap problem?)
          (items.filter fun item => (problem? item).isNone) :=
        clears_retain (fun _ report found => .arr_removed (refused _ report found)) items
      exact clears.whole
  | _ => exact .refl _

theorem accounted_keepMembers {problem? : String → Json → Option Diagnostic}
    {prune : String → Json → Reported Json}
    (inside : ∀ member ∈ members, Accounted member.2 (prune member.1 member.2))
    (refused : ∀ name removed report, problem? name removed = some report →
      Refused removed report) : Accounted (.obj members) (keepMembers problem? prune members) := by
  refine Clears.whole (clears_keepAll (fun member isMember => ?_) fun member report found => ?_)
  · exact .obj_member (inside member isMember)
  · exact .obj_removed (refused _ _ report found)

theorem accounted_keepItems {problem? : Json → Option Diagnostic} {prune : Json → Reported Json}
    {items : List Json} (inside : ∀ item ∈ items, Accounted item (prune item))
    (refused : ∀ removed report, problem? removed = some report → Refused removed report) :
    Accounted (.arr items) (keepItems problem? prune items) := by
  refine Clears.whole (clears_keepAll (fun item isItem => ?_) fun item report found => ?_)
  · exact .arr_item (inside item isItem)
  · exact .arr_removed (refused _ report found)

theorem accounted_onMembers {prune : List (String × Json) → Reported Json}
    (accounted : ∀ members, Accounted (.obj members) (prune members)) (value : Json) :
    Accounted value (onMembers prune value) := by
  cases value with
  | obj members => exact accounted members
  | _ => exact .refl _

section Assembled

variable {prune : String → Json → Reported (Option Json)} {order : List String}

/-- What has become of a member once those under some names are pruned. -/
def stage (prune : String → Json → Reported (Option Json)) (done : List String)
    (member : String × Json) : List (String × Json) :=
  if member.1 ∈ done then
    ((prune member.1 member.2).value.map fun kept => (member.1, kept)).toList
  else [member]

theorem clears_stage {done : List String} {key : String} (fresh : key ∉ done)
    {member : String × Json} (accounted : MemberAccounted member.2 (prune member.1 member.2)) :
    Clears .obj (stage prune done member)
      (if member.1 = key then (prune member.1 member.2).diagnostics else [])
      (stage prune (done ++ [key]) member) := by
  by_cases here : member.1 = key
  · have now := accounted member.1
    simpa [stage, here, fresh] using here ▸ now
  · simpa [stage, here] using Clears.refl (stage prune done member)

/-- The keys of the order are gone through one after the other. -/
theorem clears_order {done : List String} (distinct : (done ++ order).Nodup)
    (each : ∀ member ∈ members, MemberAccounted member.2 (prune member.1 member.2)) :
    Clears .obj (members.flatMap (stage prune done))
      (order.flatMap fun key => members.flatMap fun member =>
        if member.1 = key then (prune member.1 member.2).diagnostics else [])
      (members.flatMap (stage prune (done ++ order))) := by
  -- Every report comes with its key, so the members done so far are those under the keys so far.
  induction order generalizing done with
  | nil =>
      rw [List.append_nil]
      exact .refl _
  | cons key rest ih =>
      rw [List.append_cons] at distinct ⊢
      have fresh : key ∉ done := by
        obtain ⟨front, -⟩ := List.nodup_append.mp distinct
        obtain ⟨-, -, parted⟩ := List.nodup_append.mp front
        exact fun listed => parted key listed key (.head _) rfl
      rw [List.flatMap_cons]
      refine Clears.trans ?_ (ih distinct)
      exact clears_flatMap fun member isMember => clears_stage fresh (each member isMember)

theorem accounted_assembled (distinct : order.Nodup)
    (plain : ∀ name, name ∉ order → prune name = untouched)
    (each : ∀ member ∈ members, MemberAccounted member.2 (prune member.1 member.2)) :
    Accounted (.obj members) (assembled order prune members) := by
  have start : members.flatMap (stage prune []) = members := by
    have same : stage prune [] = fun member => [member] := by
      funext member
      simp [stage]
    rw [same, ← List.map_eq_flatMap, List.map_id']
  have finish : stage prune order = fun member =>
      ((prune member.1 member.2).value.map fun kept => (member.1, kept)).toList := by
    funext member
    by_cases ordered : member.1 ∈ order
    · rw [stage, if_pos ordered]
    · rw [stage, if_neg ordered, plain member.1 ordered]
      rfl
  have clears := @clears_order members prune order [] distinct each
  rw [start, List.nil_append, finish, ← List.filterMap_eq_flatMap_toList] at clears
  have whole := clears.whole
  rw [Accounted, assembled, assemble, List.filterMap_map]
  simp only [List.flatMap_map]
  exact whole

theorem accounted_onAssembled (distinct : order.Nodup)
    (plain : ∀ name, name ∉ order → prune name = untouched)
    (each : ∀ name value, MemberAccounted value (prune name value)) (value : Json) :
    Accounted value (onMembers (assembled order prune) value) :=
  accounted_onMembers
    (fun _ => accounted_assembled distinct plain fun member _ => each member.1 member.2) value

end Assembled

end Accounted

/-! ## The parts of a document -/

theorem accounted_schemaMember {subject name : String} {value : Json}
    (inside : ∀ part, InMember part name value → ∀ subject, Accounted part (schema subject part)) :
    MemberAccounted value (schemaMember subject name value) := by
  cases memberForm name value with
  | properties inner =>
      simp only [inMember_properties_iff] at inside
      rw [schemaMember_properties]
      refine (accounted_keepMembers (fun member isMember => ?_) fun _ _ _ => .schema).always
      exact inside member.2 ⟨member.1, isMember⟩ _
  | alone isAlone noFlag =>
      rw [schemaMember_alone subject isAlone noFlag]
      exact (inside value (.alone isAlone noFlag rfl) subject).checked fun _ _ => .schema
  | combined parts =>
      simp only [inMember_combined_iff] at inside
      rw [schemaMember_combined]
      refine (accounted_keepItems (fun part isPart => ?_) fun _ _ => .schema).always
      exact inside part isPart subject
  | plain noProperties flag noParts =>
      rw [schemaMember_plain subject noProperties flag noParts]
      exact accounted_untouched value

theorem accounted_schema (subject : String) (value : Json) :
    Accounted value (schema subject value) := by
  induction value using nested_induction generalizing subject with
  | step value ih =>
      cases value with
      | obj members =>
          rw [schema_obj]
          refine accounted_assembled (by decide) (fun _ => schemaMember_unordered) ?_
          intro member isMember
          exact accounted_schemaMember fun part inside subject =>
            ih part (nested_obj_iff.mpr ⟨member, isMember, inside⟩) subject
      | _ => exact .refl _

theorem accounted_definitions (value : Json) : Accounted value (definitions value) := by
  rw [definitions_eq]
  refine accounted_onMembers (fun members => ?_) value
  exact accounted_keepMembers (fun _ _ => accounted_schema _ _) fun _ _ _ => .schema

theorem accounted_parameters (subject : String) (value : Json) :
    Accounted value (parameters subject value) := by
  refine accounted_retainItems (fun removed report found => ?_) value
  cases decoded : Parameter.decodeReferable removed with
  | ok parameter =>
      rw [decoded] at found
      cases found
  | error error =>
      rw [decoded] at found
      cases found
      exact .referableParameter decoded

theorem accounted_operation (subject : String) (value : Json) :
    Accounted value (operation subject value) := by
  rw [operation_eq]
  refine accounted_onAssembled (by decide) (fun _ other => (operationMember_unordered other).1)
    (fun name part => ?_) value
  unfold operationMember
  split
  · exact (accounted_parameters subject part).always
  · exact Accounted.checked (.refl part) fun _ _ => .referableBody
  · exact (accounted_retainMembers (fun _ _ _ => .referableResponse) part).always
  · exact accounted_untouched part

theorem accounted_pathItem (url : String) (value : Json) :
    Accounted value (pathItem url value) := by
  rw [pathItem_eq]
  refine accounted_onAssembled (by decide) (fun _ other => (pathMember_unordered other).1)
    (fun name part => ?_) value
  unfold pathMember
  split
  · exact (accounted_parameters url part).always
  · split
    · exact (accounted_operation _ part).checked fun _ _ => .operation
    · exact accounted_untouched part

theorem accounted_paths (value : Json) : Accounted value (paths value) := by
  rw [paths_eq]
  refine accounted_onMembers (fun members => ?_) value
  exact accounted_keepMembers (fun _ _ => accounted_pathItem _ _) fun _ _ _ => .pathItem

theorem accounted_components (value : Json) : Accounted value (components value) := by
  rw [components_eq]
  refine accounted_onAssembled (by decide) (fun _ other => (componentsMember_unordered other).1)
    (fun name part => ?_) value
  unfold componentsMember
  split
  · exact (accounted_definitions part).always
  · exact (accounted_retainMembers (fun _ _ _ => .parameter) part).always
  · exact (accounted_retainMembers (fun _ _ _ => .body) part).always
  · exact (accounted_retainMembers (fun _ _ _ => .response) part).always
  · exact accounted_untouched part

theorem accounted_document (value : Json) : Accounted value (document value) := by
  rw [document_eq]
  refine accounted_onAssembled (by decide) (fun _ other => (documentMember_unordered other).1)
    (fun name part => ?_) value
  unfold documentMember
  split
  · exact (accounted_definitions part).always
  · exact (accounted_retainMembers (fun _ _ _ => .parameter) part).always
  · exact (accounted_retainMembers (fun _ _ _ => .response) part).always
  · exact (accounted_components part).always
  · exact (accounted_paths part).always
  · exact accounted_untouched part

/-- Pruning a document only takes members and items out of it. Each that it takes out has one
report, an error, in the order of the deletions; there is none just if the document stays as it is.
What is left is not pruned any further. -/
theorem deletions_accounted (json : Json) :
    Deletes json (document json).diagnostics (document json).value ∧
      (∀ report ∈ (document json).diagnostics, report.severity = .error) ∧
      ((document json).diagnostics = [] ↔ (document json).value = json) ∧
      document (document json).value = ⟨(document json).value, []⟩ := by
  have run : Deletes json (document json).diagnostics (document json).value :=
    accounted_document json
  have again := settles_document.twice json
  refine ⟨run, run.severity, ⟨fun silent => ?_, fun same => ?_⟩, again⟩
  · rw [silent] at run
    exact run.eq_of_silent
  · rw [same] at again
    rw [again]

/-- A property, a parameter and a response that cannot be read are deleted, each with a report of its
own. -/
theorem deletions_accounted_pets :
    let json : Json := .obj [
      ("definitions", .obj [("Pet", .obj [("properties", .obj [
        ("id", .obj [("type", .str "integer")]), ("name", .str "string")])])]),
      ("paths", .obj [("/pets", .obj [("get", .obj [
        ("parameters", .arr [.str "limit"]), ("responses", .obj [("200", .str "ok")])])])])]
    let pruned : Json := .obj [
      ("definitions", .obj [("Pet", .obj [("properties", .obj [
        ("id", .obj [("type", .str "integer")])])])]),
      ("paths", .obj [("/pets", .obj [("get", .obj [
        ("parameters", .arr []), ("responses", .obj [])])])])]
    Deletes json (document json).diagnostics pruned ∧
      (document json).diagnostics.map Diagnostic.subject = ["Pet.name", "GET /pets", "GET /pets"] ∧
      document pruned = ⟨pruned, []⟩ := by
  intro json pruned
  have same : (document json).value = pruned := rfl
  obtain ⟨run, -, -, again⟩ := deletions_accounted json
  rw [same] at run again
  exact ⟨run, rfl, again⟩

end ClientGen.Prune
