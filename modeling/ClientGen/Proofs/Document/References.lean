import ClientGen.Proofs.Document.ParameterMerge
import Mathlib.Algebra.GroupWithZero.Nat
import Mathlib.Data.List.Forall2

/-!
Documents after their references are replaced. What a reference leads to stands in its place; a
parameter or a request body that is found nowhere is left out, and a response that is found nowhere
is an empty one. There is one diagnostic for each reference that leads nowhere: those of a path's own
parameters count once, however many operations take them over.
-/

set_option autoImplicit false

namespace ClientGen

/-! ## What a reference leads to -/

namespace Referable

variable {Value : Type}

/-- The value itself, or the shared one under the name that the reference ends with. -/
def target? (known : Entries Value) : Referable Value → Option Value
  | .reference path => known.get? (Names.ofReference path)
  | .inline value => some value

def IsInline (referable : Referable Value) : Prop := ∃ value, referable = .inline value

/-- How many of some references lead nowhere. -/
def dangling (known : Entries Value) (references : List (Referable Value)) : Nat :=
  references.countP fun reference => (reference.target? known).isNone

theorem dangling_cons (known : Entries Value) (first : Referable Value)
    (rest : List (Referable Value)) : dangling known (first :: rest) =
      dangling known [first] + dangling known rest := by
  simp only [dangling, List.countP_cons, List.countP_nil]
  omega

end Referable

open Referable (target? dangling)

namespace Shared

variable (shared : Shared) (url : String)

theorem parameter_value (written : Referable Parameter) :
    (shared.parameter url written).value = written.target? shared.parameters := by
  cases written with
  | inline parameter => rfl
  | reference path =>
      cases found : shared.parameters.get? (Names.ofReference path) <;>
        simp [parameter, target?, found, Shared.unresolved]

theorem parameter_diagnostics (written : Referable Parameter) :
    (shared.parameter url written).diagnostics.length = dangling shared.parameters [written] := by
  cases written with
  | inline parameter => rfl
  | reference path =>
      cases found : shared.parameters.get? (Names.ofReference path) <;>
        simp [parameter, target?, found, Referable.dangling, Shared.unresolved]

theorem parameterList_value (written : List (Referable Parameter)) :
    (shared.parameterList url written).value = written.filterMap (target? shared.parameters) := by
  induction written with
  | nil => rfl
  | cons first rest ih =>
      rw [parameterList, Reported.value_bind, Reported.value_bind, parameter_value, ih]
      cases found : target? shared.parameters first <;> simp [found]

theorem parameterList_diagnostics (written : List (Referable Parameter)) :
    (shared.parameterList url written).diagnostics.length =
      dangling shared.parameters written := by
  induction written with
  | nil => rfl
  | cons first rest ih =>
      rw [parameterList, Reported.diagnostics_bind, Reported.diagnostics_bind,
        Referable.dangling_cons, ← ih, ← parameter_diagnostics shared url]
      simp

theorem requestBody_value (written : Option (Referable RequestBody)) :
    (shared.requestBody url written).value =
      (written.bind (target? shared.requestBodies)).map .inline := by
  cases written with
  | none => rfl
  | some body =>
      cases body with
      | inline value => rfl
      | reference path =>
          cases found : shared.requestBodies.get? (Names.ofReference path) <;>
            simp [requestBody, target?, found, Shared.unresolved]

theorem requestBody_diagnostics (written : Option (Referable RequestBody)) :
    (shared.requestBody url written).diagnostics.length =
      dangling shared.requestBodies written.toList := by
  cases written with
  | none => rfl
  | some body =>
      cases body with
      | inline value => rfl
      | reference path =>
          cases found : shared.requestBodies.get? (Names.ofReference path) <;>
            simp [requestBody, target?, found, Referable.dangling, Shared.unresolved]

theorem response_value (status : String) (written : Referable Response) :
    (shared.response url status written).value =
      .inline ((written.target? shared.responses).getD {}) := by
  cases written with
  | inline response => rfl
  | reference path =>
      cases found : shared.responses.get? (Names.ofReference path) <;>
        simp [response, target?, found, Shared.unresolved]

theorem response_diagnostics (status : String) (written : Referable Response) :
    (shared.response url status written).diagnostics.length =
      dangling shared.responses [written] := by
  cases written with
  | inline response => rfl
  | reference path =>
      cases found : shared.responses.get? (Names.ofReference path) <;>
        simp [response, target?, found, Referable.dangling, Shared.unresolved]

theorem responseEntries_value (written : Entries (Referable Response)) :
    (shared.responseEntries url written).value =
      written.map fun entry => (entry.1, .inline ((entry.2.target? shared.responses).getD {})) := by
  induction written with
  | nil => rfl
  | cons entry rest ih =>
      obtain ⟨status, first⟩ := entry
      rw [responseEntries, Reported.value_bind, Reported.value_bind, response_value, ih]
      rfl

theorem responseEntries_diagnostics (written : Entries (Referable Response)) :
    (shared.responseEntries url written).diagnostics.length =
      dangling shared.responses written.values := by
  induction written with
  | nil => rfl
  | cons entry rest ih =>
      obtain ⟨status, first⟩ := entry
      have values : Entries.values ((status, first) :: rest) = first :: Entries.values rest := rfl
      rw [responseEntries, Reported.diagnostics_bind, Reported.diagnostics_bind, values,
        Referable.dangling_cons, ← ih, ← response_diagnostics shared url status]
      simp

end Shared

/-! ## Operations -/

namespace Operation

/-- How many references of an operation lead nowhere. -/
def dangling (shared : Shared) (operation : Operation) : Nat :=
  Referable.dangling shared.parameters operation.parameters +
    Referable.dangling shared.requestBodies operation.requestBody.toList +
    Referable.dangling shared.responses operation.responses.values

/-- What becomes of an operation: each reference is replaced by what it leads to, and the parameters
update those that the operation takes over from its path. A parameter or a request body that leads
nowhere is gone, a response that leads nowhere is empty, and the statuses are as before. Only the
media types may change besides. -/
structure Resolves (shared : Shared) (inherited : List Parameter) (written resolved : Operation) :
    Prop where
  parameters : ∃ merged, Parameter.IsUpdate inherited
      (written.parameters.filterMap (target? shared.parameters)) merged ∧
    resolved.parameters = merged.map .inline
  requestBody : resolved.requestBody =
    (written.requestBody.bind (target? shared.requestBodies)).map .inline
  responses : resolved.responses = written.responses.map fun entry =>
    (entry.1, .inline ((entry.2.target? shared.responses).getD {}))
  others : resolved = { written with
    parameters := resolved.parameters
    requestBody := resolved.requestBody
    responses := resolved.responses
    consumes := resolved.consumes
    produces := resolved.produces }

/-- An operation in which everything is in place. -/
structure ReferenceFree (operation : Operation) : Prop where
  parameters : ∀ parameter ∈ operation.parameters, parameter.IsInline
  requestBody : ∀ body ∈ operation.requestBody, body.IsInline
  responses : ∀ entry ∈ operation.responses, entry.2.IsInline

theorem Resolves.referenceFree {shared : Shared} {inherited : List Parameter}
    {written resolved : Operation} (resolves : Resolves shared inherited written resolved) :
    resolved.ReferenceFree := by
  constructor
  · intro parameter member
    obtain ⟨merged, -, inPlace⟩ := resolves.parameters
    rw [inPlace] at member
    obtain ⟨value, -, rfl⟩ := List.mem_map.mp member
    exact ⟨value, rfl⟩
  · intro body member
    rw [resolves.requestBody] at member
    obtain ⟨value, -, rfl⟩ := Option.map_eq_some_iff.mp member
    exact ⟨value, rfl⟩
  · intro entry member
    rw [resolves.responses] at member
    obtain ⟨value, -, rfl⟩ := List.mem_map.mp member
    exact ⟨_, rfl⟩

/-- Filling in media types leaves the rest of an operation alone. -/
theorem Resolves.withDefaultMedia {shared : Shared} {inherited : List Parameter}
    {written resolved : Operation} (resolves : Resolves shared inherited written resolved)
    (consumes produces : List String) :
    Resolves shared inherited written (resolved.withDefaultMedia consumes produces) := by
  obtain ⟨parameters, requestBody, responses, others⟩ := resolves
  refine ⟨parameters, requestBody, responses, ?_⟩
  rw [others]
  rfl

variable (shared : Shared) (url : String) (inherited : List Parameter) (operation : Operation)

theorem inlined_resolves :
    Resolves shared inherited operation (operation.inlined shared url inherited).value := by
  constructor
  · refine ⟨_, Parameter.isUpdate_merge _ _, ?_⟩
    simp only [inlined, Reported.value_bind, Reported.value_pure, Shared.parameterList_value]
  · simp only [inlined, Reported.value_bind, Reported.value_pure, Shared.requestBody_value]
  · simp only [inlined, Reported.value_bind, Reported.value_pure, Shared.responseEntries_value]
  · rfl

theorem inlined_diagnostics :
    (operation.inlined shared url inherited).diagnostics.length = operation.dangling shared := by
  simp only [inlined, Reported.diagnostics_bind, Reported.diagnostics_pure, List.append_nil,
    List.length_append, Shared.parameterList_diagnostics, Shared.requestBody_diagnostics,
    Shared.responseEntries_diagnostics, dangling]
  omega

end Operation

/-! ## Paths -/

namespace PathItem

theorem operation?_withOperation (item : PathItem) (method other : Method)
    (operation : Option Operation) : (item.withOperation method operation).operation? other =
      if method = other then operation else item.operation? other := by
  cases method <;> cases other <;> rfl

theorem parameters_withOperation (item : PathItem) (method : Method)
    (operation : Option Operation) :
    (item.withOperation method operation).parameters = item.parameters := by
  cases method <;> rfl

/-- The operations under some methods, in the order of the methods. -/
def operationsUnder (methods : List Method) (item : PathItem) : List Operation :=
  methods.filterMap item.operation?

theorem operationsUnder_withOperation {methods : List Method} {method : Method}
    (apart : method ∉ methods) (operation : Option Operation) (item : PathItem) :
    (item.withOperation method operation).operationsUnder methods =
      item.operationsUnder methods := by
  refine List.filterMap_congr fun other member => ?_
  have different : method ≠ other := fun same => apart (same ▸ member)
  rw [operation?_withOperation, if_neg different]

section ChangeOperations

variable (change : Operation → Reported Operation)

theorem changeOperations_parameters (methods : List Method) (item : PathItem) :
    (changeOperations change methods item).value.parameters = item.parameters := by
  induction methods generalizing item with
  | nil => rfl
  | cons method rest ih =>
      rw [changeOperations]
      cases found : item.operation? method with
      | none => exact ih item
      | some operation =>
          rw [Reported.value_bind, ih, parameters_withOperation]

/-- Each of the methods has its operation changed, and the others have theirs as before. -/
theorem changeOperations_operation? {methods : List Method} (distinct : methods.Nodup)
    (item : PathItem) (method : Method) :
    (changeOperations change methods item).value.operation? method =
      if method ∈ methods then (item.operation? method).map fun operation =>
        (change operation).value
      else item.operation? method := by
  induction methods generalizing item with
  | nil => rfl
  | cons first rest ih =>
      obtain ⟨fresh, unique⟩ := List.nodup_cons.mp distinct
      rw [changeOperations]
      by_cases same : method = first
      · subst same
        cases found : item.operation? method with
        | none => simp [ih unique, fresh, found]
        | some operation => simp [ih unique, fresh, operation?_withOperation]
      · have apart : first ≠ method := fun equal => same equal.symm
        cases found : item.operation? first with
        | none => simp [ih unique, same]
        | some operation => simp [ih unique, same, operation?_withOperation, apart]

theorem changeOperations_diagnostics {methods : List Method} (distinct : methods.Nodup)
    (item : PathItem) : (changeOperations change methods item).diagnostics.length =
      ((item.operationsUnder methods).map fun operation =>
        (change operation).diagnostics.length).sum := by
  induction methods generalizing item with
  | nil => rfl
  | cons method rest ih =>
      obtain ⟨fresh, unique⟩ := List.nodup_cons.mp distinct
      rw [changeOperations]
      cases found : item.operation? method with
      | none =>
          have skipped : item.operationsUnder (method :: rest) = item.operationsUnder rest :=
            List.filterMap_cons_none found
          rw [skipped]
          exact ih unique item
      | some operation =>
          have listed : item.operationsUnder (method :: rest) =
              operation :: item.operationsUnder rest :=
            List.filterMap_cons_some found
          rw [listed, Reported.diagnostics_bind, List.length_append, ih unique,
            operationsUnder_withOperation fresh]
          rfl

end ChangeOperations

/-- How many references of a path lead nowhere; its own parameters count once. -/
def dangling (shared : Shared) (item : PathItem) : Nat :=
  Referable.dangling shared.parameters item.parameters +
    (item.operations.map fun entry => entry.2.dangling shared).sum

/-- What becomes of a path: it has no parameters of its own, and every operation takes over those
that it had. -/
structure Resolves (shared : Shared) (written resolved : PathItem) : Prop where
  parameters : resolved.parameters = []
  operations : ∀ method, Option.Rel
    (Operation.Resolves shared (written.parameters.filterMap (target? shared.parameters)))
    (written.operation? method) (resolved.operation? method)

theorem Resolves.referenceFree {shared : Shared} {written resolved : PathItem}
    (resolves : Resolves shared written resolved) {method : Method} {operation : Operation}
    (found : resolved.operation? method = some operation) : operation.ReferenceFree := by
  have related := resolves.operations method
  rw [found] at related
  cases under : written.operation? method with
  | none =>
      rw [under] at related
      cases related
  | some original =>
      rw [under] at related
      cases related with
      | some step => exact step.referenceFree

/-- Whether filling in media types keeps what becomes of every operation. -/
def KeepsResolved (complete : Operation → Operation) : Prop :=
  ∀ shared inherited written resolved, Operation.Resolves shared inherited written resolved →
    Operation.Resolves shared inherited written (complete resolved)

section Inlined

variable (shared : Shared) (complete : Operation → Operation) (url : String) (item : PathItem)

theorem inlined_resolves (keeps : KeepsResolved complete) :
    Resolves shared item (item.inlined shared complete url).value := by
  constructor
  · rw [inlined, Reported.value_bind, changeOperations_parameters]
  · intro method
    rw [inlined, Reported.value_bind, changeOperations_operation? _ (by decide),
      if_pos (Method.mem_all method), Shared.parameterList_value]
    have same : ({ item with parameters := [] } : PathItem).operation? method =
        item.operation? method := by cases method <;> rfl
    rw [same]
    cases found : item.operation? method with
    | none => exact .none
    | some operation =>
        exact .some (keeps _ _ _ _ (operation.inlined_resolves shared url _))

theorem operationsUnder_all : item.operationsUnder Method.all = item.operations.map (·.2) := by
  unfold operationsUnder operations
  rw [List.map_filterMap]
  refine List.filterMap_congr fun method _ => ?_
  cases item.operation? method <;> rfl

theorem inlined_diagnostics :
    (item.inlined shared complete url).diagnostics.length = item.dangling shared := by
  have same : ({ item with parameters := [] } : PathItem).operationsUnder Method.all =
      item.operationsUnder Method.all := by
    refine List.filterMap_congr fun method _ => ?_
    cases method <;> rfl
  rw [inlined, Reported.diagnostics_bind, List.length_append, Shared.parameterList_diagnostics,
    changeOperations_diagnostics _ (by decide), same, operationsUnder_all, List.map_map, dangling]
  congr 3
  funext entry
  simp only [Function.comp_apply, Reported.diagnostics_bind, Reported.diagnostics_pure,
    List.append_nil, Operation.inlined_diagnostics]

end Inlined

/-- Whether paths are as before, under the same URLs, but for their references. -/
def AllResolve (shared : Shared) (written resolved : Entries PathItem) : Prop :=
  List.Forall₂ (fun before after => before.1 = after.1 ∧ Resolves shared before.2 after.2)
    written resolved

section InlinedEntries

variable (shared : Shared) (complete : Operation → Operation) (paths : Entries PathItem)

theorem inlinedEntries_resolve (keeps : KeepsResolved complete) :
    AllResolve shared paths (inlinedEntries shared complete paths).value := by
  induction paths with
  | nil => exact .nil
  | cons entry rest ih =>
      obtain ⟨url, item⟩ := entry
      exact .cons ⟨rfl, item.inlined_resolves shared complete url keeps⟩ ih

theorem inlinedEntries_diagnostics : (inlinedEntries shared complete paths).diagnostics.length =
    (paths.map fun entry => entry.2.dangling shared).sum := by
  induction paths with
  | nil => rfl
  | cons entry rest ih =>
      obtain ⟨url, item⟩ := entry
      rw [inlinedEntries, Reported.diagnostics_bind, Reported.diagnostics_bind]
      simp [ih, inlined_diagnostics]

end InlinedEntries

end PathItem

/-! ## Documents -/

namespace Source

/-- What the references of a document may lead to. The older dialect shares no request bodies. -/
def shared : Source → Shared
  | .swagger document => ⟨document.parameters, [], document.responses⟩
  | .openApi document =>
      let components := document.components.getD {}
      ⟨components.parameters, components.requestBodies, components.responses⟩

def paths : Source → Entries PathItem
  | .swagger document => document.paths
  | .openApi document => document.paths

/-- How many references of a document lead nowhere. -/
def dangling (source : Source) : Nat :=
  (source.paths.map fun entry => entry.2.dangling source.shared).sum

/-- A document in which each reference is replaced by what it leads to, and no reference is left;
with as many diagnostics as there are references that lead nowhere. -/
structure Resolved (source : Source) (result : Reported Document) : Prop where
  paths : PathItem.AllResolve source.shared source.paths result.value.paths
  free : ∀ entry ∈ result.value.paths, entry.2.parameters = [] ∧
    ∀ method operation, entry.2.operation? method = some operation → operation.ReferenceFree
  counted : result.diagnostics.length = source.dangling

end Source

theorem PathItem.AllResolve.free {shared : Shared} {written resolved : Entries PathItem}
    (all : AllResolve shared written resolved) {entry : String × PathItem}
    (member : entry ∈ resolved) : entry.2.parameters = [] ∧
      ∀ method operation, entry.2.operation? method = some operation →
        operation.ReferenceFree := by
  induction all with
  | nil => cases member
  | cons related _ ih =>
      cases member with
      | head => exact ⟨related.2.parameters, fun _ _ found => related.2.referenceFree found⟩
      | tail _ later => exact ih later

namespace Document

/-- No reference is left in a document of either dialect. -/
theorem references_resolved (source : Source) : source.Resolved (ofSource source) := by
  cases source with
  | swagger document =>
      have keeps : PathItem.KeepsResolved
          (Operation.withDefaultMedia document.consumes document.produces) :=
        fun _ _ _ _ resolves => resolves.withDefaultMedia _ _
      have all := PathItem.inlinedEntries_resolve
        ⟨document.parameters, [], document.responses⟩ _ document.paths keeps
      refine ⟨all, fun entry member => all.free member, ?_⟩
      rw [ofSource, ofSwagger, Reported.diagnostics_bind, Reported.diagnostics_pure,
        List.append_nil, PathItem.inlinedEntries_diagnostics]
      rfl
  | openApi document =>
      have keeps : PathItem.KeepsResolved Operation.withBodyMedia :=
        fun _ _ _ _ resolves => resolves.withDefaultMedia _ _
      have all := PathItem.inlinedEntries_resolve (Source.openApi document).shared _
        document.paths keeps
      refine ⟨all, fun entry member => all.free member, ?_⟩
      rw [ofSource, ofOpenApi, Reported.diagnostics_bind, Reported.diagnostics_pure,
        List.append_nil, PathItem.inlinedEntries_diagnostics]
      rfl

/-- A path with two parameters of its own and two operations; one reference of each kind is found and
one is not. -/
def sharingSource : Source :=
  let list : Operation :=
    { parameters := [.reference "#/components/parameters/page", .reference "#/components/parameters/no",
        .inline { name := "limit", location := .query, required := true }]
      requestBody := some (.reference "#/components/requestBodies/filter")
      responses := [("404", .reference "#/components/responses/no"),
        ("200", .reference "#/components/responses/pets"), ("500", .inline {})] }
  let add : Operation := { requestBody := some (.reference "#/components/requestBodies/no") }
  let item : PathItem :=
    { parameters := [.reference "#/components/parameters/limit", .reference "#/components/parameters/no"]
      get := some list
      post := some add }
  .openApi
    { paths := [("/pets", item)]
      components := some
        { parameters := [("page", { name := "page", location := .query }),
            ("limit", { name := "limit", location := .query })]
          requestBodies := [("filter", { required := true })]
          responses := [("pets", { description := "all pets" })] } }

/-- The limit of the path gives way to that of the operation and is taken over by the other one. There
are four references that lead nowhere; that of the path counts once. -/
theorem references_resolved_sharing :
    let operations := (ofSource sharingSource).value.paths.flatMap fun entry => entry.2.operations
    sharingSource.Resolved (ofSource sharingSource) ∧
      (operations.map fun entry => (entry.2.parameters.filterMap Referable.value?).map fun parameter =>
          (parameter.name, parameter.required)) =
        [[("limit", true), ("page", false)], [("limit", false)]] ∧
      (operations.map fun entry =>
          (entry.2.requestBody.bind Referable.value?).map RequestBody.required) =
        [some true, none] ∧
      (operations.map fun entry => entry.2.responses.map fun response =>
          (response.1, response.2.value?.bind Response.description)) =
        [[("404", none), ("200", some "all pets"), ("500", none)], []] ∧
      (ofSource sharingSource).diagnostics.length = 4 := by
  have resolved := references_resolved sharingSource
  have lost : sharingSource.dangling = 4 := by decide +kernel
  exact ⟨resolved, by decide +kernel, by decide +kernel, by decide +kernel,
    resolved.counted.trans lost⟩

end Document

end ClientGen
