import ClientGen.Proofs.Document.References

/-!
The parameters of an operation after those of its path have been merged into them. A parameter is
told apart by its name and its location. The parameters of the operation itself collapse to the last
one under each key, but those of the path are taken over as they are: only the first of several that
share a key gives way to a parameter of the operation. So the effective parameters are distinct
exactly if those of the path are.
-/

set_option autoImplicit false

namespace ClientGen

namespace Parameter

/-- Whether no two parameters have the same name and location. -/
def Distinct (parameters : List Parameter) : Prop := (parameters.map key).Nodup

instance (parameters : List Parameter) : Decidable (Distinct parameters) :=
  inferInstanceAs (Decidable (parameters.map key).Nodup)

theorem keys_override (parameter : Parameter) (merged : List Parameter) :
    (parameter.override merged).map key =
      if parameter.key ∈ merged.map key then merged.map key
      else merged.map key ++ [parameter.key] := by
  induction merged with
  | nil => rfl
  | cons first rest ih =>
      rw [override]
      by_cases same : first.sameKey parameter
      · have keys := sameKey_iff.mp same
        simp [same, keys]
      · have apart : parameter.key ≠ first.key := fun keys => same (sameKey_iff.mpr keys.symm)
        rw [if_neg same, List.map_cons, ih, List.map_cons]
        by_cases present : parameter.key ∈ rest.map key
        · rw [if_pos present, if_pos (List.mem_cons_of_mem _ present)]
        · have fresh : parameter.key ∉ first.key :: rest.map key := by
            rw [List.mem_cons, not_or]
            exact ⟨apart, present⟩
          rw [if_neg present, if_neg fresh, List.cons_append]

theorem distinct_override_iff (parameter : Parameter) (merged : List Parameter) :
    Distinct (parameter.override merged) ↔ Distinct merged := by
  rw [Distinct, keys_override]
  split
  · exact Iff.rfl
  · next fresh =>
      rw [(List.perm_append_singleton _ _).nodup_iff, List.nodup_cons]
      exact and_iff_right fresh

/-- One parameter of the operation takes the place of one of the path at most. -/
theorem under_override (wanted : String × Location) (parameter : Parameter)
    (merged : List Parameter) : under wanted (parameter.override merged) =
      if parameter.key = wanted then parameter :: (under wanted merged).tail
      else under wanted merged := by
  induction merged with
  | nil => exact under_cons wanted parameter []
  | cons first rest ih =>
      rw [override]
      by_cases same : first.sameKey parameter
      · have keys := sameKey_iff.mp same
        rw [if_pos same, under_cons, under_cons, keys]
        split <;> rfl
      · have apart : first.key ≠ parameter.key := fun keys => same (sameKey_iff.mpr keys)
        rw [if_neg same, under_cons, under_cons, ih]
        by_cases asked : parameter.key = wanted
        · have other : first.key ≠ wanted := fun keys => apart (keys.trans asked.symm)
          rw [if_pos asked, if_neg other, if_pos asked, if_neg other]
        · rw [if_neg asked, if_neg asked]

theorem distinct_merge_iff (inherited own : List Parameter) :
    Distinct (merge inherited own) ↔ Distinct inherited := by
  induction own generalizing inherited with
  | nil => exact Iff.rfl
  | cons first rest ih =>
      rw [merge, List.foldl_cons]
      exact (ih _).trans (distinct_override_iff first inherited)

/-- Under a key of the operation stands its last parameter with that key, and behind it all but the
first that the path has there. -/
theorem under_merge (wanted : String × Location) (inherited own : List Parameter) :
    under wanted (merge inherited own) =
      match (under wanted own).getLast? with
      | none => under wanted inherited
      | some last => last :: (under wanted inherited).tail := by
  induction own generalizing inherited with
  | nil => rfl
  | cons first rest ih =>
      rw [merge, List.foldl_cons]
      refine (ih _).trans ?_
      rw [under_override, under_cons]
      by_cases asked : first.key = wanted
      · rw [if_pos asked, if_pos asked, List.getLast?_cons]
        cases (under wanted rest).getLast? <;> rfl
      · rw [if_neg asked, if_neg asked]

/-- A parameter of the operation replaces all that the path has under its key exactly if the path has
no two of them. -/
theorem under_merge_eq_last_iff {inherited own : List Parameter} {parameter : Parameter}
    (isOwn : parameter ∈ own) : under parameter.key (merge inherited own) =
      (under parameter.key own).getLast?.toList ↔ (under parameter.key inherited).length ≤ 1 := by
  rw [under_merge]
  cases last : (under parameter.key own).getLast? with
  | none =>
      have absent := under_eq_nil_iff.mp (List.getLast?_eq_none_iff.mp last)
      exact absurd (List.mem_map_of_mem isOwn) absent
  | some final =>
      cases under parameter.key inherited with
      | nil => simp
      | cons first rest => simp

end Parameter

open Referable (target?)

namespace Operation

/-- Whether the parameters of an operation are all in place, no two of them with the same name and
location. -/
def HasDistinctParameters (operation : Operation) : Prop :=
  ∃ parameters, operation.parameters = parameters.map .inline ∧ Parameter.Distinct parameters

theorem hasDistinctParameters_iff {operation : Operation} {parameters : List Parameter}
    (inPlace : operation.parameters = parameters.map .inline) :
    operation.HasDistinctParameters ↔ Parameter.Distinct parameters := by
  constructor
  · rintro ⟨others, same, distinct⟩
    have equal : parameters = others := by
      refine List.map_injective_iff.mpr (fun _ _ => Referable.inline.inj) ?_
      rw [← inPlace, same]
    rwa [equal]
  · exact fun distinct => ⟨parameters, inPlace, distinct⟩

/-- The parameters that an operation brings along itself. -/
def own (shared : Shared) (written : Operation) : List Parameter :=
  written.parameters.filterMap (target? shared.parameters)

/-- Where a parameter of an operation is the only effective one under its key: just where its path has
no two of that key. -/
def ReplacesInherited (shared : Shared) (inherited : List Parameter)
    (written resolved : Operation) : Prop :=
  ∃ effective, resolved.parameters = effective.map .inline ∧
    ∀ parameter ∈ written.own shared,
      (Parameter.under parameter.key effective =
          (Parameter.under parameter.key (written.own shared)).getLast?.toList ↔
        (Parameter.under parameter.key inherited).length ≤ 1)

variable {shared : Shared} {inherited : List Parameter} {written resolved : Operation}

theorem Resolves.parameters_eq_merge (resolves : Resolves shared inherited written resolved) :
    resolved.parameters = (Parameter.merge inherited (written.own shared)).map .inline := by
  obtain ⟨merged, update, inPlace⟩ := resolves.parameters
  rw [inPlace, update.eq_merge]
  rfl

theorem Resolves.hasDistinctParameters_iff (resolves : Resolves shared inherited written resolved) :
    resolved.HasDistinctParameters ↔ Parameter.Distinct inherited :=
  (Operation.hasDistinctParameters_iff resolves.parameters_eq_merge).trans
    (Parameter.distinct_merge_iff inherited (written.own shared))

theorem Resolves.replacesInherited (resolves : Resolves shared inherited written resolved) :
    ReplacesInherited shared inherited written resolved :=
  ⟨_, resolves.parameters_eq_merge, fun _ isOwn => Parameter.under_merge_eq_last_iff isOwn⟩

end Operation

namespace PathItem

/-- The parameters that each operation of a path takes over. -/
def inherited (shared : Shared) (item : PathItem) : List Parameter :=
  item.parameters.filterMap (target? shared.parameters)

/-- Whether no operation of a path has two parameters with the same name and location. -/
def HasDistinctParameters (item : PathItem) : Prop :=
  ∀ method operation, item.operation? method = some operation → operation.HasDistinctParameters

/-- Whether the parameters of a path are distinct, as far as any operation takes them over. -/
def InheritsDistinct (shared : Shared) (item : PathItem) : Prop :=
  ∀ method, (item.operation? method).isSome → Parameter.Distinct (item.inherited shared)

variable {shared : Shared}

theorem Resolves.hasDistinctParameters_iff {written resolved : PathItem}
    (resolves : Resolves shared written resolved) :
    resolved.HasDistinctParameters ↔ written.InheritsDistinct shared := by
  refine forall_congr' fun method => ?_
  have related := resolves.operations method
  generalize written.operation? method = before at related ⊢
  generalize resolved.operation? method = after at related ⊢
  cases related with
  | none => simp
  | some step =>
      have distinct := step.hasDistinctParameters_iff
      change _ ↔ Parameter.Distinct (written.inherited shared) at distinct
      simpa using distinct

theorem Resolves.replacesInherited {written resolved : PathItem}
    (resolves : Resolves shared written resolved) (method : Method) :
    Option.Rel (Operation.ReplacesInherited shared (written.inherited shared))
      (written.operation? method) (resolved.operation? method) := by
  have related := resolves.operations method
  generalize written.operation? method = before at related ⊢
  generalize resolved.operation? method = after at related ⊢
  cases related with
  | none => exact .none
  | some step => exact .some step.replacesInherited

theorem AllResolve.hasDistinctParameters_iff {written resolved : Entries PathItem}
    (all : AllResolve shared written resolved) :
    (∀ entry ∈ resolved, entry.2.HasDistinctParameters) ↔
      ∀ entry ∈ written, entry.2.InheritsDistinct shared := by
  induction all with
  | nil => simp
  | cons related _ ih =>
      rw [List.forall_mem_cons, List.forall_mem_cons, ih, related.2.hasDistinctParameters_iff]

end PathItem

namespace Document

theorem allResolve_ofSource (source : Source) :
    PathItem.AllResolve source.shared source.paths (ofSource source).value.paths := by
  cases source with
  | swagger document =>
      exact PathItem.inlinedEntries_resolve _ _ document.paths
        fun _ _ _ _ resolves => resolves.withDefaultMedia _ _
  | openApi document =>
      exact PathItem.inlinedEntries_resolve _ _ document.paths
        fun _ _ _ _ resolves => resolves.withDefaultMedia _ _

/-- No operation has two parameters with the same name and location exactly if no path with an
operation has. A parameter of an operation replaces all that its path has under its name and location
exactly if the path has no two of them. -/
theorem effective_parameters_unique_iff (source : Source) :
    ((∀ entry ∈ (ofSource source).value.paths, entry.2.HasDistinctParameters) ↔
      ∀ entry ∈ source.paths, entry.2.InheritsDistinct source.shared) ∧
    List.Forall₂ (fun before after => before.1 = after.1 ∧ ∀ method,
        Option.Rel
          (Operation.ReplacesInherited source.shared (before.2.inherited source.shared))
          (before.2.operation? method) (after.2.operation? method))
      source.paths (ofSource source).value.paths := by
  have all := allResolve_ofSource source
  refine ⟨all.hasDistinctParameters_iff, all.imp fun before after related => ?_⟩
  exact ⟨related.1, related.2.replacesInherited⟩

/-- A path with two parameters under one key, the second of them required; so is the parameter of its
operation under the same key. -/
def pagedSource : Source :=
  let limit : Parameter := { name := "limit", location := .query }
  .swagger { paths := [("/pets",
    { parameters := [.inline limit, .inline { limit with required := true }]
      get := some { parameters := [.inline { limit with description := some "page size" }] } })] }

/-- The second parameter of the path stays beside the one of the operation. -/
theorem repeated_path_parameter_stays :
    ¬ ∀ entry ∈ (ofSource pagedSource).value.paths, entry.2.HasDistinctParameters := by
  intro distinct
  have all := (allResolve_ofSource pagedSource).hasDistinctParameters_iff.mp distinct
  have path := all _ (.head _) .get rfl
  revert path
  decide

end Document

end ClientGen
