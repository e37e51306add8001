import ClientGen.Proofs.Endpoint.Resolution

/-!
The names of operations. A name that the document gives belongs to the first operation that gives
it, and any other name is the first one on from that of the path that is free. An operation whose
name had to be changed is named by one warning.
-/

set_option autoImplicit false

namespace ClientGen.Candidate

variable {rules : PathRules} {paths : Entries PathItem}

/-! ## Operations with their entries -/

/-- The operations of a document that no error names, each with its entry. -/
def named (rules : PathRules) (paths : Entries PathItem) : List (Candidate × String × Endpoint) :=
  (unreported rules paths).zip (Endpoint.ofPaths rules paths).value

theorem mem_keptOf {turn : Turn} (member : turn ∈ run rules paths) :
    turn.candidate ∈ keptOf rules paths := by
  have kept : turn.candidate ∈ (run rules paths).map Turn.candidate := List.mem_map_of_mem member
  rwa [run, map_candidate_turns] at kept

theorem explicitIds_subset_taken {turn : Turn} (member : turn ∈ run rules paths) :
    explicitIds (ofPaths rules.filter paths) ⊆ turn.taken :=
  subset_taken member

/-- An operation that is not dropped is the first one that gives its name. -/
theorem find?_of_kept {candidate : Candidate} {name : String}
    (kept : candidate ∈ keptOf rules paths) (explicit : candidate.explicitId? = some name) :
    (ofPaths rules.filter paths).find? (fun other => other.explicitId? = some name) =
      some candidate := by
  obtain ⟨dropped, parted, -⟩ := ofPaths_spec rules paths
  rw [← parted.find?_kept List.not_mem_nil]
  have apart := parted.explicitIds_kept.1
  rw [explicitIds, List.Nodup, List.pairwise_filterMap] at apart
  obtain ⟨before, after, split⟩ := List.append_of_mem kept
  rw [split, List.pairwise_append] at apart
  rw [split, List.find?_append, Option.or_eq_some_iff]
  refine .inr ⟨List.find?_eq_none.mpr fun other member => ?_, by simp [explicit]⟩
  simpa using fun same => apart.2.2 other member candidate (.head _) name same name explicit rfl

/-- An entry under a name that the document gives comes from the first operation that gives it. -/
theorem candidate_of_given {turn : Turn} (member : turn ∈ run rules paths)
    {entry : String × Endpoint} (found : (turn.result rules).value = some entry)
    (given : entry.1 ∈ explicitIds (ofPaths rules.filter paths)) :
    (ofPaths rules.filter paths).find? (fun other => other.explicitId? = some entry.1) =
        some turn.candidate ∧ (turn.candidate.tag? rules).isSome := by
  obtain ⟨notes, outcome⟩ := Turn.outcome_of_value found
  cases outcome with
  | given tagged explicit => exact ⟨find?_of_kept (mem_keptOf member) explicit, by simp [tagged]⟩
  | derived _ _ _ free => exact absurd (explicitIds_subset_taken member given) free.not_mem

/-- The first operation that gives a name gets its entry under that name if it has a tag. -/
theorem entry_of_first {first : Candidate} {name tag : String}
    (isFirst : (ofPaths rules.filter paths).find? (fun other => other.explicitId? = some name) =
      some first) (tagged : first.tag? rules = some tag) :
    ∃ turn ∈ run rules paths, turn.candidate = first ∧
      (turn.result rules).value = some (name, (first.describe name tag).value) := by
  obtain ⟨dropped, parted, -⟩ := ofPaths_spec rules paths
  rw [← parted.find?_kept List.not_mem_nil] at isFirst
  have explicit : first.explicitId? = some name := by simpa using List.find?_some isFirst
  have kept : first ∈ (run rules paths).map Turn.candidate := by
    rw [run, map_candidate_turns]
    exact List.mem_of_find?_eq_some isFirst
  obtain ⟨turn, member, rfl⟩ := List.mem_map.mp kept
  refine ⟨turn, member, rfl, ?_⟩
  cases value : (turn.result rules).value with
  | none =>
      obtain ⟨notes, outcome⟩ := Turn.outcome_of_value value
      cases outcome with
      | untagged untagged => simp [tagged] at untagged
      | unnamed _ unnamed _ => simp [explicit] at unnamed
  | some entry =>
      obtain ⟨notes, outcome⟩ := Turn.outcome_of_value value
      cases outcome with
      | given itsTag itsName =>
          cases itsTag.symm.trans tagged
          cases itsName.symm.trans explicit
          rfl
      | derived _ unnamed _ _ => simp [explicit] at unnamed

/-! ## Names that are made -/

/-- All that is reported at a turn is about its operation. -/
theorem Outcome.subject {taken : List String} {candidate : Candidate}
    {found : Option (String × Endpoint)} {notes : List Diagnostic}
    (outcome : Outcome rules taken candidate found notes) :
    ∀ note ∈ notes, note.subject = candidate.subject := by
  have described : ∀ name tag, ∀ note ∈ (candidate.describe name tag).diagnostics,
      note.subject = candidate.subject := by
    intro name tag note member
    rcases describe_diagnostics candidate name tag with none | missing
    · simp [none] at member
    · rw [missing, List.mem_singleton] at member
      rw [member, missingReplyNote]
  cases outcome with
  | untagged => simp
  | unnamed => simp
  | given => exact described _ _
  | derived =>
      intro note member
      rcases List.mem_append.mp member with renamed | other
      · unfold renameNotes at renamed
        split at renamed
        · simp at renamed
        · rw [List.mem_singleton] at renamed
          rw [renamed]
      · exact described _ _ note other

end ClientGen.Candidate
