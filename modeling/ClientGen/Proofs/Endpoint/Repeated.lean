import ClientGen.Endpoint.OfPaths
import Mathlib.Data.List.Nodup

/-!
Operations with the name of an earlier one. The first operation that gives a name keeps it, whatever
becomes of that operation later, and every other operation that gives it is dropped and reported.
-/

set_option autoImplicit false

namespace ClientGen.Candidate

/-- A list of operations is split into those that are kept and those that are dropped, if the names
in `seen` have been given before. -/
inductive Parted : List String → List Candidate → List Candidate → List Candidate → Prop where
  | done (seen : List String) : Parted seen [] [] []
  | unnamed {seen : List String} {candidate : Candidate} {rest kept dropped : List Candidate} :
      candidate.explicitId? = none → Parted seen rest kept dropped →
      Parted seen (candidate :: rest) (candidate :: kept) dropped
  | first {seen : List String} {candidate : Candidate} {rest kept dropped : List Candidate}
      {name : String} : candidate.explicitId? = some name → name ∉ seen →
      Parted (name :: seen) rest kept dropped →
      Parted seen (candidate :: rest) (candidate :: kept) dropped
  | again {seen : List String} {candidate : Candidate} {rest kept dropped : List Candidate}
      {name : String} : candidate.explicitId? = some name → name ∈ seen →
      Parted seen rest kept dropped →
      Parted seen (candidate :: rest) kept (candidate :: dropped)

/-- The error for an operation that is dropped. -/
def duplicateNote (candidate : Candidate) : Diagnostic :=
  ⟨.error, candidate.subject,
    "duplicate operationId `" ++ candidate.explicitId?.getD "" ++ "`, operation dropped"⟩

theorem dropRepeated_spec (seen : List String) (candidates : List Candidate) :
    ∃ dropped, Parted seen candidates (dropRepeated seen candidates).value dropped ∧
      (dropRepeated seen candidates).diagnostics = dropped.map duplicateNote := by
  induction candidates generalizing seen with
  | nil => exact ⟨[], .done seen, rfl⟩
  | cons candidate rest ih =>
      cases explicit : candidate.explicitId? with
      | none =>
          obtain ⟨dropped, parted, notes⟩ := ih seen
          simp only [dropRepeated, explicit, Reported.value_bind, Reported.value_pure,
            Reported.diagnostics_bind, Reported.diagnostics_pure, List.append_nil]
          exact ⟨dropped, .unnamed explicit parted, notes⟩
      | some name =>
          by_cases repeated : name ∈ seen
          · obtain ⟨dropped, parted, notes⟩ := ih seen
            simp only [dropRepeated, explicit, List.contains_iff_mem.mpr repeated, if_true,
              Reported.value_bind, Reported.diagnostics_bind]
            refine ⟨candidate :: dropped, .again explicit repeated parted, ?_⟩
            simp only [notes, List.map_cons, duplicateNote, explicit, Option.getD_some]
            rfl
          · obtain ⟨dropped, parted, notes⟩ := ih (name :: seen)
            have unseen : seen.contains name = false := by simpa using repeated
            simp only [dropRepeated, explicit, unseen, Bool.false_eq_true, if_false,
              Reported.value_bind, Reported.value_pure, Reported.diagnostics_bind,
              Reported.diagnostics_pure, List.append_nil]
            exact ⟨dropped, .first explicit repeated parted, notes⟩

namespace Parted

variable {seen : List String} {candidates kept dropped : List Candidate}

theorem sublist (parted : Parted seen candidates kept dropped) : kept.Sublist candidates := by
  induction parted with
  | done => exact .slnil
  | unnamed _ _ ih => exact ih.cons_cons _
  | first _ _ _ ih => exact ih.cons_cons _
  | again _ _ _ ih => exact ih.cons _

theorem perm (parted : Parted seen candidates kept dropped) :
    candidates.Perm (kept ++ dropped) := by
  induction parted with
  | done => exact .refl _
  | unnamed _ _ ih => exact ih.cons _
  | first _ _ _ ih => exact ih.cons _
  | again _ _ _ ih => exact (ih.cons _).trans List.perm_middle.symm

/-- Each name is given by at most one operation that is kept, and by none if it was seen before. -/
theorem explicitIds_kept (parted : Parted seen candidates kept dropped) :
    (explicitIds kept).Nodup ∧ ∀ name ∈ explicitIds kept, name ∉ seen := by
  induction parted with
  | done => simp [explicitIds]
  | unnamed explicit _ ih => simpa [explicitIds, explicit] using ih
  | @first seen _ _ _ _ name explicit unseen _ ih =>
      obtain ⟨distinct, unseenRest⟩ := ih
      simp only [explicitIds] at distinct unseenRest
      simp only [explicitIds, List.filterMap_cons, explicit, List.nodup_cons, List.mem_cons,
        forall_eq_or_imp]
      refine ⟨⟨fun member => unseenRest name member (.head _), distinct⟩, unseen, ?_⟩
      exact fun other member inSeen => unseenRest other member (.tail _ inSeen)
  | again _ _ _ ih => exact ih

/-- An operation is kept if no earlier one gives its name. -/
theorem find?_kept (parted : Parted seen candidates kept dropped) {name : String}
    (unseen : name ∉ seen) :
    kept.find? (fun candidate => candidate.explicitId? = some name) =
      candidates.find? fun candidate => candidate.explicitId? = some name := by
  induction parted with
  | done => rfl
  | unnamed explicit _ ih => simp [explicit, ih unseen]
  | @first _ _ _ _ _ other explicit _ _ ih =>
      by_cases same : other = name
      · simp [explicit, same]
      · have later := ih (by simp [unseen, Ne.symm same])
        simp [explicit, same, later]
  | @again _ _ _ _ _ other explicit repeated _ ih =>
      have different : other ≠ name := fun same => unseen (same ▸ repeated)
      simp [explicit, different, ih unseen]

end Parted

end ClientGen.Candidate
