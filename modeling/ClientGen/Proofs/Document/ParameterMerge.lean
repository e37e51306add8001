import ClientGen.Proofs.Distinct
import ClientGen.References

/-!
The parameters of a path, merged with those of an operation, as a keyed update. A parameter is told
apart by its name and its location. The first parameter of the path under a key gives way to the last
one of the operation under it, every other one of the path stays, and what is left of the operation
comes behind, each key once. An update is given by this in full: there is no other one.
-/

set_option autoImplicit false

namespace ClientGen.Parameter

/-- What a parameter is told apart by. -/
def key (parameter : Parameter) : String × Location := (parameter.name, parameter.location)

/-- The parameters with a name and a location, in order. -/
def under (wanted : String × Location) (parameters : List Parameter) : List Parameter :=
  parameters.filter fun parameter => parameter.key = wanted

theorem sameKey_iff {first second : Parameter} :
    first.sameKey second = true ↔ first.key = second.key := by
  simp [sameKey, key]

theorem under_cons (wanted : String × Location) (first : Parameter) (rest : List Parameter) :
    under wanted (first :: rest) =
      if first.key = wanted then first :: under wanted rest else under wanted rest := by
  simp [under, List.filter_cons]

theorem under_eq_nil_iff {wanted : String × Location} {parameters : List Parameter} :
    under wanted parameters = [] ↔ wanted ∉ parameters.map key := by
  simp [under]

/-- The last parameter with a name and a location. -/
def lastUnder? (wanted : String × Location) (parameters : List Parameter) : Option Parameter :=
  (under wanted parameters).getLast?

/-- The parameters that do not have a name and a location. -/
def without (unwanted : String × Location) (parameters : List Parameter) : List Parameter :=
  parameters.filter fun parameter => parameter.key ≠ unwanted

/-- The keys of an operation that its path does not have, in the order in which they come first. -/
def newKeys (inherited own : List Parameter) : List (String × Location) :=
  (own.map key).eraseDups.filter fun wanted => wanted ∉ inherited.map key

section Keys

variable {wanted unwanted : String × Location} {own : List Parameter}

theorem lastUnder?_cons (wanted : String × Location) (first : Parameter) (rest : List Parameter) :
    lastUnder? wanted (first :: rest) =
      if first.key = wanted then some ((lastUnder? wanted rest).getD first)
      else lastUnder? wanted rest := by
  rw [lastUnder?, under_cons]
  split
  · rw [List.getLast?_cons]
    rfl
  · rfl

theorem lastUnder?_without (apart : wanted ≠ unwanted) :
    lastUnder? wanted (without unwanted own) = lastUnder? wanted own := by
  have same : under wanted (without unwanted own) = under wanted own := by
    rw [under, without, List.filter_filter]
    refine List.filter_congr fun parameter _ => ?_
    by_cases asked : parameter.key = wanted
    · simp [asked, apart]
    · simp [asked]
  rw [lastUnder?, same, lastUnder?]

theorem isSome_lastUnder? : (lastUnder? wanted own).isSome ↔ wanted ∈ own.map key := by
  cases found : lastUnder? wanted own with
  | none =>
      have absent := under_eq_nil_iff.mp (List.getLast?_eq_none_iff.mp found)
      simpa using absent
  | some last =>
      have listed := List.mem_of_getLast? found
      rw [under, List.mem_filter, decide_eq_true_eq] at listed
      simpa using ⟨last, listed⟩

theorem keys_without (unwanted : String × Location) (own : List Parameter) :
    (without unwanted own).map key = (own.map key).filter fun wanted => wanted ≠ unwanted := by
  rw [without, List.filter_map]
  rfl

end Keys

/-! ## One parameter of the path at a time -/

/-- The first parameter of a path meets all parameters of the operation with its key, and what comes
behind it meets the others. -/
theorem merge_cons (first : Parameter) (rest own : List Parameter) :
    merge (first :: rest) own =
      (lastUnder? first.key own).getD first :: merge rest (without first.key own) := by
  induction own generalizing first rest with
  | nil => rfl
  | cons parameter others ih =>
      have step : merge (first :: rest) (parameter :: others) =
          merge (parameter.override (first :: rest)) others := rfl
      rw [step, override, lastUnder?_cons]
      by_cases same : parameter.key = first.key
      · have replaced : first.sameKey parameter = true := sameKey_iff.mpr same.symm
        have dropped : without first.key (parameter :: others) = without first.key others := by
          simp [without, same]
        rw [if_pos replaced, ih, if_pos same, dropped, same]
        rfl
      · have apart : ¬ first.sameKey parameter = true := fun keys => same (sameKey_iff.mp keys).symm
        have kept : without first.key (parameter :: others) =
            parameter :: without first.key others := by
          simp [without, same]
        rw [if_neg apart, ih, if_neg same, kept]
        rfl

/-- Without parameters of the path, those of the operation collapse to the last under each key. -/
theorem merge_nil (own : List Parameter) :
    (merge [] own).map some = (own.map key).eraseDups.map fun wanted => lastUnder? wanted own := by
  cases own with
  | nil => rfl
  | cons first rest =>
      have step : merge [] (first :: rest) = merge [first] rest := rfl
      have others : (rest.map key).filter (fun wanted => !wanted == first.key) =
          (without first.key rest).map key := by
        rw [keys_without]
        exact List.filter_congr fun wanted _ => by
          by_cases same : wanted = first.key <;> simp [same]
      rw [step, merge_cons, List.map_cons, merge_nil, List.map_cons, List.eraseDups_cons, others,
        List.map_cons, lastUnder?_cons, if_pos rfl]
      refine congrArg _ (List.map_congr_left fun wanted member => ?_)
      have apart : wanted ≠ first.key := by
        have listed := List.mem_eraseDups.mp member
        rw [keys_without, List.mem_filter] at listed
        simpa using listed.2
      rw [lastUnder?_without apart, lastUnder?_cons, if_neg apart.symm]
termination_by own.length
decreasing_by exact Nat.lt_succ_of_le (List.length_filter_le _ _)

theorem newKeys_cons (first : Parameter) (rest own : List Parameter) :
    newKeys (first :: rest) own = newKeys rest (without first.key own) := by
  rw [newKeys, newKeys, keys_without, ← filter_eraseDups, List.filter_filter]
  refine List.filter_congr fun wanted _ => ?_
  by_cases same : wanted = first.key <;> simp [same]

/-! ## The keyed update -/

/-- The parameters of a path, updated by those of an operation. -/
structure IsUpdate (inherited own merged : List Parameter) : Prop where
  length_eq : merged.length = inherited.length + (newKeys inherited own).length
  /-- The first parameter under a key that the operation has gives way to the last one there. -/
  replaced : ∀ index parameter last, inherited[index]? = some parameter →
    parameter.key ∉ (inherited.take index).map key → lastUnder? parameter.key own = some last →
    merged[index]? = some last
  /-- A parameter stays if its key is not there for the first time or is none of the operation. -/
  kept : ∀ index parameter, inherited[index]? = some parameter →
    parameter.key ∈ (inherited.take index).map key ∨ parameter.key ∉ own.map key →
    merged[index]? = some parameter
  /-- Behind stand the keys that the path does not have, each with its last parameter. -/
  added : (merged.drop inherited.length).map some =
    (newKeys inherited own).map fun wanted => lastUnder? wanted own

theorem isUpdate_nil (own : List Parameter) : IsUpdate [] own (merge [] own) := by
  have keys : newKeys [] own = (own.map key).eraseDups := by simp [newKeys]
  have whole := merge_nil own
  rw [← keys] at whole
  constructor
  · have lengths := congrArg List.length whole
    simpa using lengths
  · intro index parameter last found
    simp at found
  · intro index parameter found
    simp at found
  · exact whole

theorem IsUpdate.cons {first : Parameter} {rest own merged : List Parameter}
    (update : IsUpdate rest (without first.key own) merged) :
    IsUpdate (first :: rest) own ((lastUnder? first.key own).getD first :: merged) := by
  have keys := newKeys_cons first rest own
  constructor
  · rw [keys, List.length_cons, List.length_cons, update.length_eq]
    omega
  · intro index parameter last found isFirst given
    cases index with
    | zero =>
        cases found
        rw [given]
        rfl
    | succ index =>
        rw [List.take_succ_cons, List.map_cons, List.mem_cons, not_or] at isFirst
        rw [← lastUnder?_without isFirst.1] at given
        exact update.replaced index parameter last found isFirst.2 given
  · intro index parameter found stays
    cases index with
    | zero =>
        cases found
        have absent : first.key ∉ own.map key := by simpa using stays
        have none : lastUnder? first.key own = none := by
          rw [← Option.not_isSome_iff_eq_none, isSome_lastUnder?]
          exact absent
        rw [none]
        rfl
    | succ index =>
        refine update.kept index parameter found ?_
        rw [keys_without, List.mem_filter]
        rw [List.take_succ_cons, List.map_cons, List.mem_cons] at stays
        by_cases same : parameter.key = first.key
        · simp [same]
        · simpa [same] using stays
  · rw [keys, List.length_cons, List.drop_succ_cons, update.added]
    refine List.map_congr_left fun wanted member => ?_
    have listed := List.mem_eraseDups.mp (List.mem_filter.mp member).1
    rw [keys_without, List.mem_filter] at listed
    exact lastUnder?_without (by simpa using listed.2)

theorem isUpdate_merge (inherited own : List Parameter) :
    IsUpdate inherited own (merge inherited own) := by
  induction inherited generalizing own with
  | nil => exact isUpdate_nil own
  | cons first rest ih =>
      rw [merge_cons]
      exact (ih _).cons

/-- Each parameter of the path either gives way or stays, and what stands behind them is given. -/
theorem IsUpdate.unique {inherited own merged other : List Parameter}
    (first : IsUpdate inherited own merged) (second : IsUpdate inherited own other) :
    merged = other := by
  have places (index : Nat) (before : index < inherited.length) :
      merged[index]? = other[index]? := by
    have found : inherited[index]? = some inherited[index] := List.getElem?_eq_getElem before
    by_cases again : inherited[index].key ∈ (inherited.take index).map key
    · rw [first.kept index _ found (.inl again), second.kept index _ found (.inl again)]
    · cases given : lastUnder? inherited[index].key own with
      | none =>
          have absent : inherited[index].key ∉ own.map key := by
            rw [← isSome_lastUnder?, given]
            exact Bool.false_ne_true
          rw [first.kept index _ found (.inr absent), second.kept index _ found (.inr absent)]
      | some last =>
          rw [first.replaced index _ last found again given,
            second.replaced index _ last found again given]
  have front : merged.take inherited.length = other.take inherited.length := by
    refine List.ext_getElem? fun index => ?_
    rw [List.getElem?_take, List.getElem?_take]
    split
    · next before => exact places index before
    · rfl
  have behind : merged.drop inherited.length = other.drop inherited.length :=
    List.map_injective_iff.mpr (fun _ _ => Option.some.inj) (first.added.trans second.added.symm)
  rw [← List.take_append_drop inherited.length merged, front, behind, List.take_append_drop]

theorem IsUpdate.eq_merge {inherited own merged : List Parameter}
    (update : IsUpdate inherited own merged) : merged = merge inherited own :=
  update.unique (isUpdate_merge inherited own)

/-- Merging parameters is a keyed update. -/
theorem merge_isUpdate (inherited own : List Parameter) :
    IsUpdate inherited own (merge inherited own) :=
  isUpdate_merge inherited own

end ClientGen.Parameter
