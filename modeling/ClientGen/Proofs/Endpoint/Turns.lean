import ClientGen.Proofs.Endpoint.Candidates
import ClientGen.Proofs.Names.FirstFree

/-!
Operations take turns. At its turn an operation gets an entry, and its name is taken from then on,
or it is reported by one error. All that a turn reports is about its operation, and the name that it
makes up is free at that time.
-/

set_option autoImplicit false

namespace ClientGen.Candidate

/-! ## One operation -/

def outcome (rules : PathRules) (taken : List String) (candidate : Candidate) :
    Reported (Option (String × Endpoint)) :=
  match candidate.tag? rules with
  | none => do
      Reported.note .error candidate.subject "operation has no tag, excluded"
      return none
  | some tag => do
      match ← candidate.chooseName rules taken with
      | none => return none
      | some name =>
          let endpoint ← candidate.describe name tag
          return some (name, endpoint)

def renameNotes (candidate : Candidate) (base name : String) : List Diagnostic :=
  if name = base then []
  else [⟨.warning, candidate.subject,
    "operation name `" ++ base ++ "` already used, renamed to `" ++ name ++ "`"⟩]

/-- All that can become of an operation, with what is reported. -/
inductive Outcome (rules : PathRules) (taken : List String) (candidate : Candidate) :
    Option (String × Endpoint) → List Diagnostic → Prop where
  | untagged : candidate.tag? rules = none →
      Outcome rules taken candidate none
        [⟨.error, candidate.subject, "operation has no tag, excluded"⟩]
  | unnamed {tag : String} : candidate.tag? rules = some tag → candidate.explicitId? = none →
      candidate.derivedName rules = "" →
      Outcome rules taken candidate none
        [⟨.error, candidate.subject, "cannot derive an operation name, skipped"⟩]
  | given {tag name : String} : candidate.tag? rules = some tag →
      candidate.explicitId? = some name →
      Outcome rules taken candidate (some (name, (candidate.describe name tag).value))
        (candidate.describe name tag).diagnostics
  | derived {tag name : String} : candidate.tag? rules = some tag →
      candidate.explicitId? = none → candidate.derivedName rules ≠ "" →
      Names.IsFirstFree taken (candidate.derivedName rules) name →
      Outcome rules taken candidate (some (name, (candidate.describe name tag).value))
        (candidate.renameNotes (candidate.derivedName rules) name ++
          (candidate.describe name tag).diagnostics)

private theorem chooseName_given {rules : PathRules} {taken : List String} {candidate : Candidate}
    {name : String} (explicit : candidate.explicitId? = some name) :
    candidate.chooseName rules taken = pure (some name) := by
  simp only [chooseName, explicit]

private theorem chooseName_unnamed {rules : PathRules} {taken : List String}
    {candidate : Candidate} (explicit : candidate.explicitId? = none)
    (empty : candidate.derivedName rules = "") :
    candidate.chooseName rules taken =
      ⟨none, [⟨.error, candidate.subject, "cannot derive an operation name, skipped"⟩]⟩ := by
  have blank : (candidate.derivedName rules).isEmpty = true := by simp [empty]
  simp only [chooseName, explicit, blank, if_true]

private theorem chooseName_derived {rules : PathRules} {candidate : Candidate}
    (taken : List String) (explicit : candidate.explicitId? = none)
    (nonempty : candidate.derivedName rules ≠ "") :
    ∃ name, Names.IsFirstFree taken (candidate.derivedName rules) name ∧
      candidate.chooseName rules taken =
        ⟨some name, candidate.renameNotes (candidate.derivedName rules) name⟩ := by
  have solid : ¬(candidate.derivedName rules).isEmpty = true := by simpa using nonempty
  simp only [chooseName, explicit]
  generalize candidate.derivedName rules = base at solid
  rw [if_neg solid]
  by_cases used : base ∈ taken
  · obtain ⟨number, low, same, free, least⟩ := Names.firstFree_spec taken base
    generalize Names.firstFree taken base = name at same free
    have renamed : name ≠ base := fun equal => free (equal ▸ used)
    refine ⟨name, .inr ⟨used, number, low, same, free, least⟩, ?_⟩
    rw [if_pos (List.contains_iff_mem.mpr used), renameNotes, if_neg renamed]
  · have free : ¬taken.contains base = true := by simpa using used
    refine ⟨base, .inl ⟨used, rfl⟩, ?_⟩
    rw [if_neg free, renameNotes, if_pos rfl]
    rfl

theorem outcome_spec (rules : PathRules) (taken : List String) (candidate : Candidate) :
    Outcome rules taken candidate (candidate.outcome rules taken).value
      (candidate.outcome rules taken).diagnostics := by
  unfold outcome
  cases tagged : candidate.tag? rules with
  | none => exact .untagged tagged
  | some tag =>
      cases explicit : candidate.explicitId? with
      | some name =>
          have given : Outcome rules taken candidate _ _ := .given tagged explicit
          simpa [chooseName_given explicit] using given
      | none =>
          by_cases empty : candidate.derivedName rules = ""
          · simp only [chooseName_unnamed explicit empty]
            exact .unnamed tagged explicit empty
          · obtain ⟨name, free, chosen⟩ := chooseName_derived taken explicit empty
            simp only [chosen, Reported.value_bind, Reported.diagnostics_bind,
              Reported.value_pure, Reported.diagnostics_pure, List.append_nil]
            exact .derived tagged explicit empty free

/-! ## One after the other -/

/-- An operation at its turn, with the names that are taken by then. -/
structure Turn where
  candidate : Candidate
  taken : List String

def Turn.result (rules : PathRules) (turn : Turn) : Reported (Option (String × Endpoint)) :=
  turn.candidate.outcome rules turn.taken

theorem Turn.result_spec (rules : PathRules) (turn : Turn) :
    Outcome rules turn.taken turn.candidate (turn.result rules).value
      (turn.result rules).diagnostics :=
  outcome_spec rules turn.taken turn.candidate

theorem Turn.outcome_of_value {rules : PathRules} {turn : Turn}
    {found : Option (String × Endpoint)} (value : (turn.result rules).value = found) :
    ∃ notes, Outcome rules turn.taken turn.candidate found notes :=
  ⟨_, value ▸ turn.result_spec rules⟩

def turns (rules : PathRules) : List String → List Candidate → List Turn
  | _, [] => []
  | taken, candidate :: rest =>
      ⟨candidate, taken⟩ ::
        turns rules (((candidate.outcome rules taken).value.map (·.1)).toList ++ taken) rest

def entriesOf (rules : PathRules) (turns : List Turn) : Entries Endpoint :=
  turns.filterMap fun turn => (turn.result rules).value

variable {rules : PathRules}

@[simp] theorem map_candidate_turns (taken : List String) (candidates : List Candidate) :
    (turns rules taken candidates).map Turn.candidate = candidates := by
  induction candidates generalizing taken with
  | nil => rfl
  | cons candidate rest ih => simp [turns, ih]

theorem turns_append (taken : List String) (before after : List Candidate) :
    turns rules taken (before ++ after) =
      turns rules taken before ++
        turns rules ((entriesOf rules (turns rules taken before)).keys.reverse ++ taken) after := by
  induction before generalizing taken with
  | nil => rfl
  | cons candidate rest ih =>
      cases found : (candidate.outcome rules taken).value with
      | none => simp [turns, entriesOf, Turn.result, found, ih]
      | some entry => simp [turns, entriesOf, Turn.result, Entries.keys, found, ih]

/-- By the turn of an operation the names of all earlier entries are taken. -/
theorem taken_of_turns {taken : List String} {candidates : List Candidate}
    {before after : List Turn} {turn : Turn}
    (split : turns rules taken candidates = before ++ turn :: after) :
    turn.taken = (entriesOf rules before).keys.reverse ++ taken := by
  induction before generalizing taken candidates with
  | nil =>
      cases candidates with
      | nil => simp [turns] at split
      | cons candidate rest =>
          simp only [turns, List.nil_append, List.cons.injEq] at split
          simp [← split.1, entriesOf, Entries.keys]
  | cons first before ih =>
      cases candidates with
      | nil => simp [turns] at split
      | cons candidate rest =>
          simp only [turns, List.cons_append, List.cons.injEq] at split
          obtain ⟨rfl, later⟩ := split
          rw [ih later]
          cases found : (candidate.outcome rules taken).value with
          | none => simp [entriesOf, Turn.result, found]
          | some entry => simp [entriesOf, Turn.result, found, Entries.keys]

theorem subset_taken {taken : List String} {candidates : List Candidate} {turn : Turn}
    (member : turn ∈ turns rules taken candidates) : taken ⊆ turn.taken := by
  obtain ⟨before, after, split⟩ := List.append_of_mem member
  rw [taken_of_turns split]
  exact List.subset_append_right _ _

private theorem resolveAll_cons (taken : List String) (done : Entries Endpoint)
    (candidate : Candidate) (rest : List Candidate) :
    resolveAll rules taken done (candidate :: rest) = (do
      match ← candidate.outcome rules taken with
      | none => resolveAll rules taken done rest
      | some (name, endpoint) =>
          resolveAll rules (name :: taken) (done.insert name endpoint) rest) := by
  simp only [resolveAll, outcome]
  cases candidate.tag? rules with
  | none => simp
  | some tag =>
      simp only [bind_assoc]
      refine congrArg _ (funext fun chosen => ?_)
      cases chosen <;> simp

/-- The operations are resolved by their turns, and each entry is put under its name. -/
theorem resolveAll_eq (taken : List String) (done : Entries Endpoint)
    (candidates : List Candidate) :
    resolveAll rules taken done candidates =
      ⟨(entriesOf rules (turns rules taken candidates)).foldl
          (fun entries entry => entries.insert entry.1 entry.2) done,
        (turns rules taken candidates).flatMap fun turn => (turn.result rules).diagnostics⟩ := by
  induction candidates generalizing taken done with
  | nil => rfl
  | cons candidate rest ih =>
      rw [resolveAll_cons]
      cases found : (candidate.outcome rules taken).value with
      | none => simp [bind, found, ih, turns, entriesOf, Turn.result]
      | some entry => simp [bind, found, ih, turns, entriesOf, Turn.result]

/-! ## Fresh names -/

/-- The names that operations give are set aside for them: all of them are taken, and no name that
has been used is one of them. -/
structure SetAside (taken used : List String) (candidates : List Candidate) : Prop where
  given : explicitIds candidates ⊆ taken
  distinct : (explicitIds candidates).Nodup
  covered : used ⊆ taken
  apart : ∀ name ∈ explicitIds candidates, name ∉ used

namespace SetAside

variable {taken used : List String} {candidate : Candidate} {rest : List Candidate}

theorem of_sublist {candidates fewer : List Candidate} (ready : SetAside taken used candidates)
    (part : fewer.Sublist candidates) : SetAside taken used fewer := by
  have ids : (explicitIds fewer).Sublist (explicitIds candidates) := part.filterMap _
  exact ⟨List.Subset.trans ids.subset ready.given, ready.distinct.sublist ids, ready.covered,
    fun name member => ready.apart name (ids.subset member)⟩

private theorem tail (ready : SetAside taken used (candidate :: rest)) :
    SetAside taken used rest :=
  ready.of_sublist (List.sublist_cons_self candidate rest)

private theorem use {name : String} (ready : SetAside taken used rest)
    (fresh : name ∉ explicitIds rest) : SetAside (name :: taken) (used ++ [name]) rest := by
  refine ⟨List.subset_cons_of_subset _ ready.given, ready.distinct, ?_, ?_⟩
  · exact List.append_subset.mpr ⟨List.subset_cons_of_subset _ ready.covered, by simp⟩
  · intro other member known
    rcases List.mem_append.mp known with earlier | now
    · exact ready.apart other member earlier
    · exact fresh (List.mem_singleton.mp now ▸ member)

/-- At its turn an operation gets a name that has not been used, and the names of those that follow
are still set aside. -/
private theorem step (ready : SetAside taken used (candidate :: rest))
    {found : Option (String × Endpoint)} {notes : List Diagnostic}
    (outcome : Outcome rules taken candidate found notes) :
    (∀ name ∈ found.map (·.1), name ∉ used) ∧
      SetAside ((found.map (·.1)).toList ++ taken) (used ++ (found.map (·.1)).toList) rest := by
  cases outcome with
  | untagged => simpa using ready.tail
  | unnamed => simpa using ready.tail
  | @given _ name _ explicit =>
      have ids : explicitIds (candidate :: rest) = name :: explicitIds rest := by
        simp [explicitIds, explicit]
      have unique : name ∉ explicitIds rest := (List.nodup_cons.mp (ids ▸ ready.distinct)).1
      exact ⟨by simpa using ready.apart name (by simp [ids]), ready.tail.use unique⟩
  | @derived _ name _ _ _ free =>
      -- A made name is not taken, and the names that were used or are given all are.
      have unused : name ∉ used := fun known => free.not_mem (ready.covered known)
      have unique : name ∉ explicitIds rest := fun given => free.not_mem (ready.tail.given given)
      exact ⟨by simpa using unused, ready.tail.use unique⟩

end SetAside

/-- Names stay distinct over any number of turns. -/
theorem keys_nodup (rules : PathRules) {taken used : List String} {candidates : List Candidate}
    (ready : SetAside taken used candidates) (distinct : used.Nodup) :
    (used ++ (entriesOf rules (turns rules taken candidates)).keys).Nodup := by
  induction candidates generalizing taken used with
  | nil => simpa [turns, entriesOf, Entries.keys] using distinct
  | cons candidate rest ih =>
      obtain ⟨fresh, later⟩ := ready.step (outcome_spec rules taken candidate)
      cases found : (candidate.outcome rules taken).value with
      | none =>
          simp only [found] at later
          simpa [turns, entriesOf, Turn.result, found] using ih later (by simpa using distinct)
      | some entry =>
          simp only [found] at fresh later
          have unused : entry.1 ∉ used := by simpa using fresh
          have extended : (used ++ [entry.1]).Nodup :=
            distinct.append (List.nodup_singleton _) (by simpa using unused)
          simpa [turns, entriesOf, Turn.result, found, Entries.keys] using ih later extended

/-- No entry takes the place of an earlier one. -/
theorem resolveAll_value (rules : PathRules) {taken : List String} (done : Entries Endpoint)
    {candidates : List Candidate} (ready : SetAside taken done.keys candidates)
    (distinct : done.keys.Nodup) :
    (resolveAll rules taken done candidates).value =
      done ++ entriesOf rules (turns rules taken candidates) := by
  rw [resolveAll_eq]
  exact Entries.foldl_insert (keys_nodup rules ready distinct)

end ClientGen.Candidate
