import ClientGen.Proofs.Endpoint.Repeated
import ClientGen.Proofs.Endpoint.Turns

/-!
No operation is lost. Each operation that passes the filter is the source of one entry or is named
by one error, and entries stand in the order of their sources under names that are never used again.
-/

set_option autoImplicit false

namespace ClientGen.Candidate

variable {rules : PathRules}

/-! ## The turns of a document -/

/-- The operations of a document without those that repeat the name of an earlier one. -/
def keptOf (rules : PathRules) (paths : Entries PathItem) : List Candidate :=
  (dropRepeated [] (ofPaths rules.filter paths)).value

def run (rules : PathRules) (paths : Entries PathItem) : List Turn :=
  turns rules (explicitIds (ofPaths rules.filter paths)) (keptOf rules paths)

theorem Parted.setAside {candidates kept dropped : List Candidate}
    (parted : Parted [] candidates kept dropped) :
    SetAside (explicitIds candidates) [] kept where
  given := (parted.sublist.filterMap _).subset
  distinct := parted.explicitIds_kept.1
  covered := List.nil_subset _
  apart := parted.explicitIds_kept.2

/-- The result for a document, by the operations that are dropped and the turns of the others. -/
theorem ofPaths_spec (rules : PathRules) (paths : Entries PathItem) :
    ∃ dropped, Parted [] (ofPaths rules.filter paths) (keptOf rules paths) dropped ∧
      Endpoint.ofPaths rules paths =
        ⟨entriesOf rules (run rules paths),
          dropped.map duplicateNote ++
            (run rules paths).flatMap fun turn => (turn.result rules).diagnostics⟩ := by
  obtain ⟨dropped, parted, notes⟩ := dropRepeated_spec [] (ofPaths rules.filter paths)
  refine ⟨dropped, parted, ?_⟩
  have value := resolveAll_value rules [] parted.setAside List.nodup_nil
  simp only [resolveAll_eq, List.nil_append] at value
  simp only [Endpoint.ofPaths, bind, notes, resolveAll_eq, value]
  rfl

theorem keys_ofPaths_nodup (rules : PathRules) (paths : Entries PathItem) :
    (Endpoint.ofPaths rules paths).value.keys.Nodup := by
  obtain ⟨dropped, parted, result⟩ := ofPaths_spec rules paths
  rw [result]
  simpa [run] using keys_nodup rules parted.setAside List.nodup_nil

/-! ## Errors -/

/-- The warning for an operation without a reply that can be described. -/
def missingReplyNote (candidate : Candidate) : Diagnostic :=
  ⟨.warning, candidate.subject, "no 200 response, response type left empty"⟩

theorem describe_diagnostics (candidate : Candidate) (name tag : String) :
    (candidate.describe name tag).diagnostics = [] ∨
      (candidate.describe name tag).diagnostics = [candidate.missingReplyNote] := by
  simp only [describe, Reported.diagnostics_bind, Reported.diagnostics_pure, List.append_nil,
    Operation.reply]
  split
  · exact .inr rfl
  · split
    · exact .inl rfl
    · exact .inl rfl

/-- An operation without an entry is named by one error, an operation with an entry by none. -/
theorem Outcome.errors {taken : List String} {candidate : Candidate}
    {found : Option (String × Endpoint)} {notes : List Diagnostic}
    (outcome : Outcome rules taken candidate found notes) :
    (Diagnostic.ofSeverity .error notes).map Diagnostic.subject =
      if found.isSome then [] else [candidate.subject] := by
  have described : ∀ name tag,
      Diagnostic.ofSeverity .error (candidate.describe name tag).diagnostics = [] := by
    intro name tag
    rcases describe_diagnostics candidate name tag with none | missing
    · rw [none]
      rfl
    · rw [missing]
      rfl
  cases outcome with
  | untagged => rfl
  | unnamed => rfl
  | given => simp [described]
  | @derived tag name =>
      have renamed :
          Diagnostic.ofSeverity .error (candidate.renameNotes (candidate.derivedName rules) name) =
            [] := by
        unfold renameNotes
        split <;> rfl
      simp [renamed, described]

def sourcesOf (rules : PathRules) (turns : List Turn) : List Candidate :=
  (turns.filter fun turn => (turn.result rules).value.isSome).map Turn.candidate

def failuresOf (rules : PathRules) (turns : List Turn) : List Candidate :=
  (turns.filter fun turn => !(turn.result rules).value.isSome).map Turn.candidate

theorem errors_turns (rules : PathRules) (turns : List Turn) :
    (Diagnostic.ofSeverity .error
        (turns.flatMap fun turn => (turn.result rules).diagnostics)).map Diagnostic.subject =
      (failuresOf rules turns).map subject := by
  induction turns with
  | nil => rfl
  | cons turn rest ih =>
      have first := (turn.result_spec rules).errors
      simp only [failuresOf] at ih ⊢
      simp only [List.flatMap_cons, Diagnostic.ofSeverity_append, List.map_append, first, ih]
      cases found : (turn.result rules).value <;> simp [found]

/-! ## Sources -/

/-- An entry comes from an operation: it has the method of the operation, its URL as far as the first
question mark and its tag, and describes it. -/
structure IsSource (rules : PathRules) (candidate : Candidate) (entry : String × Endpoint) :
    Prop where
  method : entry.2.method = candidate.method
  url : ∃ query, Url.Splits candidate.rawUrl entry.2.url query
  tag : HasTag rules candidate entry.2.tag
  described : entry.2 = (candidate.describe entry.1 entry.2.tag).value

theorem Outcome.isSource {taken : List String} {candidate : Candidate} {entry : String × Endpoint}
    {notes : List Diagnostic}
    (splits : Url.Splits candidate.rawUrl candidate.path candidate.query)
    (outcome : Outcome rules taken candidate (some entry) notes) :
    IsSource rules candidate entry := by
  cases outcome with
  | given tagged _ => exact ⟨rfl, ⟨_, splits⟩, tag?_eq_some_iff.mp tagged, rfl⟩
  | derived tagged _ _ _ => exact ⟨rfl, ⟨_, splits⟩, tag?_eq_some_iff.mp tagged, rfl⟩

theorem isSource_turns {turns : List Turn}
    (splits : ∀ turn ∈ turns,
      Url.Splits turn.candidate.rawUrl turn.candidate.path turn.candidate.query) :
    List.Forall₂ (IsSource rules) (sourcesOf rules turns) (entriesOf rules turns) := by
  induction turns with
  | nil => exact .nil
  | cons turn rest ih =>
      have later := ih fun other member => splits other (.tail _ member)
      cases found : (turn.result rules).value with
      | none => simpa [sourcesOf, entriesOf, found] using later
      | some entry =>
          obtain ⟨notes, outcome⟩ := Turn.outcome_of_value found
          simpa [sourcesOf, entriesOf, found] using
            And.intro (outcome.isSource (splits turn (.head _))) later

def errorsAbout (diagnostics : List Diagnostic) (candidate : Candidate) : List Diagnostic :=
  (Diagnostic.ofSeverity .error diagnostics).filter (·.subject = candidate.subject)

def unreported (rules : PathRules) (paths : Entries PathItem) : List Candidate :=
  (ofPaths rules.filter paths).filter fun candidate =>
    (errorsAbout (Endpoint.ofPaths rules paths).diagnostics candidate).isEmpty

private theorem filter_good {Item : Type} {label : Item → String} {all good bad : List Item}
    (perm : all.Perm (good ++ bad)) (order : good.Sublist all) (distinct : (all.map label).Nodup) :
    all.filter (fun item => label item ∉ bad.map label) = good := by
  have apart := (perm.map label).nodup_iff.mp distinct
  rw [List.map_append, List.nodup_append] at apart
  have goodStay : good.filter (fun item => label item ∉ bad.map label) = good := by
    refine List.filter_eq_self.mpr fun item member => ?_
    simpa using fun other inBad same =>
      apart.2.2 _ (List.mem_map_of_mem member) _ (List.mem_map_of_mem inBad) same.symm
  have badGo : bad.filter (fun item => label item ∉ bad.map label) = [] :=
    List.filter_eq_nil_iff.mpr fun item member => by simpa using ⟨item, member, rfl⟩
  -- Both lists are in the order of `all`, so it is enough that they have the same length.
  have sizes := (perm.filter fun item => label item ∉ bad.map label).length_eq
  rw [List.filter_append, goodStay, badGo, List.append_nil] at sizes
  have kept := order.filter fun item => label item ∉ bad.map label
  rw [goodStay] at kept
  exact (kept.eq_of_length sizes.symm).symm

/-- The operations of a document are those with an entry and those that errors name. -/
private theorem exists_failures (rules : PathRules) (paths : Entries PathItem) :
    ∃ failures, (ofPaths rules.filter paths).Perm
        (sourcesOf rules (run rules paths) ++ failures) ∧
      (sourcesOf rules (run rules paths)).Sublist (ofPaths rules.filter paths) ∧
      (Diagnostic.ofSeverity .error (Endpoint.ofPaths rules paths).diagnostics).map
        Diagnostic.subject = failures.map subject := by
  obtain ⟨dropped, parted, result⟩ := ofPaths_spec rules paths
  have kept : keptOf rules paths = (run rules paths).map Turn.candidate := by
    rw [run, map_candidate_turns]
  refine ⟨dropped ++ failuresOf rules (run rules paths), ?_, ?_, ?_⟩
  · have halves : (keptOf rules paths).Perm
        (sourcesOf rules (run rules paths) ++ failuresOf rules (run rules paths)) := by
      rw [kept, sourcesOf, failuresOf, ← List.map_append]
      exact (List.filter_append_perm _ _).symm.map _
    refine parted.perm.trans ((halves.append_right dropped).trans ?_)
    rw [List.append_assoc]
    exact List.perm_append_comm.append_left _
  · refine List.Sublist.trans ?_ parted.sublist
    rw [kept]
    exact List.filter_sublist.map _
  · have droppedErrors : Diagnostic.ofSeverity .error (dropped.map duplicateNote) =
        dropped.map duplicateNote := by
      refine List.filter_eq_self.mpr fun note member => ?_
      obtain ⟨candidate, -, same⟩ := List.mem_map.mp member
      simp [← same, duplicateNote]
    have labels : (dropped.map duplicateNote).map Diagnostic.subject = dropped.map subject := by
      simp [duplicateNote]
    rw [result, Diagnostic.ofSeverity_append, List.map_append, List.map_append, droppedErrors,
      labels, errors_turns]

private theorem errorsAbout_length (diagnostics : List Diagnostic) (candidate : Candidate) :
    (errorsAbout diagnostics candidate).length =
      ((Diagnostic.ofSeverity .error diagnostics).map Diagnostic.subject).count
        candidate.subject := by
  simp [errorsAbout, List.count_eq_countP, List.countP_eq_length_filter, List.filter_map,
    Function.comp_def, beq_eq_decide]

theorem unreported_eq {paths : Entries PathItem} (distinct : paths.keys.Nodup) :
    unreported rules paths = sourcesOf rules (run rules paths) := by
  obtain ⟨failures, perm, order, errors⟩ := exists_failures rules paths
  rw [← filter_good perm order (subjects_nodup rules.filter distinct), unreported]
  refine List.filter_congr fun candidate _ => ?_
  rw [Bool.eq_iff_iff, List.isEmpty_iff_length_eq_zero, errorsAbout_length, errors]
  simp [List.count_eq_zero]

/-- The entries after some operations of a document. -/
def entriesAfter (rules : PathRules) (paths : Entries PathItem) (handled : List Candidate) :
    Entries Endpoint :=
  (resolveAll rules (explicitIds (ofPaths rules.filter paths)) [] handled).value

/-- Every operation is accounted for: the operations that no error names are the sources of the
entries, in order, and one error names each of the others. An entry is only ever added under a new
name, and paths that do not pass the filter change nothing. -/
structure Accounted (rules : PathRules) (paths : Entries PathItem) : Prop where
  listed : Listed rules.filter paths (ofPaths rules.filter paths)
  names : (Endpoint.ofPaths rules paths).value.keys.Nodup
  sourced : List.Forall₂ (IsSource rules) (unreported rules paths)
    (Endpoint.ofPaths rules paths).value
  reported : ∀ candidate ∈ ofPaths rules.filter paths,
    (errorsAbout (Endpoint.ofPaths rules paths).diagnostics candidate).length ≤ 1
  total : (Endpoint.ofPaths rules paths).value.length +
      (Diagnostic.ofSeverity .error (Endpoint.ofPaths rules paths).diagnostics).length =
    (ofPaths rules.filter paths).length
  fresh : ∀ before candidate after, keptOf rules paths = before ++ candidate :: after →
    entriesAfter rules paths (before ++ [candidate]) = entriesAfter rules paths before ∨
      ∃ name endpoint, name ∉ (entriesAfter rules paths before).keys ∧
        entriesAfter rules paths (before ++ [candidate]) =
          (entriesAfter rules paths before).insert name endpoint
  filtered : Endpoint.ofPaths rules
      (paths.filter fun entry => rules.filter.accepts (Url.splitQuery entry.1).1) =
    Endpoint.ofPaths rules paths

private theorem entriesAfter_step {paths : Entries PathItem} {before after : List Candidate}
    {candidate : Candidate} (split : keptOf rules paths = before ++ candidate :: after) :
    entriesAfter rules paths (before ++ [candidate]) = entriesAfter rules paths before ∨
      ∃ name endpoint, name ∉ (entriesAfter rules paths before).keys ∧
        entriesAfter rules paths (before ++ [candidate]) =
          (entriesAfter rules paths before).insert name endpoint := by
  obtain ⟨dropped, parted, -⟩ := ofPaths_spec rules paths
  have ready := parted.setAside
  have value : ∀ handled, handled.Sublist (keptOf rules paths) →
      entriesAfter rules paths handled =
        entriesOf rules (turns rules (explicitIds (ofPaths rules.filter paths)) handled) :=
    fun handled part => resolveAll_value rules [] (ready.of_sublist part) List.nodup_nil
  have longer : (before ++ [candidate]).Sublist (keptOf rules paths) := by
    rw [split]
    exact (List.singleton_sublist.mpr (.head _)).append_left before
  have shorter : before.Sublist (keptOf rules paths) :=
    (List.sublist_append_left before [candidate]).trans longer
  have distinct := keys_nodup rules (ready.of_sublist longer) List.nodup_nil
  rw [value _ longer, value _ shorter]
  rw [turns_append, entriesOf, List.filterMap_append, List.nil_append] at distinct
  rw [turns_append, entriesOf, List.filterMap_append]
  generalize ((entriesOf rules (turns rules (explicitIds (ofPaths rules.filter paths))
    before)).keys.reverse ++ explicitIds (ofPaths rules.filter paths)) = taken at distinct ⊢
  cases found : (candidate.outcome rules taken).value with
  | none => exact .inl (by simp [turns, entriesOf, Turn.result, found])
  | some entry =>
      have last : (turns rules taken [candidate]).filterMap
          (fun turn => (turn.result rules).value) = [entry] := by
        simp [turns, Turn.result, found]
      rw [last, Entries.keys, List.map_append, List.nodup_append] at distinct
      have unused : entry.1 ∉ (entriesOf rules
          (turns rules (explicitIds (ofPaths rules.filter paths)) before)).keys := by
        intro known
        exact distinct.2.2 _ known _ (.head _) rfl
      refine .inr ⟨entry.1, entry.2, unused, ?_⟩
      rw [last, Entries.insert_of_not_mem unused]
      rfl

theorem operations_accounted {paths : Entries PathItem} (rules : PathRules)
    (distinct : paths.keys.Nodup) : Accounted rules paths := by
  obtain ⟨failures, perm, -, errors⟩ := exists_failures rules paths
  obtain ⟨dropped, parted, result⟩ := ofPaths_spec rules paths
  have sources : List.Forall₂ (IsSource rules) (sourcesOf rules (run rules paths))
      (Endpoint.ofPaths rules paths).value := by
    rw [result]
    refine isSource_turns fun turn member => ?_
    have kept : turn.candidate ∈ (run rules paths).map Turn.candidate :=
      List.mem_map_of_mem member
    rw [run, map_candidate_turns] at kept
    exact (mem_ofPaths.mp (parted.sublist.subset kept)).2.1
  constructor
  case listed => exact listed_ofPaths rules.filter paths
  case names => exact keys_ofPaths_nodup rules paths
  case sourced =>
    rw [unreported_eq distinct]
    exact sources
  case reported =>
    intro candidate _
    have all := (perm.map subject).nodup_iff.mp (subjects_nodup rules.filter distinct)
    rw [List.map_append, ← errors] at all
    rw [errorsAbout_length]
    exact List.nodup_iff_count_le_one.mp all.of_append_right _
  case total =>
    have entries := sources.length_eq
    have named := congrArg List.length errors
    have candidates := perm.length_eq
    simp only [List.length_map, List.length_append] at named candidates
    omega
  case fresh =>
    intro before candidate after split
    exact entriesAfter_step split
  case filtered =>
    simp only [Endpoint.ofPaths, ofPaths_filter]

/-- Two operations of three are named by errors: one repeats a name, one has no tag. -/
theorem operations_accounted_pets :
    let paths : Entries PathItem :=
      [("/pets", {
          get := some { operationId := some "list", tags := ["pets"] }
          post := some {} }),
        ("/pets?all", { get := some { operationId := some "list", tags := ["pets"] } })]
    paths.keys.Nodup ∧ Accounted {} paths ∧
      (Endpoint.ofPaths {} paths).value.keys = ["list"] ∧
      (Diagnostic.ofSeverity .error (Endpoint.ofPaths {} paths).diagnostics).map
        Diagnostic.subject = ["GET /pets?all", "POST /pets"] :=
  ⟨by decide, operations_accounted {} (by decide), by decide, by decide⟩

end ClientGen.Candidate
