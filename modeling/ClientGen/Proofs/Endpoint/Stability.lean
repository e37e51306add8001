import ClientGen.Proofs.Definitions.Index
import ClientGen.Proofs.Endpoint.Naming

/-!
Operations that the document names. What stands under such a name is made of the first operation that
gives it and of nothing else, so it does not change with the other operations of a document.
-/

set_option autoImplicit false

namespace ClientGen.Candidate

variable {rules : PathRules} {paths : Entries PathItem} {name : String}

/-- Whether an operation is the first of a document that gives a name. -/
def IsFirst (rules : PathRules) (paths : Entries PathItem) (name : String)
    (candidate : Candidate) : Prop :=
  (ofPaths rules.filter paths).find? (fun other => other.explicitId? = some name) = some candidate

/-- The URL of an operation, as the document writes it, tells its path and its query. -/
theorem split_of_mem {filter : PathFilter} {candidate : Candidate}
    (member : candidate ∈ ofPaths filter paths) :
    (candidate.path, candidate.query) = Url.splitQuery candidate.rawUrl := by
  obtain ⟨-, splits, -⟩ := mem_ofPaths.mp member
  exact (Url.splits_iff.mp splits).symm

theorem eq_of_sameSource {filter other : PathFilter} {paths more : Entries PathItem}
    {first second : Candidate} (inFirst : first ∈ ofPaths filter paths)
    (inSecond : second ∈ ofPaths other more) (url : first.rawUrl = second.rawUrl)
    (method : first.method = second.method) (operation : first.operation = second.operation) :
    first = second := by
  have split : (first.path, first.query) = (second.path, second.query) := by
    rw [split_of_mem inFirst, split_of_mem inSecond, url]
  cases first
  cases second
  cases url
  cases method
  cases operation
  cases split
  rfl

/-- There is an entry under a name that the document gives if the first operation that gives it has
a tag, and then this operation alone decides what the entry is. -/
theorem get?_of_isFirst {first : Candidate} (isFirst : IsFirst rules paths name first) :
    (Endpoint.ofPaths rules paths).value.get? name =
      (first.tag? rules).map fun tag => (first.describe name tag).value := by
  obtain ⟨dropped, parted, result⟩ := ofPaths_spec rules paths
  cases tagged : first.tag? rules with
  | some tag =>
      obtain ⟨turn, inRun, -, value⟩ := entry_of_first isFirst tagged
      rw [Option.map_some, Entries.get?_eq_some_iff (keys_ofPaths_nodup rules paths), result]
      exact List.mem_filterMap.mpr ⟨turn, inRun, value⟩
  | none =>
      have explicit : first.explicitId? = some name := by simpa using List.find?_some isFirst
      have given : name ∈ explicitIds (ofPaths rules.filter paths) :=
        List.mem_filterMap.mpr ⟨first, List.mem_of_find?_eq_some isFirst, explicit⟩
      rw [Option.map_none, Entries.get?_eq_none_iff, result]
      intro listed
      obtain ⟨entry, inEntries, rfl⟩ := List.mem_map.mp listed
      obtain ⟨turn, inRun, value⟩ := List.mem_filterMap.mp inEntries
      obtain ⟨found, isTagged⟩ := candidate_of_given inRun value given
      cases isFirst.symm.trans found
      simp [tagged] at isTagged

/-- If the first operation that gives a name is the same in two documents, under the same URL and
method, then the name stands for the same in both, or for nothing in both. -/
theorem given_entries_stable (rules : PathRules) (left right : Entries PathItem) (name : String)
    (first second : Candidate) (inLeft : IsFirst rules left name first)
    (inRight : IsFirst rules right name second) (url : first.rawUrl = second.rawUrl)
    (method : first.method = second.method) (operation : first.operation = second.operation) :
    (Endpoint.ofPaths rules left).value.get? name =
      (Endpoint.ofPaths rules right).value.get? name := by
  have same : first = second := eq_of_sameSource (List.mem_of_find?_eq_some inLeft)
    (List.mem_of_find?_eq_some inRight) url method operation
  rw [get?_of_isFirst inLeft, get?_of_isFirst inRight, same]

def petListing : Operation where
  operationId := some " getPets "
  tags := ["pets"]

def onlyPetListing : Entries PathItem := [("/animals", { get := some petListing })]

/-- The listing of pets between two other operations: the path gives its name to the earlier one, and
the later one gives the same name. -/
def crowdedPetListing : Entries PathItem :=
  [("/pets", { get := some { tags := ["pets"] } }),
    ("/animals", { get := some petListing, put := some { petListing with tags := ["animals"] } })]

theorem given_entries_stable_pets :
    (Endpoint.ofPaths {} onlyPetListing).value.get? "getPets" =
        (Endpoint.ofPaths {} crowdedPetListing).value.get? "getPets" ∧
      (Endpoint.ofPaths {} onlyPetListing).value.keys = ["getPets"] ∧
      (Endpoint.ofPaths {} crowdedPetListing).value.keys = ["getPets2", "getPets"] := by
  let listing : Candidate := ⟨"/animals", "/animals", none, .get, petListing⟩
  have given : listing.explicitId? = some "getPets" := by decide +kernel
  have inLeft : IsFirst {} onlyPetListing "getPets" listing := by
    have candidates : ofPaths {} onlyPetListing = [listing] := by rfl
    rw [IsFirst, candidates, List.find?_cons_of_pos (by simpa using given)]
  have inRight : IsFirst {} crowdedPetListing "getPets" listing := by
    have candidates : ∃ earlier later, ofPaths {} crowdedPetListing = earlier :: listing :: later ∧
        earlier.explicitId? = none := ⟨_, _, rfl, rfl⟩
    obtain ⟨earlier, later, split, unnamed⟩ := candidates
    rw [IsFirst, split, List.find?_cons_of_neg (by simp [unnamed]),
      List.find?_cons_of_pos (by simpa using given)]
  exact ⟨given_entries_stable {} onlyPetListing crowdedPetListing "getPets" listing listing inLeft
    inRight rfl rfl rfl, by decide +kernel, by decide +kernel⟩

end ClientGen.Candidate
