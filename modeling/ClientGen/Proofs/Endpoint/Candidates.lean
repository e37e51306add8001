import ClientGen.Endpoint.OfPaths
import ClientGen.Proofs.Text.Search
import Mathlib.Data.List.Nodup
import Mathlib.Data.List.ProdSigma

/-!
The operations that pass the filter: those of the paths whose URL passes without its query, by path
and under each path by method. Each of them is named by its subject, the method and the URL as the
document writes it, and paths that do not pass leave no trace.
-/

set_option autoImplicit false

namespace ClientGen

/-! ## URLs -/

namespace Url

/-- How a URL is parted by its first question mark; without one there is no query. -/
inductive Splits : String → String → Option String → Prop where
  | bare {path : String} : '?' ∉ path.toList → Splits path path none
  | marked {path query : String} : '?' ∉ path.toList →
      Splits (path ++ "?" ++ query) path (some query)

theorem splits_iff {url path : String} {query : Option String} :
    Splits url path query ↔ splitQuery url = (path, query) := by
  constructor
  · intro splits
    cases splits with
    | bare absent => simp [splitQuery, Text.cut_of_not_mem absent]
    | marked absent => simp [splitQuery, Text.cut_append_cons absent]
  · intro split
    by_cases marked : '?' ∈ url.toList
    · obtain ⟨before, after, chars, absent⟩ := List.eq_append_cons_of_mem marked
      have whole : url = String.ofList before ++ "?" ++ String.ofList after := by
        simp [← String.toList_inj, chars]
      rw [splitQuery, chars, Text.cut_append_cons absent] at split
      cases split
      rw [whole]
      exact .marked (by simpa using absent)
    · rw [splitQuery, Text.cut_of_not_mem marked] at split
      cases split
      rw [String.ofList_toList]
      exact .bare marked

end Url

namespace Candidate

/-- A subject names one method and one URL, because no method holds a space. -/
theorem subject_injective {left right : Candidate} (same : left.subject = right.subject) :
    left.method = right.method ∧ left.rawUrl = right.rawUrl := by
  have chars : left.method.verb.toList ++ ' ' :: left.rawUrl.toList =
      right.method.verb.toList ++ ' ' :: right.rawUrl.toList := by
    simpa [subject, ← String.toList_inj] using same
  cases leftMethod : left.method <;> cases rightMethod : right.method <;>
    simp [leftMethod, rightMethod, Method.verb] at chars ⊢ <;>
    exact String.toList_inj.mp chars

/-! ## Operations of paths -/

theorem methods_operations (item : PathItem) : item.operations.map (·.1) =
    Method.all.filter fun method => (item.operation? method).isSome := by
  unfold PathItem.operations
  induction Method.all with
  | nil => rfl
  | cons method rest ih => cases found : item.operation? method <;> simp [found, ih]

theorem methods_nodup (item : PathItem) : (item.operations.map (·.1)).Nodup := by
  rw [methods_operations]
  exact List.Nodup.filter _ (by decide)

theorem mem_operations {item : PathItem} {method : Method} {operation : Operation} :
    (method, operation) ∈ item.operations ↔ item.operation? method = some operation := by
  unfold PathItem.operations
  rw [List.mem_filterMap]
  constructor
  · rintro ⟨other, -, found⟩
    obtain ⟨_, under, same⟩ := Option.map_eq_some_iff.mp found
    cases same
    exact under
  · intro under
    exact ⟨method, Method.mem_all method, by rw [under, Option.map_some]⟩

theorem ofPath_eq (url : String) (item : PathItem) : ofPath url item =
    item.operations.map fun entry =>
      ⟨url, (Url.splitQuery url).1, (Url.splitQuery url).2, entry.1, entry.2⟩ := rfl

theorem mem_ofPath {url : String} {item : PathItem} {candidate : Candidate} :
    candidate ∈ ofPath url item ↔ candidate.rawUrl = url ∧
      item.operation? candidate.method = some candidate.operation ∧
      Url.Splits url candidate.path candidate.query := by
  rw [ofPath_eq, List.mem_map, ← mem_operations, Url.splits_iff]
  constructor
  · rintro ⟨entry, isOperation, rfl⟩
    exact ⟨rfl, isOperation, rfl⟩
  · rintro ⟨isUrl, isOperation, split⟩
    refine ⟨_, isOperation, ?_⟩
    rw [split, ← isUrl]

theorem sources_ofPath (url : String) (item : PathItem) :
    (ofPath url item).map (fun candidate => (candidate.rawUrl, candidate.method)) =
      (item.operations.map (·.1)).map fun method => (url, method) := by
  rw [ofPath_eq, List.map_map, List.map_map]
  rfl

/-- The order in which the operations of a path come. -/
def methodOrder : List Method := [.get, .put, .post, .delete, .options, .head, .patch, .trace]

/-- Whether some operations are just those of the paths whose URL passes a filter without its query,
in the order of the paths and of the methods. -/
structure Listed (filter : PathFilter) (paths : Entries PathItem) (candidates : List Candidate) :
    Prop where
  member : ∀ candidate, candidate ∈ candidates ↔
    (∃ item, (candidate.rawUrl, item) ∈ paths ∧
      item.operation? candidate.method = some candidate.operation) ∧
    Url.Splits candidate.rawUrl candidate.path candidate.query ∧
    filter.accepts candidate.path = true
  ordered : (candidates.map fun candidate => (candidate.rawUrl, candidate.method)).Sublist
    (paths.keys ×ˢ methodOrder)

theorem mem_ofPaths {filter : PathFilter} {paths : Entries PathItem} {candidate : Candidate} :
    candidate ∈ ofPaths filter paths ↔
      (∃ item, (candidate.rawUrl, item) ∈ paths ∧
        item.operation? candidate.method = some candidate.operation) ∧
      Url.Splits candidate.rawUrl candidate.path candidate.query ∧
      filter.accepts candidate.path = true := by
  rw [ofPaths, List.mem_flatMap]
  constructor
  · rintro ⟨⟨url, item⟩, inPaths, inPath⟩
    split at inPath
    · next accepted =>
        obtain ⟨rfl, isOperation, splits⟩ := mem_ofPath.mp inPath
        rw [Url.splits_iff.mp splits] at accepted
        exact ⟨⟨item, inPaths, isOperation⟩, splits, accepted⟩
    · cases inPath
  · rintro ⟨⟨item, inPaths, isOperation⟩, splits, accepted⟩
    refine ⟨_, inPaths, ?_⟩
    rw [Url.splits_iff.mp splits, if_pos accepted]
    exact mem_ofPath.mpr ⟨rfl, isOperation, splits⟩

theorem ordered_ofPaths (filter : PathFilter) (paths : Entries PathItem) :
    ((ofPaths filter paths).map fun candidate => (candidate.rawUrl, candidate.method)).Sublist
      (paths.keys ×ˢ methodOrder) := by
  induction paths with
  | nil => exact .slnil
  | cons entry rest ih =>
      have first : ((if filter.accepts (Url.splitQuery entry.1).1 then ofPath entry.1 entry.2
          else []).map fun candidate => (candidate.rawUrl, candidate.method)).Sublist
          (methodOrder.map fun method => (entry.1, method)) := by
        split
        · rw [sources_ofPath, methods_operations]
          exact List.filter_sublist.map _
        · exact List.nil_sublist _
      rw [ofPaths, List.flatMap_cons, List.map_append, Entries.keys, List.map_cons,
        List.product_cons]
      exact first.append ih

theorem listed_ofPaths (filter : PathFilter) (paths : Entries PathItem) :
    Listed filter paths (ofPaths filter paths) :=
  ⟨fun _ => mem_ofPaths, ordered_ofPaths filter paths⟩

/-- Paths that do not pass the filter leave no trace among the operations. -/
theorem ofPaths_filter (filter : PathFilter) (paths : Entries PathItem) :
    ofPaths filter (paths.filter fun entry => filter.accepts (Url.splitQuery entry.1).1) =
      ofPaths filter paths := by
  induction paths with
  | nil => rfl
  | cons entry rest ih =>
      simp only [ofPaths] at ih
      by_cases accepted : filter.accepts (Url.splitQuery entry.1).1 = true <;>
        simp [ofPaths, accepted, ih]

private theorem subjects_differ_ofPath (url : String) (item : PathItem) :
    (ofPath url item).Pairwise fun left right => left.subject ≠ right.subject := by
  have distinct := methods_nodup item
  rw [List.Nodup, List.pairwise_map] at distinct
  simp only [ofPath, List.pairwise_map]
  exact distinct.imp fun different same => different (subject_injective same).1

/-- Where every path stands once, no two operations have the same subject. -/
theorem subjects_nodup (filter : PathFilter) {paths : Entries PathItem}
    (distinct : paths.keys.Nodup) : ((ofPaths filter paths).map subject).Nodup := by
  rw [List.Nodup, List.pairwise_map, ofPaths, List.pairwise_flatMap]
  constructor
  · intro entry _
    split
    · exact subjects_differ_ofPath entry.1 entry.2
    · exact .nil
  · rw [Entries.keys, List.Nodup, List.pairwise_map] at distinct
    refine distinct.imp fun {first second} different left inFirst right inSecond same => ?_
    split at inFirst <;> split at inSecond
    · have urls := (subject_injective same).2
      rw [(mem_ofPath.mp inFirst).1, (mem_ofPath.mp inSecond).1] at urls
      exact different urls
    · simp at inSecond
    · simp at inFirst
    · simp at inFirst

/-! ## Tags -/

/-- The tag of an operation: the segment of its path at the place that the rules name, where empty
segments do not count; or else the first of its own tags that is not blank, without the white space
around it. -/
inductive HasTag (rules : PathRules) (candidate : Candidate) : String → Prop where
  | segment {index : Nat} {tag : List Char} : rules.tagIndex = some index →
      ((candidate.path.toList.splitOn '/').filter fun segment => segment ≠ [])[index]? = some tag →
      HasTag rules candidate (String.ofList tag)
  | written {before after : List String} {tag : String} : rules.tagIndex = none →
      candidate.operation.tags = before ++ tag :: after →
      (∀ earlier ∈ before, Text.trim earlier = "") → Text.trim tag ≠ "" →
      HasTag rules candidate (Text.trim tag)

theorem tag?_eq_some_iff {rules : PathRules} {candidate : Candidate} {tag : String} :
    candidate.tag? rules = some tag ↔ HasTag rules candidate tag := by
  have segments : Url.segments candidate.path.toList =
      (candidate.path.toList.splitOn '/').filter fun segment => segment ≠ [] := by
    rw [Url.segments, Text.split_eq_splitOn]
    refine List.filter_congr fun segment _ => ?_
    cases segment <;> rfl
  unfold tag?
  constructor
  · intro found
    cases place : rules.tagIndex with
    | some index =>
        rw [place, segments] at found
        obtain ⟨chars, isSegment, rfl⟩ := Option.map_eq_some_iff.mp found
        exact .segment place isSegment
    | none =>
        rw [place, List.find?_map] at found
        obtain ⟨first, isFirst, rfl⟩ := Option.map_eq_some_iff.mp found
        obtain ⟨solid, before, after, split, blank⟩ := List.find?_eq_some_iff_append.mp isFirst
        exact .written place split (by simpa using blank) (by simpa using solid)
  · intro has
    cases has with
    | segment place isSegment =>
        rw [place, segments]
        simp only [isSegment, Option.map_some]
    | @written before after first place split blank solid =>
        rw [place, List.find?_map, Option.map_eq_some_iff]
        refine ⟨first, List.find?_eq_some_iff_append.mpr ⟨?_, before, after, split, ?_⟩, rfl⟩
        · simpa using solid
        · simpa using blank

end Candidate

end ClientGen
