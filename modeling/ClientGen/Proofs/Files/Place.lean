import ClientGen.Proofs.Files.Tree
import ClientGen.Proofs.Text.Search

/-!
Where paths lead. Whatever stands in a tree, a path to a file leads to the place that its components
spell out, and the place of a path below a directory lies below that of the directory.
-/

set_option autoImplicit false

namespace ClientGen

/-! ## Components of a path below a directory -/

namespace PathText

theorem components_of_plain {path : String} (nonempty : path ≠ "") (plain : '/' ∉ path.toList) :
    components path = [path] := by
  have chars : path.toList ≠ [] := by simpa using nonempty
  simp [components, Text.split_eq_splitOn, List.splitOn_eq_singleton plain, chars]

theorem isAbsolute_join {base path : String} (relative : isAbsolute path = false) :
    isAbsolute (join base path) = isAbsolute base := by
  unfold join
  rw [relative]
  by_cases empty : base = ""
  · subst empty
    simpa [isAbsolute] using relative
  · obtain ⟨first, rest, chars⟩ := List.exists_cons_of_ne_nil
      (show base.toList ≠ [] by simpa using empty)
    simp only [Bool.false_eq_true, if_false]
    split <;> simp [isAbsolute, chars]

/-- A path below a directory names the components of the directory and then its own. -/
theorem components_join {base path : String} (relative : isAbsolute path = false) :
    components (join base path) = components base ++ components path := by
  unfold join
  rw [relative]
  simp only [Bool.false_eq_true, if_false]
  split
  · next joined =>
      rcases (Bool.or_eq_true _ _).mp joined with empty | slash
      · have none : base = "" := by simpa using empty
        simp [none, components, Text.split]
      · -- What comes after the slash at the end of the directory is empty.
        obtain ⟨before, ended⟩ := List.getLast?_eq_some_iff.mp (by simpa using slash)
        simp [components, ended, Text.split_eq_splitOn, List.splitOn_append_cons_self]
  · simp [components, Text.split_eq_splitOn, List.splitOn_append_cons_self]

end PathText

/-! ## Places -/

/-- The place that a component leads to. -/
def Place.follow (place : Place) (name : String) : Place :=
  if name = "." then place else if name = ".." then place.dropLast else place ++ [name]

namespace FileTree

variable {tree : FileTree} {base path : String} {place next : Place} {names : List String}

/-- The place that the components of a path lead to, whatever stands on the way. -/
def placeOf (tree : FileTree) (path : String) : Place :=
  (PathText.components path).foldl Place.follow
    (if PathText.isAbsolute path then [] else tree.home)

theorem enter_eq {name : String} (entered : tree.enter place name = .ok next) :
    next = place.follow name := by
  unfold enter at entered
  unfold Place.follow
  split at entered
  · next same =>
      cases entered
      rw [if_pos same]
  split at entered
  · next other same =>
      cases entered
      rw [if_neg other, if_pos same]
  split at entered
  · cases entered
  · next other apart _ =>
      rw [if_neg other, if_neg apart]
      split at entered
      · cases entered
      · cases entered
        rfl
      · cases entered

theorem foldlM_enter_eq (entered : names.foldlM tree.enter place = .ok next) :
    next = names.foldl Place.follow place := by
  induction names generalizing place with
  | nil =>
      cases entered
      rfl
  | cons name rest ih =>
      rw [List.foldlM_cons] at entered
      cases first : tree.enter place name with
      | error fault =>
          rw [first] at entered
          cases entered
      | ok inner =>
          rw [first] at entered
          rw [List.foldl_cons, ← enter_eq first]
          exact ih entered

theorem placeOf_of_locate {directory : Place} {name : String} {asDirectory : Bool}
    (located : tree.locate path = .ok (.named directory name asDirectory)) :
    tree.placeOf path = directory ++ [name] := by
  unfold locate at located
  split at located
  · cases located
  split at located
  · cases located
  split at located
  · cases located
  simp only at located
  split at located
  · cases located
  · cases located
  · next inner last entered isLast =>
      split at located
      · cases dots : tree.enter inner last <;> rw [dots] at located <;> cases located
      · next plain =>
          split at located
          · cases located
          · cases located
            rw [not_or] at plain
            obtain ⟨before, ended⟩ := List.getLast?_eq_some_iff.mp isLast
            rw [ended, List.dropLast_concat] at entered
            rw [placeOf, ended, List.foldl_append, ← foldlM_enter_eq entered]
            simp [Place.follow, plain.1, plain.2]

theorem filePlace?_eq (found : tree.filePlace? path = some place) : tree.placeOf path = place := by
  unfold filePlace? at found
  split at found
  · next directory name located =>
      split at found
      · cases found
      · cases found
        cases answer : tree.locate path with
        | error fault =>
            rw [answer] at located
            cases located
        | ok destination =>
            rw [answer] at located
            cases located
            exact placeOf_of_locate answer
  · cases found

theorem foldl_follow (plain : "." ∉ names ∧ ".." ∉ names) (place : Place) :
    names.foldl Place.follow place = place ++ names := by
  induction names generalizing place with
  | nil => simp
  | cons name rest ih =>
      simp only [List.mem_cons, not_or] at plain
      rw [List.foldl_cons, ih ⟨plain.1.2, plain.2.2⟩, Place.follow, if_neg (Ne.symm plain.1.1),
        if_neg (Ne.symm plain.2.1), List.append_assoc, List.singleton_append]

/-- The place of a path without points lies below that of the directory in front of it. -/
theorem placeOf_join (tree : FileTree) (base : String) (relative : PathText.isAbsolute path = false)
    (plain : "." ∉ PathText.components path ∧ ".." ∉ PathText.components path) :
    tree.placeOf (PathText.join base path) = tree.placeOf base ++ PathText.components path := by
  rw [placeOf, PathText.components_join relative, PathText.isAbsolute_join relative,
    List.foldl_append, foldl_follow plain]
  rfl

/-- The text of a file can be read where the file can be written. -/
theorem readText_of_filePlace? {content : String} (found : tree.filePlace? path = some place)
    (text : tree.file? place = some (.text content)) : tree.readText path = .ok content := by
  have entry : tree.entry? place = some (.text content) := (Option.filter_eq_some_iff.mp text).1
  unfold filePlace? at found
  split at found
  · next directory name located =>
      split at found
      · cases found
      · cases found
        cases answer : tree.locate path with
        | error fault =>
            rw [answer] at located
            cases located
        | ok destination =>
            rw [answer] at located
            cases located
            simp [readText, find, answer, entry]
  · cases found

end FileTree

end ClientGen
