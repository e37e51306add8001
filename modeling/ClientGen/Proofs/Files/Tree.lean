import ClientGen.Files.Tree

/-!
What changes in a tree of files when one entry is put, and what depends on its directories alone: a
file that comes to a place does not change where any path leads.
-/

set_option autoImplicit false

namespace ClientGen.FileTree

variable {tree next last : FileTree} {place other : Place} {entry : FileEntry} {path : String}

/-! ## Entries -/

theorem lookup_put (entries : List (Place × FileEntry)) :
    (put place entry entries).lookup other =
      if other = place then some entry else entries.lookup other := by
  induction entries with
  | nil =>
      by_cases same : other = place
      · simp [put, same]
      · simp [put, List.lookup_cons, beq_false_of_ne same, same]
  | cons first rest ih =>
      obtain ⟨name, old⟩ := first
      rw [put]
      split
      · next here =>
          subst here
          by_cases same : other = name
          · simp [same]
          · simp [List.lookup_cons, beq_false_of_ne same, same]
      · next elsewhere =>
          by_cases same : other = name
          · simp [same, elsewhere]
          · rw [List.lookup_cons, List.lookup_cons, beq_false_of_ne same]
            exact ih

theorem entry?_withEntry (named : place ≠ []) : entry? (tree.withEntry place entry) other =
    if other = place then some entry else tree.entry? other := by
  rw [withEntry, entry?, entry?, lookup_put]
  by_cases root : other = []
  · simp [root, named.symm]
  · simp [root]

/-- The file at a place, which is none for a directory. -/
def file? (tree : FileTree) (place : Place) : Option FileEntry :=
  Option.filter (· ≠ .directory) <| tree.entry? place

theorem file?_withText (named : place ≠ []) (content : String) :
    (tree.withEntry place (.text content)).file? other =
      if other = place then some (.text content) else tree.file? other := by
  rw [file?, entry?_withEntry named, file?]
  split <;> rfl

/-! ## Trees that differ in their directories -/

/-- Two trees have the same files, those without a place included. -/
structure SameFiles (tree next : FileTree) : Prop where
  temporaries : next.temporaries = tree.temporaries
  files : ∀ place, next.file? place = tree.file? place

theorem SameFiles.refl (tree : FileTree) : SameFiles tree tree := ⟨rfl, fun _ => rfl⟩

theorem SameFiles.trans (first : SameFiles tree next) (second : SameFiles next last) :
    SameFiles tree last :=
  ⟨second.temporaries.trans first.temporaries,
    fun place => (second.files place).trans (first.files place)⟩

theorem sameFiles_withDirectory (named : place ≠ []) (free : tree.entry? place = none) :
    SameFiles tree (tree.withEntry place .directory) where
  temporaries := rfl
  files := by
    intro other
    rw [file?, entry?_withEntry named, file?]
    split
    · next same =>
        rw [same, free]
        rfl
    · rfl

theorem sameFiles_of_makeDirectory (made : tree.makeDirectory path = .ok next) :
    SameFiles tree next := by
  unfold makeDirectory at made
  split at made
  · cases made
  · cases made
  · simp only at made
    split at made
    · next free =>
        cases made
        exact sameFiles_withDirectory (by simp) free
    · cases made

/-! ## Trees that differ in their files -/

/-- Two trees have the same directories, and paths begin in the same one. -/
structure SameDirectories (tree next : FileTree) : Prop where
  home : next.home = tree.home
  directories : ∀ place, next.hasDirectory place = tree.hasDirectory place

theorem toOption_enter (tree : FileTree) (place : Place) (name : String) :
    (tree.enter place name).toOption =
      if name = "." then some place
      else if name = ".." then some place.dropLast
      else if maxName < name.utf8ByteSize then none
      else if tree.hasDirectory (place ++ [name]) then some (place ++ [name]) else none := by
  unfold enter hasDirectory
  split
  · rfl
  split
  · rfl
  split
  · rfl
  rcases tree.entry? (place ++ [name]) with _ | _ | _ | _ <;> rfl

theorem SameDirectories.enter (same : SameDirectories tree next) (place : Place) (name : String) :
    (next.enter place name).toOption = (tree.enter place name).toOption := by
  rw [toOption_enter, toOption_enter, same.directories]

theorem toOption_map {Error Value Result : Type} (change : Value → Result)
    (answer : Except Error Value) : (answer.map change).toOption = answer.toOption.map change := by
  cases answer <;> rfl

theorem toOption_foldlM {State Item Error : Type} {left right : State → Item → Except Error State}
    (same : ∀ state item, (left state item).toOption = (right state item).toOption)
    (items : List Item) (state : State) :
    (items.foldlM left state).toOption = (items.foldlM right state).toOption := by
  induction items generalizing state with
  | nil => rfl
  | cons item rest ih =>
      rw [List.foldlM_cons, List.foldlM_cons]
      have here := same state item
      cases first : left state item <;> cases second : right state item <;>
        rw [first, second] at here <;> cases here
      · rfl
      · exact ih _

theorem SameDirectories.locate (same : SameDirectories tree next) (path : String) :
    (next.locate path).toOption = (tree.locate path).toOption := by
  have entered := toOption_foldlM same.enter (PathText.components path).dropLast
    (if PathText.isAbsolute path then [] else tree.home)
  unfold FileTree.locate
  rw [same.home]
  split
  · rfl
  split
  · rfl
  split
  · rfl
  simp only
  cases first : (PathText.components path).dropLast.foldlM next.enter
      (if PathText.isAbsolute path then [] else tree.home) <;>
    cases second : (PathText.components path).dropLast.foldlM tree.enter
      (if PathText.isAbsolute path then [] else tree.home) <;>
    rw [first, second] at entered <;> cases entered
  · rfl
  · cases (PathText.components path).getLast? with
    | none => rfl
    | some name =>
        simp only
        split
        · rw [toOption_map, toOption_map, same.enter]
        · rfl

/-- The place that a path names if a file can be moved there. -/
def filePlace? (tree : FileTree) (path : String) : Option Place :=
  match (tree.locate path).toOption with
  | some (.named directory name false) =>
      if tree.hasDirectory (directory ++ [name]) then none else some (directory ++ [name])
  | _ => none

theorem filePlace?_ne_nil (found : tree.filePlace? path = some place) : place ≠ [] := by
  unfold filePlace? at found
  split at found
  · split at found
    · cases found
    · cases found
      simp
  · cases found

theorem filePlace?_free (found : tree.filePlace? path = some place) :
    tree.hasDirectory place = false := by
  unfold filePlace? at found
  split at found
  · split at found
    · cases found
    · next free =>
        cases found
        simpa using free
  · cases found

theorem SameDirectories.filePlace? (same : SameDirectories tree next) (path : String) :
    next.filePlace? path = tree.filePlace? path := by
  unfold FileTree.filePlace?
  simp only [same.locate, same.directories]

/-- A file that gets a place hides no directory. -/
theorem sameDirectories_withText (named : place ≠ []) (free : tree.hasDirectory place = false)
    (content : String) : SameDirectories tree (tree.withEntry place (.text content)) where
  home := rfl
  directories := by
    intro other
    rw [hasDirectory, entry?_withEntry named]
    split
    · next same => simp [same, free]
    · rfl

theorem toOption_settle {number : Nat} {temporary : Temporary}
    (waits : tree.temporaries.find? (·.number = number) = some temporary) (path : String) :
    (tree.settle number path).toOption = (tree.filePlace? path).map fun place =>
      (tree.discard number).withEntry place (.text temporary.content) := by
  unfold settle filePlace?
  rw [waits]
  rcases tree.locate path with fault | ⟨directory, name, _ | _⟩ | directory
  · rfl
  · cases free : tree.hasDirectory (directory ++ [name]) <;> simp [Except.toOption, free]
  · rfl
  · rfl

end ClientGen.FileTree
