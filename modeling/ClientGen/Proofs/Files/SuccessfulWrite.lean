import ClientGen.Proofs.Files.FailedWrite
import ClientGen.Proofs.Files.Place
import ClientGen.Proofs.Files.WrittenPaths
import Mathlib.Data.List.Find

/-!
What a write that succeeds leaves behind: every file that was listed is at its place with its text,
the last one where a path is listed more than once, and every other file is as it was.
-/

set_option autoImplicit false

namespace ClientGen

variable {tree left : FileTree} {base : String} {files : List GeneratedFile} {written : List String}

/-! ## Where relative paths begin -/

/-- Relative paths begin in the same directory of two trees. -/
def FileTree.SameHome (tree next : FileTree) : Prop := next.home = tree.home

namespace FileTree.SameHome

theorem chains : Chains SameHome := ⟨fun _ => rfl, fun first second => second.trans first⟩

theorem of_makeDirectory {path : String} {tree next : FileTree}
    (made : tree.makeDirectory path = .ok next) : SameHome tree next := by
  unfold makeDirectory at made
  split at made
  · cases made
  · cases made
  · simp only at made
    split at made <;> cases made
    rfl

theorem of_settle {number : Nat} {path : String} {tree next : FileTree}
    (settled : tree.settle number path = .ok next) : SameHome tree next := by
  unfold settle at settled
  split at settled
  · cases settled
  · cases settled
  · cases settled
  · simp only at settled
    split at settled
    · cases settled
    · split at settled <;> cases settled
      rfl

theorem stage (directory content : String) :
    Relates SameHome (FileStore.stage directory content : StateM FileTree _) := by
  intro tree
  simp only [FileStore.stage]
  cases answer : tree.stage directory content with
  | error fault => rfl
  | ok staged =>
      obtain ⟨place, rfl⟩ := eq_of_stage answer
      rfl

theorem discardAll (staged : List (Staged × String)) :
    Relates SameHome (ClientGen.discardAll staged : StateM FileTree Unit) := by
  induction staged with
  | nil => exact chains.pure _
  | cons first rest ih => exact chains.bind (fun _ => rfl) fun _ => ih

theorem stageFile (base : String) (file : GeneratedFile) :
    Relates SameHome (ClientGen.stageFile base file : StateM FileTree _) := by
  refine chains.bind (chains.makeDirectories (fun _ _ _ => of_makeDirectory) _) fun made => ?_
  split
  · exact chains.pure _
  · refine chains.bind (stage _ _) fun staged => ?_
    split <;> exact chains.pure _

theorem stageAll (base : String) (done : List (Staged × String)) (files : List GeneratedFile) :
    Relates SameHome (ClientGen.stageAll base done files : StateM FileTree _) := by
  induction files generalizing done with
  | nil => exact chains.pure _
  | cons file rest ih =>
      refine chains.bind (stageFile base file) fun staged => ?_
      split
      · exact ih _
      · exact chains.bind (discardAll done) fun _ => chains.pure _

theorem settleAll (staged : List (Staged × String)) :
    Relates SameHome (ClientGen.settleAll staged : StateM FileTree _) := by
  induction staged with
  | nil => exact chains.pure _
  | cons first rest ih =>
      refine chains.bind (chains.attempt fun _ _ => of_settle) fun settled => ?_
      split
      · exact chains.bind (discardAll _) fun _ => chains.pure _
      · exact chains.bind ih fun _ => chains.pure _

theorem writeAll (base : String) (files : List GeneratedFile) :
    Relates SameHome (ClientGen.writeAll base files : StateM FileTree _) := by
  refine chains.bind (stageAll base [] files) fun staged => ?_
  split
  · exact chains.pure _
  · exact settleAll _

end FileTree.SameHome

/-! ## Moving all files -/

namespace FileTree

theorem SameDirectories.trans {tree next last : FileTree} (first : SameDirectories tree next)
    (second : SameDirectories next last) : SameDirectories tree last :=
  ⟨second.home.trans first.home,
    fun place => (second.directories place).trans (first.directories place)⟩

theorem sameDirectories_withTexts {texts : List (Place × String)}
    (free : ∀ text ∈ texts, text.1 ≠ [] ∧ tree.hasDirectory text.1 = false) :
    SameDirectories tree (tree.withTexts texts) := by
  induction texts generalizing tree with
  | nil => exact ⟨rfl, fun _ => rfl⟩
  | cons text rest ih =>
      obtain ⟨named, noDirectory⟩ := free text (.head _)
      have first := sameDirectories_withText named noDirectory text.2
      refine first.trans (ih fun other member => ?_)
      rw [first.directories]
      exact free other (.tail _ member)

/-- If all files are moved, each of them gets the place that its path spells out. -/
theorem moves_of_length {texts : List (String × String)}
    (all : (tree.moves texts).length = texts.length) :
    tree.moves texts = texts.map (fun text => (tree.placeOf text.1, text.2)) ∧
      ∀ text ∈ texts, tree.filePlace? text.1 = some (tree.placeOf text.1) := by
  induction texts with
  | nil => exact ⟨rfl, by simp⟩
  | cons text rest ih =>
      cases found : tree.filePlace? text.1 with
      | none =>
          rw [moves_cons_of_none found] at all
          cases all
      | some place =>
          rw [moves_cons_of_some found] at all ⊢
          obtain ⟨moved, places⟩ := ih (Nat.succ.inj all)
          have isPlace := filePlace?_eq found
          constructor
          · rw [moved, List.map_cons, isPlace]
          · intro other member
            cases member with
            | head => rw [found, isPlace]
            | tail _ later => exact places other later

end FileTree

/-- What is left of a tree after files were written below a directory: no file without a place that
was not there before, at each place the text of the last file whose path leads there or else what was
there, and a place of its own for the path of every file. -/
structure HoldsFiles (base : String) (files : List GeneratedFile) (tree left : FileTree) : Prop where
  temporaries : left.temporaries = tree.temporaries
  texts : ∀ place, left.file? place = (((files.map fun file =>
      (tree.placeOf (PathText.join base file.path), file.content)).reverse.lookup place).map
        .text).or (tree.file? place)
  places : ∀ file ∈ files, left.filePlace? (PathText.join base file.path) =
    some (tree.placeOf (PathText.join base file.path))

/-- A write that succeeds puts the texts of its files at the places of their paths. -/
theorem writeAll_leaves
    (ok : (writeAll base files : StateM FileTree _) tree = (.ok written, left)) :
    HoldsFiles base files tree left := by
  have home : left.home = tree.home := by
    have kept := FileTree.SameHome.writeAll base files tree
    rwa [ok] at kept
  have staged : StagesAll base files tree.temporaries [] tree
      ((stageAll base [] files : StateM FileTree _) tree) :=
    (Waiting.Wait.start tree).stageAll base files
  rw [writeAll, run_bind] at ok
  generalize (stageAll base [] files : StateM FileTree _) tree = run at staged ok
  cases staged with
  | failed _ _ _ => cases ok
  | @staged all prepared wait same texts =>
      have settled := wait.settleAll
      change (settleAll (all.map Waiting.staged) : StateM FileTree _) prepared = _ at ok
      rw [ok] at settled
      rw [List.map_nil, List.nil_append] at texts
      cases settled with
      | settled complete isLeft =>
          have count : all.length = (files.map (·.text base)).length := by
            rw [← texts, List.length_map]
          rw [texts, count] at complete
          rw [texts] at isLeft
          have directories : FileTree.SameDirectories prepared left := by
            have free : ∀ text ∈ prepared.moves (files.map (·.text base)),
                text.1 ≠ [] ∧ prepared.hasDirectory text.1 = false :=
              fun _ => FileTree.free_of_moves
            have kept : FileTree.SameDirectories { prepared with temporaries := tree.temporaries } _ :=
              FileTree.sameDirectories_withTexts free
            rw [isLeft]
            exact ⟨kept.home, kept.directories⟩
          have samePlace (path : String) : prepared.placeOf path = tree.placeOf path := by
            rw [FileTree.placeOf, FileTree.placeOf, ← directories.home, home]
          obtain ⟨moves, places⟩ := FileTree.moves_of_length complete
          refine ⟨?_, fun place => ?_, fun file member => ?_⟩
          · rw [isLeft, FileTree.temporaries_withTexts]
          · have named : ∀ text ∈ prepared.moves (files.map (·.text base)), text.1 ≠ [] :=
              fun _ member => (FileTree.free_of_moves member).1
            have left := FileTree.file?_withTexts named
              { prepared with temporaries := tree.temporaries } place
            rw [← isLeft, moves, List.map_map] at left
            simp only [Function.comp_def, GeneratedFile.text, samePlace] at left
            rw [left]
            exact congrArg _ (same place)
          · rw [directories.filePlace?, ← samePlace]
            exact places (file.text base) (List.mem_map_of_mem member)

/-- What a step yields holds of its value in every run. -/
theorem Yields.run {Value : Type} {property : Value → Prop} {step : StateM FileTree Value}
    (yields : Yields property step) (tree : FileTree) : property (step tree).1 := by
  have same := yields.bind_congr (fun value => Pure.pure (property value)) (fun _ => Pure.pure True)
    fun value holds => by rw [eq_true holds]
  exact of_eq_true (congrArg (fun run : StateM FileTree Prop => (run tree).1) same)

/-! ## Listed files -/

/-- Whether a path leads down from where it begins: it is not empty, it does not begin at the root,
and no component of it is a point or two points. -/
structure PathText.LeadsDown (path : String) : Prop where
  nonempty : path ≠ ""
  relative : PathText.isAbsolute path = false
  noPoint : "." ∉ PathText.components path
  noPoints : ".." ∉ PathText.components path

/-- The last of some files whose path has given components. -/
def lastFile? (components : List String) (files : List GeneratedFile) : Option GeneratedFile :=
  files.reverse.find? fun file => PathText.components file.path = components

theorem lookup_map {Item Value : Type} (place : Item → Place) (value : Item → Value)
    (items : List Item) (wanted : Place) :
    (items.map fun item => (place item, value item)).lookup wanted =
      (items.find? fun item => place item = wanted).map value := by
  induction items with
  | nil => rfl
  | cons item rest ih =>
      rw [List.map_cons, List.lookup_cons, ih, List.find?_cons]
      by_cases same : wanted = place item
      · simp [same]
      · simp [beq_false_of_ne same, Ne.symm same]

section Listed

variable (down : ∀ file ∈ files, PathText.LeadsDown file.path)

include down

theorem placeOf_listed {file : GeneratedFile} (member : file ∈ files) :
    tree.placeOf (PathText.join base file.path) =
      tree.placeOf base ++ PathText.components file.path :=
  FileTree.placeOf_join tree base (down file member).relative
    ⟨(down file member).noPoint, (down file member).noPoints⟩

/-- The text that comes to a place below the base directory is that of the last file there. -/
theorem lookup_listed (components : List String) :
    (files.map fun file =>
        (tree.placeOf (PathText.join base file.path), file.content)).reverse.lookup
          (tree.placeOf base ++ components) =
      (lastFile? components files).map (·.content) := by
  rw [← List.map_reverse, lookup_map, lastFile?]
  refine congrArg (Option.map GeneratedFile.content) (List.find?_congr fun file member => ?_)
  rw [placeOf_listed down (List.mem_reverse.mp member)]
  simp

theorem lookup_unlisted {place : Place}
    (unlisted : ∀ file ∈ files, place ≠ tree.placeOf base ++ PathText.components file.path) :
    (files.map fun file =>
        (tree.placeOf (PathText.join base file.path), file.content)).reverse.lookup place = none := by
  rw [← List.map_reverse, lookup_map, Option.map_eq_none_iff, List.find?_eq_none]
  intro file member same
  rw [List.mem_reverse] at member
  refine unlisted file member ?_
  rw [← placeOf_listed down member]
  exact (of_decide_eq_true same).symm

/-- The text of the last file with a path is where the path leads. -/
theorem writeAll_listed
    (ok : (writeAll base files : StateM FileTree _) tree = (.ok written, left))
    {file : GeneratedFile} (member : file ∈ files) :
    ∃ last, lastFile? (PathText.components file.path) files = some last ∧
      left.readText (PathText.join base file.path) = .ok last.content ∧
      left.file? (tree.placeOf base ++ PathText.components file.path) =
        some (.text last.content) := by
  obtain ⟨-, texts, places⟩ := writeAll_leaves ok
  cases found : lastFile? (PathText.components file.path) files with
  | none =>
      have none := List.find?_eq_none.mp found file (List.mem_reverse.mpr member)
      simp at none
  | some last =>
      have text := texts (tree.placeOf base ++ PathText.components file.path)
      rw [lookup_listed down, found] at text
      refine ⟨last, rfl, ?_, text⟩
      have place := places file member
      rw [placeOf_listed down member] at place
      exact FileTree.readText_of_filePlace? place text

end Listed

/-- After a write that succeeds, the paths of the files are reported in order, each of them leads to
the text of the last file with this path, all other files are as they were, and no file is left
without a place that was not there before. -/
theorem successful_write_exact (down : ∀ file ∈ files, PathText.LeadsDown file.path)
    (ok : (writeAll base files : StateM FileTree _) tree = (.ok written, left)) :
    written = files.map (fun file => PathText.join base file.path) ∧
      (∀ file ∈ files, ∃ last, lastFile? (PathText.components file.path) files = some last ∧
        left.readText (PathText.join base file.path) = .ok last.content ∧
        left.file? (tree.placeOf base ++ PathText.components file.path) =
          some (.text last.content)) ∧
      (∀ place, (∀ file ∈ files, place ≠ tree.placeOf base ++ PathText.components file.path) →
        left.file? place = tree.file? place) ∧
      left.temporaries = tree.temporaries := by
  obtain ⟨temporaries, texts, -⟩ := writeAll_leaves ok
  refine ⟨?_, fun file => writeAll_listed down ok, fun place unlisted => ?_, temporaries⟩
  · have yields : Yields _ (writeAll base files : StateM FileTree _) := writeAll_yields base files
    have paths := yields.run tree
    rw [ok] at paths
    exact paths written rfl
  · rw [texts, lookup_unlisted down unlisted]
    rfl

/-- Three files for two paths, one of them in a new directory. -/
def listedFiles : List GeneratedFile := [⟨"a.ts", "x"⟩, ⟨"sub//b.ts", "b"⟩, ⟨"a.ts", "y"⟩]

/-- A tree with a file at one of these paths and a file elsewhere. -/
def treeBefore : FileTree where
  entries := [(["out"], .directory), (["out", "a.ts"], .text "old"), (["out", "c.ts"], .text "c")]

def treeAfter : FileTree where
  entries := [(["out"], .directory), (["out", "a.ts"], .text "y"), (["out", "c.ts"], .text "c"),
    (["out", "sub"], .directory), (["out", "sub", "b.ts"], .text "b")]

/-- The old file is replaced twice, and the one elsewhere stays. -/
theorem successful_write_exact_replaced :
    (∀ file ∈ listedFiles, PathText.LeadsDown file.path) ∧
      (writeAll "out" listedFiles : StateM FileTree _) treeBefore =
        (.ok ["out/a.ts", "out/sub//b.ts", "out/a.ts"], treeAfter) ∧
      treeAfter.readText "out/a.ts" = .ok "y" ∧
      treeAfter.file? ["out", "c.ts"] = some (.text "c") := by
  have down : ∀ file ∈ listedFiles, PathText.LeadsDown file.path := by
    have all : ∀ file ∈ listedFiles, file.path ≠ "" ∧ PathText.isAbsolute file.path = false ∧
        "." ∉ PathText.components file.path ∧ ".." ∉ PathText.components file.path := by
      decide +kernel
    intro file member
    obtain ⟨nonempty, relative, noPoint, noPoints⟩ := all file member
    exact ⟨nonempty, relative, noPoint, noPoints⟩
  have ok : (writeAll "out" listedFiles : StateM FileTree _) treeBefore =
      (.ok ["out/a.ts", "out/sub//b.ts", "out/a.ts"], treeAfter) := by
    have answer : ((writeAll "out" listedFiles : StateM FileTree _) treeBefore).1.toOption =
        some ["out/a.ts", "out/sub//b.ts", "out/a.ts"] := by decide +kernel
    have isAfter : ((writeAll "out" listedFiles : StateM FileTree _) treeBefore).2 = treeAfter := by
      decide +kernel
    generalize (writeAll "out" listedFiles : StateM FileTree _) treeBefore = run at answer isAfter
    obtain ⟨_ | written, after⟩ := run
    · cases answer
    · cases answer
      cases isAfter
      rfl
  have lastOne : lastFile? (PathText.components "a.ts") listedFiles = some ⟨"a.ts", "y"⟩ := by
    decide +kernel
  have unlisted : ∀ file ∈ listedFiles,
      ["out", "c.ts"] ≠ treeBefore.placeOf "out" ++ PathText.components file.path := by
    decide +kernel
  obtain ⟨-, texts, others, -⟩ := successful_write_exact down ok
  obtain ⟨last, isLast, text, -⟩ := texts ⟨"a.ts", "x"⟩ (.head _)
  cases isLast.symm.trans lastOne
  have joined : PathText.join "out" "a.ts" = "out/a.ts" := by decide +kernel
  have stays : treeBefore.file? ["out", "c.ts"] = some (.text "c") := by decide +kernel
  rw [joined] at text
  exact ⟨down, ok, text, (others _ unlisted).trans stays⟩

end ClientGen
