import ClientGen.Files.WriteAll
import ClientGen.Proofs.Files.Tree

/-!
What a write leaves behind. While files are staged, the tree gets directories and files without a
place, and the latter are gone whatever comes of the write. Then files are moved to their places one
by one, and those that were moved before one of them fails stay there.
-/

set_option autoImplicit false

namespace ClientGen

variable {tree next last : FileTree} {base path : String}

/-! ## Steps that change a tree -/

/-- Every run of a step relates the tree before it to the tree after it. -/
def Relates {Value : Type} (related : FileTree → FileTree → Prop) (step : StateM FileTree Value) :
    Prop :=
  ∀ tree : FileTree, related tree (step tree).2

/-- A relation that is kept along changes that follow each other. -/
structure Chains (related : FileTree → FileTree → Prop) : Prop where
  refl : ∀ tree, related tree tree
  trans : ∀ {tree next last}, related tree next → related next last → related tree last

namespace Chains

variable {Value Result : Type} {related : FileTree → FileTree → Prop} (chains : Chains related)

include chains

theorem pure (value : Value) : Relates related (Pure.pure value : StateM FileTree Value) :=
  fun tree => chains.refl tree

theorem bind {step : StateM FileTree Value} {after : Value → StateM FileTree Result}
    (first : Relates related step) (second : ∀ value, Relates related (after value)) :
    Relates related (step >>= after) :=
  fun tree => chains.trans (first tree) (second _ _)

theorem attempt {change : FileTree → Except FileFault FileTree}
    (changed : ∀ tree next, change tree = .ok next → related tree next) :
    Relates related (FileTree.attempt change) := by
  intro tree
  unfold FileTree.attempt
  split
  · next next isNext => exact changed tree next isNext
  · exact chains.refl tree

theorem isDirectory (path : String) :
    Relates related (FileStore.isDirectory path : StateM FileTree Bool) :=
  fun tree => chains.refl tree

/-- What is done when a directory cannot be made: it is fine if it is there. -/
theorem unlessThere {fault : FileFault} {path : String}
    {fine : StateM FileTree (Except FileFault Unit)} (relates : Relates related fine) :
    Relates related (do
      if fault = .alreadyThere ∧ (← FileStore.isDirectory path) then fine
      else return .error fault) := by
  refine chains.bind (chains.isDirectory path) fun there => ?_
  split
  · exact relates
  · exact chains.pure _

section Directories

variable (made : ∀ path tree next, FileTree.makeDirectory path tree = .ok next → related tree next)

include made

theorem makeDirectory (path : String) :
    Relates related (FileStore.makeDirectory path : StateM FileTree _) :=
  chains.attempt (made path)

theorem makeAll (paths : List String) :
    Relates related (ClientGen.makeAll paths : StateM FileTree _) := by
  induction paths with
  | nil => exact chains.pure _
  | cons path inner ih =>
      refine chains.bind ih fun answer => ?_
      split
      · exact chains.pure _
      · refine chains.bind (chains.makeDirectory made path) fun answer => ?_
        split
        · exact chains.pure _
        · exact chains.unlessThere (chains.pure _)

theorem makeWithin (waiting paths : List String) :
    Relates related (ClientGen.makeWithin waiting paths : StateM FileTree _) := by
  induction paths generalizing waiting with
  | nil => exact chains.makeAll made waiting
  | cons path outer ih =>
      unfold ClientGen.makeWithin
      split
      · exact chains.makeAll made waiting
      · refine chains.bind (chains.makeDirectory made path) fun answer => ?_
        split
        · exact chains.makeAll made waiting
        · exact ih _
        · exact chains.unlessThere (chains.makeAll made waiting)

theorem makeDirectories (path : String) :
    Relates related (ClientGen.makeDirectories path : StateM FileTree _) :=
  chains.makeWithin made [] _

end Directories

end Chains

/-- Making directories changes no file. -/
theorem sameFiles_makeDirectories (path : String) :
    Relates FileTree.SameFiles (makeDirectories path : StateM FileTree _) :=
  Chains.makeDirectories ⟨FileTree.SameFiles.refl, FileTree.SameFiles.trans⟩
    (fun _ _ _ => FileTree.sameFiles_of_makeDirectory) path

/-! ## Files that wait for their places -/

/-- A file that was staged. -/
structure Waiting where
  directory : String
  temporary : Temporary
  path : String

namespace Waiting

def staged (file : Waiting) : Staged × String :=
  (⟨file.directory, file.temporary.number⟩, file.path)

def text (file : Waiting) : String × String := (file.path, file.temporary.content)

/-- In a tree, some files wait for their places besides other files without a place, and none can be
taken for another. -/
structure Wait (others : List Temporary) (waiting : List Waiting) (tree : FileTree) : Prop where
  temporaries : tree.temporaries = (waiting.map (·.temporary)).reverse ++ others
  distinct : (waiting.map (·.temporary.number)).Nodup
  apart : ∀ file ∈ waiting, ∀ other ∈ others, other.number ≠ file.temporary.number

variable {others : List Temporary} {waiting rest : List Waiting} {file : Waiting}

theorem Wait.start (tree : FileTree) : Wait tree.temporaries [] tree :=
  ⟨rfl, List.nodup_nil, by simp⟩

theorem Wait.number_ne (wait : Wait others (file :: rest) tree) {other : Temporary}
    (member : other ∈ (rest.map (·.temporary)).reverse ++ others) :
    other.number ≠ file.temporary.number := by
  rcases List.mem_append.mp member with later | old
  · obtain ⟨second, there, rfl⟩ := List.mem_map.mp (List.mem_reverse.mp later)
    intro same
    exact (List.nodup_cons.mp wait.distinct).1 (List.mem_map.mpr ⟨second, there, same⟩)
  · exact wait.apart file (.head _) other old

theorem Wait.find (wait : Wait others (file :: rest) tree) :
    tree.temporaries.find? (·.number = file.temporary.number) = some file.temporary := by
  have later : (rest.map (·.temporary)).reverse.find? (·.number = file.temporary.number) =
      none := by
    refine List.find?_eq_none.mpr fun other member => ?_
    simpa using wait.number_ne (List.mem_append_left _ member)
  rw [wait.temporaries, List.map_cons, List.reverse_cons, List.append_assoc, List.find?_append,
    later]
  simp

theorem Wait.discard (wait : Wait others (file :: rest) tree) :
    Wait others rest (tree.discard file.temporary.number) where
  temporaries := by
    have kept : ((rest.map (·.temporary)).reverse ++ others).filter
        (·.number ≠ file.temporary.number) = (rest.map (·.temporary)).reverse ++ others := by
      refine List.filter_eq_self.mpr fun other member => ?_
      simpa using wait.number_ne member
    rw [FileTree.discard, wait.temporaries, List.map_cons, List.reverse_cons, List.append_assoc,
      List.filter_append, List.singleton_append, List.filter_cons_of_neg (by simp),
      ← List.filter_append]
    exact kept
  distinct := (List.nodup_cons.mp wait.distinct).2
  apart := fun later member => wait.apart later (.tail _ member)

theorem number_lt_freshNumber {temporary : Temporary} (member : temporary ∈ tree.temporaries) :
    temporary.number < tree.freshNumber := by
  unfold FileTree.freshNumber
  generalize tree.temporaries = temporaries at member ⊢
  induction temporaries with
  | nil => cases member
  | cons first rest ih =>
      rw [List.foldr_cons]
      cases member with
      | head => omega
      | tail _ later =>
          have := ih later
          omega

theorem Wait.stage (wait : Wait others waiting tree) (directory : String) (place : Place)
    (path content : String) :
    Wait others (waiting ++ [⟨directory, ⟨tree.freshNumber, place, content⟩, path⟩])
      { tree with temporaries := ⟨tree.freshNumber, place, content⟩ :: tree.temporaries } := by
  have fresh : ∀ temporary ∈ (waiting.map (·.temporary)).reverse ++ others,
      temporary.number ≠ tree.freshNumber := by
    intro temporary member
    rw [← wait.temporaries] at member
    exact Nat.ne_of_lt (number_lt_freshNumber member)
  constructor
  case temporaries => simp [wait.temporaries]
  case distinct =>
    rw [List.map_append, List.nodup_append]
    refine ⟨wait.distinct, by simp, fun number old other new => ?_⟩
    obtain ⟨file, member, rfl⟩ := List.mem_map.mp old
    cases List.mem_singleton.mp new
    exact fresh _ (List.mem_append_left _ (List.mem_reverse.mpr (List.mem_map_of_mem member)))
  case apart =>
    intro file member other old
    rcases List.mem_append.mp member with before | new
    · exact wait.apart file before other old
    · cases List.mem_singleton.mp new
      exact fresh other (List.mem_append_right _ old)

theorem Wait.of_temporaries (wait : Wait others waiting tree)
    (same : next.temporaries = tree.temporaries) : Wait others waiting next :=
  { wait with temporaries := same.trans wait.temporaries }

/-- When all files that wait are discarded, none is left, and nothing else is changed. -/
theorem Wait.discardAll (wait : Wait others waiting tree) :
    ((discardAll (waiting.map Waiting.staged) : StateM FileTree Unit) tree).2 =
      { tree with temporaries := others } := by
  induction waiting generalizing tree with
  | nil =>
      have same : tree.temporaries = others := wait.temporaries
      subst same
      rfl
  | cons file rest ih => exact ih wait.discard

end Waiting

/-! ## Staging -/

theorem run_bind {Value Result : Type} (step : StateM FileTree Value)
    (after : Value → StateM FileTree Result) (tree : FileTree) :
    (step >>= after) tree = after (step tree).1 (step tree).2 := rfl

theorem FileTree.eq_of_stage {directory content : String} {staged : Nat × FileTree}
    (ok : tree.stage directory content = .ok staged) : ∃ place, staged = (tree.freshNumber,
      { tree with temporaries := ⟨tree.freshNumber, place, content⟩ :: tree.temporaries }) := by
  unfold stage at ok
  simp only at ok
  split at ok
  · cases ok
  · next place _ =>
      cases ok
      exact ⟨place, rfl⟩
  · cases ok

/-- The runs of the step that stages one file. -/
inductive StagesFile (base : String) (file : GeneratedFile) (tree : FileTree) :
    Except WriteError (Staged × String) × FileTree → Prop where
  | failed {error next} : tree.SameFiles next → StagesFile base file tree (.error error, next)
  | staged {prepared} (directory : String) (place : Place) : tree.SameFiles prepared →
      StagesFile base file tree
        (.ok (⟨directory, prepared.freshNumber⟩, PathText.join base file.path),
          { prepared with
            temporaries := ⟨prepared.freshNumber, place, file.content⟩ :: prepared.temporaries })

theorem stageFile_run (base : String) (file : GeneratedFile) (tree : FileTree) :
    StagesFile base file tree ((stageFile base file : StateM FileTree _) tree) := by
  unfold stageFile
  simp only [run_bind]
  generalize (PathText.parent? (PathText.join base file.path)).getD base = directory
  have same : tree.SameFiles ((makeDirectories directory : StateM FileTree _) tree).2 :=
    sameFiles_makeDirectories directory tree
  generalize (makeDirectories directory : StateM FileTree _) tree = made at same ⊢
  obtain ⟨fault | _, prepared⟩ := made
  · exact .failed same
  simp only [run_bind, FileStore.stage]
  cases stage : prepared.stage directory file.content with
  | error fault => exact .failed same
  | ok found =>
      obtain ⟨place, rfl⟩ := FileTree.eq_of_stage stage
      exact .staged directory place same

/-- A file by the path and the text that it is to have. -/
def GeneratedFile.text (base : String) (file : GeneratedFile) : String × String :=
  (PathText.join base file.path, file.content)

/-- The runs of the step that stages files while others wait. -/
inductive StagesAll (base : String) (files : List GeneratedFile) (others : List Temporary)
    (waiting : List Waiting) (tree : FileTree) :
    Except WriteError (List (Staged × String)) × FileTree → Prop where
  | failed {error next} : files ≠ [] → next.temporaries = others →
      (∀ place, next.file? place = tree.file? place) →
      StagesAll base files others waiting tree (.error error, next)
  | staged {all next} : Waiting.Wait others all next →
      (∀ place, next.file? place = tree.file? place) →
      all.map Waiting.text = waiting.map Waiting.text ++ files.map (·.text base) →
      StagesAll base files others waiting tree (.ok (all.map Waiting.staged), next)

theorem Waiting.Wait.stageAll {others : List Temporary} {waiting : List Waiting}
    (wait : Wait others waiting tree) (base : String) (files : List GeneratedFile) :
    StagesAll base files others waiting tree
      ((ClientGen.stageAll base (waiting.map Waiting.staged) files : StateM FileTree _) tree) := by
  induction files generalizing waiting tree with
  | nil => exact .staged wait (fun _ => rfl) (by simp)
  | cons file rest ih =>
      unfold ClientGen.stageAll
      rw [run_bind]
      have one := stageFile_run base file tree
      generalize (stageFile base file : StateM FileTree _) tree = staged at one ⊢
      cases one with
      | failed same =>
          -- The files that were staged before this one are discarded.
          have left := wait.of_temporaries same.temporaries
          change StagesAll base (file :: rest) others waiting tree (.error _,
            ((ClientGen.discardAll (waiting.map Waiting.staged) : StateM FileTree _) _).2)
          rw [left.discardAll]
          exact .failed (by simp) rfl same.files
      | staged directory place same =>
          have later := ih ((wait.of_temporaries same.temporaries).stage directory place
            (PathText.join base file.path) file.content)
          rw [List.map_append] at later
          simp only [List.map_cons, List.map_nil, Waiting.staged] at later ⊢
          generalize (ClientGen.stageAll base _ rest : StateM FileTree _) _ = run at later ⊢
          cases later with
          | failed _ own files =>
              exact .failed (by simp) own fun place => (files place).trans (same.files place)
          | staged all files texts =>
              refine .staged all (fun place => (files place).trans (same.files place)) ?_
              rw [texts, List.map_append, List.append_assoc]
              rfl

/-! ## Moving -/

namespace FileTree

variable {texts : List (String × String)}

/-- The places that files get one after the other, up to the first that cannot be moved. -/
def moves (tree : FileTree) : List (String × String) → List (Place × String)
  | [] => []
  | (path, content) :: rest =>
      match tree.filePlace? path with
      | none => []
      | some place => (place, content) :: tree.moves rest

theorem moves_cons_of_none {text : String × String} (stays : tree.filePlace? text.1 = none)
    (rest : List (String × String)) : tree.moves (text :: rest) = [] := by
  rw [moves, stays]

theorem moves_cons_of_some {text : String × String} {place : Place}
    (gets : tree.filePlace? text.1 = some place) (rest : List (String × String)) :
    tree.moves (text :: rest) = (place, text.2) :: tree.moves rest := by
  rw [moves, gets]

theorem SameDirectories.moves (same : SameDirectories tree next) (texts : List (String × String)) :
    next.moves texts = tree.moves texts := by
  induction texts with
  | nil => rfl
  | cons text rest ih => rw [FileTree.moves, FileTree.moves, same.filePlace?, ih]

theorem free_of_moves {text : Place × String} (member : text ∈ tree.moves texts) :
    text.1 ≠ [] ∧ tree.hasDirectory text.1 = false := by
  induction texts with
  | nil => cases member
  | cons first rest ih =>
      cases found : tree.filePlace? first.1 with
      | none =>
          rw [moves_cons_of_none found] at member
          cases member
      | some place =>
          rw [moves_cons_of_some found] at member
          cases member with
          | head => exact ⟨filePlace?_ne_nil found, filePlace?_free found⟩
          | tail _ later => exact ih later

/-- The tree with texts at some places; the last one at a place stays. -/
def withTexts (texts : List (Place × String)) (tree : FileTree) : FileTree :=
  texts.foldl (fun tree text => tree.withEntry text.1 (.text text.2)) tree

theorem file?_withTexts {texts : List (Place × String)} (named : ∀ text ∈ texts, text.1 ≠ [])
    (tree : FileTree) (place : Place) : (tree.withTexts texts).file? place =
      ((texts.reverse.lookup place).map .text).or (tree.file? place) := by
  induction texts generalizing tree with
  | nil => rfl
  | cons text rest ih =>
      obtain ⟨here, content⟩ := text
      have later := ih (fun text member => named text (.tail _ member))
        (tree.withEntry here (.text content))
      rw [file?_withText (named _ (.head _))] at later
      change ((tree.withEntry here (.text content)).withTexts rest).file? place = _
      rw [later, List.reverse_cons, List.lookup_append]
      cases rest.reverse.lookup place with
      | some other => rfl
      | none =>
          by_cases same : place = here
          · simp [same]
          · simp [List.lookup_cons, beq_false_of_ne same, same]

@[simp] theorem temporaries_withTexts (texts : List (Place × String)) (tree : FileTree) :
    (tree.withTexts texts).temporaries = tree.temporaries := by
  induction texts generalizing tree with
  | nil => rfl
  | cons text rest ih => exact ih _

theorem sameFiles_withTexts_iff {texts : List (Place × String)}
    (named : ∀ text ∈ texts, text.1 ≠ []) (temporaries : next.temporaries = tree.temporaries)
    (same : ∀ place, next.file? place = tree.file? place) :
    tree.SameFiles (next.withTexts texts) ↔ ∀ place content,
      texts.reverse.lookup place = some content → tree.file? place = some (.text content) := by
  constructor
  · intro unchanged place content found
    have here := unchanged.files place
    rw [file?_withTexts named, found] at here
    exact here.symm
  · intro there
    refine ⟨(temporaries_withTexts texts next).trans temporaries, fun place => ?_⟩
    rw [file?_withTexts named]
    cases found : texts.reverse.lookup place with
    | none => exact same place
    | some content => exact (there place content found).symm

end FileTree

/-- The runs of the step that moves files: some get their places, and the others are discarded. -/
inductive SettlesAll (others : List Temporary) (waiting : List Waiting) (tree : FileTree) :
    Except WriteError (List String) × FileTree → Prop where
  | failed {error next} : (tree.moves (waiting.map Waiting.text)).length < waiting.length →
      next = FileTree.withTexts (tree.moves (waiting.map Waiting.text))
        { tree with temporaries := others } →
      SettlesAll others waiting tree (.error error, next)
  | settled {written next} : (tree.moves (waiting.map Waiting.text)).length = waiting.length →
      next = FileTree.withTexts (tree.moves (waiting.map Waiting.text))
        { tree with temporaries := others } →
      SettlesAll others waiting tree (.ok written, next)

theorem Waiting.Wait.settleAll {others : List Temporary} {waiting : List Waiting}
    (wait : Wait others waiting tree) : SettlesAll others waiting tree
      ((ClientGen.settleAll (waiting.map Waiting.staged) : StateM FileTree _) tree) := by
  induction waiting generalizing tree with
  | nil =>
      have same : tree.temporaries = others := wait.temporaries
      subst same
      exact .settled rfl rfl
  | cons file rest ih =>
      have found := FileTree.toOption_settle wait.find file.path
      rw [List.map_cons, ClientGen.settleAll, Waiting.staged]
      simp only [run_bind, FileStore.settle, FileTree.attempt]
      cases settle : tree.settle file.temporary.number file.path with
      | error fault =>
          rw [settle] at found
          have stays : tree.filePlace? file.path = none := Option.map_eq_none_iff.mp found.symm
          have none : tree.moves ((file :: rest).map Waiting.text) = [] :=
            FileTree.moves_cons_of_none stays _
          exact .failed (by rw [none]; exact Nat.succ_pos _) (by rw [none]; exact wait.discardAll)
      | ok settled =>
          rw [settle] at found
          obtain ⟨place, gets, rfl⟩ := Option.map_eq_some_iff.mp found.symm
          have moves : tree.moves ((file :: rest).map Waiting.text) =
              (place, file.temporary.content) :: tree.moves (rest.map Waiting.text) :=
            FileTree.moves_cons_of_some gets _
          -- The files that still wait see another tree, but their paths lead to the same places.
          have same : FileTree.SameDirectories tree ((tree.discard file.temporary.number).withEntry
              place (.text file.temporary.content)) :=
            ⟨rfl, (FileTree.sameDirectories_withText (FileTree.filePlace?_ne_nil gets)
              (FileTree.filePlace?_free gets) _).directories⟩
          have left : Wait others rest ((tree.discard file.temporary.number).withEntry place
              (.text file.temporary.content)) := wait.discard.of_temporaries rfl
          have later := ih left
          simp only [run_bind]
          generalize (ClientGen.settleAll (rest.map Waiting.staged) : StateM FileTree _) _ = run
            at later ⊢
          cases later with
          | failed fewer left =>
              rw [same.moves] at fewer left
              refine .failed ?_ ?_
              · rw [moves]
                exact Nat.succ_lt_succ fewer
              · rw [moves]
                exact left
          | settled all left =>
              rw [same.moves] at all left
              refine .settled ?_ ?_
              · rw [moves]
                exact congrArg (· + 1) all
              · rw [moves]
                exact left

/-! ## Writing -/

/-- What a write moves to its place. Nothing is moved unless all files can be staged. -/
def moved (base : String) (files : List GeneratedFile) (tree : FileTree) : List (Place × String) :=
  match (stageAll base [] files : StateM FileTree _) tree with
  | (.ok _, prepared) => prepared.moves (files.map (·.text base))
  | (.error _, _) => []

/-- A write that fails leaves every file as it was exactly if each file that it had moved by then
was there before with the same text. -/
theorem failed_write_leaves_files_iff {files : List GeneratedFile} {error : WriteError}
    {left : FileTree}
    (failed : (writeAll base files : StateM FileTree _) tree = (.error error, left)) :
    (moved base files tree).length < files.length ∧
      (tree.SameFiles left ↔ ∀ place content,
        (moved base files tree).reverse.lookup place = some content →
        tree.file? place = some (.text content)) := by
  have staged : StagesAll base files tree.temporaries [] tree
      ((stageAll base [] files : StateM FileTree _) tree) :=
    (Waiting.Wait.start tree).stageAll base files
  rw [writeAll, run_bind] at failed
  unfold moved
  generalize (stageAll base [] files : StateM FileTree _) tree = run at staged failed ⊢
  cases staged with
  | failed some own same =>
      cases failed
      have named : ∀ text ∈ ([] : List (Place × String)), text.1 ≠ [] := by simp
      exact ⟨List.length_pos_iff.mpr some, FileTree.sameFiles_withTexts_iff named own same⟩
  | @staged all prepared wait same texts =>
      have settled := wait.settleAll
      have named : ∀ text ∈ prepared.moves (files.map (·.text base)), text.1 ≠ [] :=
        fun _ member => (FileTree.free_of_moves member).1
      rw [List.map_nil, List.nil_append] at texts
      rw [← texts] at named ⊢
      change (settleAll (all.map Waiting.staged) : StateM FileTree _) prepared = _ at failed
      rw [failed] at settled
      cases settled with
      | failed fewer left =>
          subst left
          have count : all.length = files.length := by
            simpa using congrArg List.length texts
          exact ⟨count ▸ fewer, FileTree.sameFiles_withTexts_iff named rfl same⟩

/-- A file stands in the place of a directory, so that the second file cannot be staged. -/
theorem failed_write_leaves_files_iff_blocked : ∃ error left,
    (writeAll "out" [⟨"a.ts", "a"⟩, ⟨"no/b.ts", "b"⟩] : StateM FileTree _)
      { entries := [(["out"], .directory), (["out", "no"], .text "")] } = (.error error, left) ∧
    FileTree.SameFiles { entries := [(["out"], .directory), (["out", "no"], .text "")] } left := by
  have failed : (writeAll "out" [⟨"a.ts", "a"⟩, ⟨"no/b.ts", "b"⟩] : StateM FileTree _)
      { entries := [(["out"], .directory), (["out", "no"], .text "")] } =
      (.error ⟨"out/no", .alreadyThere⟩,
        { entries := [(["out"], .directory), (["out", "no"], .text "")] }) := by rfl
  have none : moved "out" [⟨"a.ts", "a"⟩, ⟨"no/b.ts", "b"⟩]
      { entries := [(["out"], .directory), (["out", "no"], .text "")] } = [] := by decide +kernel
  have leaves := failed_write_leaves_files_iff failed
  rw [none] at leaves
  exact ⟨_, _, failed, leaves.2.mpr (by simp)⟩

/-- A directory stands at the second place, and the first file was moved by then. -/
theorem moved_file_stays :
    ¬ ∀ (base : String) (files : List GeneratedFile) (tree left : FileTree) (error : WriteError),
      (∀ file ∈ files, PathText.isAbsolute file.path = false) →
      (writeAll base files : StateM FileTree _) tree = (.error error, left) →
      tree.SameFiles left := by
  intro leaves
  have failed : (writeAll "out" [⟨"b.ts", "b"⟩, ⟨"a.ts", "x"⟩, ⟨"c.ts", "c"⟩] : StateM FileTree _)
      { entries := [(["out"], .directory), (["out", "a.ts"], .directory)] } =
      (.error ⟨"out/a.ts", .isDirectory⟩,
        { entries := [(["out"], .directory), (["out", "a.ts"], .directory),
          (["out", "b.ts"], .text "b")] }) := by rfl
  have same := (leaves _ _ _ _ _ (by decide) failed).files ["out", "b.ts"]
  cases same

end ClientGen
