import ClientGen.Files.Tree

/-!
File operations of a program. They act on a tree of files or on the files of the machine.
-/

set_option autoImplicit false

namespace ClientGen

/-- A file that was written before it gets its place: the directory it is in and its number. -/
structure Staged where
  directory : String
  number : Nat
  deriving DecidableEq, Repr

/-- Operations on files. -/
class FileStore (Step : Type → Type) where
  /-- Whether a path leads to a file or a directory. -/
  isThere : String → Step Bool
  /-- Whether a path leads to a directory. -/
  isDirectory : String → Step Bool
  /-- The text of a file. -/
  readText : String → Step (Except FileFault String)
  /-- Writes a text to a file, which may be new. -/
  writeText : String → String → Step (Except FileFault Unit)
  /-- Makes a directory in one that is there. -/
  makeDirectory : String → Step (Except FileFault Unit)
  /-- Writes a text to a new file in a directory, under a name that no other file has. -/
  stage : String → String → Step (Except FileFault Staged)
  /-- Moves a staged file to its place. -/
  settle : Staged → String → Step (Except FileFault Unit)
  /-- Removes a staged file. -/
  discard : Staged → Step Unit

namespace FileTree

def attempt (change : FileTree → Except FileFault FileTree) :
    StateM FileTree (Except FileFault Unit) := fun tree =>
  match change tree with
  | .ok changed => (.ok (), changed)
  | .error fault => (.error fault, tree)

instance : FileStore (StateM FileTree) where
  isThere path := fun tree => ((tree.find path).isOk, tree)
  isDirectory path := fun tree => (tree.isDirectory path, tree)
  readText path := fun tree => (tree.readText path, tree)
  writeText path content := attempt (writeText path content)
  makeDirectory path := attempt (makeDirectory path)
  stage directory content := fun tree =>
    match tree.stage directory content with
    | .ok (number, changed) => (.ok ⟨directory, number⟩, changed)
    | .error fault => (.error fault, tree)
  settle staged path := attempt (settle staged.number path)
  discard staged := fun tree => ((), tree.discard staged.number)

end FileTree

variable {Step : Type → Type} [Monad Step] [FileStore Step]

/-- Makes the directories of a list, the last one first. One that is there already is fine. -/
def makeAll : List String → Step (Except FileFault Unit)
  | [] => return .ok ()
  | path :: inner => do
      match ← makeAll inner with
      | .error fault => return .error fault
      | .ok () =>
          match ← FileStore.makeDirectory path with
          | .ok () => return .ok ()
          | .error fault =>
              if fault = .alreadyThere ∧ (← FileStore.isDirectory path) then return .ok ()
              else return .error fault

/-- Makes the nearest of some directories for which there is a directory around it, and then the
others. `waiting` are those that were tried before, the nearest first. -/
def makeWithin (waiting : List String) : List String → Step (Except FileFault Unit)
  | [] => makeAll waiting
  | path :: outer => do
      if path.isEmpty then makeAll waiting
      else
        match ← FileStore.makeDirectory path with
        | .ok () => makeAll waiting
        | .error .missing => makeWithin (waiting ++ [path]) outer
        | .error fault =>
            if fault = .alreadyThere ∧ (← FileStore.isDirectory path) then makeAll waiting
            else return .error fault

/-- Makes a directory together with those around it that are missing. -/
def makeDirectories (path : String) : Step (Except FileFault Unit) :=
  makeWithin [] (PathText.ancestors path)

end ClientGen
