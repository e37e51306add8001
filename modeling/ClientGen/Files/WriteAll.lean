import ClientGen.Files.Store
import ClientGen.GeneratedFile

/-!
Writing generated files. Every file is first staged beside its place, and the staged files are moved
to their places only after all of them were written.
-/

set_option autoImplicit false

namespace ClientGen

/-- A path that could not be written. -/
structure WriteError where
  path : String
  fault : FileFault
  deriving DecidableEq, Repr

def WriteError.message (error : WriteError) : String :=
  "failed to write " ++ error.path ++ ": " ++ error.fault.message

variable {Step : Type → Type} [Monad Step] [FileStore Step]

def discardAll : List (Staged × String) → Step Unit
  | [] => return ()
  | (staged, _) :: rest => do
      FileStore.discard staged
      discardAll rest

def stageFile (base : String) (file : GeneratedFile) :
    Step (Except WriteError (Staged × String)) := do
  let path := PathText.join base file.path
  let directory := (PathText.parent? path).getD base
  match ← makeDirectories directory with
  | .error fault => return .error ⟨directory, fault⟩
  | .ok () =>
      match ← FileStore.stage directory file.content with
      | .error fault => return .error ⟨path, fault⟩
      | .ok staged => return .ok (staged, path)

/-- Stages files in order. If one of them fails, the others are removed. -/
def stageAll (base : String) (done : List (Staged × String)) :
    List GeneratedFile → Step (Except WriteError (List (Staged × String)))
  | [] => return .ok done
  | file :: rest => do
      match ← stageFile base file with
      | .ok staged => stageAll base (done ++ [staged]) rest
      | .error error =>
          discardAll done
          return .error error

/-- Moves staged files to their places in order. If one of them fails, it is removed with those
after it. -/
def settleAll : List (Staged × String) → Step (Except WriteError (List String))
  | [] => return .ok []
  | (staged, path) :: rest => do
      match ← FileStore.settle staged path with
      | .error fault =>
          discardAll ((staged, path) :: rest)
          return .error ⟨path, fault⟩
      | .ok () => return (← settleAll rest).map (path :: ·)

def writeAll (base : String) (files : List GeneratedFile) :
    Step (Except WriteError (List String)) := do
  match ← stageAll base [] files with
  | .error error => return .error error
  | .ok staged => settleAll staged

end ClientGen
