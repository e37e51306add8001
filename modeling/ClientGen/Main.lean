import ClientGen.CommandLine.Execute

/-!
The program: it reads its command line, acts on the files of the machine and prints.
-/

set_option autoImplicit false

namespace ClientGen.Main

def faultNumber (code : UInt32) : Nat :=
  if code.toNat < Nat.pow 2 31 then code.toNat else Nat.pow 2 32 - code.toNat

def faultNumbered (code : UInt32) (details : String) : FileFault :=
  match faultNumber code with
  | 2 => .missing
  | 16 => .busy
  | 17 => .alreadyThere
  | 20 => .notDirectory
  | 21 => .isDirectory
  | 36 => .nameTooLong
  | number => .other (details ++ " (os error " ++ toString number ++ ")")

def faultOf : IO.Error → FileFault
  | .alreadyExists _ code details => faultNumbered code details
  | .resourceBusy code details => faultNumbered code details
  | .noFileOrDirectory _ code details => faultNumbered code details
  | .invalidArgument _ code details => faultNumbered code details
  | .inappropriateType _ code details => faultNumbered code details
  | .permissionDenied _ code details => faultNumbered code details
  | .unsupportedOperation code details => faultNumbered code details
  | .otherError code details => faultNumbered code details
  | error => .other error.toString

def attempt {Value : Type} (action : IO Value) : IO (Except FileFault Value) := do
  try
    return .ok (← action)
  catch error =>
    return .error (faultOf error)

def readText (path : String) : IO (Except FileFault String) := do
  match ← attempt (IO.FS.readBinFile path) with
  | .error fault => return .error fault
  | .ok bytes =>
      match String.fromUTF8? bytes with
      | some text => return .ok text
      | none => return .error .notText

def stagedPath (staged : Staged) : String :=
  PathText.join staged.directory (".tmp" ++ toString staged.number)

/-- Writes a text to a new file, under the first number from `number` on that no file has. -/
partial def stageFrom (directory content : String) (number : Nat) :
    IO (Except FileFault Staged) := do
  let staged : Staged := ⟨directory, number⟩
  let written ← attempt do
    let handle ← IO.FS.Handle.mk (stagedPath staged) .writeNew
    handle.putStr content
  match written with
  | .ok () => return .ok staged
  | .error .alreadyThere => stageFrom directory content (number + 1)
  | .error fault => return .error fault

instance : FileStore IO where
  isThere path := do return (← attempt (IO.FS.realPath path)).isOk
  isDirectory path := do
    match ← attempt (IO.FS.realPath path) with
    | .ok place => place.isDir
    | .error _ => return false
  readText path := readText path
  writeText path content := attempt (IO.FS.writeFile path content)
  makeDirectory path := attempt (IO.FS.createDir path)
  stage directory content := stageFrom directory content 0
  settle staged path := attempt (IO.FS.rename (stagedPath staged) path)
  discard staged := do
    let _ ← attempt (IO.FS.removeFile (stagedPath staged))

end ClientGen.Main

def main (words : List String) : IO UInt32 := do
  let outcome ← ClientGen.executeLine words
  (← IO.getStdout).putStr outcome.stdout
  (← IO.getStderr).putStr outcome.stderr
  return outcome.exitCode.toUInt32
