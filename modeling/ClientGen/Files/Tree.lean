import ClientGen.Files.Fault
import ClientGen.Files.PathText

/-!
A tree of files as a list of its entries by place. Paths are followed component by component, and
each component but the last has to be a directory that is there. Files that are written before they
get their place are kept apart, because no other file has a name such as theirs.
-/

set_option autoImplicit false

namespace ClientGen

abbrev Place := List String

/-- A file with its text, a file with bytes that are no text, or a directory. -/
inductive FileEntry where
  | text (content : String)
  | bytes (content : List UInt8)
  | directory
  deriving DecidableEq, Repr

/-- A file without a place: its number, the directory it is in, and its text. -/
structure Temporary where
  number : Nat
  directory : Place
  content : String
  deriving DecidableEq, Repr

/-- A tree of files, and the directory where paths begin that do not begin at the root. -/
structure FileTree where
  entries : List (Place × FileEntry) := []
  temporaries : List Temporary := []
  home : Place := []
  deriving DecidableEq, Repr

namespace FileTree

def entry? (tree : FileTree) (place : Place) : Option FileEntry :=
  if place = [] then some .directory else tree.entries.lookup place

def hasDirectory (tree : FileTree) (place : Place) : Bool := tree.entry? place = some .directory

def put (place : Place) (entry : FileEntry) : List (Place × FileEntry) → List (Place × FileEntry)
  | [] => [(place, entry)]
  | (other, old) :: rest =>
      if other = place then (place, entry) :: rest else (other, old) :: put place entry rest

def withEntry (place : Place) (entry : FileEntry) (tree : FileTree) : FileTree :=
  { tree with entries := put place entry tree.entries }

def maxName : Nat := 255

def maxPath : Nat := 4095

def enter (tree : FileTree) (place : Place) (name : String) : Except FileFault Place :=
  if name = "." then .ok place
  else if name = ".." then .ok place.dropLast
  else if maxName < name.utf8ByteSize then .error .nameTooLong
  else
    match tree.entry? (place ++ [name]) with
    | none => .error .missing
    | some .directory => .ok (place ++ [name])
    | some _ => .error .notDirectory

/-- Where a path leads: to a name in a directory, which may be written as that of a directory, or to
a directory that has no name of its own in the path. -/
inductive Destination where
  | named (directory : Place) (name : String) (asDirectory : Bool)
  | unnamed (directory : Place)

def locate (tree : FileTree) (path : String) : Except FileFault Destination :=
  if path.isEmpty then .error .missing
  else if path.toList.contains '\x00' then .error .nulInName
  else if maxPath < path.utf8ByteSize then .error .nameTooLong
  else
    let start := if PathText.isAbsolute path then [] else tree.home
    let components := PathText.components path
    match (components.dropLast.foldlM tree.enter start), components.getLast? with
    | .error fault, _ => .error fault
    | .ok directory, none => .ok (.unnamed directory)
    | .ok directory, some name =>
        if name = "." ∨ name = ".." then (tree.enter directory name).map .unnamed
        else if maxName < name.utf8ByteSize then .error .nameTooLong
        else .ok (.named directory name (path.toList.getLast? = some '/'))

def find (tree : FileTree) (path : String) : Except FileFault (Place × FileEntry) :=
  match tree.locate path with
  | .error fault => .error fault
  | .ok (.unnamed directory) => .ok (directory, .directory)
  | .ok (.named directory name asDirectory) =>
      let place := directory ++ [name]
      match tree.entry? place with
      | none => .error .missing
      | some .directory => .ok (place, .directory)
      | some entry => if asDirectory then .error .notDirectory else .ok (place, entry)

def isDirectory (tree : FileTree) (path : String) : Bool :=
  match tree.find path with
  | .ok (_, .directory) => true
  | _ => false

def readText (tree : FileTree) (path : String) : Except FileFault String :=
  match tree.find path with
  | .error fault => .error fault
  | .ok (_, .directory) => .error .isDirectory
  | .ok (_, .bytes _) => .error .notText
  | .ok (_, .text content) => .ok content

def makeDirectory (path : String) (tree : FileTree) : Except FileFault FileTree :=
  match tree.locate path with
  | .error fault => .error fault
  | .ok (.unnamed _) => .error .alreadyThere
  | .ok (.named directory name _) =>
      let place := directory ++ [name]
      match tree.entry? place with
      | none => .ok (tree.withEntry place .directory)
      | some _ => .error .alreadyThere

def writeText (path content : String) (tree : FileTree) : Except FileFault FileTree :=
  match tree.locate path with
  | .error fault => .error fault
  | .ok (.unnamed _) => .error .isDirectory
  | .ok (.named directory name asDirectory) =>
      let place := directory ++ [name]
      match tree.entry? place with
      | some .directory => .error .isDirectory
      | some _ =>
          if asDirectory then .error .notDirectory
          else .ok (tree.withEntry place (.text content))
      | none =>
          if asDirectory then .error .isDirectory
          else .ok (tree.withEntry place (.text content))

def freshNumber (tree : FileTree) : Nat :=
  tree.temporaries.foldr (fun temporary number => max number (temporary.number + 1)) 0

/-- The tree with a text in a new file without a place, and the number of this file. An empty path
stands for the directory where paths begin. -/
def stage (directory content : String) (tree : FileTree) : Except FileFault (Nat × FileTree) :=
  let target := if directory.isEmpty then .ok (tree.home, .directory) else tree.find directory
  match target with
  | .error fault => .error fault
  | .ok (place, .directory) =>
      let temporary : Temporary := ⟨tree.freshNumber, place, content⟩
      .ok (temporary.number, { tree with temporaries := temporary :: tree.temporaries })
  | .ok _ => .error .notDirectory

def discard (number : Nat) (tree : FileTree) : FileTree :=
  { tree with temporaries := tree.temporaries.filter (·.number ≠ number) }

/-- The tree with a file moved to its place, where it replaces another file but no directory. -/
def settle (number : Nat) (path : String) (tree : FileTree) : Except FileFault FileTree :=
  match tree.temporaries.find? (·.number = number), tree.locate path with
  | none, _ => .error .missing
  | some _, .error fault => .error fault
  | some _, .ok (.unnamed _) => .error .busy
  | some temporary, .ok (.named directory name asDirectory) =>
      let place := directory ++ [name]
      if asDirectory then .error .notDirectory
      else if tree.hasDirectory place then .error .isDirectory
      else .ok ((tree.discard number).withEntry place (.text temporary.content))

end FileTree

end ClientGen
