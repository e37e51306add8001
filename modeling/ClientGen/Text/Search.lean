/-!
Parts of texts: where a text holds another one, and what is left when a part is taken away. All work
on the characters, so that facts about them need only lists.
-/

set_option autoImplicit false

namespace ClientGen.Text

def afterStart? : List Char → List Char → Option (List Char)
  | [], chars => some chars
  | _ :: _, [] => none
  | first :: more, char :: rest => if first = char then afterStart? more rest else none

/-- Whether a list of characters has a part that equals another one. -/
def hasPart (part : List Char) : List Char → Bool
  | [] => (afterStart? part []).isSome
  | char :: rest => (afterStart? part (char :: rest)).isSome || hasPart part rest

def contains (text part : String) : Bool := hasPart part.toList text.toList

def startsWith (text start : String) : Bool := (afterStart? start.toList text.toList).isSome

def stripStart? (text start : String) : Option String :=
  (afterStart? start.toList text.toList).map String.ofList

/-- The characters before the first separator, and those after it if there is one. -/
def cut (separator : Char) : List Char → List Char × Option (List Char)
  | [] => ([], none)
  | char :: rest =>
      if char = separator then ([], some rest)
      else
        let (before, after) := cut separator rest
        (char :: before, after)

/-- The parts between separators: always one more than there are separators. -/
def split (separator : Char) : List Char → List (List Char)
  | [] => [[]]
  | char :: rest =>
      if char = separator then [] :: split separator rest
      else
        match split separator rest with
        | [] => [[char]]
        | part :: parts => (char :: part) :: parts

/-- The part after the last separator; everything if there is none. -/
def afterLast (separator : Char) (chars : List Char) : List Char :=
  (chars.reverse.takeWhile (· ≠ separator)).reverse

/-- Replaces every occurrence of a non-empty part, from left to right. `skip` counts the characters
of an occurrence that are still to be passed over. -/
def replaceFrom (part replacement : List Char) : Nat → List Char → List Char
  | _, [] => []
  | skip + 1, _ :: rest => replaceFrom part replacement skip rest
  | 0, char :: rest =>
      if (afterStart? part (char :: rest)).isSome && !part.isEmpty then
        replacement ++ replaceFrom part replacement (part.length - 1) rest
      else char :: replaceFrom part replacement 0 rest

/-- Replaces every occurrence of a non-empty part, from left to right. -/
def replaceAll (part replacement chars : List Char) : List Char :=
  replaceFrom part replacement 0 chars

end ClientGen.Text
