/-!
Sets of characters as sorted tables of code points. A search stops at the first entry that lies
above the code point, so plain Latin text never walks a whole table.
-/

set_option autoImplicit false

namespace ClientGen.Text

/-- Disjoint intervals of code points in increasing order, both ends included. -/
abbrev Ranges := List (Nat × Nat)

def Ranges.contains : Ranges → Nat → Bool
  | [], _ => false
  | (first, last) :: rest, code =>
      if code < first then false else code ≤ last || Ranges.contains rest code

/-- Every `step`-th code point from `first` to `last`. -/
structure Run where
  first : Nat
  last : Nat
  step : Nat
  deriving DecidableEq, Repr

def Run.contains (run : Run) (code : Nat) : Bool :=
  run.first ≤ code && code ≤ run.last && (code - run.first) % run.step == 0

/-- Whether a code point is a member of one of the runs, which are in increasing order. -/
def Run.anyContains : List Run → Nat → Bool
  | [], _ => false
  | run :: rest, code =>
      if code < run.first then false else run.contains code || Run.anyContains rest code

/-- A run of characters and the image of its first member; the others keep their distance. -/
structure Mapping where
  source : Run
  target : Nat
  deriving DecidableEq, Repr

/-- The image of a code point under the first mapping that covers it. -/
def Mapping.find? : List Mapping → Nat → Option Nat
  | [], _ => none
  | mapping :: rest, code =>
      if code < mapping.source.first then none
      else if mapping.source.contains code then
        some (mapping.target + (code - mapping.source.first))
      else Mapping.find? rest code

end ClientGen.Text
