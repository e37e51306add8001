import ClientGen.Glob.Basic

/-!
Reading patterns. Pieces are collected from left to right, last piece first; a stack holds what was
collected before each group that is still open.
-/

set_option autoImplicit false

namespace ClientGen.Glob

/-- A class that is being read: its ranges, the last one first, and whether a hyphen stands between
the last character and the next one. -/
structure OpenClass where
  ranges : List (Char × Char) := []
  hyphen : Bool := false

def OpenClass.extend (pending : OpenClass) (char : Char) : Except Fault OpenClass :=
  match pending.ranges with
  | [] => .ok ⟨[(char, char)], false⟩
  | (first, _) :: others =>
      if char < first then .error (.emptyRange first char)
      else .ok ⟨(first, char) :: others, false⟩

/-- The ranges of a class. A hyphen at the end stands for itself. -/
def OpenClass.finish (pending : OpenClass) : List (Char × Char) :=
  let closed := if pending.hyphen then ('-', '-') :: pending.ranges else pending.ranges
  closed.reverse

/-- The ranges of a class up to its closing bracket, and what follows it. A closing bracket or a
hyphen at the beginning stands for itself. -/
def classRanges (pending : OpenClass) :
    List Char → Except Fault (List (Char × Char) × List Char)
  | [] => .error .unclosedClass
  | char :: rest =>
      let isFirst := pending.ranges.isEmpty
      if char = ']' ∧ !isFirst then .ok (pending.finish, rest)
      else if char = '-' ∧ !isFirst ∧ !pending.hyphen then
        classRanges { pending with hyphen := true } rest
      else if pending.hyphen then
        match pending.extend char with
        | .ok next => classRanges next rest
        | .error fault => .error fault
      else classRanges { pending with ranges := (char, char) :: pending.ranges } rest

/-- A group that is still open: the pieces before it and its finished alternatives, each list with
the last element first. -/
structure OpenGroup where
  before : List Piece
  alternatives : List (List Piece)

/-- What was read so far: the open groups, the innermost first, and the pieces of the alternative
that is being read, the last one first. -/
structure Progress where
  groups : List OpenGroup := []
  pieces : List Piece := []

namespace Progress

def push (progress : Progress) (piece : Piece) : Progress :=
  { progress with pieces := piece :: progress.pieces }

def pushStars (progress : Progress) : Progress := (progress.push .star).push .star

/-- Puts the piece for a double star in the place of the slash before it. A double star at the
beginning or the end takes in another one. -/
def replaceLast (progress : Progress) (piece : Piece) : Progress :=
  match progress.pieces with
  | .leading :: others => { progress with pieces := .leading :: others }
  | .trailing :: others => { progress with pieces := .trailing :: others }
  | _ :: others => { progress with pieces := piece :: others }
  | [] => progress

def openGroup (progress : Progress) : Progress :=
  ⟨⟨progress.pieces, []⟩ :: progress.groups, []⟩

/-- Ends an alternative of the innermost group; outside of groups a comma stands for itself. -/
def comma (progress : Progress) : Progress :=
  match progress.groups with
  | [] => progress.push (.literal ',')
  | group :: outer =>
      ⟨{ group with alternatives := progress.pieces.reverse :: group.alternatives } :: outer, []⟩

def closeGroup (progress : Progress) : Except Fault Progress :=
  match progress.groups with
  | [] => .error .unopenedGroup
  | group :: outer =>
      let alternatives := (progress.pieces.reverse :: group.alternatives).reverse
      .ok ⟨outer, .choice alternatives :: group.before⟩

/-- Adds a double star, and tells whether the next character belongs to it. It has a meaning of its
own only between slashes and the ends of a pattern or an alternative; elsewhere it is two stars. -/
def doubleStar (progress : Progress) (previous : Option Char) (next : Option Char) :
    Progress × Bool :=
  let inGroup := !progress.groups.isEmpty
  if progress.pieces.isEmpty then
    match next with
    | none => (progress.push .leading, false)
    | some '/' => (progress.push .leading, true)
    | some _ => (progress.pushStars, false)
  else if previous ≠ some '/' ∧ !(inGroup && (previous = some ',' || previous = some '\x7b')) then
    (progress.pushStars, false)
  else
    match next with
    | none => (progress.replaceLast .trailing, false)
    | some '/' => (progress.replaceLast .between, true)
    | some char =>
        if inGroup && (char = ',' || char = '\x7d') then (progress.replaceLast .trailing, false)
        else (progress.pushStars, false)

end Progress

/-- Reads on. `previous` is the character before; `fuel` bounds the number of steps. -/
def readFrom : Nat → Progress → Option Char → List Char → Except Fault Progress
  | 0, progress, _, _ => .ok progress
  | _ + 1, progress, _, [] => .ok progress
  | fuel + 1, progress, previous, char :: rest =>
      match char, rest with
      | '?', _ => readFrom fuel (progress.push .any) (some char) rest
      | '*', '*' :: after =>
          let (extended, takesNext) := progress.doubleStar previous after.head?
          if takesNext then readFrom fuel extended after.head? after.tail
          else readFrom fuel extended (some '*') after
      | '*', _ => readFrom fuel (progress.push .star) (some char) rest
      | '[', _ =>
          let (negated, body) :=
            match rest with
            | '!' :: body => (true, body)
            | '^' :: body => (true, body)
            | _ => (false, rest)
          match classRanges {} body with
          | .error fault => .error fault
          | .ok (ranges, after) =>
              readFrom fuel (progress.push (.oneOf negated ranges)) (some ']') after
      | '\x7b', _ => readFrom fuel progress.openGroup (some char) rest
      | '\x7d', _ =>
          match progress.closeGroup with
          | .error fault => .error fault
          | .ok closed => readFrom fuel closed (some char) rest
      | ',', _ => readFrom fuel progress.comma (some char) rest
      | '\\', [] => .error .danglingEscape
      | '\\', escaped :: after =>
          readFrom fuel (progress.push (.literal escaped)) (some escaped) after
      | _, _ => readFrom fuel (progress.push (.literal char)) (some char) rest

def parse (text : String) : Except Fault (List Piece) :=
  match readFrom (text.length + 1) {} none text.toList with
  | .error fault => .error fault
  | .ok progress =>
      if progress.groups.isEmpty then .ok progress.pieces.reverse else .error .unclosedGroup

end ClientGen.Glob
