import ClientGen.Yaml.Cursor
import ClientGen.Yaml.Token.Basic

/-!
Scalars of a YAML text: plain, quoted and block scalars. Where a scalar goes on in the next line,
the end of the line becomes a space, and of several line ends the first is dropped.
-/

set_option autoImplicit false

namespace ClientGen.Yaml

/-- White space between the words of a scalar: the blanks up to the first line end, that line end,
and the others. Blanks and line ends stand last first. -/
structure Gap where
  blanks : List Char := []
  first : Option Char := none
  others : List Char := []

namespace Gap

def hasLineEnd (gap : Gap) : Bool := gap.first.isSome

/-- What the gap stands for inside of a scalar, last character first. -/
def fold (gap : Gap) : List Char :=
  match gap.first with
  | none => gap.blanks
  | some '\n' => if gap.others.isEmpty then [' '] else gap.others
  | some separator => gap.others ++ [separator]

/-- Reads a gap. Blanks count only up to the first line end. A tab is refused where it would stand
in for indentation, left of the column `tabsFrom`. `fuel` bounds the number of steps. -/
def read (tabsFrom : Nat) : Nat → Gap → Cursor → Option (Gap × Cursor)
  | 0, gap, cursor => some (gap, cursor)
  | fuel + 1, gap, cursor =>
      match cursor.next? with
      | none => some (gap, cursor)
      | some char =>
          if isGap char then
            if gap.hasLineEnd then
              if char = '\t' ∧ cursor.column < tabsFrom then none
              else read tabsFrom fuel gap (cursor.skip 1)
            else read tabsFrom fuel { gap with blanks := char :: gap.blanks } (cursor.skip 1)
          else
            match cursor.lineEnd? with
            | none => some (gap, cursor)
            | some (stands, after) =>
                if gap.hasLineEnd then
                  read tabsFrom fuel { gap with others := stands :: gap.others } after
                else read tabsFrom fuel { gap with first := some stands } after

end Gap

/-- Whether a bracket, a brace or a comma ends a plain scalar inside of brackets. -/
def isFlowChar (char : Char) : Bool :=
  char == ',' || char == '[' || char == ']' || char == '\x7b' || char == '\x7d'

/-- A word of a plain scalar, last character first. A colon ends it if the next word is a separate
one. -/
def plainWord (inFlow : Bool) : Nat → List Char → Cursor → Option (List Char × Cursor)
  | 0, word, cursor => some (word, cursor)
  | fuel + 1, word, cursor =>
      match cursor.next? with
      | none => some (word, cursor)
      | some char =>
          if isGap char || isLineEnd char then some (word, cursor)
          else
            let follower := cursor.at? 1
            if inFlow && char = ':' &&
                (follower.any fun next => isFlowChar next || next = '?') then none
            else if char = ':' && endsWord follower || inFlow && isFlowChar char then
              some (word, cursor)
            else plainWord inFlow fuel (char :: word) (cursor.skip 1)

/-- The words of a plain scalar, last character first, and whether it is followed by a line end. The
scalar ends where a line begins left of the column `indent`, unless it stands inside of brackets. -/
def plainWords (inFlow : Bool) (indent : Nat) :
    Nat → List Char → Gap → Cursor → Option (List Char × Bool × Cursor)
  | 0, text, gap, cursor => some (text, gap.hasLineEnd, cursor)
  | fuel + 1, text, gap, cursor =>
      if cursor.atDocumentMark || cursor.next? = some '#' then
        some (text, gap.hasLineEnd, cursor)
      else
        match plainWord inFlow (cursor.left + 1) [] cursor with
        | none => none
        | some (word, after) =>
            let joined := if word.isEmpty then text else word ++ gap.fold ++ text
            let pending := if word.isEmpty then gap else {}
            if after.next?.any fun char => isGap char || isLineEnd char then
              match Gap.read indent (after.left + 1) pending after with
              | none => none
              | some (wide, beyond) =>
                  if !inFlow && beyond.column < indent then some (joined, wide.hasLineEnd, beyond)
                  else plainWords inFlow indent fuel joined wide beyond
            else some (joined, pending.hasLineEnd, after)

def plainScalar (inFlow : Bool) (indent : Nat) (cursor : Cursor) :
    Option (Token × Bool × Cursor) :=
  (plainWords inFlow indent (cursor.left + 1) [] {} cursor).map fun (text, ended, after) =>
    (.scalar .plain (String.ofList text.reverse), ended, after)

def hexValue? (char : Char) : Option Nat :=
  if char.isDigit then some (char.toNat - '0'.toNat)
  else if 'a' ≤ char ∧ char ≤ 'f' then some (char.toNat - 'a'.toNat + 10)
  else if 'A' ≤ char ∧ char ≤ 'F' then some (char.toNat - 'A'.toNat + 10)
  else none

/-- The character of an escape by code point, of which `length` digits follow. -/
def escapedCode (length : Nat) (cursor : Cursor) : Option (Char × Cursor) :=
  let digits := cursor.chars.take length
  if digits.length < length then none
  else
    match digits.foldlM (fun value digit => (hexValue? digit).map (16 * value + ·)) 0 with
    | none => none
    | some code =>
        if (0xD800 ≤ code ∧ code ≤ 0xDFFF) ∨ 0x10FFFF < code then none
        else some (Char.ofNat code, cursor.skip length)

def escapeLetters : List (Char × Char) :=
  [('0', '\x00'), ('a', '\x07'), ('b', '\x08'), ('t', '\t'), ('\t', '\t'), ('n', '\n'),
    ('v', '\x0b'), ('f', '\x0c'), ('r', '\r'), ('e', '\x1b'), (' ', ' '), ('"', '"'), ('/', '/'),
    ('\\', '\\'), ('N', '\u0085'), ('_', '\u00a0'), ('L', '\u2028'), ('P', '\u2029')]

def escape (cursor : Cursor) : Option (Char × Cursor) :=
  match cursor.next? with
  | none => none
  | some 'x' => escapedCode 2 (cursor.skip 1)
  | some 'u' => escapedCode 4 (cursor.skip 1)
  | some 'U' => escapedCode 8 (cursor.skip 1)
  | some letter => (escapeLetters.lookup letter).map fun char => (char, cursor.skip 1)

/-- How a word of a quoted scalar ends: at the closing quote, at white space, or at a line end that
a backslash takes away. -/
inductive WordEnd where
  | quote
  | gap
  | escapedLineEnd
  deriving DecidableEq

def quotedWord (single : Bool) : Nat → List Char → Cursor → Option (List Char × WordEnd × Cursor)
  | 0, _, _ => none
  | fuel + 1, word, cursor =>
      match cursor.next? with
      | none => some (word, .gap, cursor)
      | some char =>
          if isGap char || isLineEnd char then some (word, .gap, cursor)
          else if single && char = '\'' then
            if cursor.at? 1 = some '\'' then quotedWord single fuel ('\'' :: word) (cursor.skip 2)
            else some (word, .quote, cursor.skip 1)
          else if !single && char = '"' then some (word, .quote, cursor.skip 1)
          else if !single && char = '\\' then
            match (cursor.skip 1).lineEnd? with
            | some (_, after) => some (word, .escapedLineEnd, after)
            | none =>
                match escape (cursor.skip 1) with
                | none => none
                | some (escaped, after) => quotedWord single fuel (escaped :: word) after
          else quotedWord single fuel (char :: word) (cursor.skip 1)

/-- White space after a line end that a backslash takes away: only the line ends count. They stand
last first. -/
def escapedGap (cursor : Cursor) : Option (List Char × Cursor) :=
  (Gap.read 0 (cursor.left + 1) { first := some '\u2028' } cursor).map fun (gap, after) =>
    (gap.others, after)

/-- The words of a quoted scalar, last character first. No line of it may begin like a document. -/
def quotedWords (single : Bool) : Nat → List Char → Cursor → Option (List Char × Cursor)
  | 0, _, _ => none
  | fuel + 1, text, cursor =>
      if cursor.atDocumentMark || cursor.next?.isNone then none
      else
        match quotedWord single (cursor.left + 1) text cursor with
        | none => none
        | some (longer, .quote, after) => some (longer, after)
        | some (longer, .escapedLineEnd, after) =>
            match escapedGap after with
            | none => none
            | some (lineEnds, beyond) =>
                quotedWords single fuel (lineEnds ++ longer) beyond
        | some (longer, .gap, after) =>
            match Gap.read 0 (after.left + 1) {} after with
            | none => none
            | some (gap, beyond) => quotedWords single fuel (gap.fold ++ longer) beyond

def quotedScalar (single : Bool) (cursor : Cursor) : Option (Token × Cursor) :=
  (quotedWords single (cursor.left + 1) [] (cursor.skip 1)).map fun (text, after) =>
    (.scalar (if single then .singleQuoted else .doubleQuoted) (String.ofList text.reverse), after)

/-- What becomes of the line ends at the end of a block scalar. -/
inductive Chomping where
  | strip
  | clip
  | keep
  deriving DecidableEq

/-- The indicators after the sign of a block scalar: chomping and indentation in either order. An
indentation of zero is refused. -/
def blockIndicators (cursor : Cursor) : Option (Chomping × Option Nat × Cursor) :=
  let chomping? (place : Cursor) : Option Chomping :=
    match place.next? with
    | some '+' => some .keep
    | some '-' => some .strip
    | _ => none
  let digit? (place : Cursor) : Option Nat :=
    (place.next?.filter Char.isDigit).map fun char => char.toNat - '0'.toNat
  let checked (chomping : Chomping) (increment : Nat) (after : Cursor) :=
    if increment = 0 then none else some (chomping, some increment, after)
  match chomping? cursor, digit? cursor with
  | some chomping, _ =>
      match digit? (cursor.skip 1) with
      | some increment => checked chomping increment (cursor.skip 2)
      | none => some (chomping, none, cursor.skip 1)
  | none, some increment =>
      match chomping? (cursor.skip 1) with
      | some chomping => checked chomping increment (cursor.skip 2)
      | none => checked .clip increment (cursor.skip 1)
  | none, none => some (.clip, none, cursor)

/-- The empty lines before a line of a block scalar: the line ends, last first, and the widest
indentation among these lines and the next one. Without a fixed indentation all spaces are passed
over. -/
def blockBreaks (indent : Option Nat) :
    Nat → List Char → Nat → Cursor → Option (List Char × Nat × Cursor)
  | 0, breaks, widest, cursor => some (breaks, widest, cursor)
  | fuel + 1, breaks, widest, cursor =>
      let spaces := cursor.chars.takeWhile (· = ' ')
      let count := match indent with
        | none => spaces.length
        | some width => min spaces.length (width - cursor.column)
      let after := cursor.skip count
      let wider := max widest after.column
      let mayIndent := match indent with
        | none => true
        | some width => after.column < width
      if mayIndent && after.next? = some '\t' then none
      else
        match after.lineEnd? with
        | none => some (breaks, wider, after)
        | some (stands, beyond) => blockBreaks indent fuel (stands :: breaks) wider beyond

/-- What was read of a block scalar: the text, last character first, the end of its last line, the
line ends after that, last first, and whether the last line begins with white space. -/
structure BlockText where
  text : List Char := []
  lineEnd : List Char := []
  breaks : List Char := []
  indented : Bool := false

/-- Adds a line to a block scalar. In a folded one the line end before it becomes a space, unless
one of the two lines begins with white space. -/
def BlockText.add (folded : Bool) (block : BlockText) (line lineEnd breaks : List Char) :
    BlockText :=
  let indented := line.head?.any isGap
  let joint :=
    if folded && block.lineEnd = ['\n'] && !block.indented && !indented then
      if block.breaks.isEmpty then [' '] else block.breaks
    else block.breaks ++ block.lineEnd
  ⟨line.reverse ++ joint ++ block.text, lineEnd, breaks, indented⟩

/-- The lines of a block scalar that begin at the column `indent`. -/
def blockLines (folded : Bool) (indent : Nat) :
    Nat → BlockText → Cursor → Option (BlockText × Cursor)
  | 0, block, cursor => some (block, cursor)
  | fuel + 1, block, cursor =>
      if cursor.column = indent && cursor.next?.isSome then
        let (line, after) := cursor.span fun char => !isLineEnd char
        let (lineEnd, beyond) :=
          match after.lineEnd? with
          | some (stands, next) => ([stands], next)
          | none => ([], after)
        match blockBreaks (some indent) (beyond.left + 1) [] 0 beyond with
        | none => none
        | some (breaks, _, next) =>
            blockLines folded indent fuel (block.add folded line lineEnd breaks) next
      else some (block, cursor)

/-- The text of a block scalar with its end treated as the indicator says. -/
def BlockText.finish (chomping : Chomping) (block : BlockText) : String :=
  let ending := match chomping with
    | .strip => []
    | .clip => block.lineEnd
    | .keep => block.lineEnd ++ block.breaks.reverse
  String.ofList (block.text.reverse ++ ending)

/-- A block scalar, from its sign on. `parent` is the indentation of the block around it, which is
negative outside of all blocks. -/
def blockScalar (folded : Bool) (parent : Int) (cursor : Cursor) : Option (Token × Cursor) :=
  match blockIndicators (cursor.skip 1) with
  | none => none
  | some (chomping, increment, afterSigns) =>
      let atEnd := (afterSigns.skipWhile isGap).skipComment
      if !endsLine atEnd.next? then none
      else
        let start := match atEnd.lineEnd? with
          | some (_, next) => next
          | none => atEnd
        let fixed := increment.map fun width => (max parent 0).toNat + width
        match blockBreaks fixed (start.left + 1) [] 0 start with
        | none => none
        | some (breaks, widest, first) =>
            let indent := fixed.getD (max widest (max (parent + 1) 1).toNat)
            match blockLines folded indent (first.left + 1) { breaks := breaks } first with
            | none => none
            | some (block, after) =>
                some (.scalar (if folded then .folded else .literal) (block.finish chomping), after)

end ClientGen.Yaml
