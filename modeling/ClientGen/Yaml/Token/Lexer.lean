import ClientGen.Yaml.Cursor
import ClientGen.Yaml.Token.Basic
import ClientGen.Yaml.Token.Scalar
import ClientGen.Yaml.Token.Tag

/-!
The tokens of a YAML text. A key of a mapping is known as such only when its colon is met: each
token that may be such a key is kept as a pending key, and the tokens that announce it are put
before it later.
-/

set_option autoImplicit false

namespace ClientGen.Yaml

/-- A token that may turn out to be a key: how many tokens stand before it, and where it begins. A
required one begins where a key of the current block has to stand. -/
structure PendingKey where
  position : Nat
  index : Nat
  line : Nat
  column : Nat
  required : Bool

/-- Whether a colon comes too late for a key: on another line, or far behind it. -/
def PendingKey.isStale (key : PendingKey) (cursor : Cursor) : Bool :=
  key.line < cursor.line || key.index + 1024 < cursor.index

/-- What is known between two tokens. The tokens read so far stand last first, with their number.
There is one pending key for the brackets around a place, and one for each of the brackets around
those. -/
structure Lexer where
  cursor : Cursor
  tokens : List Token := []
  count : Nat := 0
  keyAllowed : Bool := true
  indent : Int := -1
  outerIndents : List Int := []
  pending : Option PendingKey := none
  outerPending : List (Option PendingKey) := []

namespace Lexer

def inFlow (lexer : Lexer) : Bool := !lexer.outerPending.isEmpty

def push (token : Token) (lexer : Lexer) : Lexer :=
  { lexer with tokens := token :: lexer.tokens, count := lexer.count + 1 }

def putBefore (depth : Nat) (token : Token) (lexer : Lexer) : Lexer :=
  { lexer with tokens := lexer.tokens.insertIdx depth token, count := lexer.count + 1 }

def accept (token : Token) (after : Cursor) (lexer : Lexer) : Lexer :=
  { lexer.push token with cursor := after }

def sign (token : Token) (lexer : Lexer) : Lexer := lexer.accept token (lexer.cursor.skip 1)

def allowKey (allowed : Bool) (lexer : Lexer) : Lexer := { lexer with keyAllowed := allowed }

/-- Passes over blanks, comments and line ends. A tab is passed over only where no key may begin. -/
def skipBlanks : Nat → Lexer → Lexer
  | 0, lexer => lexer
  | fuel + 1, lexer =>
      let start := lexer.cursor
      let marked := if start.column = 0 ∧ start.next? = some '\ufeff' then start.skip 1 else start
      let blank (char : Char) : Bool :=
        char == ' ' || (char == '\t' && (lexer.inFlow || !lexer.keyAllowed))
      let after := (marked.skipWhile blank).skipComment
      match after.lineEnd? with
      | none => { lexer with cursor := after }
      | some (_, beyond) =>
          skipBlanks fuel
            { lexer with cursor := beyond, keyAllowed := lexer.keyAllowed || !lexer.inFlow }

def giveUp : Option PendingKey → Option (Option PendingKey)
  | none => some none
  | some key => if key.required then none else some none

def dropStale (lexer : Lexer) : Option Lexer :=
  let check (pending : Option PendingKey) : Option (Option PendingKey) :=
    if pending.any (·.isStale lexer.cursor) then giveUp pending else some pending
  match check lexer.pending, lexer.outerPending.mapM check with
  | some pending, some outerPending => some { lexer with pending, outerPending }
  | _, _ => none

def dropKey (lexer : Lexer) : Option Lexer :=
  (giveUp lexer.pending).map fun pending => { lexer with pending }

def keepKey (lexer : Lexer) : Option Lexer :=
  if lexer.keyAllowed then
    let cursor := lexer.cursor
    let required := !lexer.inFlow && lexer.indent = cursor.column
    lexer.dropKey.map fun dropped =>
      { dropped with
        pending := some ⟨lexer.count, cursor.index, cursor.line, cursor.column, required⟩ }
  else some lexer

def unindent (column : Int) (lexer : Lexer) : Lexer :=
  if lexer.inFlow then lexer
  else
    let inner := (lexer.indent :: lexer.outerIndents).takeWhile (column < ·)
    match (lexer.indent :: lexer.outerIndents).drop inner.length with
    | indent :: outerIndents =>
        { lexer with
          tokens := List.replicate inner.length .blockEnd ++ lexer.tokens
          count := lexer.count + inner.length
          indent, outerIndents }
    | [] => lexer

/-- Begins a block at a column with a token put before the last `depth` tokens, unless the current
block is indented as much. -/
def indentTo (column : Nat) (token : Token) (depth : Nat) (lexer : Lexer) : Lexer :=
  if !lexer.inFlow && lexer.indent < column then
    { lexer.putBefore depth token with
      indent := column
      outerIndents := lexer.indent :: lexer.outerIndents }
  else lexer

def endBlocks (lexer : Lexer) : Option Lexer := ((lexer.unindent (-1)).dropKey).map (allowKey false)

def openFlow (token : Token) (lexer : Lexer) : Option Lexer :=
  lexer.keepKey.map fun kept =>
    ({ kept with pending := none, outerPending := kept.pending :: kept.outerPending }.allowKey
      true).sign token

def closeFlow (token : Token) (lexer : Lexer) : Option Lexer :=
  lexer.dropKey.map fun dropped =>
    let outer := match dropped.outerPending with
      | pending :: outerPending => { dropped with pending, outerPending }
      | [] => dropped
    (outer.allowKey false).sign token

/-- Begins a block at this place, where a key must be allowed. Nothing is needed inside of
brackets. -/
def openBlock (token : Token) (lexer : Lexer) : Option Lexer :=
  if lexer.inFlow then some lexer
  else if lexer.keyAllowed then some (lexer.indentTo lexer.cursor.column token 0)
  else none

def readEntry (lexer : Lexer) : Option Lexer :=
  ((lexer.openBlock .blockSequence).bind dropKey).map fun ready => (ready.allowKey true).sign .entry

def readKey (lexer : Lexer) : Option Lexer :=
  ((lexer.openBlock .blockMapping).bind dropKey).map fun ready =>
    (ready.allowKey !lexer.inFlow).sign .key

/-- Reads the colon before a value. The pending key, if there is one, becomes the key. -/
def readValue (lexer : Lexer) : Option Lexer :=
  match lexer.pending with
  | some key =>
      let depth := lexer.count - key.position
      let announced := { lexer.putBefore depth .key with pending := none }
      some (((announced.indentTo key.column .blockMapping (depth + 1)).allowKey false).sign .value)
  | none =>
      (lexer.openBlock .blockMapping).map fun ready => (ready.allowKey !lexer.inFlow).sign .value

def readKept (read : Cursor → Option (Token × Cursor)) (lexer : Lexer) : Option Lexer :=
  lexer.keepKey.bind fun kept =>
    (read lexer.cursor).map fun (token, after) => (kept.allowKey false).accept token after

def readBlockScalar (folded : Bool) (lexer : Lexer) : Option Lexer :=
  lexer.dropKey.bind fun dropped =>
    (blockScalar folded lexer.indent lexer.cursor).map fun (token, after) =>
      (dropped.allowKey true).accept token after

/-- Reads a plain scalar. A key may follow if it ends with its line. -/
def readPlain (lexer : Lexer) : Option Lexer :=
  lexer.keepKey.bind fun kept =>
    let read := plainScalar lexer.inFlow (lexer.indent + 1).toNat lexer.cursor
    read.map fun (token, ended, after) => (kept.allowKey ended).accept token after

/-- Whether a plain scalar begins with a character before another one. -/
def startsPlain (inFlow : Bool) (char : Char) (follower : Option Char) : Bool :=
  if char = '-' then !follower.any isGap
  else if char = '?' ∨ char = ':' then !inFlow && !endsWord follower
  else !(isGap char || isLineEnd char || ",[]\x7b\x7d#&*!|>'\"%@`".toList.contains char)

def readToken (char : Char) (lexer : Lexer) : Option Lexer :=
  let cursor := lexer.cursor
  let follower := cursor.at? 1
  let separate := endsWord follower
  if cursor.column = 0 ∧ char = '%' then
    lexer.endBlocks.bind fun ready =>
      (directive cursor).map fun (token, after) => ready.accept token after
  else if cursor.atMark '-' then
    lexer.endBlocks.map (·.accept .documentStart (cursor.skip 3))
  else if cursor.atMark '.' then
    lexer.endBlocks.map (·.accept .documentEnd (cursor.skip 3))
  else if char = '[' then lexer.openFlow .flowSequence
  else if char = '\x7b' then lexer.openFlow .flowMapping
  else if char = ']' then lexer.closeFlow .flowSequenceEnd
  else if char = '\x7d' then lexer.closeFlow .flowMappingEnd
  else if char = ',' then lexer.dropKey.map fun dropped => (dropped.allowKey true).sign .comma
  else if char = '-' ∧ separate then lexer.readEntry
  else if char = '?' ∧ (lexer.inFlow ∨ separate) then lexer.readKey
  else if char = ':' ∧ (lexer.inFlow ∨ separate) then lexer.readValue
  else if char = '*' then
    lexer.readKept fun start => (anchorName start).map fun (name, after) => (.alias name, after)
  else if char = '&' then
    lexer.readKept fun start => (anchorName start).map fun (name, after) => (.anchor name, after)
  else if char = '!' then lexer.readKept (tag lexer.inFlow)
  else if char = '|' ∧ !lexer.inFlow then lexer.readBlockScalar false
  else if char = '>' ∧ !lexer.inFlow then lexer.readBlockScalar true
  else if char = '\'' then lexer.readKept (quotedScalar true)
  else if char = '"' then lexer.readKept (quotedScalar false)
  else if startsPlain lexer.inFlow char follower then lexer.readPlain
  else none

def run : Nat → Lexer → Option (List Token)
  | 0, _ => none
  | fuel + 1, lexer =>
      match (lexer.skipBlanks (lexer.cursor.left + 1)).dropStale with
      | none => none
      | some fresh =>
          let ready := fresh.unindent fresh.cursor.column
          match ready.cursor.next? with
          | none => (ready.unindent (-1)).dropKey.map (·.tokens.reverse)
          | some char => (ready.readToken char).bind (run fuel)

end Lexer

def Token.ofText? (text : String) : Option (List Token) :=
  let chars := text.toList
  if chars.all isAllowed then Lexer.run (chars.length + 1) { cursor := .ofChars chars } else none

end ClientGen.Yaml
