import ClientGen.Yaml.Cursor
import ClientGen.Yaml.Token.Basic
import ClientGen.Yaml.Token.Scalar

/-!
Properties of YAML nodes and directives: anchors, aliases, tags and the lines that begin with a
percent sign.
-/

set_option autoImplicit false

namespace ClientGen.Yaml

def anchorName (cursor : Cursor) : Option (String × Cursor) :=
  let (name, after) := (cursor.skip 1).span isWordChar
  let ends := endsWord after.next? || after.next?.any ("?:,]\x7d%@`".toList.contains ·)
  if name.isEmpty || !ends then none else some (String.ofList name, after)

/-- A character of a tag. Brackets and commas are such characters only where the tag has an end of
its own. -/
def isTagChar (closed : Bool) (char : Char) : Bool :=
  isWordChar char || ";/?:@&=+$.!~*'()%".toList.contains char ||
    (closed && ",[]".toList.contains char)

def octetCount (octet : Nat) : Option Nat :=
  if octet < 0x80 then some 1
  else if 0xC0 ≤ octet ∧ octet < 0xE0 then some 2
  else if 0xE0 ≤ octet ∧ octet < 0xF0 then some 3
  else if 0xF0 ≤ octet ∧ octet < 0xF8 then some 4
  else none

def escapedOctet (cursor : Cursor) : Option (Nat × Cursor) :=
  match cursor.chars with
  | '%' :: high :: low :: _ =>
      match hexValue? high, hexValue? low with
      | some upper, some lower => some (16 * upper + lower, cursor.skip 3)
      | _, _ => none
  | _ => none

def trailingOctets : Nat → Cursor → Option (List Nat × Cursor)
  | 0, cursor => some ([], cursor)
  | count + 1, cursor =>
      match escapedOctet cursor with
      | none => none
      | some (octet, after) =>
          if octet < 0x80 ∨ 0xC0 ≤ octet then none
          else (trailingOctets count after).map fun (octets, beyond) => (octet :: octets, beyond)

def tagOctets (char : Char) (cursor : Cursor) : Option (List Nat × Cursor) :=
  if char = '%' then
    match escapedOctet cursor with
    | none => none
    | some (octet, after) =>
        match octetCount octet with
        | none => none
        | some count =>
            (trailingOctets (count - 1) after).map fun (octets, beyond) =>
              (octet :: octets, beyond)
  else some ([char.toNat], cursor.skip 1)

def tagRest (closed : Bool) : Nat → Cursor → Option (List UInt8 × Cursor)
  | 0, cursor => some ([], cursor)
  | fuel + 1, cursor =>
      match cursor.next?.filter (isTagChar closed) with
      | none => some ([], cursor)
      | some char =>
          match tagOctets char cursor with
          | none => none
          | some (octets, after) =>
              (tagRest closed fuel after).map fun (rest, beyond) =>
                (octets.map Nat.toUInt8 ++ rest, beyond)

def someTagRest (closed : Bool) (cursor : Cursor) : Option (List UInt8 × Cursor) :=
  (tagRest closed (cursor.left + 1) cursor).filter fun (rest, _) => !rest.isEmpty

/-- A tag up to its second exclamation mark, or without one the first mark and the word after it. -/
def tagHead (cursor : Cursor) : Option (String × Cursor) :=
  if cursor.next? = some '!' then
    let (word, after) := (cursor.skip 1).span isWordChar
    let head := String.ofList ('!' :: word)
    if after.next? = some '!' then some (head ++ "!", after.skip 1) else some (head, after)
  else none

/-- A tag between angle brackets, between the handle `!` and its end, or after another handle. -/
def tagParts (cursor : Cursor) : Option (String × List UInt8 × Cursor) :=
  if cursor.at? 1 = some '<' then
    match someTagRest true (cursor.skip 2) with
    | none => none
    | some (rest, after) =>
        if after.next? = some '>' then some ("", rest, after.skip 1) else none
  else
    match tagHead cursor with
    | none => none
    | some (head, after) =>
        if head.endsWith "!" && head ≠ "!" then
          (someTagRest false after).map fun (rest, beyond) => (head, rest, beyond)
        else
          match tagRest false (after.left + 1) after with
          | none => none
          | some (rest, beyond) =>
              let whole := (head.drop 1).toString.toUTF8.data.toList ++ rest
              if whole.isEmpty then some ("", "!".toUTF8.data.toList, beyond)
              else some ("!", whole, beyond)

/-- A tag, which ends with its word or inside of brackets at a comma. -/
def tag (inFlow : Bool) (cursor : Cursor) : Option (Token × Cursor) :=
  match tagParts cursor with
  | none => none
  | some (handle, rest, after) =>
      if endsWord after.next? || (inFlow && after.next? = some ',') then
        some (.tag handle rest, after)
      else none

def versionNumber (cursor : Cursor) : Option (Nat × Cursor) :=
  let (digits, after) := cursor.span Char.isDigit
  if digits.isEmpty || 9 < digits.length then none
  else some (digits.foldl (fun value digit => 10 * value + (digit.toNat - '0'.toNat)) 0, after)

def versionDirective (cursor : Cursor) : Option (Token × Cursor) :=
  match versionNumber (cursor.skipWhile isGap) with
  | none => none
  | some (major, after) =>
      if after.next? = some '.' then
        (versionNumber (after.skip 1)).map fun (minor, beyond) => (.version major minor, beyond)
      else none

/-- The handle that a directive gives a meaning to, and this meaning. -/
def tagDirective (cursor : Cursor) : Option (Token × Cursor) :=
  match tagHead (cursor.skipWhile isGap) with
  | none => none
  | some (handle, after) =>
      if handle.endsWith "!" && after.next?.any isGap then
        match someTagRest true (after.skipWhile isGap) with
        | none => none
        | some (start, beyond) =>
            if endsWord beyond.next? then some (.tagHandle handle start, beyond) else none
      else none

def directive (cursor : Cursor) : Option (Token × Cursor) :=
  let (name, after) := (cursor.skip 1).span isWordChar
  if !endsWord after.next? then none
  else
    let read := match String.ofList name with
      | "YAML" => versionDirective after
      | "TAG" => tagDirective after
      | _ => none
    match read with
    | none => none
    | some (token, beyond) =>
        let atEnd := (beyond.skipWhile isGap).skipComment
        if endsLine atEnd.next? then
          some (token, (atEnd.lineEnd?.map (·.2)).getD atEnd)
        else none

end ClientGen.Yaml
