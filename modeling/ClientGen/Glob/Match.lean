import ClientGen.Glob.Basic

/-!
Matching paths against patterns, byte by byte. Each piece takes the places in the path that may be
reached before it to those that may be reached after it, so the work is bounded by the product of
the two lengths.
-/

set_option autoImplicit false

namespace ClientGen.Glob

def slash : UInt8 := 47

/-- The places in a path that may be reached: before each of its bytes and at its end. -/
abbrev Places := List Bool

def passOne (test : UInt8 → Bool) (bytes : List UInt8) (places : Places) : Places :=
  false :: List.zipWith (fun byte reached => reached && test byte) bytes places

/-- The places after bytes for which a test holds, or none at all. `before` tells whether the first
place is reached from bytes before it. -/
def passMany (test : UInt8 → Bool) (before : Bool) : List UInt8 → Places → Places
  | _, [] => []
  | [], reached :: _ => [reached || before]
  | byte :: bytes, reached :: places =>
      let here := reached || before
      here :: passMany test (here && test byte) bytes places

def passAll (bytes : List UInt8) (places : Places) : Places :=
  passMany (fun _ => true) false bytes places

def passSlash (bytes : List UInt8) (places : Places) : Places :=
  passOne (fun byte => byte = slash) bytes places

def either (places others : Places) : Places :=
  List.zipWith (fun reached other => reached || other) places others

/-- The ranges of bytes that a range of characters stands for. Of a character of several bytes each
byte counts on its own; a range joins the last byte of its beginning to the first of its end. -/
def byteRanges (range : Char × Char) : List (UInt8 × UInt8) :=
  let first := String.utf8EncodeChar range.1
  let last := String.utf8EncodeChar range.2
  let single := fun byte : UInt8 => (byte, byte)
  if range.1 = range.2 then first.map single
  else
    first.dropLast.map single ++
      [((first.getLast?).getD 0, (last.head?).getD 0)] ++ last.tail.map single

def classHas (negated : Bool) (ranges : List (Char × Char)) (byte : UInt8) : Bool :=
  let found := (ranges.flatMap byteRanges).any fun range => range.1 ≤ byte && byte ≤ range.2
  found != negated

mutual

/-- Whether a piece stands for nothing: a group whose alternatives all do. -/
def Piece.isVoid : Piece → Bool
  | .choice alternatives => allVoid alternatives
  | _ => false

def isVoid : List Piece → Bool
  | [] => true
  | piece :: rest => piece.isVoid && isVoid rest

def allVoid : List (List Piece) → Bool
  | [] => true
  | alternative :: rest => isVoid alternative && allVoid rest

end

mutual

def Piece.pass (bytes : List UInt8) : Piece → Places → Places
  | .literal char, places =>
      (String.utf8EncodeChar char).foldl
        (fun places expected => passOne (fun byte => byte = expected) bytes places) places
  | .any, places => passOne (fun byte => byte ≠ slash) bytes places
  | .star, places => passMany (fun byte => byte ≠ slash) false bytes places
  | .leading, places => either places (passSlash bytes (passAll bytes places))
  | .between, places =>
      let first := passSlash bytes places
      either first (passSlash bytes (passAll bytes first))
  | .trailing, places => passAll bytes (passSlash bytes places)
  | .oneOf negated ranges, places => passOne (classHas negated ranges) bytes places
  | .choice alternatives, places =>
      if allVoid alternatives then places else passChoice bytes alternatives places

def passPieces (bytes : List UInt8) : List Piece → Places → Places
  | [], places => places
  | piece :: more, places => passPieces bytes more (piece.pass bytes places)

/-- The places after one of several alternatives. Those that stand for nothing do not count. -/
def passChoice (bytes : List UInt8) : List (List Piece) → Places → Places
  | [], places => places.map fun _ => false
  | alternative :: more, places =>
      let others := passChoice bytes more places
      if isVoid alternative then others else either (passPieces bytes alternative places) others

end

/-- Whether a pattern covers a whole path. A double star alone covers every path. -/
def matchesPath (pieces : List Piece) (path : String) : Bool :=
  match pieces with
  | [.leading] => true
  | _ =>
      let bytes := path.toUTF8.toList
      let start := true :: bytes.map fun _ => false
      (passPieces bytes pieces start).getLast? = some true

end ClientGen.Glob
