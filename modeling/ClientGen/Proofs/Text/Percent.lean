import ClientGen.Text.Percent
import Mathlib.Data.List.Basic

/-!
Percent-encoding. Any characters of a text may be written as the bytes of their UTF-8 form, with
digits of either case, and percent signs have to be. What is written so is decoded to the text.
-/

set_option autoImplicit false

namespace ClientGen.Text

/-! ## Encoding -/

/-- How a character is written: as it is, or byte by byte with capital or with small digits. -/
inductive Spelling where
  | plain
  | capital
  | small
  deriving DecidableEq, Repr

def hexDigit (capital : Bool) (value : Nat) : Char :=
  if capital then value.digitChar.toUpper else value.digitChar

def percentByte (capital : Bool) (byte : UInt8) : List Char :=
  ['%', hexDigit capital (byte.toNat / 16), hexDigit capital (byte.toNat % 16)]

def percentBytes (capital : Bool) (char : Char) : List Char :=
  (String.utf8EncodeChar char).flatMap (percentByte capital)

/-- A character as it is spelled. A percent sign is never written as it is. -/
def spelledChar (char : Char) : Spelling → List Char
  | .plain => if char = '%' then percentBytes true char else [char]
  | .capital => percentBytes true char
  | .small => percentBytes false char

/-- A text in which each character is spelled as its position tells. -/
def percentEncoded (spelling : Nat → Spelling) (chars : List Char) : List Char :=
  (chars.mapIdx fun position char => spelledChar char (spelling position)).flatten

theorem percentEncoded_cons (spelling : Nat → Spelling) (char : Char) (rest : List Char) :
    percentEncoded spelling (char :: rest) = spelledChar char (spelling 0) ++
      percentEncoded (fun position => spelling (position + 1)) rest := by
  rw [percentEncoded, List.mapIdx_cons, List.flatten_cons]
  rfl

/-! ## Decoding bytes -/

theorem utf8Bytes_append (first second : List Char) :
    utf8Bytes (first ++ second) = utf8Bytes first ++ utf8Bytes second := List.flatMap_append

/-- No character but the percent sign has its byte in its UTF-8 form: the bytes of the characters
outside of ASCII are larger. -/
theorem percent_not_mem_utf8EncodeChar {char : Char} (plain : char ≠ '%') :
    37 ∉ String.utf8EncodeChar char := by
  have code : char.val.toNat ≠ 37 := by
    intro same
    exact plain (Char.ext (UInt32.toNat_inj.mp same))
  have apart {value : Nat} (other : value ≠ 37) (small : value < 256) :
      (37 : UInt8) ≠ UInt8.ofNat value := by
    intro same
    have values := congrArg UInt8.toNat same
    rw [UInt8.toNat_ofNat_of_lt' small] at values
    exact other values.symm
  unfold String.utf8EncodeChar
  simp only
  split
  · rw [List.mem_singleton]
    exact apart code (by omega)
  · split
    · simp only [List.mem_cons, List.not_mem_nil, or_false, not_or]
      exact ⟨apart (by omega) (by omega), apart (by omega) (by omega)⟩
    · split
      · simp only [List.mem_cons, List.not_mem_nil, or_false, not_or]
        exact ⟨apart (by omega) (by omega), apart (by omega) (by omega),
          apart (by omega) (by omega)⟩
      · simp only [List.mem_cons, List.not_mem_nil, or_false, not_or]
        exact ⟨apart (by omega) (by omega), apart (by omega) (by omega),
          apart (by omega) (by omega), apart (by omega) (by omega)⟩

theorem percentDecode_cons {byte : UInt8} (plain : byte ≠ 37) (rest : List UInt8) :
    percentDecode (byte :: rest) = byte :: percentDecode rest := by
  match rest with
  | [] => rfl
  | [_] => rfl
  | _ :: _ :: _ => rw [percentDecode, if_neg plain]

theorem percentDecode_append {bytes : List UInt8} (plain : 37 ∉ bytes) (rest : List UInt8) :
    percentDecode (bytes ++ rest) = bytes ++ percentDecode rest := by
  induction bytes with
  | nil => rfl
  | cons byte others ih =>
      rw [List.mem_cons, not_or] at plain
      rw [List.cons_append, percentDecode_cons (Ne.symm plain.1), ih plain.2, List.cons_append]

private theorem utf8EncodeChar_hexDigit : ∀ capital : Bool, ∀ value < 16,
    String.utf8EncodeChar (hexDigit capital value) = [(hexDigit capital value).toUInt8] := by
  decide

private theorem hexByte?_hexDigit : ∀ capital : Bool, ∀ value < 16,
    hexByte? (hexDigit capital value).toUInt8 = some (UInt8.ofNat value) := by
  decide

theorem hexPair?_hexDigit (capital : Bool) (byte : UInt8) :
    hexPair? (hexDigit capital (byte.toNat / 16)).toUInt8
      (hexDigit capital (byte.toNat % 16)).toUInt8 = some byte := by
  have small := byte.toNat_lt
  have joined : 16 * UInt8.ofNat (byte.toNat / 16) + UInt8.ofNat (byte.toNat % 16) = byte := by
    apply UInt8.toNat_inj.mp
    simp only [UInt8.toNat_add, UInt8.toNat_mul, UInt8.toNat_ofNat', UInt8.toNat_ofNat]
    omega
  rw [hexPair?, hexByte?_hexDigit capital _ (by omega), hexByte?_hexDigit capital _ (by omega)]
  exact congrArg some joined

theorem percentDecode_percentByte (capital : Bool) (byte : UInt8) (rest : List UInt8) :
    percentDecode (utf8Bytes (percentByte capital byte) ++ rest) = byte :: percentDecode rest := by
  have small := byte.toNat_lt
  have bytes : utf8Bytes (percentByte capital byte) =
      [37, (hexDigit capital (byte.toNat / 16)).toUInt8,
        (hexDigit capital (byte.toNat % 16)).toUInt8] := by
    simp only [utf8Bytes, percentByte, List.flatMap_cons, List.flatMap_nil,
      utf8EncodeChar_hexDigit capital (byte.toNat / 16) (by omega),
      utf8EncodeChar_hexDigit capital (byte.toNat % 16) (by omega)]
    rfl
  rw [bytes, List.cons_append, List.cons_append, List.cons_append, List.nil_append, percentDecode,
    if_pos rfl, hexPair?_hexDigit]

theorem percentDecode_percentBytes (capital : Bool) (bytes rest : List UInt8) :
    percentDecode (utf8Bytes (bytes.flatMap (percentByte capital)) ++ rest) =
      bytes ++ percentDecode rest := by
  induction bytes with
  | nil => rfl
  | cons byte others ih =>
      rw [List.flatMap_cons, utf8Bytes_append, List.append_assoc, percentDecode_percentByte, ih,
        List.cons_append]

theorem percentDecode_spelledChar (char : Char) (spelling : Spelling) (rest : List UInt8) :
    percentDecode (utf8Bytes (spelledChar char spelling) ++ rest) =
      String.utf8EncodeChar char ++ percentDecode rest := by
  cases spelling with
  | plain =>
      rw [spelledChar]
      split
      · exact percentDecode_percentBytes true _ rest
      · next plain =>
          have bytes : utf8Bytes [char] = String.utf8EncodeChar char := List.flatMap_singleton _ _
          rw [bytes, percentDecode_append (percent_not_mem_utf8EncodeChar plain)]
  | capital => exact percentDecode_percentBytes true _ rest
  | small => exact percentDecode_percentBytes false _ rest

theorem percentDecode_percentEncoded (spelling : Nat → Spelling) (chars : List Char) :
    percentDecode (utf8Bytes (percentEncoded spelling chars)) = utf8Bytes chars := by
  induction chars generalizing spelling with
  | nil => rfl
  | cons char rest ih =>
      rw [percentEncoded_cons, utf8Bytes_append, percentDecode_spelledChar, ih]
      rfl

/-! ## Decoding texts -/

theorem utf8Chars?_utf8Bytes (chars : List Char) : utf8Chars? (utf8Bytes chars) = some chars := by
  have same : ByteArray.mk (utf8Bytes chars).toArray = chars.utf8Encode := by
    apply ByteArray.ext
    simp [List.utf8Encode, utf8Bytes]
  rw [utf8Chars?, same, List.utf8Decode?_utf8Encode]
  simp

/-- Whatever characters are percent-encoded, the text is decoded again. -/
theorem percentDecoded_percentEncoded (spelling : Nat → Spelling) (chars : List Char) :
    percentDecoded (percentEncoded spelling chars) = chars := by
  rw [percentDecoded, percentDecode_percentEncoded, utf8Chars?_utf8Bytes]
  rfl

/-! ## Characters of an encoded text -/

private theorem hexDigit_ne : ∀ capital : Bool, ∀ value < 16, hexDigit capital value ≠ '/' := by
  decide

/-- Percent-encoding brings no slash in. -/
theorem slash_not_mem_percentEncoded (spelling : Nat → Spelling) {chars : List Char}
    (plain : '/' ∉ chars) : '/' ∉ percentEncoded spelling chars := by
  have inByte (capital : Bool) (byte : UInt8) : '/' ∉ percentByte capital byte := by
    have small := byte.toNat_lt
    have high := hexDigit_ne capital (byte.toNat / 16) (by omega)
    have low := hexDigit_ne capital (byte.toNat % 16) (by omega)
    simp [percentByte, Ne.symm high, Ne.symm low]
  have inBytes (capital : Bool) (char : Char) : '/' ∉ percentBytes capital char := by
    intro member
    obtain ⟨byte, -, inside⟩ := List.mem_flatMap.mp member
    exact inByte capital byte inside
  have inChar {char : Char} (other : char ≠ '/') (spelling : Spelling) :
      '/' ∉ spelledChar char spelling := by
    cases spelling with
    | plain =>
        rw [spelledChar]
        split
        · exact inBytes true char
        · simp [Ne.symm other]
    | capital => exact inBytes true char
    | small => exact inBytes false char
  induction chars generalizing spelling with
  | nil => exact List.not_mem_nil
  | cons char rest ih =>
      rw [List.mem_cons, not_or] at plain
      rw [percentEncoded_cons, List.mem_append, not_or]
      exact ⟨inChar (Ne.symm plain.1) _, ih _ plain.2⟩

end ClientGen.Text
