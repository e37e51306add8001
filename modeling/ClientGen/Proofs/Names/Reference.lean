import ClientGen.Names
import ClientGen.Proofs.Text.Percent
import ClientGen.Proofs.Text.Search

/-!
Names in references. A reference holds the name of what it points at in three layers: as its last
segment, with percent-encoded characters, and with escapes for the characters that pointers give a
meaning. Reading takes them off one after the other, and what is left is the name.
-/

set_option autoImplicit false

namespace ClientGen.Names

/-! ## Escapes of pointers -/

/-- A name as a segment of a pointer. Tildes are escaped before the escapes of slashes bring in
more. -/
def pointerSegment (name : List Char) : List Char :=
  Text.replaceAll ['/'] ['~', '1'] (Text.replaceAll ['~'] ['~', '0'] name)

def escapedTilde (char : Char) : List Char := if char = '~' then ['~', '0'] else [char]

def escapedChar (char : Char) : List Char :=
  if char = '~' then ['~', '0'] else if char = '/' then ['~', '1'] else [char]

theorem pointerSegment_eq (name : List Char) : pointerSegment name = name.flatMap escapedChar := by
  rw [pointerSegment, Text.replaceAll_singleton, Text.replaceAll_singleton, List.flatMap_assoc]
  apply congrArg (fun escape => name.flatMap escape)
  funext char
  unfold escapedChar
  split
  · rfl
  · simp

theorem slash_not_mem_pointerSegment (name : List Char) : '/' ∉ pointerSegment name := by
  rw [pointerSegment_eq]
  intro member
  obtain ⟨char, -, inside⟩ := List.mem_flatMap.mp member
  unfold escapedChar at inside
  split at inside
  · simp at inside
  · split at inside
    · simp at inside
    · next other => exact other (List.mem_singleton.mp inside).symm

/-- A tilde that stands for itself is followed by a zero, so that no escape of a slash is found
where none was put. -/
theorem replaceAll_slashes (name : List Char) :
    Text.replaceAll ['~', '1'] ['/'] (name.flatMap escapedChar) = name.flatMap escapedTilde := by
  induction name with
  | nil => rfl
  | cons char rest ih =>
      rw [List.flatMap_cons, List.flatMap_cons, ← ih]
      by_cases tilde : char = '~'
      · rw [escapedChar, if_pos tilde, escapedTilde, if_pos tilde]
        rw [List.cons_append, Text.replaceAll_cons (by simp [Text.afterStart?]), List.cons_append,
          Text.replaceAll_cons_of_ne (by decide)]
        rfl
      · rw [escapedChar, if_neg tilde, escapedTilde, if_neg tilde]
        by_cases slash : char = '/'
        · rw [if_pos slash, Text.replaceAll_append_start (by simp), slash]
        · rw [if_neg slash, List.singleton_append, Text.replaceAll_cons_of_ne tilde]
          rfl

theorem replaceAll_tildes (name : List Char) :
    Text.replaceAll ['~', '0'] ['~'] (name.flatMap escapedTilde) = name := by
  induction name with
  | nil => rfl
  | cons char rest ih =>
      rw [List.flatMap_cons]
      by_cases tilde : char = '~'
      · rw [escapedTilde, if_pos tilde, Text.replaceAll_append_start (by simp), ih, tilde]
        rfl
      · rw [escapedTilde, if_neg tilde, List.singleton_append, Text.replaceAll_cons_of_ne tilde, ih]

/-! ## Written references -/

/-- A reference to a name below any other segments. -/
def writtenReference (before : String) (spelling : Nat → Text.Spelling) (name : String) : String :=
  before ++ "/" ++ String.ofList (Text.percentEncoded spelling (pointerSegment name.toList))

/-- What is written for a name is read as that name, whichever of its characters are
percent-encoded. -/
theorem ofReference_writtenReference (before : String) (spelling : Nat → Text.Spelling)
    (name : String) : ofReference (writtenReference before spelling name) = name := by
  have chars : (writtenReference before spelling name).toList =
      before.toList ++ '/' :: Text.percentEncoded spelling (pointerSegment name.toList) := by
    simp [writtenReference]
  have plain := Text.slash_not_mem_percentEncoded spelling
    (slash_not_mem_pointerSegment name.toList)
  unfold ofReference
  rw [chars, Text.afterLast_append_cons before.toList plain, Text.percentDecoded_percentEncoded,
    pointerSegment_eq]
  simp only
  rw [replaceAll_slashes, replaceAll_tildes, String.ofList_toList]

theorem ofReference_writtenReference_escapes :
    writtenReference "#/definitions" (fun position => if position = 0 then .small else .plain)
        "«~1/%" = "#/definitions/%c2%ab~01~1%25" ∧
      ofReference "#/definitions/%c2%ab~01~1%25" = "«~1/%" := by
  have written : writtenReference "#/definitions"
      (fun position => if position = 0 then .small else .plain) "«~1/%" =
        "#/definitions/%c2%ab~01~1%25" := by
    decide +kernel
  exact ⟨written, written ▸ ofReference_writtenReference _ _ _⟩

end ClientGen.Names
