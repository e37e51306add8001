import ClientGen.Text.CaseTable

/-!
Full case mapping of characters and texts. A capital sigma at the end of a word has a small form of
its own, so the lower case of a text is not the concatenation of the lower cases of its characters.
-/

set_option autoImplicit false

namespace ClientGen.Text

/-- A small letter, or a letter-like character without a capital that looks like one. -/
def isLowercase (char : Char) : Bool := Run.anyContains lowercaseRuns char.toNat

def isUppercase (char : Char) : Bool := Run.anyContains uppercaseRuns char.toNat

def isCased (char : Char) : Bool := casedRanges.contains char.toNat

/-- A character that is looked through in search of a cased neighbour. -/
def isCaseIgnorable (char : Char) : Bool := caseIgnorableRanges.contains char.toNat

/-- A case mapping by two tables: of characters that become several, and of the others. -/
def mapCase (expansions : List (Nat × List Nat)) (mappings : List Mapping) (char : Char) :
    List Char :=
  match expansions.lookup char.toNat with
  | some codes => codes.map Char.ofNat
  | none => [((Mapping.find? mappings char.toNat).map Char.ofNat).getD char]

def lowerChar (char : Char) : List Char := mapCase lowerExpansions lowerMappings char

def upperChar (char : Char) : List Char := mapCase upperExpansions upperMappings char

/-- Whether the first character that is not case-ignorable has a case. -/
def reachesCased (chars : List Char) : Bool :=
  match chars.dropWhile isCaseIgnorable with
  | [] => false
  | char :: _ => isCased char

/-- The lower case of the second list, where the first holds what stands before it, nearest first.
A capital sigma is final if a cased character precedes it and none follows. -/
def lowerAfter (before : List Char) : List Char → List Char
  | [] => []
  | char :: rest =>
      let lowered :=
        if char = 'Σ' then
          [if reachesCased before && !reachesCased rest then 'ς' else 'σ']
        else lowerChar char
      lowered ++ lowerAfter (char :: before) rest

def toLower (text : String) : String := String.ofList (lowerAfter [] text.toList)

/-- A text with its first character in upper case and the rest untouched. -/
def upperFirst (text : String) : String :=
  match text.toList with
  | [] => ""
  | first :: rest => String.ofList (upperChar first ++ rest)

end ClientGen.Text
