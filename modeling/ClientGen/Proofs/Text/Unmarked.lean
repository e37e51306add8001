import ClientGen.Proofs.NamedType.Leaves

/-!
Identifiers made from words hold no separators, whatever text the words come from: brackets, commas,
slashes, bars and white space among others. Words consist of letters and numerals, and no letter has
a separator in its other case.
-/

set_option autoImplicit false

namespace ClientGen.Text

open NamedType (isMark isMark_eq)

/-- Code points up to the angle quotes, and of general punctuation, that are neither letters nor
numerals. -/
def separators : Ranges :=
  [(0x01, 0x2F), (0x3A, 0x40), (0x5B, 0x60), (0x7B, 0xA9), (0xAB, 0xB1), (0xB6, 0xB8), (0xBB, 0xBB),
   (0x1680, 0x1680), (0x2000, 0x206F), (0x3000, 0x3000)]

def isSeparator (char : Char) : Bool := separators.contains char.toNat

theorem isSeparator_of_isMark {char : Char} (mark : isMark char = true) :
    isSeparator char = true := by
  simp only [isMark_eq, Names.isOpening, Names.isClosing, Bool.or_eq_true, beq_iff_eq] at mark
  rcases mark with ((same | same) | (same | same)) | same <;> rw [same] <;> decide

theorem isMark_of_not_separator {char : Char} (plain : isSeparator char = false) :
    isMark char = false := by
  by_contra mark
  rw [isSeparator_of_isMark (Bool.not_eq_false _ ▸ mark)] at plain
  cases plain

theorem isSeparator_of_isBlank {char : Char} (blank : isBlank char = true) :
    isSeparator char = true := by
  simp only [isBlank, Bool.or_eq_true, Bool.and_eq_true, decide_eq_true_eq, beq_iff_eq] at blank
  simp only [isSeparator, separators, Ranges.contains, Bool.if_false_left, Bool.or_eq_true,
    Bool.and_eq_true, Bool.not_eq_true', decide_eq_true_eq, decide_eq_false_iff_not]
  omega

theorem isBlank_of_not_separator {char : Char} (plain : isSeparator char = false) :
    isBlank char = false := by
  by_contra blank
  rw [isSeparator_of_isBlank (Bool.not_eq_false _ ▸ blank)] at plain
  cases plain

/-! ## Letters and numerals -/

theorem Ranges.exists_of_contains {ranges : Ranges} {code : Nat}
    (inside : ranges.contains code = true) :
    ∃ range ∈ ranges, range.1 ≤ code ∧ code ≤ range.2 := by
  induction ranges with
  | nil => cases inside
  | cons range rest ih =>
      simp only [Ranges.contains] at inside
      split at inside
      · cases inside
      · next reached =>
          rw [Bool.or_eq_true, decide_eq_true_eq] at inside
          cases inside with
          | inl here => exact ⟨range, .head _, by omega, here⟩
          | inr later =>
              obtain ⟨other, member, within⟩ := ih later
              exact ⟨other, .tail _ member, within⟩

/-- Whether no code point from `first` to `last` is a separator. -/
def isClear (first last : Nat) : Bool :=
  separators.all fun range => range.2 < first || last < range.1

theorem not_separator_of_isClear {first last code : Nat} (clear : isClear first last = true)
    (above : first ≤ code) (below : code ≤ last) : separators.contains code = false := by
  by_contra inside
  obtain ⟨range, member, low, high⟩ :=
    Ranges.exists_of_contains (Bool.not_eq_false _ ▸ inside)
  have apart := List.all_eq_true.mp clear range member
  rw [Bool.or_eq_true, decide_eq_true_eq, decide_eq_true_eq] at apart
  omega

theorem not_separator_of_contains {ranges : Ranges} {code : Nat}
    (clear : (ranges.all fun range => isClear range.1 range.2) = true)
    (inside : ranges.contains code = true) : separators.contains code = false := by
  obtain ⟨range, member, low, high⟩ := Ranges.exists_of_contains inside
  exact not_separator_of_isClear (List.all_eq_true.mp clear range member) low high

theorem not_separator_of_isAlphanumeric {char : Char} (letter : isAlphanumeric char = true) :
    isSeparator char = false := by
  rw [isAlphanumeric, Bool.or_eq_true] at letter
  cases letter with
  | inl alphabetic => exact not_separator_of_contains (by decide +kernel) alphabetic
  | inr numeric => exact not_separator_of_contains (by decide +kernel) numeric

theorem not_separator_ofNat {code : Nat} (clear : separators.contains code = false) :
    isSeparator (Char.ofNat code) = false := by
  unfold isSeparator Char.ofNat
  by_cases valid : code.isValidChar
  · rw [dif_pos valid]
    exact clear
  · rw [dif_neg valid]
    decide

theorem not_separator_of_isDigit {char : Char} (digit : char.isDigit = true) :
    isSeparator char = false := by
  simp only [Char.isDigit, Bool.and_eq_true, decide_eq_true_eq] at digit
  have clear : isClear 48 57 = true := by decide
  exact not_separator_of_isClear clear digit.1 digit.2

/-! ## Letter case -/

/-- Whether no image under a mapping is a separator. -/
def Mapping.isClear (mapping : Mapping) : Bool :=
  Text.isClear mapping.target (mapping.target + (mapping.source.last - mapping.source.first))

theorem Mapping.find?_clear {mappings : List Mapping} (clear : mappings.all isClear = true)
    {code image : Nat} (found : find? mappings code = some image) :
    separators.contains image = false := by
  induction mappings with
  | nil => cases found
  | cons mapping rest ih =>
      rw [List.all_cons, Bool.and_eq_true] at clear
      simp only [find?] at found
      split at found
      · cases found
      · split at found
        · next inside =>
            cases found
            simp only [Run.contains, Bool.and_eq_true, decide_eq_true_eq] at inside
            exact not_separator_of_isClear clear.1 (by omega) (by omega)
        · exact ih clear.2 found

theorem mapCase_plain {expansions : List (Nat × List Nat)} {mappings : List Mapping}
    (several : ∀ entry ∈ expansions, ∀ code ∈ entry.2, separators.contains code = false)
    (clear : mappings.all Mapping.isClear = true) {char image : Char}
    (plain : isSeparator char = false) (member : image ∈ mapCase expansions mappings char) :
    isSeparator image = false := by
  unfold mapCase at member
  split at member
  · next codes listed =>
      obtain ⟨code, inCodes, rfl⟩ := List.mem_map.mp member
      obtain ⟨before, after, split, -⟩ := List.lookup_eq_some_iff.mp listed
      exact not_separator_ofNat (several (char.toNat, codes) (by simp [split]) code inCodes)
  · cases found : Mapping.find? mappings char.toNat with
    | none =>
        have same : image = char := by simpa [found] using member
        rwa [same]
    | some code =>
        have same : image = Char.ofNat code := by simpa [found] using member
        rw [same]
        exact not_separator_ofNat (Mapping.find?_clear clear found)

theorem upperChar_plain {char image : Char} (plain : isSeparator char = false)
    (member : image ∈ upperChar char) : isSeparator image = false :=
  mapCase_plain (by decide +kernel) (by decide +kernel) plain member

theorem lowerChar_plain {char image : Char} (plain : isSeparator char = false)
    (member : image ∈ lowerChar char) : isSeparator image = false :=
  mapCase_plain (by decide +kernel) (by decide +kernel) plain member

/-! ## Words -/

theorem mem_runs {chars current run : List Char} {char : Char}
    (solid : ∀ other ∈ current, isAlphanumeric other = true) (listed : run ∈ runs current chars)
    (member : char ∈ run) : isAlphanumeric char = true := by
  induction chars generalizing current with
  | nil =>
      simp only [runs] at listed
      split at listed
      · simp at listed
      · rw [List.mem_singleton.mp listed, List.mem_reverse] at member
        exact solid char member
  | cons first rest ih =>
      simp only [runs] at listed
      split at listed
      · next letter =>
          refine ih (fun other inRun => ?_) listed
          rcases List.mem_cons.mp inRun with rfl | earlier
          · exact letter
          · exact solid other earlier
      · split at listed
        · exact ih (by simp) listed
        · rcases List.mem_cons.mp listed with same | later
          · rw [same, List.mem_reverse] at member
            exact solid char member
          · exact ih (by simp) later

theorem mem_splitRun {mode : LastCase} {chars current word : List Char} {char : Char}
    (listed : word ∈ splitRun mode current chars) (member : char ∈ word) :
    char ∈ current ∨ char ∈ chars := by
  induction mode, current, chars using splitRun.induct with
  | case1 mode current empty => simp [splitRun, empty] at listed
  | case2 mode current started =>
      rw [splitRun, if_neg started, List.mem_singleton] at listed
      rw [listed, List.mem_reverse] at member
      exact .inl member
  | case3 mode current first =>
      rw [splitRun, List.mem_singleton] at listed
      rw [listed, List.mem_reverse, List.mem_cons] at member
      simpa [or_comm] using member
  | case4 mode current first next rest after ended ih =>
      rw [splitRun, if_pos ended] at listed
      rcases List.mem_cons.mp listed with same | later
      · rw [same, List.mem_reverse, List.mem_cons] at member
        rcases member with rfl | earlier
        · exact .inr (.head _)
        · exact .inl earlier
      · rcases ih later with none | inRest
        · simp at none
        · exact .inr (.tail _ inRest)
  | case5 mode current first next rest after going ended ih =>
      rw [splitRun, if_neg going, if_pos ended] at listed
      rcases List.mem_cons.mp listed with same | later
      · rw [same, List.mem_reverse] at member
        exact .inl member
      · rcases ih later with now | inRest
        · exact .inr (List.mem_singleton.mp now ▸ .head _)
        · exact .inr (.tail _ inRest)
  | case6 mode current first next rest after going further ih =>
      rw [splitRun, if_neg going, if_neg further] at listed
      rcases ih listed with known | inRest
      · rcases List.mem_cons.mp known with rfl | earlier
        · exact .inr (.head _)
        · exact .inl earlier
      · exact .inr (.tail _ inRest)

theorem mem_words {chars word : List Char} {char : Char} (listed : word ∈ words chars)
    (member : char ∈ word) : isSeparator char = false := by
  obtain ⟨run, isRun, inRun⟩ := List.mem_flatMap.mp listed
  rcases mem_splitRun inRun member with none | known
  · simp at none
  · exact not_separator_of_isAlphanumeric (mem_runs (by simp) isRun known)

theorem lowerWord_plain {word : List Char} (plain : ∀ char ∈ word, isSeparator char = false)
    {image : Char} (member : image ∈ lowerWord word) : isSeparator image = false := by
  induction word using lowerWord.induct with
  | case1 => simp [lowerWord] at member
  | case2 =>
      have final : image = 'ς' := by simpa [lowerWord] using member
      rw [final]
      decide
  | case3 first rest notFinal ih =>
      have split : lowerWord (first :: rest) = lowerChar first ++ lowerWord rest := by
        rw [lowerWord]
        exact notFinal
      rw [split, List.mem_append] at member
      rcases member with now | later
      · exact lowerChar_plain (plain first (.head _)) now
      · exact ih (fun char inRest => plain char (.tail _ inRest)) later

theorem capitalWord_plain {word : List Char} (plain : ∀ char ∈ word, isSeparator char = false)
    {image : Char} (member : image ∈ capitalWord word) : isSeparator image = false := by
  cases word with
  | nil => simp [capitalWord] at member
  | cons first rest =>
      rcases List.mem_append.mp member with now | later
      · exact upperChar_plain (plain first (.head _)) now
      · exact lowerWord_plain (fun char inRest => plain char (.tail _ inRest)) later

theorem pascalCase_plain (text : String) {char : Char} (member : char ∈ (pascalCase text).toList) :
    isSeparator char = false := by
  rw [pascalCase, String.toList_ofList] at member
  obtain ⟨word, listed, inWord⟩ := List.mem_flatMap.mp member
  exact capitalWord_plain (fun other inside => mem_words listed inside) inWord

/-- Pascal case holds no brackets and no commas. -/
theorem pascalCase_unmarked (text : String) {char : Char} (member : char ∈ (pascalCase text).toList) :
    isMark char = false :=
  isMark_of_not_separator (pascalCase_plain text member)

theorem mem_intercalate {separator : List Char} {parts : List (List Char)} {char : Char}
    (member : char ∈ List.intercalate separator parts) :
    char ∈ separator ∨ ∃ part ∈ parts, char ∈ part := by
  induction parts with
  | nil => cases member
  | cons first rest ih =>
      cases rest with
      | nil =>
          rw [List.intercalate_singleton] at member
          exact .inr ⟨first, .head _, member⟩
      | cons next others =>
          rw [List.intercalate_cons_cons, List.mem_append, List.mem_append] at member
          rcases member with (inFirst | inSeparator) | later
          · exact .inr ⟨first, .head _, inFirst⟩
          · exact .inl inSeparator
          · rcases ih later with inSeparator | ⟨part, listed, inPart⟩
            · exact .inl inSeparator
            · exact .inr ⟨part, .tail _ listed, inPart⟩

/-- The only separator in kebab case is the dash between words. -/
theorem kebabCase_plain (text : String) {char : Char} (member : char ∈ (kebabCase text).toList) :
    char = '-' ∨ isSeparator char = false := by
  rw [kebabCase, String.toList_ofList] at member
  rcases mem_intercalate member with dash | ⟨part, listed, inPart⟩
  · exact .inl (List.mem_singleton.mp dash)
  · obtain ⟨word, isWord, rfl⟩ := List.mem_map.mp listed
    exact .inr (lowerWord_plain (fun other inside => mem_words isWord inside) inPart)

end ClientGen.Text
