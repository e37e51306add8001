import ClientGen.Proofs.Text.Unmarked
import ClientGen.TypeScript.Type

/-!
The identifiers in a type of the target language. What stands in a string literal is none, and
neither is a numeral or a truth value, so the literals of an enumeration hold no identifier but
`null`.
-/

set_option autoImplicit false

namespace ClientGen.TypeScript

def isWordChar (char : Char) : Bool := char == '_' || char == '$' || !Text.isSeparator char

/-- The runs of word characters; `run` is the one being read, last character first. -/
def wordRuns (run : List Char) : List Char → List (List Char)
  | [] => [run.reverse]
  | char :: rest =>
      if isWordChar char then wordRuns (char :: run) rest else run.reverse :: wordRuns [] rest

mutual

/-- A text with a quotation mark in the place of each string literal. -/
def outsideStrings : List Char → List Char
  | [] => []
  | char :: rest => if char = '"' then '"' :: afterString rest else char :: outsideStrings rest

/-- What is left of a text that starts inside of a string literal. -/
def afterString : List Char → List Char
  | [] => []
  | '\\' :: _ :: rest => afterString rest
  | char :: rest => if char = '"' then outsideStrings rest else afterString rest

end

def isIdentifierRun : List Char → Bool
  | [] => false
  | first :: rest => !first.isDigit && !(["true", "false"].contains (String.ofList (first :: rest)))

/-- The identifiers in a text, from left to right. -/
def identifiers (text : String) : List String :=
  ((wordRuns [] (outsideStrings text.toList)).filter isIdentifierRun).map String.ofList

/-! ## Runs of word characters -/

theorem wordRuns_append {mark : Char} (separates : isWordChar mark = false) (run before after : List Char) :
    wordRuns run (before ++ mark :: after) = wordRuns run before ++ wordRuns [] after := by
  induction before generalizing run with
  | nil => simp [wordRuns, separates]
  | cons char rest ih =>
      simp only [List.cons_append, wordRuns]
      split
      · exact ih _
      · rw [ih, List.cons_append]

theorem wordRuns_word {chars : List Char} (word : ∀ char ∈ chars, isWordChar char = true)
    (run : List Char) : wordRuns run chars = [run.reverse ++ chars] := by
  induction chars generalizing run with
  | nil => simp [wordRuns]
  | cons char rest ih =>
      rw [wordRuns, if_pos (word char (.head _)), ih fun other member => word other (.tail _ member)]
      simp

/-- Whether all runs of word characters in a text are of some kind. -/
def AllRuns (kind : List Char → Prop) (chars : List Char) : Prop :=
  ∀ run ∈ wordRuns [] chars, run ≠ [] → kind run

section AllRuns

variable {kind : List Char → Prop} {before after chars : List Char}

theorem allRuns_nil : AllRuns kind [] := by
  intro run member nonempty
  rw [wordRuns, List.reverse_nil, List.mem_singleton] at member
  exact absurd member nonempty

theorem allRuns_word (word : ∀ char ∈ chars, isWordChar char = true) (isKind : kind chars) :
    AllRuns kind chars := by
  intro run member _
  rw [wordRuns_word word, List.reverse_nil, List.nil_append, List.mem_singleton] at member
  rwa [member]

theorem AllRuns.join (first : AllRuns kind before) (second : AllRuns kind after) {mark : Char}
    (separates : isWordChar mark = false) : AllRuns kind (before ++ mark :: after) := by
  intro run member nonempty
  rw [wordRuns_append separates, List.mem_append] at member
  cases member with
  | inl inBefore => exact first run inBefore nonempty
  | inr inAfter => exact second run inAfter nonempty

end AllRuns

/-! ## Texts outside of string literals -/

/-- Whether a text reads as another one outside of its string literals, all of which end in it. -/
def Outside (chars left : List Char) : Prop :=
  ∀ rest, outsideStrings (chars ++ rest) = left ++ outsideStrings rest

theorem Outside.append {first second left right : List Char} (before : Outside first left)
    (after : Outside second right) : Outside (first ++ second) (left ++ right) := by
  intro rest
  rw [List.append_assoc, before, after, List.append_assoc]

theorem outside_unquoted {chars : List Char} (unquoted : '"' ∉ chars) : Outside chars chars := by
  intro rest
  induction chars with
  | nil => rfl
  | cons char others ih =>
      rw [List.mem_cons, not_or] at unquoted
      rw [List.cons_append, outsideStrings, if_neg (Ne.symm unquoted.1), ih unquoted.2,
        List.cons_append]

theorem outsideStrings_unquoted {chars : List Char} (unquoted : '"' ∉ chars) :
    outsideStrings chars = chars := by
  have outside := outside_unquoted unquoted []
  rwa [outsideStrings, List.append_nil] at outside

theorem afterString_plain {char : Char} (notEscape : char ≠ '\\') (notQuote : char ≠ '"')
    (rest : List Char) : afterString (char :: rest) = afterString rest := by
  rw [afterString, if_neg notQuote]
  intro _ _ same
  exact absurd same notEscape

/-- An escaped character neither ends a string literal nor leaves half of an escape behind. -/
theorem afterString_escapeChar (char : Char) (rest : List Char) :
    afterString (Json.escapeChar char ++ rest) = afterString rest := by
  have hex : ∀ value < 16, Json.hexDigit value ≠ '\\' ∧ Json.hexDigit value ≠ '"' := by decide
  unfold Json.escapeChar
  split
  case h_8 notQuote notEscape _ _ _ _ _ =>
    split
    · next control =>
        have high := hex (char.toNat / 16) (by omega)
        have low := hex (char.toNat % 16) (by omega)
        change afterString ('0' :: '0' :: Json.hexDigit (char.toNat / 16) ::
          Json.hexDigit (char.toNat % 16) :: rest) = _
        rw [afterString_plain (by decide) (by decide), afterString_plain (by decide) (by decide),
          afterString_plain high.1 high.2, afterString_plain low.1 low.2]
    · exact afterString_plain notEscape notQuote rest
  all_goals rfl

theorem outside_quote (text : String) : Outside (Json.quote text).toList ['"'] := by
  have inside (chars rest : List Char) :
      afterString (chars.flatMap Json.escapeChar ++ '"' :: rest) = outsideStrings rest := by
    induction chars with
    | nil => rw [List.flatMap_nil, List.nil_append, afterString, if_pos rfl]; simp
    | cons char others ih =>
        rw [List.flatMap_cons, List.append_assoc, afterString_escapeChar, ih]
  intro rest
  rw [Json.quote, String.toList_ofList]
  have ends : '"' :: (text.toList.flatMap Json.escapeChar ++ ['"']) ++ rest =
      '"' :: (text.toList.flatMap Json.escapeChar ++ '"' :: rest) := by simp
  rw [ends, outsideStrings, if_pos rfl, inside]
  rfl

/-! ## Literals -/

/-- A run that is no identifier, or is `null`. -/
inductive IsLiteralRun : List Char → Prop where
  | numeral {first : Char} (rest : List Char) : first.isDigit = true → IsLiteralRun (first :: rest)
  | constant {name : String} : name ∈ ["true", "false", "null"] → IsLiteralRun name.toList

/-- A text of which nothing but literals is left outside of its string literals. -/
def IsLiteral (chars : List Char) : Prop :=
  ∃ left, Outside chars left ∧ AllRuns IsLiteralRun left

section Literals

variable {chars before after : List Char}

theorem isLiteral_nil : IsLiteral [] := ⟨[], fun _ => rfl, allRuns_nil⟩

theorem isLiteral_word (word : ∀ char ∈ chars, isWordChar char = true)
    (isRun : IsLiteralRun chars) : IsLiteral chars := by
  refine ⟨chars, outside_unquoted fun quote => ?_, allRuns_word word isRun⟩
  have isWord := word '"' quote
  revert isWord
  decide

theorem IsLiteral.join (first : IsLiteral before) (second : IsLiteral after) {mark : Char}
    (separates : isWordChar mark = false) (notQuote : mark ≠ '"') :
    IsLiteral (before ++ mark :: after) := by
  obtain ⟨left, outsideLeft, runsLeft⟩ := first
  obtain ⟨right, outsideRight, runsRight⟩ := second
  refine ⟨left ++ mark :: right, outsideLeft.append fun rest => ?_,
    runsLeft.join runsRight separates⟩
  rw [List.cons_append, outsideStrings, if_neg notQuote, outsideRight, List.cons_append]

/-- Two marks around a literal leave it one. -/
theorem IsLiteral.within (inside : IsLiteral chars) {opening closing : Char}
    (opens : isWordChar opening = false) (closes : isWordChar closing = false)
    (notQuote : opening ≠ '"') (notEnd : closing ≠ '"') :
    IsLiteral (opening :: (chars ++ [closing])) :=
  isLiteral_nil.join (inside.join isLiteral_nil closes notEnd) opens notQuote

theorem isLiteral_quote (text : String) : IsLiteral (Json.quote text).toList :=
  ⟨_, outside_quote text, allRuns_nil.join allRuns_nil (by decide)⟩

theorem isWordChar_of_isDigit {char : Char} (digit : char.isDigit = true) :
    isWordChar char = true := by
  simp [isWordChar, Text.not_separator_of_isDigit digit]

theorem isLiteral_digits (digits : ∀ char ∈ chars, char.isDigit = true) : IsLiteral chars := by
  cases chars with
  | nil => exact isLiteral_nil
  | cons first rest =>
      exact isLiteral_word (fun char member => isWordChar_of_isDigit (digits char member))
        (.numeral rest (digits first (.head _)))

theorem isDigit_toDigits (value : Nat) : ∀ char ∈ Nat.toDigits 10 value, char.isDigit = true :=
  fun _ member => Nat.isDigit_of_mem_toDigits (by decide) (by decide) member

theorem isLiteral_positional {digits : List Char} (isDigits : ∀ char ∈ digits, char.isDigit = true)
    (point : Int) : IsLiteral (Double.positional digits point) := by
  have zeros (count : Nat) : ∀ char ∈ List.replicate count '0', char.isDigit = true := by
    intro char member
    rw [List.eq_of_mem_replicate member]
    rfl
  have both {first second : List Char} (inFirst : ∀ char ∈ first, char.isDigit = true)
      (inSecond : ∀ char ∈ second, char.isDigit = true) : IsLiteral (first ++ second) := by
    refine isLiteral_digits fun char member => ?_
    cases List.mem_append.mp member with
    | inl before => exact inFirst char before
    | inr after => exact inSecond char after
  unfold Double.positional
  split
  · have zero : IsLiteral ['0'] := isLiteral_digits (Text.forall_of_all (by decide))
    exact zero.join (both (zeros _) isDigits) (by decide) (by decide)
  · refine (both (fun char member => isDigits char (List.mem_of_mem_take member))
      (zeros _)).join (isLiteral_digits fun char member => ?_) (by decide) (by decide)
    split at member
    · rw [List.mem_singleton.mp member]
      rfl
    · exact isDigits char (List.mem_of_mem_drop member)

theorem isLiteral_scientific {digits : List Char} (isDigits : ∀ char ∈ digits, char.isDigit = true)
    (nonempty : digits ≠ []) (point : Int) : IsLiteral (Double.scientific true digits point) := by
  obtain ⟨first, rest, rfl⟩ := List.exists_cons_of_ne_nil nonempty
  -- The exponent mark ends a run that starts with a digit, and the sign separates what follows.
  have marked {start : Char} {others : List Char} (isStart : ∀ char ∈ start :: others, char.isDigit = true) :
      IsLiteral (start :: others ++ ['e']) := by
    refine isLiteral_word (fun char member => ?_) (.numeral _ (isStart start (.head _)))
    cases List.mem_append.mp member with
    | inl digit => exact isWordChar_of_isDigit (isStart char digit)
    | inr mark =>
        rw [List.mem_singleton.mp mark]
        decide
  have exponent {before : List Char} (isBefore : IsLiteral before) :
      IsLiteral (before ++ ((if point - 1 < 0 then ['-'] else if true then ['+'] else []) ++
        Nat.toDigits 10 (point - 1).natAbs)) := by
    have power := isLiteral_digits (isDigit_toDigits (point - 1).natAbs)
    split
    · exact isBefore.join power (by decide) (by decide)
    · exact isBefore.join power (by decide) (by decide)
  unfold Double.scientific
  cases rest with
  | nil => exact exponent (marked fun char member => isDigits char member)
  | cons second others =>
      have fraction := exponent (marked fun char member => isDigits char (.tail _ member))
      have lead : IsLiteral [first] :=
        isLiteral_digits fun char member => isDigits char (List.mem_singleton.mp member ▸ .head _)
      have whole := lead.join fraction (by decide : isWordChar '.' = false) (by decide)
      simpa using whole

theorem isLiteral_number (number : Number) : IsLiteral (number.text .json).toList := by
  have signed (negative : Bool) {body : List Char} (isBody : IsLiteral body) :
      IsLiteral (if negative then '-' :: body else body) := by
    cases negative with
    | false => exact isBody
    | true => exact isLiteral_nil.join isBody (by decide) (by decide)
  cases number with
  | int value =>
      have digits := isLiteral_digits (isDigit_toDigits value.natAbs)
      have text := signed (decide (value < 0)) digits
      simpa [Number.text, Number.intText] using text
  | double value =>
      have body (digits : Nat) (point : Int) : IsLiteral
          (if NumberStyle.json.lowest ≤ point ∧ point ≤ NumberStyle.json.highest then
            Double.positional (Nat.toDigits 10 digits) point
          else Double.scientific NumberStyle.json.plus (Nat.toDigits 10 digits) point) := by
        split
        · exact isLiteral_positional (isDigit_toDigits digits) point
        · exact isLiteral_scientific (isDigit_toDigits digits) Nat.toDigits_ne_nil point
      rw [Number.text, Double.text, String.toList_ofList]
      exact signed _ (body _ _)

mutual

theorem isLiteral_compact : ∀ value : Json, IsLiteral value.compact.toList
  | .null => isLiteral_word (Text.forall_of_all (by decide)) (.constant (by decide))
  | .bool true => isLiteral_word (Text.forall_of_all (by decide)) (.constant (by decide))
  | .bool false => isLiteral_word (Text.forall_of_all (by decide)) (.constant (by decide))
  | .num value => isLiteral_number value
  | .str value => isLiteral_quote value
  | .arr items => by
      have inside := (isLiteral_compactItems items).within (by decide : isWordChar '[' = false)
        (by decide : isWordChar ']' = false) (by decide) (by decide)
      simpa [Json.compact] using inside
  | .obj members => by
      have inside := (isLiteral_compactMembers members).within
        (by decide : isWordChar '\x7b' = false) (by decide : isWordChar '\x7d' = false) (by decide)
        (by decide)
      simpa [Json.compact] using inside

theorem isLiteral_compactItems : ∀ items : List Json, IsLiteral (Json.compactItems items).toList
  | [] => isLiteral_nil
  | [item] => isLiteral_compact item
  | item :: next :: rest => by
      have both := (isLiteral_compact item).join (isLiteral_compactItems (next :: rest))
        (by decide : isWordChar ',' = false) (by decide)
      simpa [Json.compactItems] using both

theorem isLiteral_compactMembers : ∀ members : List (String × Json),
    IsLiteral (Json.compactMembers members).toList
  | [] => isLiteral_nil
  | [(key, value)] => by
      have member := (isLiteral_quote key).join (isLiteral_compact value)
        (by decide : isWordChar ':' = false) (by decide)
      simpa [Json.compactMembers] using member
  | (key, value) :: next :: rest => by
      have member := (isLiteral_quote key).join (isLiteral_compact value)
        (by decide : isWordChar ':' = false) (by decide)
      have all := member.join (isLiteral_compactMembers (next :: rest))
        (by decide : isWordChar ',' = false) (by decide)
      simpa [Json.compactMembers] using all

end

theorem isLiteral_intercalate {texts : List String} (all : ∀ text ∈ texts, IsLiteral text.toList) :
    IsLiteral (String.intercalate " | " texts).toList := by
  induction texts with
  | nil => exact isLiteral_nil
  | cons first rest ih =>
      have now := all first (.head _)
      have later := ih fun text member => all text (.tail _ member)
      cases rest with
      | nil => rwa [String.intercalate_singleton]
      | cons next others =>
          have blank := isLiteral_nil.join later (by decide : isWordChar ' ' = false) (by decide)
          have bar := (now.join isLiteral_nil (by decide : isWordChar ' ' = false) (by decide)).join
            blank (by decide : isWordChar '|' = false) (by decide)
          rw [String.intercalate_cons_cons]
          simpa using bar

end Literals

theorem mem_identifiers {text name : String} (member : name ∈ identifiers text) :
    name.toList ∈ wordRuns [] (outsideStrings text.toList) ∧ isIdentifierRun name.toList = true := by
  obtain ⟨run, isRun, rfl⟩ := List.mem_map.mp member
  rw [String.toList_ofList]
  exact List.mem_filter.mp isRun

theorem isIdentifierRun_nonempty {run : List Char} (isRun : isIdentifierRun run = true) :
    run ≠ [] := by
  rintro rfl
  cases isRun

/-- The literals of an enumeration hold no identifier but `null`. -/
theorem identifiers_of_isEnum {field : Field} (isEnum : field.isEnum = true) {name : String}
    (member : name ∈ identifiers (ofField field)) : name = "null" := by
  have literal : IsLiteral (ofField field).toList := by
    have literals : IsLiteral (String.intercalate " | " (field.enumOption.map Json.compact)).toList := by
      apply isLiteral_intercalate
      intro text isText
      obtain ⟨value, -, rfl⟩ := List.mem_map.mp isText
      exact isLiteral_compact value
    simp only [ofField, isEnum, if_true]
    split
    · have inside := literals.within (by decide : isWordChar '(' = false)
        (by decide : isWordChar ')' = false) (by decide) (by decide)
      have opened := inside.join isLiteral_nil (by decide : isWordChar '[' = false) (by decide)
      have closed := opened.join isLiteral_nil (by decide : isWordChar ']' = false) (by decide)
      simpa using closed
    · exact literals
  obtain ⟨left, outside, runs⟩ := literal
  obtain ⟨isRun, isIdentifier⟩ := mem_identifiers member
  have alone := outside []
  rw [List.append_nil, outsideStrings, List.append_nil] at alone
  rw [alone] at isRun
  have kind := runs _ isRun (isIdentifierRun_nonempty isIdentifier)
  generalize chars : name.toList = run at kind isIdentifier
  cases kind with
  | numeral rest digit => simp [isIdentifierRun, digit] at isIdentifier
  | @constant other isConstant =>
      have same : name = other := String.toList_inj.mp chars
      have only : ∀ other ∈ ["true", "false", "null"], isIdentifierRun other.toList = true →
          other = "null" := by decide
      exact same.trans (only other isConstant isIdentifier)

/-! ## Types without string literals -/

/-- Whether a text has no string literal, and all words in it are allowed. -/
def Uses (allowed : String → Prop) (text : String) : Prop :=
  '"' ∉ text.toList ∧ AllRuns (fun run => allowed (String.ofList run)) text.toList

section Uses

variable {allowed : String → Prop}

theorem Uses.identifiers {text name : String} (uses : Uses allowed text)
    (member : name ∈ identifiers text) : name.toList ∈ wordRuns [] text.toList ∧ allowed name := by
  obtain ⟨isRun, isIdentifier⟩ := mem_identifiers member
  rw [outsideStrings_unquoted uses.1] at isRun
  have isAllowed := uses.2 _ isRun (isIdentifierRun_nonempty isIdentifier)
  exact ⟨isRun, by simpa using isAllowed⟩

theorem uses_word {word : String} (isWord : ∀ char ∈ word.toList, isWordChar char = true)
    (isAllowed : allowed word) : Uses allowed word := by
  refine ⟨fun quote => ?_, allRuns_word isWord (by simpa using isAllowed)⟩
  have quoteWord := isWord '"' quote
  revert quoteWord
  decide

theorem uses_empty : Uses allowed "" := ⟨List.not_mem_nil, allRuns_nil⟩

theorem uses_marks {text : String}
    (marks : ∀ char ∈ text.toList, isWordChar char = false ∧ char ≠ '"') : Uses allowed text := by
  refine ⟨fun quote => (marks '"' quote).2 rfl, ?_⟩
  generalize text.toList = chars at marks
  induction chars with
  | nil => exact allRuns_nil
  | cons char rest ih =>
      exact allRuns_nil.join (ih fun other member => marks other (.tail _ member))
        (marks char (.head _)).1

def StartsApart (text : String) : Prop :=
  ∃ mark rest, text.toList = mark :: rest ∧ isWordChar mark = false

def EndsApart (text : String) : Prop :=
  ∃ start mark, text.toList = start ++ [mark] ∧ isWordChar mark = false

theorem EndsApart.append {text : String} (ends : EndsApart text) (before : String) :
    EndsApart (before ++ text) := by
  obtain ⟨start, mark, chars, separates⟩ := ends
  exact ⟨before.toList ++ start, mark, by simp [chars], separates⟩

theorem Uses.append_of_start {before after : String} (first : Uses allowed before)
    (second : Uses allowed after) (starts : StartsApart after) : Uses allowed (before ++ after) := by
  obtain ⟨mark, rest, chars, separates⟩ := starts
  obtain ⟨unquoted, runs⟩ := second
  rw [Uses, String.toList_append, chars]
  rw [chars] at unquoted runs
  refine ⟨fun quote => ?_, first.2.join (fun run member => runs run ?_) separates⟩
  · cases List.mem_append.mp quote with
    | inl inBefore => exact first.1 inBefore
    | inr inAfter => exact unquoted inAfter
  · rw [wordRuns, if_neg (by simp [separates])]
    exact .tail _ member

theorem Uses.append_of_end {before after : String} (first : Uses allowed before)
    (second : Uses allowed after) (ends : EndsApart before) : Uses allowed (before ++ after) := by
  obtain ⟨start, mark, chars, separates⟩ := ends
  obtain ⟨unquoted, runs⟩ := first
  have split : (before ++ after).toList = start ++ mark :: after.toList := by simp [chars]
  rw [Uses, split]
  rw [chars] at unquoted runs
  refine ⟨fun quote => ?_, AllRuns.join (fun run member => runs run ?_) second.2 separates⟩
  · cases List.mem_append.mp quote with
    | inl inStart => exact unquoted (List.mem_append_left _ inStart)
    | inr inRest =>
        cases inRest with
        | head => exact unquoted (List.mem_append_right _ (.head _))
        | tail _ later => exact second.1 later
  · rw [wordRuns_append separates]
    exact List.mem_append_left _ member

theorem uses_intercalate {separator : String} {texts : List String}
    (isSeparator : Uses allowed separator) (starts : StartsApart separator)
    (ends : EndsApart separator) (all : ∀ text ∈ texts, Uses allowed text) :
    Uses allowed (String.intercalate separator texts) := by
  induction texts with
  | nil => exact uses_empty
  | cons first rest ih =>
      have now := all first (.head _)
      have later := ih fun text member => all text (.tail _ member)
      cases rest with
      | nil => rwa [String.intercalate_singleton]
      | cons next others =>
          rw [String.intercalate_cons_cons]
          exact (now.append_of_start isSeparator starts).append_of_end later (ends.append first)

end Uses

/-! ## Names that are imported -/

/-- A name that is found in the texts that use it. -/
structure Importable (name : String) : Prop where
  capital : ∃ first, name.toList.head? = some first ∧ Text.isUppercase first = true
  plain : ∀ char ∈ name.toList, isNameChar char = true

theorem isWordChar_of_isNameChar {char : Char} (plain : isNameChar char = true) :
    isWordChar char = true := by
  simp only [isNameChar, Bool.or_eq_true] at plain
  rcases plain with (letter | line) | dollar
  · simp [isWordChar, Text.not_separator_of_isAlphanumeric letter]
  · simp [isWordChar, line]
  · simp [isWordChar, dollar]

/-- A run of word characters that are all name characters is a run of these. The two readings differ
only while the former reads a run that holds another character. -/
theorem mem_nameRuns {name : List Char} (plain : ∀ char ∈ name, isNameChar char = true)
    {chars run other : List Char} (alike : (∀ char ∈ run, isNameChar char = true) → other = run)
    (member : name ∈ wordRuns run chars) : name ∈ nameRuns other chars := by
  induction chars generalizing run other with
  | nil =>
      rw [wordRuns, List.mem_singleton] at member
      have same := alike fun char inRun => plain char (by simpa [member] using inRun)
      rw [nameRuns, same, member]
      exact .head _
  | cons char rest ih =>
      rw [wordRuns] at member
      rw [nameRuns]
      by_cases isName : isNameChar char = true
      · rw [if_pos (isWordChar_of_isNameChar isName)] at member
        rw [if_pos isName]
        refine ih (fun all => ?_) member
        rw [alike fun other inRun => all other (.tail _ inRun)]
      · rw [if_neg isName]
        split at member
        · refine .tail _ (ih (fun all => ?_) member)
          exact absurd (all char (.head _)) isName
        · cases member with
          | head =>
              have same := alike fun char inRun => plain char (List.mem_reverse.mpr inRun)
              rw [same]
              exact .head _
          | tail _ later => exact .tail _ (ih (fun _ => rfl) later)

theorem Importable.mem_capitalNames {name text : String} (importable : Importable name)
    (isRun : name.toList ∈ wordRuns [] text.toList) : name ∈ capitalNames text := by
  obtain ⟨first, isFirst, upper⟩ := importable.capital
  have found := mem_nameRuns importable.plain (fun _ => rfl) isRun
  refine List.mem_map.mpr ⟨name.toList, List.mem_filter.mpr ⟨found, ?_⟩, String.ofList_toList⟩
  obtain ⟨rest, chars⟩ := List.head?_eq_some_iff.mp isFirst
  rw [chars]
  exact upper

end ClientGen.TypeScript
