import ClientGen.Json.Reader
import ClientGen.Proofs.Text.Search
import ClientGen.Proofs.TypeScript.Comments

/-!
The texts that template literals evaluate to. Texts of the target language are lists of UTF-16 code
units. A reader of the body of a template literal finds characters that stand for themselves, escape
sequences and substitutions; of the latter only those are read here that encode a parameter. An
escape sequence is longer than what it stands for, which bounds the length of a text by that of the
literal.
-/

set_option autoImplicit false

namespace ClientGen.TypeScript

/-! ## Code units -/

def codeUnits (code : Nat) : List Nat :=
  if code < 0x10000 then [code]
  else [0xD800 + (code - 0x10000) / 0x400, 0xDC00 + (code - 0x10000) % 0x400]

def charUnits (char : Char) : List Nat := codeUnits char.toNat

def textUnits (chars : List Char) : List Nat := chars.flatMap charUnits

@[simp] theorem textUnits_cons (char : Char) (rest : List Char) :
    textUnits (char :: rest) = charUnits char ++ textUnits rest := List.flatMap_cons

@[simp] theorem textUnits_append (first second : List Char) :
    textUnits (first ++ second) = textUnits first ++ textUnits second := List.flatMap_append

/-! ## Evaluation -/

/-- The code point between the braces of an escape sequence. -/
def bracedCode? (digits : List Char) : Option Nat :=
  if digits.isEmpty then none else (Json.hexWord? digits).filter (· ≤ 0x10FFFF)

/-- The character that an escape sequence of one character stands for. -/
def unescaped (char : Char) : Char :=
  match char with
  | 'b' => '\x08'
  | 't' => '\t'
  | 'n' => '\n'
  | 'v' => '\x0b'
  | 'f' => '\x0c'
  | 'r' => '\r'
  | other => other

/-- What the escape sequence after a backslash stands for, and the number of its characters. The end
of a line stands for nothing. -/
def escape? : List Char → Option (List Nat × Nat)
  | [] => none
  | 'x' :: high :: low :: _ => (Json.hexWord? [high, low]).map fun code => ([code], 3)
  | 'u' :: '\x7b' :: rest =>
      match Text.cut '\x7d' rest with
      | (_, none) => none
      | (digits, some _) => (bracedCode? digits).map fun code => (codeUnits code, digits.length + 3)
  | 'u' :: first :: second :: third :: fourth :: _ =>
      (Json.hexWord? [first, second, third, fourth]).map fun code => ([code], 5)
  | '\r' :: '\n' :: _ => some ([], 2)
  | char :: rest =>
      if isLineBreak char then some ([], 1)
      else if char = 'x' ∨ char = 'u' then none
      else if char.isDigit then
        if char = '0' ∧ (rest.head?.any Char.isDigit) = false then some ([0], 1) else none
      else some (charUnits (unescaped char), 1)

/-- The code around the name of a parameter whose value is encoded: from the brace that opens a
substitution to the first quotation mark, and from after the second one to the closing brace. -/
def nameOpening : List Char := "\x7bencodeURIComponent(String(params[\"".toList

def nameClosing : List Char := "]))\x7d".toList

/-- A place in a template literal: in its text, or in the name of a parameter, of which the units
`read` stand before. -/
inductive LiteralPlace where
  | text
  | name (read : List Nat)

/-- What the code at a place of a template literal adds to the text, the place after it, and how
many characters after the first belong to it. `encoded` gives the value of the parameter with a
name, as a text and encoded. -/
def step? (encoded : List Nat → List Nat) (char : Char) (rest : List Char) :
    LiteralPlace → Option (List Nat × LiteralPlace × Nat)
  | .text =>
      if char = '`' then none
      else if char = '\\' then
        (escape? rest).map fun escape => (escape.1, .text, escape.2)
      else if char = '$' ∧ rest.head? = some '\x7b' then
        if (Text.afterStart? nameOpening rest).isSome then some ([], .name [], nameOpening.length)
        else none
      else if char = '\r' then some ([10], .text, if rest.head? = some '\n' then 1 else 0)
      else some (charUnits char, .text, 0)
  | .name read =>
      if char = '"' then
        if (Text.afterStart? nameClosing rest).isSome then
          some (encoded read, .text, nameClosing.length)
        else none
      else if char = '\\' then
        (escape? rest).map fun escape => ([], .name (read ++ escape.1), escape.2)
      else if char = '\n' ∨ char = '\r' then none
      else some ([], .name (read ++ charUnits char), 0)

/-- The text that a template literal evaluates to, from a place on. A number counts the characters
that are still to be passed over. -/
def evaluateFrom (encoded : List Nat → List Nat) (place : LiteralPlace) :
    Nat → List Char → Option (List Nat)
  | _, [] =>
      match place with
      | .text => some []
      | .name _ => none
  | skip + 1, _ :: rest => evaluateFrom encoded place skip rest
  | 0, char :: rest =>
      match step? encoded char rest place with
      | none => none
      | some (units, next, length) => (evaluateFrom encoded next length rest).map (units ++ ·)

/-- The text that the body of a template literal evaluates to, if it is well-formed. -/
def evaluate? (encoded : List Nat → List Nat) (template : String) : Option (List Nat) :=
  evaluateFrom encoded .text 0 template.toList

theorem evaluateFrom_drop (encoded : List Nat → List Nat) (place : LiteralPlace) (skip : Nat)
    (chars : List Char) :
    evaluateFrom encoded place skip chars = evaluateFrom encoded place 0 (chars.drop skip) := by
  induction chars generalizing skip with
  | nil => cases place <;> simp [evaluateFrom]
  | cons char rest ih =>
      cases skip with
      | zero => rfl
      | succ skip =>
          rw [evaluateFrom, List.drop_succ_cons]
          exact ih skip

theorem evaluateFrom_step {encoded : List Nat → List Nat} {place next : LiteralPlace} {char : Char}
    {rest : List Char} {units : List Nat} {length : Nat}
    (step : step? encoded char rest place = some (units, next, length)) :
    evaluateFrom encoded place 0 (char :: rest) =
      (evaluateFrom encoded next 0 (rest.drop length)).map (units ++ ·) := by
  rw [evaluateFrom, step, ← evaluateFrom_drop]

/-- In the name of a parameter the text is not added to before the name ends. -/
theorem step_name {encoded : List Nat → List Nat} {read units : List Nat} {char : Char}
    {rest : List Char} {next : LiteralPlace} {length : Nat}
    (step : step? encoded char rest (.name read) = some (units, next, length)) :
    units = encoded read ∨ (units = [] ∧ ∃ more, next = .name more) := by
  rw [step?] at step
  split at step
  · split at step
    · cases step
      exact .inl rfl
    · cases step
  · split at step
    · obtain ⟨escape, -, same⟩ := Option.map_eq_some_iff.mp step
      cases same
      exact .inr ⟨rfl, _, rfl⟩
    · split at step
      · cases step
      · cases step
        exact .inr ⟨rfl, _, rfl⟩

theorem exists_encoded_of_name {encoded : List Nat → List Nat} {read value : List Nat} {skip : Nat}
    {chars : List Char} (evaluated : evaluateFrom encoded (.name read) skip chars = some value) :
    ∃ name after, value = encoded name ++ after := by
  induction chars generalizing read skip value with
  | nil =>
      rw [evaluateFrom] at evaluated
      cases evaluated
  | cons char rest ih =>
      cases skip with
      | succ skip =>
          rw [evaluateFrom] at evaluated
          exact ih evaluated
      | zero =>
          rw [evaluateFrom] at evaluated
          split at evaluated
          · cases evaluated
          · next units next length step =>
              obtain ⟨after, further, rfl⟩ := Option.map_eq_some_iff.mp evaluated
              rcases step_name step with rfl | ⟨rfl, more, rfl⟩
              · exact ⟨read, after, rfl⟩
              · exact ih further

/-! ## Lengths -/

/-- The number of code units that a text takes. -/
def textSize (chars : List Char) : Nat := (textUnits chars).length

@[simp] theorem textSize_nil : textSize [] = 0 := rfl

@[simp] theorem textSize_cons (char : Char) (rest : List Char) :
    textSize (char :: rest) = (charUnits char).length + textSize rest := by
  simp [textSize]

@[simp] theorem textSize_append (first second : List Char) :
    textSize (first ++ second) = textSize first + textSize second := by
  simp [textSize]

theorem length_charUnits_pos (char : Char) : 0 < (charUnits char).length := by
  unfold charUnits codeUnits
  split <;> simp

theorem length_le_textSize (chars : List Char) : chars.length ≤ textSize chars := by
  induction chars with
  | nil => exact Nat.zero_le 0
  | cons char rest ih =>
      have pos := length_charUnits_pos char
      rw [List.length_cons, textSize_cons]
      omega

theorem textSize_drop (count : Nat) (chars : List Char) :
    textSize (chars.drop count) + min count chars.length ≤ textSize chars := by
  have taken := length_le_textSize (chars.take count)
  rw [List.length_take] at taken
  conv_rhs => rw [← List.take_append_drop count chars, textSize_append]
  omega

theorem length_charUnits_unescaped (char : Char) :
    (charUnits (unescaped char)).length = (charUnits char).length := by
  unfold unescaped
  split <;> rfl

/-- The least number of code units of the code for a text in a literal in which some characters can
be written by longer sequences only. -/
def writtenSize (special : List Char) (units : List Nat) : Nat :=
  units.length + units.countP fun unit => special.any fun char => char.toNat = unit

@[simp] theorem writtenSize_nil (special : List Char) : writtenSize special [] = 0 := rfl

@[simp] theorem writtenSize_append (special : List Char) (first second : List Nat) :
    writtenSize special (first ++ second) =
      writtenSize special first + writtenSize special second := by
  simp only [writtenSize, List.length_append, List.countP_append]
  omega

section Special

variable {special : List Char} (basic : ∀ char ∈ special, char.toNat < 0xD800)

include basic

theorem not_special_of_high {unit : Nat} (high : 0xD800 ≤ unit) :
    (special.any fun char => char.toNat = unit) = false := by
  rw [List.any_eq_false]
  intro char member same
  have low := basic char member
  simp only [decide_eq_true_eq] at same
  omega

theorem writtenSize_codeUnits_le (code : Nat) :
    writtenSize special (codeUnits code) ≤ (codeUnits code).length + 1 := by
  unfold writtenSize codeUnits
  apply Nat.add_le_add_left
  split
  · exact List.countP_le_length
  · rw [List.countP_cons, List.countP_singleton, not_special_of_high basic (by omega),
      not_special_of_high basic (by omega)]
    exact Nat.zero_le 1

theorem writtenSize_charUnits (char : Char) : writtenSize special (charUnits char) =
    (charUnits char).length + if char ∈ special then 1 else 0 := by
  have same : (special.any fun other => other.toNat = char.toNat) = decide (char ∈ special) := by
    rw [Bool.eq_iff_iff]
    simp [Char.toNat_inj]
  unfold writtenSize charUnits codeUnits
  congr 1
  split
  · rw [List.countP_singleton, same]
    simp
  · next high =>
      have plain : char ∉ special := fun member => high (by have low := basic char member; omega)
      rw [List.countP_cons, List.countP_singleton, not_special_of_high basic (by omega),
        not_special_of_high basic (by omega), if_neg plain]
      rfl

/-- An escape sequence is not shorter, with its backslash, than what it stands for is written. -/
theorem writtenSize_escape {rest : List Char} {units : List Nat} {length : Nat}
    (read : escape? rest = some (units, length)) :
    writtenSize special units + textSize (rest.drop length) ≤ 1 + textSize rest := by
  have single (code : Nat) : writtenSize special [code] ≤ 2 := by
    rw [writtenSize]
    exact Nat.add_le_add_left List.countP_le_length 1
  have shorter := textSize_drop length rest
  unfold escape? at read
  split at read
  · cases read
  · next high low others =>
      obtain ⟨code, -, same⟩ := Option.map_eq_some_iff.mp read
      cases same
      have bound := single code
      simp only [List.length_cons] at shorter
      omega
  · next others =>
      split at read
      · cases read
      · next digits after cut =>
          obtain ⟨code, -, same⟩ := Option.map_eq_some_iff.mp read
          cases same
          have bound := writtenSize_codeUnits_le basic code
          have two : (codeUnits code).length ≤ 2 := by
            unfold codeUnits
            split <;> simp
          simp only [List.length_cons] at shorter
          omega
  · obtain ⟨code, -, same⟩ := Option.map_eq_some_iff.mp read
    cases same
    have bound := single code
    simp only [List.length_cons] at shorter
    omega
  · cases read
    simp only [List.length_cons] at shorter
    rw [writtenSize_nil]
    omega
  · next char others _ _ _ _ =>
      split at read
      · cases read
        rw [writtenSize_nil]
        omega
      · split at read
        · cases read
        · split at read
          · split at read
            · cases read
              have bound := single 0
              simp only [List.length_cons] at shorter
              omega
            · cases read
          · cases read
            have bound := writtenSize_charUnits basic (unescaped char)
            rw [length_charUnits_unescaped] at bound
            rw [bound, List.drop_one, List.tail_cons, textSize_cons]
            split <;> omega

end Special

/-! ## Templates are not shorter than their texts -/

/-- The characters that stand in the text of a template literal as escape sequences only. -/
def textSpecial : List Char := ['\\', '`', '\r']

/-- The same for a string literal. -/
def nameSpecial : List Char := ['\\', '"', '\n', '\r']

theorem textSpecial_basic : ∀ char ∈ textSpecial, char.toNat < 0xD800 :=
  Text.forall_of_all (by decide)

theorem nameSpecial_basic : ∀ char ∈ nameSpecial, char.toNat < 0xD800 :=
  Text.forall_of_all (by decide)

/-- A text that is as long as the code for the value of a parameter. -/
def codeLong (name : List Nat) : List Nat :=
  List.replicate (nameOpening.length + nameClosing.length + 2 + writtenSize nameSpecial name) 120

/-- The length of the code of a substitution before a place in it. -/
def LiteralPlace.passed : LiteralPlace → Nat
  | .text => 0
  | .name read => 1 + nameOpening.length + writtenSize nameSpecial read

theorem writtenSize_codeLong (name : List Nat) : writtenSize textSpecial (codeLong name) =
    nameOpening.length + nameClosing.length + 2 + writtenSize nameSpecial name := by
  have none (count : Nat) : (List.replicate count 120).countP
      (fun unit => textSpecial.any fun char => char.toNat = unit) = 0 := by
    rw [List.countP_eq_zero]
    intro unit member
    rw [List.eq_of_mem_replicate member]
    decide
  rw [writtenSize, codeLong, none, List.length_replicate, Nat.add_zero]

theorem eq_append_of_afterStart? {start chars : List Char}
    (starts : (Text.afterStart? start chars).isSome) :
    chars = start ++ chars.drop start.length := by
  induction start generalizing chars with
  | nil => rfl
  | cons first more ih =>
      cases chars with
      | nil => cases starts
      | cons char rest =>
          rw [Text.afterStart?] at starts
          split at starts
          · next same =>
              rw [List.length_cons, List.drop_succ_cons, List.cons_append, ← ih starts, same]
          · cases starts

section Step

variable {next : LiteralPlace} {char : Char} {rest : List Char} {units : List Nat} {length : Nat}

theorem writtenSize_step_text (step : step? codeLong char rest .text = some (units, next, length)) :
    writtenSize textSpecial units + next.passed + textSize (rest.drop length) ≤
      textSize (char :: rest) := by
  have positive := length_charUnits_pos char
  have shorter := textSize_drop length rest
  rw [textSize_cons]
  rw [step?] at step
  split at step
  · cases step
  · next backquote =>
      split at step
      · obtain ⟨escape, read, same⟩ := Option.map_eq_some_iff.mp step
        cases same
        have sequence := writtenSize_escape textSpecial_basic read
        simp only [LiteralPlace.passed]
        omega
      · next backslash =>
          split at step
          · split at step
            · next starts =>
                cases step
                have parts := congrArg textSize (eq_append_of_afterStart? starts)
                have opening : textSize nameOpening = nameOpening.length := rfl
                rw [textSize_append, opening] at parts
                simp only [LiteralPlace.passed, writtenSize_nil]
                omega
            · cases step
          · split at step
            · cases step
              have newline : writtenSize textSpecial [10] = 1 := by decide
              simp only [LiteralPlace.passed]
              omega
            · next ret =>
                cases step
                have plain : char ∉ textSpecial := by simp [textSpecial, backquote, backslash, ret]
                rw [writtenSize_charUnits textSpecial_basic, if_neg plain]
                simp only [LiteralPlace.passed]
                omega

theorem writtenSize_step_name {read : List Nat}
    (step : step? codeLong char rest (.name read) = some (units, next, length)) :
    writtenSize textSpecial units + next.passed + textSize (rest.drop length) ≤
      LiteralPlace.passed (.name read) + textSize (char :: rest) := by
  have positive := length_charUnits_pos char
  rw [textSize_cons]
  rw [step?] at step
  split at step
  · split at step
    · next starts =>
        cases step
        have parts := congrArg textSize (eq_append_of_afterStart? starts)
        have closing : textSize nameClosing = nameClosing.length := rfl
        rw [textSize_append, closing] at parts
        rw [writtenSize_codeLong]
        simp only [LiteralPlace.passed]
        omega
    · cases step
  · next quote =>
      split at step
      · obtain ⟨escape, escaped, same⟩ := Option.map_eq_some_iff.mp step
        cases same
        have sequence := writtenSize_escape nameSpecial_basic escaped
        simp only [LiteralPlace.passed, writtenSize_nil, writtenSize_append]
        omega
      · next backslash =>
          split at step
          · cases step
          · next unbroken =>
              cases step
              rw [not_or] at unbroken
              have plain : char ∉ nameSpecial := by
                simp [nameSpecial, quote, backslash, unbroken.1, unbroken.2]
              simp only [LiteralPlace.passed, writtenSize_nil, writtenSize_append]
              rw [writtenSize_charUnits nameSpecial_basic, if_neg plain, List.drop_zero]
              omega

/-- One step adds no more to the text than it takes from the code. -/
theorem writtenSize_step {place : LiteralPlace}
    (step : step? codeLong char rest place = some (units, next, length)) :
    writtenSize textSpecial units + next.passed + textSize (rest.drop length) ≤
      place.passed + textSize (char :: rest) := by
  cases place with
  | text =>
      rw [LiteralPlace.passed, Nat.zero_add]
      exact writtenSize_step_text step
  | name read => exact writtenSize_step_name step

end Step

/-- What is evaluated from a place on is written in the code from there on and before. -/
theorem writtenSize_evaluateFrom {place : LiteralPlace} {skip : Nat} {chars : List Char}
    {value : List Nat} (read : evaluateFrom codeLong place skip chars = some value) :
    writtenSize textSpecial value ≤ place.passed + textSize (chars.drop skip) := by
  induction chars generalizing place skip value with
  | nil =>
      cases place with
      | text =>
          rw [evaluateFrom] at read
          cases read
          exact Nat.zero_le _
      | name units =>
          rw [evaluateFrom] at read
          cases read
  | cons char rest ih =>
      cases skip with
      | succ skip =>
          rw [evaluateFrom] at read
          exact ih read
      | zero =>
          rw [evaluateFrom] at read
          split at read
          · cases read
          · next units next length step =>
              obtain ⟨after, further, rfl⟩ := Option.map_eq_some_iff.mp read
              have bound := ih further
              have first := writtenSize_step step
              rw [writtenSize_append, List.drop_zero]
              omega

end ClientGen.TypeScript
