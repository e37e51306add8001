import ClientGen.Proofs.TypeScript.TemplateLiteral
import ClientGen.TypeScript.Literal
import Mathlib.Algebra.GroupWithZero.Nat
import Mathlib.Data.List.Infix

/-!
Templates of URLs and the texts that they evaluate to. A template escapes the backquotes of a URL
and the quotation marks and backslashes in the names of its variables, and nothing else. It gives
the URL back exactly if the URL has no other characters that a template literal reads as something
else.
-/

set_option autoImplicit false

namespace ClientGen.TypeScript

/-! ## The parts of a URL -/

/-- A part of a URL: a character that stands for itself, or a variable for a parameter. -/
inductive UrlPart where
  | literal (char : Char)
  | parameter (name : List Char)
  deriving DecidableEq, Repr

namespace UrlPart

/-- The characters of a part in its URL. -/
def text : UrlPart → List Char
  | literal char => [char]
  | parameter name => '\x7b' :: (name ++ ['\x7d'])

/-- The text that a part stands for, where the values of parameters are encoded. -/
def value (encoded : List Nat → List Nat) : UrlPart → List Nat
  | literal char => charUnits char
  | parameter name => encoded (textUnits name)

def written : UrlPart → List Char
  | literal char => templateChar char
  | parameter name => variableExpression name

/-- Whether a part is written so that it evaluates to itself: backslashes and returns are not, and
neither are line breaks in the name of a variable. -/
def IsPlain : UrlPart → Prop
  | literal char => char ≠ '\\' ∧ char ≠ '\r'
  | parameter name => '\n' ∉ name ∧ '\r' ∉ name

instance (part : UrlPart) : Decidable part.IsPlain :=
  match part with
  | literal char => inferInstanceAs (Decidable (char ≠ '\\' ∧ char ≠ '\r'))
  | parameter name => inferInstanceAs (Decidable ('\n' ∉ name ∧ '\r' ∉ name))

end UrlPart

/-- The parts of a URL. A variable reaches from an opening brace to the next closing one, and a
brace that is not closed stands for itself. `name` holds what was read of a variable, last character
first. -/
def urlPartsFrom (name : Option (List Char)) : List Char → List UrlPart
  | [] =>
      match name with
      | none => []
      | some read => ('\x7b' :: read.reverse).map .literal
  | char :: rest =>
      match name with
      | none =>
          if char = '\x7b' then urlPartsFrom (some []) rest
          else .literal char :: urlPartsFrom none rest
      | some read =>
          if char = '\x7d' then .parameter read.reverse :: urlPartsFrom none rest
          else urlPartsFrom (some (char :: read)) rest

def urlParts (url : String) : List UrlPart := urlPartsFrom none url.toList

/-- Whether parts are those of a URL: they make it up, the name of a variable ends before the first
closing brace, and no closing brace follows an opening one that stands for itself. -/
structure IsReading (url : List Char) (parts : List UrlPart) : Prop where
  whole : parts.flatMap UrlPart.text = url
  closed : ∀ name, .parameter name ∈ parts → '\x7d' ∉ name
  unclosed : ∀ after, .literal '\x7b' :: after <:+ parts → '\x7d' ∉ after.flatMap UrlPart.text

section Reading

variable {url : List Char} {parts : List UrlPart}

theorem IsReading.literal {char : Char} (other : char ≠ '\x7b') (reading : IsReading url parts) :
    IsReading (char :: url) (.literal char :: parts) where
  whole := by
    rw [List.flatMap_cons, reading.whole]
    rfl
  closed name member := by
    cases member with
    | tail _ later => exact reading.closed name later
  unclosed after ends := by
    rcases List.suffix_cons_iff.mp ends with same | later
    · cases same
      exact absurd rfl other
    · exact reading.unclosed after later

theorem IsReading.parameter {name : List Char} (plain : '\x7d' ∉ name)
    (reading : IsReading url parts) :
    IsReading ('\x7b' :: (name ++ '\x7d' :: url)) (.parameter name :: parts) where
  whole := by
    rw [List.flatMap_cons, reading.whole, UrlPart.text]
    simp
  closed other member := by
    cases member with
    | head => exact plain
    | tail _ later => exact reading.closed other later
  unclosed after ends := by
    rcases List.suffix_cons_iff.mp ends with same | later
    · cases same
    · exact reading.unclosed after later

theorem isReading_literals {chars : List Char} (plain : '\x7d' ∉ chars) :
    IsReading chars (chars.map .literal) := by
  have whole : (chars.map UrlPart.literal).flatMap UrlPart.text = chars := by
    rw [List.flatMap_map]
    exact List.flatMap_singleton' chars
  constructor
  · exact whole
  · intro name member
    obtain ⟨char, -, same⟩ := List.mem_map.mp member
    cases same
  · rintro after ⟨before, same⟩ member
    have inside : '\x7d' ∈ (chars.map UrlPart.literal).flatMap UrlPart.text := by
      rw [← same, List.flatMap_append, List.flatMap_cons]
      exact List.mem_append_right _ (List.mem_append_right _ member)
    exact plain (whole ▸ inside)

end Reading

theorem isReading_urlPartsFrom (name : Option (List Char)) (plain : '\x7d' ∉ name.getD [])
    (url : List Char) :
    IsReading ((name.elim [] fun read => '\x7b' :: read.reverse) ++ url)
      (urlPartsFrom name url) := by
  induction url generalizing name with
  | nil =>
      cases name with
      | none => exact isReading_literals (by simp)
      | some read =>
          rw [List.append_nil]
          apply isReading_literals
          simpa using plain
  | cons char rest ih =>
      cases name with
      | none =>
          by_cases opens : char = '\x7b'
          · rw [urlPartsFrom, if_pos opens, opens]
            exact ih (some []) (by simp)
          · rw [urlPartsFrom, if_neg opens]
            exact (ih none (by simp)).literal opens
      | some read =>
          by_cases closes : char = '\x7d'
          · have read' : '\x7d' ∉ read.reverse := by simpa using plain
            rw [urlPartsFrom, if_pos closes, closes]
            exact (ih none (by simp)).parameter read'
          · have further := ih (some (char :: read)) (by simpa [Ne.symm closes] using plain)
            rw [urlPartsFrom, if_neg closes]
            simpa using further

/-- A URL with the encoded values of parameters in the places of its variables. -/
def urlValue (encoded : List Nat → List Nat) (url : String) : List Nat :=
  (urlParts url).flatMap (UrlPart.value encoded)

/-- Whether all parts of a URL are written plainly, and no dollar sign stands before a brace that is
not closed, with which it would open a substitution. -/
structure IsVerbatim (parts : List UrlPart) : Prop where
  plain : ∀ part ∈ parts, part.IsPlain
  unopened : ¬ [.literal '$', .literal '\x7b'] <:+: parts

instance (parts : List UrlPart) : Decidable (IsVerbatim parts) :=
  decidable_of_iff ((∀ part ∈ parts, part.IsPlain) ∧ ¬ [.literal '$', .literal '\x7b'] <:+: parts)
    ⟨fun both => ⟨both.1, both.2⟩, fun verbatim => ⟨verbatim.plain, verbatim.unopened⟩⟩

theorem templateChars_eq_written (name : Option (List Char)) (url : List Char) :
    templateChars name url = (urlPartsFrom name url).flatMap UrlPart.written := by
  induction url generalizing name with
  | nil =>
      cases name with
      | none => rfl
      | some read =>
          rw [templateChars, urlPartsFrom, List.flatMap_map]
          rfl
  | cons char rest ih =>
      cases name with
      | none =>
          rw [templateChars, urlPartsFrom]
          split
          · exact ih (some [])
          · rw [ih none, List.flatMap_cons]
            rfl
      | some read =>
          rw [templateChars, urlPartsFrom]
          split
          · rw [ih none, List.flatMap_cons]
            rfl
          · exact ih (some (char :: read))

theorem variableExpression_eq (name : List Char) : variableExpression name =
    '$' :: (nameOpening ++ (name.flatMap quotedChar ++ '"' :: nameClosing)) := by
  have opening : "$\x7bencodeURIComponent(String(params[".toList ++ ['"'] = '$' :: nameOpening := by
    decide
  have shape (before after : List Char) : before ++ quotedChars name ++ after =
      before ++ ['"'] ++ (name.flatMap quotedChar ++ '"' :: after) := by simp [quotedChars]
  have whole := shape "$\x7bencodeURIComponent(String(params[".toList nameClosing
  rw [opening, List.cons_append] at whole
  exact whole

/-! ## Plain parts evaluate to themselves -/

variable {encoded : List Nat → List Nat}

private theorem map_nothing (value : Option (List Nat)) : value.map ([] ++ ·) = value := by
  cases value <;> rfl

theorem escape?_self {char : Char} (escaped : char ∈ ['\\', '"', '`']) (rest : List Char) :
    escape? (char :: rest) = some (charUnits char, 1) := by
  simp only [List.mem_cons, List.not_mem_nil, or_false] at escaped
  rcases escaped with rfl | rfl | rfl <;> rfl

theorem evaluateFrom_quotedChar {char : Char} (newline : char ≠ '\n') (ret : char ≠ '\r')
    (read : List Nat) (rest : List Char) :
    evaluateFrom encoded (.name read) 0 (quotedChar char ++ rest) =
      evaluateFrom encoded (.name (read ++ charUnits char)) 0 rest := by
  have escaped (isEscaped : char ∈ ['\\', '"', '`']) :
      evaluateFrom encoded (.name read) 0 ('\\' :: char :: rest) =
        evaluateFrom encoded (.name (read ++ charUnits char)) 0 rest := by
    have step : step? encoded '\\' (char :: rest) (.name read) =
        some ([], .name (read ++ charUnits char), 1) := by
      simp [step?, escape?_self isEscaped]
    rw [evaluateFrom_step step, map_nothing]
    rfl
  unfold quotedChar
  split
  · next backslash =>
      subst backslash
      exact escaped (by simp)
  · next backslash =>
      split
      · next quote =>
          subst quote
          exact escaped (by simp)
      · next quote =>
          have step : step? encoded char rest (.name read) =
              some ([], .name (read ++ charUnits char), 0) := by
            simp [step?, quote, backslash, newline, ret]
          rw [List.singleton_append, evaluateFrom_step step, map_nothing]
          rfl

theorem evaluateFrom_name {name : List Char} (unbroken : '\n' ∉ name ∧ '\r' ∉ name)
    (read : List Nat) (rest : List Char) :
    evaluateFrom encoded (.name read) 0 (name.flatMap quotedChar ++ '"' :: (nameClosing ++ rest)) =
      (evaluateFrom encoded .text 0 rest).map (encoded (read ++ textUnits name) ++ ·) := by
  induction name generalizing read with
  | nil =>
      have step : step? encoded '"' (nameClosing ++ rest) (.name read) =
          some (encoded read, .text, nameClosing.length) := by
        simp [step?, Text.afterStart?_append]
      rw [List.flatMap_nil, List.nil_append, evaluateFrom_step step, List.drop_left]
      simp [textUnits]
  | cons char name ih =>
      simp only [List.mem_cons, not_or] at unbroken
      obtain ⟨⟨newline, laterNewline⟩, ret, laterReturn⟩ := unbroken
      rw [List.flatMap_cons, List.append_assoc,
        evaluateFrom_quotedChar (Ne.symm newline) (Ne.symm ret), ih ⟨laterNewline, laterReturn⟩,
        textUnits_cons, List.append_assoc]

theorem evaluateFrom_part {part : UrlPart} (plain : part.IsPlain) {rest : List Char}
    (apart : part = .literal '$' → rest.head? ≠ some '\x7b') :
    evaluateFrom encoded .text 0 (part.written ++ rest) =
      (evaluateFrom encoded .text 0 rest).map (part.value encoded ++ ·) := by
  cases part with
  | literal char =>
      obtain ⟨backslash, ret⟩ := plain
      rw [UrlPart.written, UrlPart.value, templateChar]
      split
      · next backquote =>
          have step : step? encoded '\\' (char :: rest) .text =
              some (charUnits char, .text, 1) := by
            simp [step?, escape?_self, backquote]
          subst backquote
          exact evaluateFrom_step step
      · next backquote =>
          have step : step? encoded char rest .text = some (charUnits char, .text, 0) := by
            have unopened : ¬ (char = '$' ∧ rest.head? = some '\x7b') := by
              rintro ⟨rfl, opens⟩
              exact apart rfl opens
            rw [step?, if_neg backquote, if_neg backslash, if_neg unopened, if_neg ret]
          exact evaluateFrom_step step
  | parameter name =>
      have step (rest : List Char) : step? encoded '$' (nameOpening ++ rest) .text =
          some ([], .name [], nameOpening.length) := by
        have opens : (nameOpening ++ rest).head? = some '\x7b' := rfl
        simp [step?, opens, Text.afterStart?_append]
      rw [UrlPart.written, UrlPart.value, variableExpression_eq, List.cons_append,
        List.append_assoc, evaluateFrom_step (step _), map_nothing, List.drop_left,
        List.append_assoc, List.cons_append]
      exact evaluateFrom_name plain [] rest

/-- What is written for parts starts with a brace only if the first of them is that brace. -/
theorem head?_written {parts : List UrlPart}
    (opens : (parts.flatMap UrlPart.written).head? = some '\x7b') :
    ∃ rest, parts = .literal '\x7b' :: rest := by
  cases parts with
  | nil => cases opens
  | cons part rest =>
      cases part with
      | literal char =>
          rw [List.flatMap_cons, UrlPart.written, templateChar] at opens
          split at opens
          · cases opens
          · cases opens
            exact ⟨rest, rfl⟩
      | parameter name =>
          rw [List.flatMap_cons, UrlPart.written, variableExpression_eq] at opens
          cases opens

theorem IsVerbatim.tail {part : UrlPart} {rest : List UrlPart}
    (verbatim : IsVerbatim (part :: rest)) : IsVerbatim rest where
  plain := fun other member => verbatim.plain other (.tail _ member)
  unopened := fun inside => verbatim.unopened (inside.trans (List.suffix_cons part rest).isInfix)

theorem evaluateFrom_verbatim {parts : List UrlPart} (verbatim : IsVerbatim parts) :
    evaluateFrom encoded .text 0 (parts.flatMap UrlPart.written) =
      some (parts.flatMap (UrlPart.value encoded)) := by
  induction parts with
  | nil => rfl
  | cons part rest ih =>
      have apart : part = .literal '$' →
          (rest.flatMap UrlPart.written).head? ≠ some '\x7b' := by
        rintro rfl opens
        obtain ⟨later, rfl⟩ := head?_written opens
        exact verbatim.unopened (List.prefix_append _ later).isInfix
      rw [List.flatMap_cons, evaluateFrom_part (verbatim.plain part (.head _)) apart,
        ih verbatim.tail]
      rfl

/-! ## Nothing else does -/

/-- The number of characters of a part that evaluate to something else as they are written. -/
def UrlPart.misread : UrlPart → Nat
  | .literal char => if char = '\\' ∨ char = '\r' then 1 else 0
  | .parameter name => name.countP fun char => char = '\n' ∨ char = '\r'

theorem UrlPart.isPlain_of_misread {part : UrlPart} (none : part.misread = 0) : part.IsPlain := by
  cases part with
  | literal char => simpa [misread, IsPlain] using none
  | parameter name =>
      simp only [misread, List.countP_eq_zero, decide_eq_true_eq, not_or] at none
      exact ⟨fun member => (none _ member).1 rfl, fun member => (none _ member).2 rfl⟩

theorem textSize_quotedChar (char : Char) :
    (charUnits char).length + (if char ∈ nameSpecial then 1 else 0) =
      textSize (quotedChar char) + if char = '\n' ∨ char = '\r' then 1 else 0 := by
  by_cases backslash : char = '\\'
  · subst backslash
    decide
  · by_cases quote : char = '"'
    · subst quote
      decide
    · simp [nameSpecial, quotedChar, backslash, quote]

theorem writtenSize_quoted (name : List Char) : writtenSize nameSpecial (textUnits name) =
    textSize (name.flatMap quotedChar) + name.countP fun char => char = '\n' ∨ char = '\r' := by
  induction name with
  | nil => rfl
  | cons char rest ih =>
      have first := textSize_quotedChar char
      rw [textUnits_cons, writtenSize_append, writtenSize_charUnits nameSpecial_basic, ih,
        List.flatMap_cons, textSize_append, List.countP_cons]
      simp only [decide_eq_true_eq]
      omega

theorem textSize_templateChar (char : Char) :
    (charUnits char).length + (if char ∈ textSpecial then 1 else 0) =
      textSize (templateChar char) + if char = '\\' ∨ char = '\r' then 1 else 0 := by
  by_cases backquote : char = '`'
  · subst backquote
    decide
  · simp [textSpecial, templateChar, backquote]

/-- With values of parameters that are as long as their code, the text of a part takes more code
than is written for it by one unit for each character that is misread. -/
theorem UrlPart.writtenSize_value (part : UrlPart) :
    writtenSize textSpecial (part.value codeLong) = textSize part.written + part.misread := by
  cases part with
  | literal char =>
      rw [value, written, misread, writtenSize_charUnits textSpecial_basic]
      exact textSize_templateChar char
  | parameter name =>
      have opening : textSize nameOpening = nameOpening.length := rfl
      have closing : textSize nameClosing = nameClosing.length := rfl
      have dollar : (charUnits '$').length = 1 := by decide
      have quote : (charUnits '"').length = 1 := by decide
      rw [value, written, misread, writtenSize_codeLong, writtenSize_quoted, variableExpression_eq,
        textSize_cons, textSize_append, textSize_append, textSize_cons, opening, closing, dollar,
        quote]
      omega

theorem writtenSize_values (parts : List UrlPart) :
    writtenSize textSpecial (parts.flatMap (UrlPart.value codeLong)) =
      textSize (parts.flatMap UrlPart.written) + (parts.map UrlPart.misread).sum := by
  induction parts with
  | nil => rfl
  | cons part rest ih =>
      rw [List.flatMap_cons, List.flatMap_cons, List.map_cons, List.sum_cons, writtenSize_append,
        textSize_append, UrlPart.writtenSize_value, ih]
      omega

theorem plain_of_evaluateFrom {parts : List UrlPart}
    (evaluated : evaluateFrom codeLong .text 0 (parts.flatMap UrlPart.written) =
      some (parts.flatMap (UrlPart.value codeLong))) : ∀ part ∈ parts, part.IsPlain := by
  have bound := writtenSize_evaluateFrom evaluated
  rw [writtenSize_values, List.drop_zero] at bound
  have none : (parts.map UrlPart.misread).sum = 0 := by
    simp only [LiteralPlace.passed] at bound
    omega
  intro part member
  apply UrlPart.isPlain_of_misread
  exact List.sum_eq_zero_iff_forall_eq_nat.mp none _ (List.mem_map_of_mem member)

/-- After a dollar sign a brace opens a substitution, whose value does not start with the dollar
sign. -/
theorem not_evaluateFrom_opened (chars : List Char) (after : List Nat) :
    evaluateFrom codeLong .text 0 ('$' :: '\x7b' :: chars) ≠ some (charUnits '$' ++ after) := by
  intro evaluated
  rw [evaluateFrom] at evaluated
  split at evaluated
  · cases evaluated
  · next units next length step =>
      obtain ⟨later, further, same⟩ := Option.map_eq_some_iff.mp evaluated
      rw [step?, if_neg (by decide), if_neg (by decide), if_pos ⟨rfl, rfl⟩] at step
      split at step
      · cases step
        obtain ⟨name, rest, rfl⟩ := exists_encoded_of_name further
        have heads := congrArg List.head? same
        have dollar : charUnits '$' = [36] := rfl
        simp [codeLong, dollar, List.head?_replicate] at heads
      · cases step

theorem unopened_of_evaluateFrom {parts : List UrlPart} (plain : ∀ part ∈ parts, part.IsPlain)
    (evaluated : evaluateFrom codeLong .text 0 (parts.flatMap UrlPart.written) =
      some (parts.flatMap (UrlPart.value codeLong))) :
    ¬ [.literal '$', .literal '\x7b'] <:+: parts := by
  induction parts with
  | nil => simp
  | cons part rest ih =>
      intro inside
      rw [List.infix_cons_iff] at inside
      cases inside with
      | inl starts =>
          obtain ⟨later, same⟩ := starts
          rw [← same] at evaluated
          exact not_evaluateFrom_opened _ _ evaluated
      | inr inRest =>
          have apart : part = .literal '$' →
              (rest.flatMap UrlPart.written).head? ≠ some '\x7b' := by
            rintro rfl opens
            obtain ⟨later, rfl⟩ := head?_written opens
            exact not_evaluateFrom_opened _ _ evaluated
          rw [List.flatMap_cons, List.flatMap_cons,
            evaluateFrom_part (plain part (.head _)) apart] at evaluated
          obtain ⟨value, further, same⟩ := Option.map_eq_some_iff.mp evaluated
          rw [List.append_cancel_left same] at further
          exact ih (fun other member => plain other (.tail _ member)) further inRest

/-- A URL is cut into its variables and the characters between them. Its template is well-formed and
evaluates to the URL with the encoded values of parameters in the places of its variables, whatever
they are, exactly if the URL is verbatim. -/
theorem template_denotes_url_iff (url : String) :
    IsReading url.toList (urlParts url) ∧
    ((∀ encoded, evaluate? encoded (urlTemplate url) = some (urlValue encoded url)) ↔
      IsVerbatim (urlParts url)) := by
  refine ⟨isReading_urlPartsFrom none (by simp) url.toList, ?_⟩
  simp only [evaluate?, urlTemplate, String.toList_ofList, templateChars_eq_written, urlValue]
  constructor
  · intro evaluated
    have plain := plain_of_evaluateFrom (evaluated codeLong)
    exact ⟨plain, unopened_of_evaluateFrom plain (evaluated codeLong)⟩
  · intro verbatim encoded
    exact evaluateFrom_verbatim verbatim

example : IsVerbatim (urlParts "/pets/\x7bpet \"Id\"\x7d/`$1`/$\x7bphoto\x7d") := by decide

/-- A backslash starts an escape sequence, a return is read as a line feed, a dollar sign and a
brace open a substitution that does not end, and a line break ends the name of a variable. -/
theorem urls_read_as_code :
    evaluate? id (urlTemplate "/reports\\new") ≠ some (urlValue id "/reports\\new") ∧
    evaluate? id (urlTemplate "/reports\\new") = some (textUnits "/reports\new".toList) ∧
    evaluate? id (urlTemplate "/pets\rsold") = some (textUnits "/pets\nsold".toList) ∧
    evaluate? id (urlTemplate "/accounts/$\x7bid") = none ∧
    evaluate? id (urlTemplate "/pets/\x7bpet\nId\x7d") = none := by
  decide +kernel

end ClientGen.TypeScript
