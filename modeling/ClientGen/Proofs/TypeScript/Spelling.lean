import ClientGen.Proofs.NamedType.Rendered
import ClientGen.Proofs.TypeScript.Identifiers
import ClientGen.Proofs.TypeScript.Translation

/-!
The texts of resolved types that are translated as they are meant: unions of names with arguments,
where a union inside of brackets has nothing but names for members. Their translation mentions no
more than the names in them and what it brings in itself.
-/

set_option autoImplicit false

namespace ClientGen.TypeScript

open NamedType (Readable IsExact AllExact isMark shownName plain render)

def primitiveWords : List String :=
  ["integer", "number", "string", "date", "date-time", "boolean", "file", "any", "object", "null"]

/-- The names that translating brings in. -/
def builtInNames : List String :=
  ["string", "number", "boolean", "null", "unknown", "void", "Record", "Blob"]

/-- A name that is a word as a whole. -/
def IsWord (name : String) : Prop := name ≠ "" ∧ ∀ char ∈ name.toList, isWordChar char = true

/-- A name that stands for itself: the word of a primitive type, or a known name. -/
def IsLeaf (known : String → Prop) (name : String) : Prop :=
  name ∈ primitiveWords ∨ IsWord name ∧ known name

/-- Whether a type is made of known names; `inside` tells whether it stands in brackets. -/
inductive Spelled (known : String → Prop) : Bool → NamedType → Prop where
  | leaf {inside : Bool} {name : String} : IsLeaf known name → Spelled known inside (plain name)
  | union {words : List String} : words ≠ [] → (∀ word ∈ words, IsLeaf known word) →
      Spelled known true (plain (String.intercalate " | " words))
  | array {inside : Bool} {item : NamedType} : Spelled known true item →
      Spelled known inside ⟨"Array", [item]⟩
  | map {inside : Bool} {key value : NamedType} : Spelled known true key →
      Spelled known true value → Spelled known inside ⟨"Map", [key, value]⟩
  | applied {inside : Bool} {name : String} {first : NamedType} {rest : List NamedType} :
      IsWord name → known name → shownName name = name →
      (∀ argument ∈ first :: rest, Spelled known true argument) →
      Spelled known inside ⟨name, first :: rest⟩

/-- The text of a union of such types. -/
def IsText (known : String → Prop) (text : String) : Prop :=
  ∃ members : List NamedType, (∀ member ∈ members, Spelled known false member) ∧
    text = String.intercalate " | " (members.map render)

/-- The text of one such type. -/
def IsSingle (known : String → Prop) (text : String) : Prop :=
  ∃ type : NamedType, Spelled known false type ∧ text = type.render

/-- The text of such a type, which may stand in brackets. -/
def IsArgument (known : String → Prop) (text : String) : Prop :=
  ∃ type : NamedType, Spelled known true type ∧ text = type.render

variable {known more : String → Prop}

/-! ## Names -/

/-- A character that neither separates nor surrounds names. -/
def IsPlain (char : Char) : Prop := Text.isBlank char = false ∧ isMark char = false ∧ char ≠ '|'

theorem isPlain_of_isWordChar {char : Char} (word : isWordChar char = true) : IsPlain char := by
  have solid : char = '_' ∨ char = '$' ∨ Text.isSeparator char = false := by
    simpa [isWordChar, or_assoc] using word
  rcases solid with rfl | rfl | plain
  · exact ⟨by decide, by decide, by decide⟩
  · exact ⟨by decide, by decide, by decide⟩
  · refine ⟨Text.isBlank_of_not_separator plain, Text.isMark_of_not_separator plain, ?_⟩
    rintro rfl
    revert plain
    decide

theorem IsLeaf.plain {name : String} (leaf : IsLeaf known name) :
    name ≠ "" ∧ ∀ char ∈ name.toList, IsPlain char := by
  cases leaf with
  | inl primitive =>
      have all : ∀ word ∈ primitiveWords, word ≠ "" ∧ (word.toList.all fun char =>
          !Text.isBlank char && !isMark char && char != '|') = true := by decide
      obtain ⟨nonempty, plain⟩ := all name primitive
      refine ⟨nonempty, fun char member => ?_⟩
      simpa [IsPlain, and_assoc] using List.all_eq_true.mp plain char member
  | inr word => exact ⟨word.1.1, fun char member => isPlain_of_isWordChar (word.1.2 char member)⟩

theorem readable_of_plain {name : String} (nonempty : name ≠ "")
    (plain : ∀ char ∈ name.toList, IsPlain char) : Readable name where
  nonempty := nonempty
  unmarked := fun char member => (plain char member).2.1
  trimmed := Text.trimChars_of_solid fun char member => (plain char member).1

theorem IsLeaf.readable {name : String} (leaf : IsLeaf known name) : Readable name :=
  readable_of_plain leaf.plain.1 leaf.plain.2

theorem IsWord.readable {name : String} (word : IsWord name) : Readable name :=
  readable_of_plain word.1 fun char member => isPlain_of_isWordChar (word.2 char member)

theorem IsWord.append {name suffix : String} (word : IsWord name)
    (plain : ∀ char ∈ suffix.toList, isWordChar char = true) : IsWord (name ++ suffix) := by
  constructor
  · intro empty
    exact word.1 (String.append_eq_empty_iff.mp empty).1
  · intro char member
    rw [String.toList_append] at member
    cases List.mem_append.mp member with
    | inl inName => exact word.2 char inName
    | inr inSuffix => exact plain char inSuffix

theorem isWordChar_of_not_separator {char : Char} (plain : Text.isSeparator char = false) :
    isWordChar char = true := by
  simp [isWordChar, plain]

theorem IsWord.synthesized {owner : String} (word : IsWord owner) (property : String) :
    IsWord (Names.synthesized owner property) :=
  word.append fun _ member => isWordChar_of_not_separator (Text.pascalCase_plain property member)

theorem readable_union {words : List String} (nonempty : words ≠ [])
    (readable : ∀ word ∈ words, Readable word) : Readable (String.intercalate " | " words) := by
  obtain ⟨first, rest, rfl⟩ := List.exists_cons_of_ne_nil nonempty
  obtain ⟨trimmed, solid⟩ := trimmed_intercalate fun word member =>
    ⟨(readable word member).trimmed, by simpa using (readable word member).nonempty⟩
  refine ⟨fun empty => solid (by rw [empty]; rfl), fun char member => ?_, trimmed⟩
  rw [String.toList_intercalate] at member
  rcases Text.mem_intercalate member with between | ⟨chars, listed, inWord⟩
  · have marks : ∀ char ∈ " | ".toList, isMark char = false := Text.forall_of_all (by decide)
    exact marks char between
  · obtain ⟨word, isWord, rfl⟩ := List.mem_map.mp listed
    exact (readable word isWord).unmarked char inWord

/-! ## Reading back -/

theorem Spelled.mono {inside : Bool} {type : NamedType} (spelled : Spelled known inside type)
    (weaken : ∀ name, known name → more name) : Spelled more inside type := by
  have leaves {name : String} (leaf : IsLeaf known name) : IsLeaf more name :=
    leaf.imp_right fun word => ⟨word.1, weaken name word.2⟩
  induction spelled with
  | leaf isLeaf => exact .leaf (leaves isLeaf)
  | union nonempty all => exact .union nonempty fun word member => leaves (all word member)
  | array _ ih => exact .array ih
  | map _ _ key value => exact .map key value
  | applied word isKnown shown _ ih => exact .applied word (weaken _ isKnown) shown ih

theorem Spelled.inside {type : NamedType} {inside : Bool} (spelled : Spelled known inside type) :
    Spelled known true type := by
  cases spelled with
  | leaf isLeaf => exact .leaf isLeaf
  | union nonempty all => exact .union nonempty all
  | array item => exact .array item
  | map key value => exact .map key value
  | applied word isKnown shown arguments => exact .applied word isKnown shown arguments

theorem Spelled.isExact {inside : Bool} {type : NamedType} (spelled : Spelled known inside type) :
    type.IsExact := by
  induction spelled with
  | leaf isLeaf => exact isLeaf.readable
  | union nonempty all =>
      exact readable_union nonempty fun word member => (all word member).readable
  | array _ item =>
      have array : IsWord "Array" := ⟨by decide, Text.forall_of_all (by decide)⟩
      exact ⟨array.readable, rfl, item, trivial⟩
  | map _ _ key value =>
      have map : IsWord "Map" := ⟨by decide, Text.forall_of_all (by decide)⟩
      exact ⟨map.readable, rfl, key, value, trivial⟩
  | applied word _ shown _ ih =>
      rw [NamedType.IsExact, NamedType.allExact_iff]
      exact ⟨word.readable, shown, ih _ (.head _), fun type member => ih type (.tail _ member)⟩

/-! ## Texts -/

theorem IsSingle.mono {text : String} (single : IsSingle known text)
    (weaken : ∀ name, known name → more name) : IsSingle more text := by
  obtain ⟨type, spelled, rfl⟩ := single
  exact ⟨type, spelled.mono weaken, rfl⟩

theorem IsText.mono {text : String} (isText : IsText known text)
    (weaken : ∀ name, known name → more name) : IsText more text := by
  obtain ⟨members, spelled, rfl⟩ := isText
  exact ⟨members, fun member listed => (spelled member listed).mono weaken, rfl⟩

theorem IsArgument.mono {text : String} (argument : IsArgument known text)
    (weaken : ∀ name, known name → more name) : IsArgument more text := by
  obtain ⟨type, spelled, rfl⟩ := argument
  exact ⟨type, spelled.mono weaken, rfl⟩

theorem IsLeaf.mono {name : String} (leaf : IsLeaf known name)
    (weaken : ∀ name, known name → more name) : IsLeaf more name :=
  leaf.imp_right fun word => ⟨word.1, weaken name word.2⟩

theorem IsLeaf.isSingle {name : String} (leaf : IsLeaf known name) : IsSingle known name :=
  ⟨_, .leaf leaf, rfl⟩

theorem IsSingle.isArgument {text : String} (single : IsSingle known text) :
    IsArgument known text := by
  obtain ⟨type, spelled, rfl⟩ := single
  exact ⟨type, spelled.inside, rfl⟩

theorem isArgument_union {words : List String} (nonempty : words ≠ [])
    (leaves : ∀ word ∈ words, IsLeaf known word) :
    IsArgument known (String.intercalate " | " words) :=
  ⟨_, .union nonempty leaves, rfl⟩

theorem isText_union {texts : List String} (singles : ∀ text ∈ texts, IsSingle known text) :
    IsText known (String.intercalate " | " texts) := by
  suffices found : ∃ members : List NamedType,
      (∀ member ∈ members, Spelled known false member) ∧ texts = members.map render by
    obtain ⟨members, spelled, same⟩ := found
    exact ⟨members, spelled, by rw [same]⟩
  induction texts with
  | nil => exact ⟨[], fun _ none => absurd none List.not_mem_nil, rfl⟩
  | cons text rest ih =>
      obtain ⟨type, now, rfl⟩ := singles text (.head _)
      obtain ⟨members, later, rfl⟩ := ih fun other member => singles other (.tail _ member)
      refine ⟨type :: members, fun member listed => ?_, rfl⟩
      cases listed with
      | head => exact now
      | tail _ inRest => exact later member inRest

theorem IsSingle.isText {text : String} (single : IsSingle known text) : IsText known text := by
  obtain ⟨type, spelled, rfl⟩ := single
  refine ⟨[type], fun member listed => ?_, (String.intercalate_singleton).symm⟩
  rw [List.mem_singleton.mp listed]
  exact spelled

theorem IsArgument.array {text : String} (argument : IsArgument known text) :
    IsSingle known ("Array<" ++ text ++ ">") := by
  obtain ⟨type, spelled, rfl⟩ := argument
  refine ⟨_, .array spelled, ?_⟩
  have shown : shownName "Array" ++ "<" = "Array<" := rfl
  rw [render, NamedType.renderRest, String.append_empty, shown]

theorem IsArgument.map {text : String} (argument : IsArgument known text) :
    IsSingle known ("Map<string, " ++ text ++ ">") := by
  obtain ⟨type, spelled, rfl⟩ := argument
  refine ⟨_, .map (.leaf (.inl (by decide : "string" ∈ primitiveWords))) spelled, ?_⟩
  have start : shownName "Map" ++ "<" ++ (plain "string").render ++ ", " = "Map<string, " := rfl
  rw [render, NamedType.renderRest, NamedType.renderRest, String.append_empty, ← start]
  simp only [String.append_assoc]

/-! ## Members of a union -/

theorem trimmed_render {type : NamedType} (exact : type.IsExact) :
    Text.trimChars type.render.toList = type.render.toList ∧ type.render.toList ≠ [] := by
  obtain ⟨name, arguments⟩ := type
  cases arguments with
  | nil =>
      rw [IsExact] at exact
      rw [render]
      exact ⟨exact.trimmed, by simpa using exact.nonempty⟩
  | cons first rest =>
      rw [IsExact] at exact
      obtain ⟨readable, shown, -, -⟩ := exact
      have solid : name.toList ≠ [] := by simpa using readable.nonempty
      have chars : (render ⟨name, first :: rest⟩).toList = name.toList ++
          ('<' :: (first.render.toList ++ (NamedType.renderRest rest).toList)) ++ ['>'] := by
        rw [render, shown]
        simp
      rw [chars]
      exact ⟨Text.trimChars_between readable.trimmed (by decide) solid (by simp) _, by simp⟩

theorem isWhole_of_isExact {type : NamedType} (exact : type.IsExact)
    (barless : '|' ∉ type.name.toList) : IsWhole type.render := by
  obtain ⟨trimmed, nonempty⟩ := trimmed_render exact
  have derived : NamedType.Derives true type.render.toList type :=
    NamedType.parse?_eq_some_iff.mp (NamedType.parse?_render exact)
  exact isWhole_of_derives derived barless trimmed nonempty

theorem Spelled.isWhole {type : NamedType} (spelled : Spelled known false type) :
    IsWhole type.render := by
  apply isWhole_of_isExact spelled.isExact
  cases spelled with
  | leaf isLeaf => exact fun bar => (isLeaf.plain.2 '|' bar).2.2 rfl
  | array _ =>
      have noBar : '|' ∉ "Array".toList := by decide
      exact noBar
  | map _ _ =>
      have noBar : '|' ∉ "Map".toList := by decide
      exact noBar
  | applied word _ _ _ => exact fun bar => (isPlain_of_isWordChar (word.2 '|' bar)).2.2 rfl

/-! ## Translation -/

/-- What the translation of a type may mention. -/
def Allowed (known : String → Prop) (name : String) : Prop := name ∈ builtInNames ∨ known name

theorem plainName_of_other (union : String → Option String) {name : String}
    (other : name ∉ primitiveWords) :
    plainName union name = if Text.contains name "|" then union name else some name := by
  unfold plainName
  split
  case h_11 => rfl
  all_goals exact absurd (by decide) other

theorem uses_builtIn {name : String} (builtIn : name ∈ builtInNames) :
    Uses (Allowed known) name := by
  have words : ∀ name ∈ builtInNames, (name.toList.all isWordChar) = true := by decide
  exact uses_word (List.all_eq_true.mp (words name builtIn)) (.inl builtIn)

theorem uses_bracketed {name arguments : String} (named : Uses (Allowed known) name)
    (inside : Uses (Allowed known) arguments) :
    Uses (Allowed known) (name ++ "<" ++ arguments ++ ">") := by
  have opening : Uses (Allowed known) "<" := uses_marks (Text.forall_of_all (by decide))
  have closing : Uses (Allowed known) ">" := uses_marks (Text.forall_of_all (by decide))
  have ends : EndsApart (name ++ "<") := EndsApart.append ⟨[], '<', rfl, by decide⟩ name
  have opened := named.append_of_start opening ⟨'<', [], rfl, by decide⟩
  exact (opened.append_of_end inside ends).append_of_start closing ⟨'>', [], rfl, by decide⟩

theorem uses_listed {texts : List String} (all : ∀ text ∈ texts, Uses (Allowed known) text) :
    Uses (Allowed known) (String.intercalate ", " texts) :=
  uses_intercalate (uses_marks (Text.forall_of_all (by decide))) ⟨',', [' '], rfl, by decide⟩
    ⟨[','], ' ', rfl, by decide⟩ all

theorem uses_array {item : String} (inside : Uses (Allowed known) item) :
    Uses (Allowed known) (applied "Array" [item]) := by
  have opening : Uses (Allowed known) "(" := uses_marks (Text.forall_of_all (by decide))
  have closing : Uses (Allowed known) ")[]" := uses_marks (Text.forall_of_all (by decide))
  have array : Uses (Allowed known) "[]" := uses_marks (Text.forall_of_all (by decide))
  rw [applied]
  split
  · have opened := opening.append_of_end inside ⟨[], '(', rfl, by decide⟩
    exact opened.append_of_start closing ⟨')', ['[', ']'], rfl, by decide⟩
  · exact inside.append_of_start array ⟨'[', [']'], rfl, by decide⟩

theorem uses_map {key value : String} (isKey : Uses (Allowed known) key)
    (isValue : Uses (Allowed known) value) : Uses (Allowed known) (applied "Map" [key, value]) := by
  have text : applied "Map" [key, value] =
      "Record" ++ "<" ++ String.intercalate ", " [key, value] ++ ">" := by
    have record : "Record<" = "Record" ++ "<" := rfl
    rw [applied, record, String.intercalate_cons_cons, String.intercalate_singleton]
    simp only [String.append_assoc]
  rw [text]
  refine uses_bracketed (uses_builtIn (by decide)) (uses_listed fun argument member => ?_)
  cases member with
  | head => exact isKey
  | tail _ later => exact List.mem_singleton.mp later ▸ isValue

/-- A name with arguments mentions itself and what is in these, if it has no notation of its own. -/
theorem uses_applied {name : String} {arguments : List String} (named : Uses (Allowed known) name)
    (all : ∀ argument ∈ arguments, Uses (Allowed known) argument) :
    Uses (Allowed known) (applied name arguments) := by
  unfold applied
  split
  · exact uses_array (all _ (.head _))
  · exact uses_map (all _ (.head _)) (all _ (.tail _ (.head _)))
  · exact uses_bracketed named (uses_listed all)

/-- A name that stands for itself is translated without a look at unions. -/
theorem exists_plainName (union : String → Option String) {name : String}
    (leaf : IsLeaf known name) :
    ∃ text, plainName union name = some text ∧ Uses (Allowed known) text := by
  by_cases primitive : name ∈ primitiveWords
  · have builtIn {text : String} (member : text ∈ builtInNames) :
        ∃ found, some text = some found ∧ Uses (Allowed known) found :=
      ⟨text, rfl, uses_builtIn member⟩
    have record : Uses (Allowed known) "Record<string, unknown>" := by
      have text : "Record<string, unknown>" = applied "Map" ["string", "unknown"] := by
        decide +kernel
      rw [text]
      exact uses_map (uses_builtIn (by decide)) (uses_builtIn (by decide))
    unfold plainName
    split
    case h_9 => exact ⟨_, rfl, record⟩
    case h_11 => simp_all [primitiveWords]
    all_goals exact builtIn (by decide)
  · obtain ⟨word, isKnown⟩ := leaf.resolve_left primitive
    have noBar : Text.contains name "|" = false := by
      rw [← Bool.not_eq_true, contains_bar_iff]
      exact fun bar => (isPlain_of_isWordChar (word.2 '|' bar)).2.2 rfl
    rw [plainName_of_other union primitive, noBar]
    exact ⟨name, rfl, uses_word word.2 (.inr isKnown)⟩

theorem exists_ofNamedList {plain : String → Option String} {types : List NamedType}
    (each : ∀ type ∈ types, ∃ text, ofNamed plain type = some text ∧ Uses (Allowed known) text) :
    ∃ texts, ofNamedList plain types = some texts ∧ ∀ text ∈ texts, Uses (Allowed known) text := by
  induction types with
  | nil => exact ⟨[], rfl, fun _ none => absurd none List.not_mem_nil⟩
  | cons type rest ih =>
      obtain ⟨text, found, uses⟩ := each type (.head _)
      obtain ⟨texts, others, all⟩ := ih fun other member => each other (.tail _ member)
      refine ⟨text :: texts, by rw [ofNamedList, found, others]; rfl, fun other member => ?_⟩
      cases member with
      | head => exact uses
      | tail _ later => exact all other later

/-- A union is translated member by member. -/
theorem exists_written {fuel : Nat} {members : List NamedType}
    (whole : ∀ member ∈ members, IsWhole member.render) (exact : ∀ member ∈ members, member.IsExact)
    (each : ∀ member ∈ members,
      ∃ text, ofNamed (plainName (written fuel)) member = some text ∧ Uses (Allowed known) text) :
    ∃ text, written (fuel + 1) (String.intercalate " | " (members.map render)) = some text ∧
      Uses (Allowed known) text := by
  by_cases empty : members = []
  · subst empty
    exact ⟨"void", rfl, uses_builtIn (by decide)⟩
  · have wholes : ∀ text ∈ members.map render, IsWhole text := by
      intro text isText
      obtain ⟨member, listed, rfl⟩ := List.mem_map.mp isText
      exact whole member listed
    have read : (members.map render).map NamedType.parse = members := by
      rw [List.map_map]
      refine (List.map_congr_left fun member listed => ?_).trans (List.map_id _)
      exact NamedType.parse_render (exact member listed)
    obtain ⟨texts, found, all⟩ := exists_ofNamedList each
    refine ⟨String.intercalate " | " texts, ?_, ?_⟩
    · rw [written_intercalate (by simpa using empty) wholes, read, found]
      rfl
    · exact uses_intercalate (uses_marks (Text.forall_of_all (by decide)))
        ⟨' ', ['|', ' '], rfl, by decide⟩ ⟨[' ', '|'], ' ', rfl, by decide⟩ all

/-- A union of names is translated in one step. -/
theorem exists_written_union {words : List String} (leaves : ∀ word ∈ words, IsLeaf known word)
    (fuel : Nat) :
    ∃ text, written (fuel + 1) (String.intercalate " | " words) = some text ∧
      Uses (Allowed known) text := by
  have texts : (words.map plain).map render = words := by
    rw [List.map_map]
    exact List.map_id words
  have each : ∀ member ∈ words.map plain, ∃ word, IsLeaf known word ∧ member = plain word := by
    intro member listed
    obtain ⟨word, isWord, rfl⟩ := List.mem_map.mp listed
    exact ⟨word, leaves word isWord, rfl⟩
  rw [← texts]
  apply exists_written
  · intro member listed
    obtain ⟨word, leaf, rfl⟩ := each member listed
    exact Spelled.isWhole (.leaf leaf)
  · intro member listed
    obtain ⟨word, leaf, rfl⟩ := each member listed
    exact leaf.readable
  · intro member listed
    obtain ⟨word, leaf, rfl⟩ := each member listed
    exact exists_plainName _ leaf

theorem bar_mem_union (first second : String) (rest : List String) :
    '|' ∈ (String.intercalate " | " (first :: second :: rest)).toList := by
  rw [String.intercalate_cons_cons, String.toList_append, String.toList_append]
  exact List.mem_append_left _ (List.mem_append_right _ (by decide))

theorem exists_ofNamed {inside : Bool} {type : NamedType} (spelled : Spelled known inside type)
    (fuel : Nat) :
    ∃ text, ofNamed (plainName (written (fuel + 1))) type = some text ∧
      Uses (Allowed known) text := by
  induction spelled with
  | leaf isLeaf => exact exists_plainName _ isLeaf
  | @union words nonempty leaves =>
      match words with
      | [] => exact absurd rfl nonempty
      | [word] =>
          rw [String.intercalate_singleton]
          exact exists_plainName _ (leaves word (.head _))
      | first :: second :: rest =>
          have bar := bar_mem_union first second rest
          have other : String.intercalate " | " (first :: second :: rest) ∉ primitiveWords := by
            have none : ∀ word ∈ primitiveWords, '|' ∉ word.toList := by decide
            exact fun primitive => none _ primitive bar
          rw [plain, ofNamed, plainName_of_other _ other, (contains_bar_iff _).mpr bar, if_pos rfl]
          exact exists_written_union leaves fuel
  | array _ ih =>
      obtain ⟨item, found, uses⟩ := ih
      exact ⟨applied "Array" [item], by rw [ofNamed, found]; rfl, uses_array uses⟩
  | map _ _ isKey isValue =>
      obtain ⟨key, foundKey, usesKey⟩ := isKey
      obtain ⟨value, foundValue, usesValue⟩ := isValue
      refine ⟨applied "Map" [key, value], ?_, uses_map usesKey usesValue⟩
      rw [ofNamed, foundKey, ofNamedList, foundValue]
      rfl
  | @applied inside name first rest word isKnown _ _ ih =>
      obtain ⟨head, found, uses⟩ := ih first (.head _)
      obtain ⟨others, foundOthers, usesOthers⟩ :=
        exists_ofNamedList fun type member => ih type (.tail _ member)
      refine ⟨applied name (head :: others), by rw [ofNamed, found, foundOthers]; rfl, ?_⟩
      refine uses_applied (uses_word word.2 (.inr isKnown)) fun argument member => ?_
      cases member with
      | head => exact uses
      | tail _ later => exact usesOthers argument later

/-- The text of a type made of known names has a translation, and this mentions no other names but
those that are built in. -/
theorem IsText.exists_ofType? {text : String} (isText : IsText known text) :
    ∃ found, ofType? text = some found ∧ Uses (Allowed known) found := by
  obtain ⟨members, spelled, rfl⟩ := isText
  by_cases empty : members = []
  · subst empty
    exact exists_written (by simp) (by simp) (by simp)
  · have whole : ∀ text ∈ members.map render, IsWhole text := by
      intro text isText
      obtain ⟨member, listed, rfl⟩ := List.mem_map.mp isText
      exact (spelled member listed).isWhole
    obtain ⟨fuel, same⟩ := exists_ofType?_eq_written (by simpa using empty) whole
    rw [same]
    exact exists_written (fun member listed => (spelled member listed).isWhole)
      (fun member listed => (spelled member listed).isExact)
      fun member listed => exists_ofNamed (spelled member listed) fuel

end ClientGen.TypeScript
