import ClientGen.Proofs.Resolve.Carriers
import ClientGen.Proofs.TypeScript.Structure

/-!
Enumerations inside of arrays. The choices of an enumeration are handed up through the arrays around
it, while the type grows around its name. A field with choices is written with at most one pair of
brackets and without the other members of its unions, so it keeps the shape of its type only if this
is the enumeration alone, or one array of it and nothing else.
-/

set_option autoImplicit false

namespace ClientGen

/-- Arrays around a type: the words of the union they stand in, and whether null is added to it. -/
structure ArrayLevel where
  words : List String
  nullable : Bool

/-- The members of the union of a level, each once. -/
def ArrayLevel.members (level : ArrayLevel) (item : String) : List String :=
  let distinct := (level.words.map fun word =>
    if word = "array" then "Array<" ++ item ++ ">" else word).eraseDups
  if level.nullable && !distinct.contains "null" then distinct ++ ["null"] else distinct

/-- The type of levels of arrays, outermost first, around a name. -/
def leveledType (name : String) : List ArrayLevel → String
  | [] => name
  | level :: inner => String.intercalate " | " (level.members (leveledType name inner))

namespace Schema

/-- A schema of an enumeration with some choices, inside of levels of arrays. -/
inductive Enumerates (choices : List Json) : Schema → List ArrayLevel → Prop where
  | choices {schema : Schema} : schema.soleMember? = none → schema.reference = none →
      schema.enumValues = choices → choices ≠ [] → Enumerates choices schema []
  | array {schema items : Schema} {inner : List ArrayLevel} : schema.Worded →
      "array" ∈ schema.typeWords →
      ("object" ∈ schema.typeWords → schema.hasProperties = false ∧ schema.mapsValues = false) →
      schema.items = some items → Enumerates choices items inner →
      Enumerates choices schema (⟨schema.typeWords, schema.nullable = some true⟩ :: inner)

variable {schema : Schema} {choices : List Json} {levels : List ArrayLevel}

theorem Enumerates.nonempty (enumerates : schema.Enumerates choices levels) : choices ≠ [] := by
  induction enumerates with
  | choices _ _ _ nonempty => exact nonempty
  | array _ _ _ _ _ ih => exact ih

theorem Enumerates.arrays (enumerates : schema.Enumerates choices levels) :
    ∀ level ∈ levels, "array" ∈ level.words := by
  induction enumerates with
  | choices _ _ _ _ => simp
  | array _ isArray _ _ _ ih => exact List.forall_mem_cons.mpr ⟨isArray, ih⟩

end Schema

namespace Resolve

variable {mode : Mode} {mappings : Entries String} {name : String} {schema : Schema}
  {choices : List Json} {levels : List ArrayLevel}

theorem addWord_plain {word : String} (notArray : word ≠ "array")
    (noObject : word = "object" → schema.hasProperties = false ∧ schema.mapsValues = false)
    (found : List String × ResolvedType) :
    addWord mode mappings name schema found word = pure (found.1 ++ [word], found.2) := by
  rw [addWord, if_neg notArray]
  by_cases isObject : word = "object"
  · obtain ⟨noProperties, noValues⟩ := noObject isObject
    rw [if_pos isObject, noProperties, noValues, isObject]
    rfl
  · rw [if_neg isObject]

/-- The words of an array keep the type of its items, and the last array among them has their
choices. -/
theorem words_of_array {items : Schema} (isItems : schema.items = some items) {item : String}
    (inside : ∀ state, Ensures (type mode mappings name items) state fun inner _ =>
      inner.type = item ∧ inner.enumOption = choices)
    {words : List String}
    (noObject : "object" ∈ words → schema.hasProperties = false ∧ schema.mapsValues = false)
    (found : List String × ResolvedType) (state : State) :
    Ensures (words.foldlM (addWord mode mappings name schema) found) state fun result _ =>
      result.1 = found.1 ++ words.map (fun word =>
        if word = "array" then "Array<" ++ item ++ ">" else word) ∧
      (("array" ∈ words ∨ found.2.enumOption = choices) → result.2.enumOption = choices) := by
  induction words generalizing found state with
  | nil =>
      rw [List.foldlM_nil, ensures_pure]
      simp
  | cons word rest ih =>
      have later := ih fun member => noObject (.tail _ member)
      rw [List.foldlM_cons, ensures_bind]
      by_cases isArray : word = "array"
      · subst isArray
        rw [addWord_array isItems, ensures_bind]
        refine (inside state).mono ?_
        rintro inner last ⟨sameType, sameChoices⟩
        rw [ensures_pure]
        refine (later _ last).mono ?_
        rintro result final ⟨members, kept⟩
        refine ⟨?_, fun _ => kept (.inr sameChoices)⟩
        rw [members, sameType, List.map_cons, if_pos rfl, List.append_assoc, List.singleton_append]
      · rw [addWord_plain isArray fun same => noObject (same ▸ .head _), ensures_pure]
        refine (later _ state).mono ?_
        rintro result final ⟨members, kept⟩
        refine ⟨?_, fun known => kept (known.imp_left fun member => ?_)⟩
        · rw [members, List.map_cons, if_neg isArray, List.append_assoc, List.singleton_append]
        · cases member with
          | head => exact absurd rfl isArray
          | tail _ inRest => exact inRest

/-- The type of an enumeration inside of arrays has the name of the enumeration in it, and its
choices beside it. -/
theorem type_of_enumerates (enumerates : schema.Enumerates choices levels) (state : State) :
    Ensures (type mode mappings name schema) state fun resolved _ =>
      resolved.type = leveledType name levels ∧ resolved.enumOption = choices := by
  induction enumerates generalizing state with
  | choices several inline same nonempty =>
      subst same
      rw [type_of_enum mode mappings name several inline nonempty, ensures_pure]
      exact ⟨rfl, rfl⟩
  | @array schema items inner worded isArray noObject isItems _ ih =>
      rw [type_of_words mode mappings name worded.several worded.inline worded.free, ensures_bind]
      refine (words_of_array isItems ih noObject ([], {}) state).mono ?_
      rintro found last ⟨members, kept⟩
      rw [ensures_pure]
      refine ⟨?_, kept (.inl isArray)⟩
      rw [members, List.nil_append]
      rfl

end Resolve

namespace TypeScript

variable {literals name : String} {level : ArrayLevel} {levels : List ArrayLevel}

/-- The choices of an enumeration as a union. -/
def literalUnion (choices : List Json) : String :=
  String.intercalate " | " (choices.map Json.compact)

/-- The translation of levels of arrays around a name that is read as a union of literals: every
array is that of its items, and the other members of a union are as they are alone. -/
def leveledTranslation (literals name : String) : List ArrayLevel → String
  | [] => literals
  | level :: inner =>
      String.intercalate " | " ((level.members (leveledType name inner)).map fun member =>
        if member = "Array<" ++ leveledType name inner ++ ">" then
          arrayOf (leveledTranslation literals name inner)
        else ofType member)

/-! ## The translation of a name in levels of arrays -/

/-- A name in arrays that stand alone in their levels, as an argument. -/
def nestedArrays (own : BareName) : List ArrayLevel → TypeArgument
  | [] => .names own []
  | _ :: inner => .applied arrayName (nestedArrays own inner) []

/-- A level that is an array and nothing else. -/
def IsAlone (level : ArrayLevel) : Prop := level.words = ["array"] ∧ level.nullable = false

theorem members_of_isAlone (alone : IsAlone level) (item : String) :
    level.members item = ["Array<" ++ item ++ ">"] := by
  obtain ⟨words, nullable⟩ := level
  obtain ⟨rfl, rfl⟩ := alone
  rfl

theorem text_nestedArrays (own : BareName) (alone : ∀ level ∈ levels, IsAlone level) :
    (nestedArrays own levels).text = leveledType own.text levels := by
  induction levels with
  | nil => rfl
  | cons level inner ih =>
      obtain ⟨first, others⟩ := List.forall_mem_cons.mp alone
      rw [nestedArrays, TypeArgument.text, textsOf, leveledType, members_of_isAlone first, ih others,
        String.intercalate_singleton, String.intercalate_singleton]
      rfl

theorem translation_nestedArrays (own : BareName) (alone : ∀ level ∈ levels, IsAlone level) :
    (nestedArrays own levels).translation = leveledTranslation own.translation own.text levels := by
  induction levels with
  | nil => rfl
  | cons level inner ih =>
      obtain ⟨first, others⟩ := List.forall_mem_cons.mp alone
      rw [nestedArrays, TypeArgument.translation, translationsOf, leveledTranslation,
        members_of_isAlone first, ih others, List.map_singleton, if_pos rfl,
        String.intercalate_singleton]
      rfl

theorem ofType_bare (name : BareName) : ofType name.text = name.translation := by
  have single := ofType?_members (List.cons_ne_nil (TypeMember.bare name) [])
  rw [List.map_singleton, List.map_singleton, String.intercalate_singleton,
    String.intercalate_singleton, TypeMember.text, TypeMember.translation] at single
  rw [ofType, single, Option.getD_some]

/-- Texts of members are the texts of a list of members. -/
theorem exists_members {translate : String → String} {texts : List String}
    (each : ∀ text ∈ texts, ∃ member : TypeMember,
      member.text = text ∧ member.translation = translate text) :
    ∃ members : List TypeMember, members.map TypeMember.text = texts ∧
      members.map TypeMember.translation = texts.map translate := by
  induction texts with
  | nil => exact ⟨[], rfl, rfl⟩
  | cons text rest ih =>
      obtain ⟨⟨first, rfl, translated⟩, others⟩ := List.forall_mem_cons.mp each
      obtain ⟨members, rfl, inRest⟩ := ih others
      exact ⟨first :: members, rfl, by rw [List.map_cons, List.map_cons, translated, inRest]⟩

theorem mem_members (isArray : "array" ∈ level.words) (item : String) :
    "Array<" ++ item ++ ">" ∈ level.members item := by
  have inDistinct : "Array<" ++ item ++ ">" ∈ (level.words.map fun word =>
      if word = "array" then "Array<" ++ item ++ ">" else word).eraseDups := by
    rw [List.mem_eraseDups]
    exact List.mem_map.mpr ⟨"array", isArray, if_pos rfl⟩
  simp only [ArrayLevel.members]
  split
  · exact List.mem_append_left _ inDistinct
  · exact inDistinct

theorem mem_members_cases {item member : String} (isMember : member ∈ level.members item) :
    member = "Array<" ++ item ++ ">" ∨ member ∈ level.words ∨ member = "null" := by
  simp only [ArrayLevel.members] at isMember
  have distinct : member ∈ (level.words.map fun word =>
      if word = "array" then "Array<" ++ item ++ ">" else word).eraseDups →
      member = "Array<" ++ item ++ ">" ∨ member ∈ level.words ∨ member = "null" := by
    rw [List.mem_eraseDups]
    intro listed
    obtain ⟨word, inWords, rfl⟩ := List.mem_map.mp listed
    split
    · exact .inl rfl
    · exact .inr (.inl inWords)
  split at isMember
  · cases List.mem_append.mp isMember with
    | inl listed => exact distinct listed
    | inr last => exact .inr (.inr (List.mem_singleton.mp last))
  · exact distinct isMember

/-- If the literals are the name itself, the translation of levels of arrays is that of their type.
Inner levels have to stand alone, because the type would not be read with a union around an array
inside of another one. -/
theorem ofType_leveledType (own : BareName) (alone : ∀ level ∈ levels.tail, IsAlone level)
    (bare : ∀ level ∈ levels, ∀ word ∈ level.words, ∃ name : BareName, name.text = word)
    (arrays : ∀ level ∈ levels, "array" ∈ level.words) :
    ofType (leveledType own.text levels) = leveledTranslation own.translation own.text levels := by
  cases levels with
  | nil => exact ofType_bare own
  | cons level inner =>
      have inside : ∀ level ∈ inner, IsAlone level := alone
      have each : ∀ text ∈ level.members (leveledType own.text inner),
          ∃ member : TypeMember, member.text = text ∧ member.translation =
            if text = "Array<" ++ leveledType own.text inner ++ ">" then
              arrayOf (leveledTranslation own.translation own.text inner)
            else ofType text := by
        intro text listed
        by_cases array : text = "Array<" ++ leveledType own.text inner ++ ">"
        · refine ⟨.applied arrayName (nestedArrays own inner) [], ?_, ?_⟩
          · rw [array, ← text_nestedArrays own inside]
            rfl
          · rw [if_pos array, ← translation_nestedArrays own inside]
            rfl
        · have name : ∃ name : BareName, name.text = text := by
            rcases mem_members_cases listed with same | word | null
            · exact absurd same array
            · exact bare level (.head _) text word
            · exact ⟨nullName, null.symm⟩
          obtain ⟨name, rfl⟩ := name
          rw [if_neg array]
          exact ⟨.bare name, rfl, (ofType_bare name).symm⟩
      obtain ⟨members, texts, translations⟩ := exists_members each
      have nonempty : members ≠ [] := by
        rintro rfl
        have array := mem_members (arrays level (.head _)) (leveledType own.text inner)
        rw [← texts] at array
        cases array
      have whole := ofType?_members nonempty
      rw [texts, translations] at whole
      rw [leveledType, leveledTranslation, ofType, whole, Option.getD_some]

/-! ## Lengths -/

theorem length_parenthesized (text : String) : ("(" ++ text ++ ")").length = text.length + 2 := by
  rw [String.length_append, String.length_append, Nat.add_comm "(".length]
  rfl

theorem length_bracketed (text : String) : (text ++ "[]").length = text.length + 2 :=
  String.length_append _ _

theorem enclosed_eq (text : String) : "(" ++ text ++ ")[]" = "(" ++ text ++ ")" ++ "[]" := by
  have closing : ")[]" = ")" ++ "[]" := rfl
  rw [closing, ← String.append_assoc]

theorem length_enclosed (text : String) : ("(" ++ text ++ ")[]").length = text.length + 4 := by
  rw [enclosed_eq, length_bracketed, length_parenthesized]

theorem length_arrayOf (item : String) : item.length + 2 ≤ (arrayOf item).length := by
  unfold arrayOf
  split
  · rw [length_enclosed]
    omega
  · rw [length_bracketed]

/-- A text joined to others is shorter than what they make together. -/
theorem length_intercalate {texts : List String} {text : String} (member : text ∈ texts) :
    texts = [text] ∨ text.length + 3 ≤ (String.intercalate " | " texts).length := by
  induction texts with
  | nil => cases member
  | cons first rest ih =>
      cases rest with
      | nil =>
          left
          rw [List.mem_singleton.mp member]
      | cons second others =>
          right
          have whole : (String.intercalate " | " (first :: second :: others)).length =
              first.length + 3 + (String.intercalate " | " (second :: others)).length := by
            rw [String.intercalate_cons_cons, String.length_append, String.length_append]
            rfl
          rw [whole]
          cases member with
          | head => omega
          | tail _ later =>
              rcases ih later with only | shorter
              · rw [only, String.intercalate_singleton]
                omega
              · omega

/-- A level is nothing but an array of its items, or its translation is longer than that. -/
theorem leveledTranslation_cases (literals name : String) (isArray : "array" ∈ level.words)
    (inner : List ArrayLevel) :
    (level.members (leveledType name inner) = ["Array<" ++ leveledType name inner ++ ">"] ∧
      leveledTranslation literals name (level :: inner) =
        arrayOf (leveledTranslation literals name inner)) ∨
    (arrayOf (leveledTranslation literals name inner)).length + 3 ≤
      (leveledTranslation literals name (level :: inner)).length := by
  have array := mem_members isArray (leveledType name inner)
  have translated : arrayOf (leveledTranslation literals name inner) ∈
      (level.members (leveledType name inner)).map fun member =>
        if member = "Array<" ++ leveledType name inner ++ ">" then
          arrayOf (leveledTranslation literals name inner)
        else ofType member := List.mem_map.mpr ⟨_, array, if_pos rfl⟩
  rcases length_intercalate translated with only | longer
  · left
    obtain ⟨member, isMember, same⟩ := List.map_eq_singleton_iff.mp only
    rw [isMember, List.mem_singleton] at array
    refine ⟨by rw [isMember, array], ?_⟩
    rw [leveledTranslation, only, String.intercalate_singleton]
  · exact .inr longer

theorem length_leveledTranslation (literals name : String)
    (arrays : ∀ level ∈ levels, "array" ∈ level.words) :
    literals.length + 2 * levels.length ≤ (leveledTranslation literals name levels).length := by
  induction levels with
  | nil => exact Nat.le_refl _
  | cons level inner ih =>
      obtain ⟨isArray, inside⟩ := List.forall_mem_cons.mp arrays
      have shorter := ih inside
      have item := length_arrayOf (leveledTranslation literals name inner)
      rw [List.length_cons]
      rcases leveledTranslation_cases literals name isArray inner with ⟨-, same⟩ | longer
      · rw [same]
        omega
      · omega

theorem startsWith_array (item : String) :
    Text.startsWith ("Array<" ++ item ++ ">") "Array<" = true := by
  simp [Text.startsWith, Text.afterStart?]

theorem arrayOf_ne_parenthesized (item text : String) : arrayOf item ≠ "(" ++ text ++ ")" := by
  intro same
  have bracket : (arrayOf item).toList.getLast? = some ']' := by
    unfold arrayOf
    split <;> simp only [String.toList_append, List.getLast?_append] <;> rfl
  have parenthesis : ("(" ++ text ++ ")").toList.getLast? = some ')' := by
    rw [String.toList_append, List.getLast?_append]
    rfl
  rw [same, parenthesis] at bracket
  exact absurd bracket (by decide)

/-- An array of arrays of literals is written with more than one pair of brackets around these. -/
theorem enclosed_ne_nested (literals name : String) (isArray : "array" ∈ level.words)
    {inner : List ArrayLevel} (arrays : ∀ level ∈ inner, "array" ∈ level.words) :
    "(" ++ literals ++ ")[]" ≠ arrayOf (leveledTranslation literals name (level :: inner)) := by
  intro same
  have size := length_enclosed literals
  have inside : literals.length + 2 * inner.length ≤
      (leveledTranslation literals name inner).length :=
    length_leveledTranslation literals name arrays
  have array := length_arrayOf (leveledTranslation literals name inner)
  rw [same] at size
  unfold arrayOf at same size
  split at same
  · next bar =>
      -- What the parentheses hold would have the length of the literals, but has brackets too.
      rw [if_pos bar, length_enclosed] at size
      rcases leveledTranslation_cases literals name isArray inner with ⟨-, only⟩ | longer
      · rw [only] at size
        omega
      · omega
  · next noBar =>
      -- The brackets are the outer ones, and no array inside of them ends in a parenthesis.
      have parenthesized : "(" ++ literals ++ ")" =
          leveledTranslation literals name (level :: inner) := by
        rw [← String.append_left_inj "[]", ← same, enclosed_eq]
      rcases leveledTranslation_cases literals name isArray inner with ⟨-, only⟩ | longer
      · exact arrayOf_ne_parenthesized _ _ (only ▸ parenthesized).symm
      · rw [← parenthesized] at longer
        have around := length_parenthesized literals
        omega

/-- One pair of brackets around the literals is the translation of nothing but one array of them. -/
theorem enclosed_eq_iff (isArray : "array" ∈ level.words) {inner : List ArrayLevel}
    (arrays : ∀ level ∈ inner, "array" ∈ level.words) :
    "(" ++ literals ++ ")[]" = leveledTranslation literals name (level :: inner) ↔
      inner = [] ∧ level.members name = ["Array<" ++ name ++ ">"] ∧ '|' ∈ literals.toList := by
  have size := length_enclosed literals
  have inside : literals.length + 2 * inner.length ≤
      (leveledTranslation literals name inner).length :=
    length_leveledTranslation literals name arrays
  have array := length_arrayOf (leveledTranslation literals name inner)
  rcases leveledTranslation_cases literals name isArray inner with ⟨only, same⟩ | longer
  · rw [same]
    cases inner with
    | nil =>
        rw [leveledTranslation, arrayOf]
        split
        · next bar => exact ⟨fun _ => ⟨rfl, only, bar⟩, fun _ => rfl⟩
        · next noBar =>
            constructor
            · intro equal
              rw [equal, length_bracketed] at size
              omega
            · exact fun known => absurd known.2.2 noBar
    | cons next deeper =>
        obtain ⟨nextArray, deeperArrays⟩ := List.forall_mem_cons.mp arrays
        have notEqual := enclosed_ne_nested literals name nextArray deeperArrays
        exact ⟨fun equal => absurd equal notEqual,
          fun known => absurd known.1 (List.cons_ne_nil _ _)⟩
  · constructor
    · intro equal
      rw [equal] at size
      omega
    · rintro ⟨rfl, only, -⟩
      have same : leveledTranslation literals name [level] = arrayOf literals := by
        rw [leveledTranslation, leveledType, only, List.map_singleton, if_pos rfl,
          String.intercalate_singleton]
        rfl
      rw [same, leveledTranslation] at longer
      omega

/-! ## Fields -/

theorem ofField_of_choices {field : Field} (isEnum : field.enumOption ≠ []) :
    ofField field = if Text.startsWith field.type "Array<" then
      "(" ++ literalUnion field.enumOption ++ ")[]" else literalUnion field.enumOption := by
  have listed : field.isEnum = true := by simpa [Field.isEnum] using isEnum
  rw [ofField, if_pos listed, literalUnion]

/-- A field with choices in levels of arrays keeps the shape of its type only if there is no level,
or one that is an array of the enumeration and nothing else. -/
theorem ofField_eq_leveled_iff {field : Field} (isEnum : field.enumOption ≠ [])
    (isType : field.type = leveledType name levels)
    (arrays : ∀ level ∈ levels, "array" ∈ level.words) :
    ofField field = leveledTranslation (literalUnion field.enumOption) name levels ↔
      (levels = [] ∧ Text.startsWith name "Array<" = false) ∨
      ∃ level, levels = [level] ∧ level.members name = ["Array<" ++ name ++ ">"] ∧
        '|' ∈ (literalUnion field.enumOption).toList := by
  rw [ofField_of_choices isEnum, isType]
  generalize literalUnion field.enumOption = literals
  cases levels with
  | nil =>
      rw [leveledType, leveledTranslation]
      simp only [true_and, List.nil_eq, List.cons_ne_nil, false_and, exists_false, or_false]
      by_cases begins : Text.startsWith name "Array<" = true
      · rw [if_pos begins, begins]
        simp only [Bool.true_eq_false, iff_false]
        intro same
        have size := length_enclosed literals
        rw [same] at size
        omega
      · rw [if_neg begins]
        simpa using begins
  | cons level inner =>
      obtain ⟨isArray, inside⟩ := List.forall_mem_cons.mp arrays
      have outermost : ((level :: inner = [] ∧ Text.startsWith name "Array<" = false) ∨
          ∃ only, level :: inner = [only] ∧ only.members name = ["Array<" ++ name ++ ">"] ∧
            '|' ∈ literals.toList) ↔
          inner = [] ∧ level.members name = ["Array<" ++ name ++ ">"] ∧ '|' ∈ literals.toList := by
        simp [and_assoc]
      rw [outermost]
      by_cases begins : Text.startsWith (leveledType name (level :: inner)) "Array<" = true
      · rw [if_pos begins]
        exact enclosed_eq_iff isArray inside
      · rw [if_neg begins]
        constructor
        · intro same
          have longer := length_leveledTranslation literals name arrays
          rw [← same, List.length_cons] at longer
          omega
        · rintro ⟨rfl, only, -⟩
          refine absurd ?_ begins
          rw [leveledType, leveledType, only, String.intercalate_singleton]
          exact startsWith_array name

/-- The field of a property that is an enumeration in levels of arrays has the arrays and unions of
the levels in its type. It is written with all of them exactly if there are none, or if there is one
array and nothing beside it. -/
theorem enumeration_shape_kept_iff (mode : Resolve.Mode) (mappings : Entries String)
    (owner name : String) (required : Bool) {schema : Schema} {choices : List Json}
    {levels : List ArrayLevel} (enumerates : schema.Enumerates choices levels)
    (state : Resolve.State) :
    Resolve.Ensures (Resolve.property mode mappings owner name required schema) state fun field _ =>
      field.type = leveledType (Names.synthesized owner name) levels ∧ field.enumOption = choices ∧
      (ofField field =
          leveledTranslation (literalUnion choices) (Names.synthesized owner name) levels ↔
        (levels = [] ∧ Text.startsWith (Names.synthesized owner name) "Array<" = false) ∨
        ∃ level, levels = [level] ∧
          level.members (Names.synthesized owner name) =
            ["Array<" ++ Names.synthesized owner name ++ ">"] ∧
          '|' ∈ (literalUnion choices).toList) := by
  rw [Resolve.property, Resolve.ensures_bind]
  refine (Resolve.type_of_enumerates enumerates state).mono ?_
  rintro resolved last ⟨isType, isChoices⟩
  rw [Resolve.ensures_pure]
  refine ⟨isType, isChoices, ?_⟩
  have isEnum : (Resolve.fieldOf name required schema resolved).enumOption ≠ [] :=
    fun none => enumerates.nonempty (isChoices.symm.trans none)
  have kept := ofField_eq_leveled_iff isEnum isType enumerates.arrays
  rwa [show (Resolve.fieldOf name required schema resolved).enumOption = choices from isChoices]
    at kept

/-- An array of choices, which may be null. -/
def saleStates (nullable : Bool) : Schema where
  types := some (.one "array")
  nullable := some nullable
  items := some { types := some (.one "string"), enumValues := [.str "available", .str "sold"] }

theorem saleStates_enumerates (nullable : Bool) :
    (saleStates nullable).Enumerates [.str "available", .str "sold"] [⟨["array"], nullable⟩] := by
  cases nullable <;> exact .array ⟨rfl, rfl, rfl⟩ (.head _) (fun _ => ⟨rfl, rfl⟩) rfl
    (.choices rfl rfl rfl (List.cons_ne_nil _ _))

/-- One array of choices keeps its shape. -/
theorem enumeration_shape_kept_saleStates :
    (saleStates false).Enumerates [.str "available", .str "sold"] [⟨["array"], false⟩] ∧
    ofField (Resolve.detached (Resolve.property .detached [] "Pet" "states" false
      (saleStates false))) =
      leveledTranslation "\"available\" | \"sold\"" "PetStates" [⟨["array"], false⟩] := by
  have choices : literalUnion [.str "available", .str "sold"] = "\"available\" | \"sold\"" := by
    decide +kernel
  have own : Names.synthesized "Pet" "states" = "PetStates" := by decide +kernel
  obtain ⟨-, -, kept⟩ := enumeration_shape_kept_iff .detached [] "Pet" "states" false
    (saleStates_enumerates false) {}
  rw [own, choices] at kept
  exact ⟨saleStates_enumerates false,
    kept.mpr (.inr ⟨_, rfl, by decide +kernel, by decide +kernel⟩)⟩

/-- An array of choices that may be null is written without null. -/
theorem nullable_choices_lose_null :
    let field := Resolve.detached
      (Resolve.property .detached [] "Pet" "states" false (saleStates true))
    (saleStates true).Enumerates field.enumOption [⟨["array"], true⟩] ∧
      field.type = "Array<PetStates> | null" ∧
      ofField field = "(\"available\" | \"sold\")[]" ∧
      leveledTranslation (literalUnion field.enumOption) "PetStates" [⟨["array"], true⟩] =
        "(\"available\" | \"sold\")[] | null" := by
  refine ⟨saleStates_enumerates true, ?_⟩
  decide +kernel

end TypeScript

end ClientGen
