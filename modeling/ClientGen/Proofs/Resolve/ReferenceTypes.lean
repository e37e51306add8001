import ClientGen.Proofs.NamedType.Replacement
import ClientGen.Proofs.Resolve.Rules

/-!
The types of references and of arrays of references. They depend on nothing but the target of the
reference and the placeholders, and on no state.
-/

set_option autoImplicit false

namespace ClientGen

/-- A schema that is a reference, or an array of what refers to the same. Outermost first, it is told
which arrays may be null. -/
inductive Schema.Refers : Schema → String → List Bool → Prop where
  | reference {schema : Schema} {path : String} : schema.reference = some path →
      Refers schema path []
  | array {schema items : Schema} {path : String} {arrays : List Bool} :
      schema.soleMember? = none → schema.reference = none → schema.enumValues = [] →
      schema.typeWords = ["array"] → schema.items = some items → Refers items path arrays →
      Refers schema path ((schema.nullable = some true) :: arrays)
  | arrayOrNull {schema items : Schema} {path : String} {arrays : List Bool} :
      schema.soleMember? = none → schema.reference = none → schema.enumValues = [] →
      schema.typeWords = ["array", "null"] → schema.items = some items →
      Refers items path arrays → Refers schema path (true :: arrays)

/-- The text of arrays around the text of a type. -/
def arrayText : List Bool → String → String
  | [], text => text
  | nullable :: arrays, text =>
      "Array<" ++ arrayText arrays text ++ ">" ++ if nullable then " | null" else ""

theorem arrayText_inj {arrays : List Bool} {left right : String} :
    arrayText arrays left = arrayText arrays right ↔ left = right := by
  induction arrays with
  | nil => rfl
  | cons nullable arrays ih =>
      rw [← ih, arrayText, arrayText, ← String.toList_inj, ← String.toList_inj]
      simp only [String.toList_append, List.append_assoc, List.append_cancel_left_eq]
      constructor
      · intro same
        exact List.append_cancel_right same
      · intro same
        rw [same]

namespace Resolve

private theorem array_ne_null (inner : String) : "Array<" ++ inner ++ ">" ≠ "null" := by
  intro same
  have chars := congrArg String.toList same
  simp only [String.toList_append, List.append_assoc] at chars
  cases chars

theorem unionText_array (inner : String) (nullable : Bool) :
    unionText ["Array<" ++ inner ++ ">"] nullable =
      "Array<" ++ inner ++ ">" ++ if nullable then " | null" else "" := by
  have apart := array_ne_null inner
  generalize "Array<" ++ inner ++ ">" = text at apart ⊢
  have distinct : [text].eraseDups = [text] := by simp [List.eraseDups_cons]
  have free : [text].contains "null" = false := by simp [apart.symm]
  rw [unionText, distinct, free]
  cases nullable with
  | false => simp
  | true => simp [String.append_assoc]

theorem unionText_array_null (inner : String) (nullable : Bool) :
    unionText ["Array<" ++ inner ++ ">", "null"] nullable = "Array<" ++ inner ++ ">" ++ " | null" := by
  have apart := array_ne_null inner
  generalize "Array<" ++ inner ++ ">" = text at apart ⊢
  have distinct : [text, "null"].eraseDups = [text, "null"] := by
    simp [List.eraseDups_cons, apart.symm]
  rw [unionText, distinct]
  simp [String.append_assoc]

theorem type_of_refers {schema : Schema} {path : String} {arrays : List Bool}
    (refers : schema.Refers path arrays) (mode : Mode) (mappings : Entries String) (name : String)
    (state : State) :
    Ensures (type mode mappings name schema) state fun resolved _ => resolved.type =
      arrayText arrays ((NamedType.parse (Names.ofReference path)).substitute mappings).render := by
  induction refers generalizing state with
  | reference refers =>
      rw [type_of_reference _ _ _ refers, ensures_pure, referenceType, arrayText]
  | @array schema items path arrays several inline free words isItems _ ih =>
      rw [type_of_words _ _ _ several inline free, words, ensures_bind, List.foldlM_cons, ensures_bind,
        addWord, if_pos rfl, isItems, itemType, ensures_bind]
      refine (ih state).mono fun inner last same => ?_
      change unionText ["Array<" ++ inner.type ++ ">"] _ = _
      rw [unionText_array, same]
      rfl
  | @arrayOrNull schema items path arrays several inline free words isItems _ ih =>
      rw [type_of_words _ _ _ several inline free, words, ensures_bind, List.foldlM_cons, ensures_bind,
        addWord, if_pos rfl, isItems, itemType, ensures_bind]
      refine (ih state).mono fun inner last same => ?_
      change unionText ["Array<" ++ inner.type ++ ">", "null"] _ = _
      rw [unionText_array_null, same]
      rfl

section Fields

variable {schema : Schema} {name : String} {property : Schema}

/-- The field of a property that refers to a definition: there is one, and its type is as that of
the first property of its name. -/
theorem object_field_of_refers
    (first : schema.declaredProperties.find? (fun entry => entry.1 = name) = some (name, property))
    {path : String} {arrays : List Bool} (refers : property.Refers path arrays) (mode : Mode)
    (mappings : Entries String) (owner : String) (state : State) :
    Ensures (object mode mappings owner schema) state fun fields _ =>
      (∃ field ∈ fields, field.name = name) ∧ ∀ field ∈ fields, field.name = name → field.type =
        arrayText arrays ((NamedType.parse (Names.ofReference path)).substitute mappings).render := by
  have keeps : KeepsFields mode mappings owner schema.declaredProperties fun seen fields _ =>
      (∀ entry ∈ seen, ∃ field ∈ fields, field.name = entry.1) ∧
      ∀ field ∈ fields, field.name = name → field.type =
        arrayText arrays ((NamedType.parse (Names.ofReference path)).substitute mappings).render := by
    constructor
    · rintro seen entry fields later - repeated ⟨named, typed⟩
      refine ⟨fun other member => ?_, typed⟩
      rcases List.mem_append.mp member with old | now
      · exact named other old
      · cases List.mem_singleton.mp now
        exact repeated
    · rintro seen entry fields later ⟨rest, split⟩ unnamed ⟨named, typed⟩
      have resolves : entry.1 = name → Ensures
          (type mode mappings (Names.synthesized owner entry.1) entry.2) later fun resolved _ =>
            resolved.type = arrayText arrays
              ((NamedType.parse (Names.ofReference path)).substitute mappings).render := by
        intro same
        have isFirst : entry = (name, property) := by
          have none : seen.find? (fun entry => entry.1 = name) = none := by
            rw [List.find?_eq_none]
            intro other member isName
            obtain ⟨field, isField, fieldName⟩ := named other member
            have otherName : other.1 = name := by simpa using isName
            exact unnamed field isField (fieldName.trans (otherName.trans same.symm))
          rw [← split, List.append_assoc, List.find?_append, none] at first
          simpa [same] using first
        rw [isFirst]
        exact type_of_refers refers mode mappings _ later
      unfold Ensures at resolves ⊢
      intro required
      refine ⟨fun other member => ?_, fun field member isName => ?_⟩
      · rcases List.mem_append.mp member with old | now
        · obtain ⟨field, isField, fieldName⟩ := named other old
          exact ⟨field, List.mem_append_left _ isField, fieldName⟩
        · cases List.mem_singleton.mp now
          exact ⟨_, List.mem_append_right _ (.head _), rfl⟩
      · rcases List.mem_append.mp member with old | now
        · exact typed field old isName
        · cases List.mem_singleton.mp now
          exact resolves isName
  refine (object_ensures keeps ⟨by simp, by simp⟩).mono ?_
  rintro fields last ⟨named, typed⟩
  exact ⟨named _ (List.mem_of_find?_eq_some first), typed⟩

end Fields

end Resolve

end ClientGen
