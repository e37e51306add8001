import ClientGen.Proofs.Resolve.Forms

/-!
Rules for what resolving ensures. The fields of an object are resolved one after the other, and so
are the words of a type, so for both it is enough to say what one of them keeps.
-/

set_option autoImplicit false

namespace ClientGen.Resolve

/-! ## Steps -/

/-- What holds of the value of a step and of the state after it. -/
def Ensures {Value : Type} (step : Step Value) (state : State) (holds : Value → State → Prop) :
    Prop :=
  holds (step.run state).1 (step.run state).2

section Steps

variable {Value Next : Type} {state : State}

theorem run_bind (step : Step Value) (next : Value → Step Next) (state : State) :
    (step >>= next).run state = (next (step.run state).1).run (step.run state).2 := rfl

theorem ensures_pure (value : Value) {holds : Value → State → Prop} :
    Ensures (pure value) state holds ↔ holds value state := Iff.rfl

theorem ensures_bind (step : Step Value) (next : Value → Step Next) {holds : Next → State → Prop} :
    Ensures (step >>= next) state holds ↔
      Ensures step state fun value later => Ensures (next value) later holds := Iff.rfl

theorem Ensures.mono {step : Step Value} {weaker stronger : Value → State → Prop}
    (known : Ensures step state stronger)
    (weaken : ∀ value later, stronger value later → weaker value later) :
    Ensures step state weaker := weaken _ _ known

theorem Ensures.and {step : Step Value} {first second : Value → State → Prop}
    (known : Ensures step state first) (more : Ensures step state second) :
    Ensures step state fun value later => first value later ∧ second value later := ⟨known, more⟩

theorem ensures_foldlM {Item : Type} {items : List Item} {step : Value → Item → Step Value}
    {holds : Value → State → Prop} {start : Value} (first : holds start state)
    (keeps : ∀ value later item, item ∈ items → holds value later →
      Ensures (step value item) later holds) :
    Ensures (items.foldlM step start) state holds := by
  induction items generalizing start state with
  | nil => exact first
  | cons item rest ih =>
      rw [List.foldlM_cons, ensures_bind]
      refine (keeps start state item (.head _) first).mono fun value later known => ?_
      exact ih known fun value later item member => keeps value later item (.tail _ member)

end Steps

/-! ## Fields one after the other -/

section Fields

variable {mode : Mode} {mappings : Entries String} {owner : String}
  {declared : List (String × Schema)} {holds : List (String × Schema) → List Field → State → Prop}

/-- A property that repeats the name of a field is passed over, and any other adds its field. -/
structure KeepsFields (mode : Mode) (mappings : Entries String) (owner : String)
    (declared : List (String × Schema))
    (holds : List (String × Schema) → List Field → State → Prop) : Prop where
  again : ∀ seen entry fields state, seen ++ [entry] <+: declared →
    (∃ field ∈ fields, field.name = entry.1) → holds seen fields state →
    holds (seen ++ [entry]) fields state
  first : ∀ seen entry fields state, seen ++ [entry] <+: declared →
    (∀ field ∈ fields, field.name ≠ entry.1) → holds seen fields state →
    Ensures (type mode mappings (Names.synthesized owner entry.1) entry.2) state
      fun resolved last => ∀ required,
        holds (seen ++ [entry]) (fields ++ [fieldOf entry.1 required entry.2 resolved]) last

theorem propertyFields_ensures (keeps : KeepsFields mode mappings owner declared holds)
    (isRequired : String → Bool) {seen properties : List (String × Schema)}
    (covered : seen ++ properties <+: declared) {fields : List Field} {state : State}
    (start : holds seen fields state) :
    Ensures (propertyFields mode mappings owner isRequired fields properties) state
      (holds (seen ++ properties)) := by
  induction properties generalizing seen fields state with
  | nil =>
      rw [propertyFields, List.append_nil]
      exact start
  | cons entry rest ih =>
      obtain ⟨name, schema⟩ := entry
      have split : seen ++ (name, schema) :: rest = seen ++ [(name, schema)] ++ rest := by simp
      rw [split] at covered ⊢
      have turn : seen ++ [(name, schema)] <+: declared := (List.prefix_append _ _).trans covered
      rw [propertyFields]
      split
      · next repeated =>
          have named : ∃ field ∈ fields, field.name = name := by simpa using repeated
          exact ih covered (keeps.again seen _ fields state turn named start)
      · next unused =>
          have unnamed : ∀ field ∈ fields, field.name ≠ name := by simpa using unused
          rw [ensures_bind]
          refine (keeps.first seen _ fields state turn unnamed start).mono fun resolved last known => ?_
          exact ih covered (known _)

def inlineProperties (part : Schema) : List (String × Schema) :=
  if part.reference.isSome then [] else part.properties

theorem partFields_ensures (keeps : KeepsFields mode mappings owner declared holds)
    (isRequired : String → Bool) {seen : List (String × Schema)} {parts : List Schema}
    (covered : seen ++ parts.flatMap inlineProperties <+: declared) {fields : List Field}
    {state : State} (start : holds seen fields state) :
    Ensures (partFields mode mappings owner isRequired fields parts) state
      (holds (seen ++ parts.flatMap inlineProperties)) := by
  induction parts generalizing seen fields state with
  | nil =>
      rw [partFields, List.flatMap_nil, List.append_nil]
      exact start
  | cons part rest ih =>
      obtain ⟨reference, _, _, _, _, _, _, properties, _, _, _, _, _⟩ := part
      rw [List.flatMap_cons, ← List.append_assoc] at covered ⊢
      rw [partFields]
      split
      · next refers =>
          rw [inlineProperties, if_pos refers, List.append_nil] at covered ⊢
          exact ih covered start
      · next inline =>
          rw [inlineProperties, if_neg inline] at covered ⊢
          rw [ensures_bind]
          have part := (List.prefix_append _ _).trans covered
          refine (propertyFields_ensures keeps _ part start).mono fun found last known => ?_
          exact ih covered known

/-- The fields of an object come from its declared properties, one after the other. -/
theorem object_ensures {schema : Schema}
    (keeps : KeepsFields mode mappings owner schema.declaredProperties holds) {state : State}
    (start : holds [] [] state) :
    Ensures (object mode mappings owner schema) state (holds schema.declaredProperties) := by
  have declared : schema.declaredProperties =
      inlineProperties schema ++ schema.allOf.flatMap inlineProperties := rfl
  have parts (found : List Field) (last : State) (known : holds (inlineProperties schema) found last) :
      Ensures (partFields mode mappings owner schema.required.lists found schema.allOf) last
        (holds schema.declaredProperties) :=
    partFields_ensures keeps _ (List.prefix_refl _) known
  rw [object]
  split
  · next refers =>
      rw [inlineProperties, if_pos refers] at parts
      exact parts [] state start
  · next inline =>
      have first : [] ++ inlineProperties schema <+: schema.declaredProperties := by
        rw [declared]
        exact List.prefix_append _ _
      rw [inlineProperties, if_neg inline] at first parts
      rw [ensures_bind]
      exact (propertyFields_ensures keeps _ first start).mono parts

end Fields

/-! ## Words one after the other -/

section Words

variable {mode : Mode} {mappings : Entries String} {name : String} {schema : Schema}
  {holds : List String × ResolvedType → State → Prop}

/-- What every word keeps: those that stand for themselves, arrays of anything, arrays, objects with
properties, and maps. -/
structure KeepsWords (mode : Mode) (mappings : Entries String) (name : String) (schema : Schema)
    (holds : List String × ResolvedType → State → Prop) : Prop where
  plain : ∀ word found state, word ∈ schema.typeWords → word ≠ "array" → holds found state →
    holds (found.1 ++ [word], found.2) state
  anything : ∀ found state, "array" ∈ schema.typeWords → schema.items = none →
    holds found state → holds (found.1 ++ ["Array<any>"], {}) state
  items : ∀ items found state, "array" ∈ schema.typeWords → schema.items = some items →
    holds found state → Ensures (type mode mappings name items) state fun inner last =>
      holds (found.1 ++ ["Array<" ++ inner.type ++ ">"], { inner with type := "" }) last
  object : ∀ found state, "object" ∈ schema.typeWords → schema.hasProperties = true →
    holds found state →
    Ensures (inlineObject mode name fun own => object mode mappings own schema) state
      fun named last =>
        holds (found.1 ++ [named.1], { found.2 with properties := some named.2 }) last
  values : ∀ values found state, "object" ∈ schema.typeWords → schema.hasProperties = false →
    schema.mapsValues = true → schema.additional = some (.described values) →
    holds found state → Ensures (type mode mappings name values) state fun inner last =>
      holds (found.1 ++ ["Map<string, " ++ inner.type ++ ">"],
        { found.2 with target := inner.target }) last

theorem addWord_ensures (keeps : KeepsWords mode mappings name schema holds) {word : String}
    (member : word ∈ schema.typeWords) {found : List String × ResolvedType} {state : State}
    (known : holds found state) :
    Ensures (addWord mode mappings name schema found word) state holds := by
  unfold addWord
  split
  · next isArray =>
      subst isArray
      cases items : schema.items with
      | none =>
          rw [itemType]
          exact keeps.anything found state member items known
      | some inner =>
          rw [itemType]
          exact keeps.items inner found state member items known
  · next notArray =>
    split
    · next isObject =>
        subst isObject
        split
        · next properties => exact keeps.object found state member properties known
        · next noProperties =>
            split
            · next maps =>
                have empty : schema.hasProperties = false := by simpa using noProperties
                obtain ⟨values, found⟩ := Schema.exists_values maps
                rw [found, mapValueType]
                exact keeps.values values _ state member empty maps found known
            · exact keeps.plain "object" found state member notArray known
    · exact keeps.plain word found state member notArray known

/-- What a word makes, and every word keeps, holds after all words if that word is one of them. -/
theorem words_ensures_of_mem (keeps : KeepsWords mode mappings name schema holds) {word : String}
    (member : word ∈ schema.typeWords)
    (makes : ∀ found state, Ensures (addWord mode mappings name schema found word) state holds)
    (state : State) :
    Ensures (schema.typeWords.foldlM (addWord mode mappings name schema) ([], {})) state holds := by
  obtain ⟨before, after, split⟩ := List.append_of_mem member
  have rest (found : List String × ResolvedType) (later : State) :
      Ensures ((word :: after).foldlM (addWord mode mappings name schema) found) later holds := by
    rw [List.foldlM_cons, ensures_bind]
    refine (makes found later).mono fun next last known => ?_
    refine ensures_foldlM known fun _ _ other inAfter => addWord_ensures keeps ?_
    rw [split]
    exact List.mem_append_right _ (.tail _ inAfter)
  rw [split, List.foldlM_append]
  exact rest _ _

/-- The words of a type keep together what each of them keeps. -/
theorem words_ensures (keeps : KeepsWords mode mappings name schema holds) {state : State}
    (start : holds ([], {}) state) :
    Ensures (schema.typeWords.foldlM (addWord mode mappings name schema) ([], {})) state holds :=
  ensures_foldlM start fun _ _ _ member known => addWord_ensures keeps member known

end Words

end ClientGen.Resolve
