import ClientGen.Proofs.Resolve.Rules

/-!
What resolving does to the registry: it visits inline objects, one after the other. A visit picks the
object's name. If a definition has that base, nothing else happens. Otherwise the name is taken, the
objects inside are visited, and the object is registered with its fields.
-/

set_option autoImplicit false

namespace ClientGen.Resolve

/-! ## Names of inline objects -/

/-- The name under which an inline object is registered. -/
def ownName (reserved : List String) (name : String) : String :=
  if reserved.contains name then Names.firstFree reserved name else name

def renamingNotes (reserved : List String) (name : String) : List Diagnostic :=
  if reserved.contains name then
    [⟨.warning, name, "inline object renamed to `" ++ Names.firstFree reserved name ++ "`, `" ++
      name ++ "` is a document definition"⟩]
  else []

def State.note (notes : List Diagnostic) (state : State) : State :=
  { state with diagnostics := state.diagnostics ++ notes }

def State.put (name : String) (definition : Definition) (state : State) : State :=
  { state with definitions := state.definitions.insert name definition }

@[simp] theorem State.note_definitions (notes : List Diagnostic) (state : State) :
    (state.note notes).definitions = state.definitions := rfl

@[simp] theorem State.note_diagnostics (notes : List Diagnostic) (state : State) :
    (state.note notes).diagnostics = state.diagnostics ++ notes := rfl

@[simp] theorem State.put_definitions (name : String) (definition : Definition) (state : State) :
    (state.put name definition).definitions = state.definitions.insert name definition := rfl

@[simp] theorem State.put_diagnostics (name : String) (definition : Definition) (state : State) :
    (state.put name definition).diagnostics = state.diagnostics := rfl

/-- The state in which the fields of an inline object are resolved: its name is taken. -/
def State.taken (reserved : List String) (name : String) (state : State) : State :=
  (state.note (renamingNotes reserved name)).put (ownName reserved name) (.record [])

theorem inlineName_run (reserved : List String) (name : String) (state : State) :
    (inlineName (.registering reserved) name).run state =
      (ownName reserved name, state.note (renamingNotes reserved name)) := by
  unfold inlineName ownName renamingNotes Mode.reserved
  by_cases owned : reserved.contains name = true
  · rw [if_pos owned, if_pos owned, if_pos owned]
    rfl
  · rw [if_neg owned, if_neg owned, if_neg owned, State.note, List.append_nil]
    rfl

private theorem registered?_run (reserved : List String) (name : String) (state : State) :
    (registered? (.registering reserved) name).run state =
      ((state.definitions.findByBase? name).map fun found => found.2.fields, state) := rfl

theorem inlineObject_run_known {reserved : List String} {name : String} {state : State}
    {found : String × Definition}
    (known : state.definitions.findByBase? (ownName reserved name) = some found)
    (fields : String → Step (List Field)) :
    (inlineObject (.registering reserved) name fields).run state =
      ((ownName reserved name, found.2.fields), state.note (renamingNotes reserved name)) := by
  rw [inlineObject, run_bind, inlineName_run, run_bind, registered?_run]
  simp only [State.note_definitions, known, Option.map_some]
  rfl

theorem inlineObject_run_new {reserved : List String} {name : String} {state : State}
    (new : state.definitions.findByBase? (ownName reserved name) = none)
    (fields : String → Step (List Field)) :
    (inlineObject (.registering reserved) name fields).run state =
      let resolved := (fields (ownName reserved name)).run (state.taken reserved name)
      ((ownName reserved name, resolved.1),
        resolved.2.put (ownName reserved name) (.record resolved.1)) := by
  rw [inlineObject, run_bind, inlineName_run, run_bind, registered?_run]
  simp only [State.note_definitions, new, Option.map_none]
  rfl

/-! ## Visits -/

/-- The inline objects that a schema asks for under a name. -/
def AskedBy (name : String) (schema : Schema) (asked : String) (object : Schema) : Prop :=
  asked = name ∧ object ∈ schema.inlineObjects

/-- The inline objects that the fields of an object ask for, by the names made for them. -/
def AskedIn (owner : String) (schema : Schema) (asked : String) (object : Schema) : Prop :=
  ∃ entry ∈ schema.declaredProperties,
    AskedBy (Names.synthesized owner entry.1) entry.2 asked object

/-- Inline objects are visited one after the other, each of them asked for. -/
inductive Visits (reserved : List String) (mappings : Entries String) :
    (String → Schema → Prop) → State → State → Prop where
  | done {asked : String → Schema → Prop} (state : State) :
      Visits reserved mappings asked state state
  | known {asked : String → Schema → Prop} {name : String} {schema : Schema}
      {found : String × Definition} {state last : State} : asked name schema →
      state.definitions.findByBase? (ownName reserved name) = some found →
      Visits reserved mappings asked (state.note (renamingNotes reserved name)) last →
      Visits reserved mappings asked state last
  | new {asked : String → Schema → Prop} {name : String} {schema : Schema} {fields : List Field}
      {state inner last : State} : asked name schema →
      state.definitions.findByBase? (ownName reserved name) = none →
      Visits reserved mappings (AskedIn (ownName reserved name) schema)
        (state.taken reserved name) inner →
      Ensures (object (.registering reserved) mappings (ownName reserved name) schema)
        (state.taken reserved name) (fun found after => found = fields ∧ after = inner) →
      Visits reserved mappings asked (inner.put (ownName reserved name) (.record fields)) last →
      Visits reserved mappings asked state last

section Visits

variable {reserved : List String} {mappings : Entries String}

theorem Visits.trans {asked : String → Schema → Prop} {first middle last : State}
    (before : Visits reserved mappings asked first middle)
    (after : Visits reserved mappings asked middle last) :
    Visits reserved mappings asked first last := by
  induction before with
  | done => exact after
  | known isAsked found _ ih => exact .known isAsked found (ih after)
  | new isAsked fresh inside resolved _ _ ih => exact .new isAsked fresh inside resolved (ih after)

theorem Visits.mono {fewer more : String → Schema → Prop} {first last : State}
    (visits : Visits reserved mappings fewer first last)
    (weaken : ∀ name schema, fewer name schema → more name schema) :
    Visits reserved mappings more first last := by
  induction visits with
  | done => exact .done _
  | known isAsked found _ ih => exact .known (weaken _ _ isAsked) found (ih weaken)
  | new isAsked fresh inside resolved _ _ ih =>
      exact .new (weaken _ _ isAsked) fresh inside resolved (ih weaken)

theorem inlineObject_visits {asked : String → Schema → Prop} {name : String} {schema : Schema}
    (isAsked : asked name schema)
    (inside : ∀ owner state,
      Ensures (object (.registering reserved) mappings owner schema) state
        fun _ last => Visits reserved mappings (AskedIn owner schema) state last)
    (state : State) :
    Ensures (inlineObject (.registering reserved) name fun own =>
        object (.registering reserved) mappings own schema) state
      fun _ last => Visits reserved mappings asked state last := by
  unfold Ensures
  cases lookup : state.definitions.findByBase? (ownName reserved name) with
  | some found =>
      rw [inlineObject_run_known lookup]
      exact .known isAsked lookup (.done _)
  | none =>
      rw [inlineObject_run_new lookup]
      exact .new isAsked lookup (inside _ _) ⟨rfl, rfl⟩ (.done _)

theorem object_visits_of_type {schema : Schema}
    (below : ∀ entry ∈ schema.declaredProperties, ∀ name state,
      Ensures (type (.registering reserved) mappings name entry.2) state
        fun _ last => Visits reserved mappings (AskedBy name entry.2) state last)
    (owner : String) (state : State) :
    Ensures (object (.registering reserved) mappings owner schema) state
      fun _ last => Visits reserved mappings (AskedIn owner schema) state last := by
  have keeps : KeepsFields (.registering reserved) mappings owner schema.declaredProperties
      fun _ _ last => Visits reserved mappings (AskedIn owner schema) state last := by
    constructor
    · intro _ _ _ _ _ _ known
      exact known
    · intro seen entry fields later turn _ known
      have member : entry ∈ schema.declaredProperties := turn.subset (by simp)
      refine (below entry member _ later).mono fun _ last visits _ => ?_
      exact known.trans (visits.mono fun name object isAsked => ⟨entry, member, isAsked⟩)
  exact object_ensures keeps (.done state)

/-- Resolving a schema visits inline objects that the schema asks for. -/
theorem type_visits (reserved : List String) (mappings : Entries String) (schema : Schema) :
    ∀ name state, Ensures (type (.registering reserved) mappings name schema) state
      fun _ last => Visits reserved mappings (AskedBy name schema) state last := by
  induction schema using Schema.induction_below with
  | step schema inSole inItems inValues inDeclared =>
    intro name state
    rcases schema.form with ⟨sole, single⟩ | ⟨path, refers⟩ | ⟨several, inline, listed⟩ |
      ⟨several, inline, free⟩
    · rw [type_of_sole _ _ _ single]
      refine (inSole sole single name state).mono fun _ last visits => visits.mono ?_
      rintro _ object ⟨rfl, member⟩
      exact ⟨rfl, Schema.inlineObjects_of_sole single ▸ member⟩
    · rw [type_of_reference _ _ _ refers]
      exact .done state
    · rw [type_of_enum _ _ _ several inline listed]
      exact .done state
    · rw [type_of_words _ _ _ several inline free, ensures_bind]
      have objects := Schema.inlineObjects_of_words several inline free
      have keeps : KeepsWords (.registering reserved) mappings name schema fun _ last =>
          Visits reserved mappings (AskedBy name schema) state last := by
        constructor
        · intro _ _ _ _ _ known
          exact known
        · intro _ _ _ _ known
          exact known
        · intro items found later member isItems known
          refine (inItems items isItems name later).mono fun _ last visits => ?_
          refine known.trans (visits.mono ?_)
          rintro _ object ⟨rfl, inside⟩
          refine ⟨rfl, ?_⟩
          rw [objects, if_pos member, isItems]
          exact List.mem_append_left _ inside
        · intro found later member properties known
          have isAsked : AskedBy name schema name schema := by
            refine ⟨rfl, ?_⟩
            rw [objects, if_pos member, if_pos properties]
            exact List.mem_append_right _ (.head _)
          refine (inlineObject_visits isAsked (object_visits_of_type inDeclared) later).mono
            fun _ last visits => ?_
          exact known.trans visits
        · intro values found later member empty maps isValues known
          refine (inValues values isValues name later).mono fun _ last visits => ?_
          refine known.trans (visits.mono ?_)
          rintro _ object ⟨rfl, inside⟩
          refine ⟨rfl, ?_⟩
          rw [objects, if_pos member, empty, if_pos maps, isValues]
          exact List.mem_append_right _ inside
      exact words_ensures keeps (.done state)

/-- Resolving the fields of an object visits inline objects that they ask for. -/
theorem object_visits (reserved : List String) (mappings : Entries String) (owner : String)
    (schema : Schema) (state : State) :
    Ensures (object (.registering reserved) mappings owner schema) state
      fun _ last => Visits reserved mappings (AskedIn owner schema) state last :=
  object_visits_of_type (fun entry _ => type_visits reserved mappings entry.2) owner state

end Visits

end ClientGen.Resolve
