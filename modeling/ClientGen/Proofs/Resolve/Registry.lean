import ClientGen.Proofs.Definitions.Index
import ClientGen.Proofs.Names.Unbracketed
import ClientGen.Proofs.Resolve.Visits

/-!
The registry while inline objects are visited: what it holds stays as it is and where it is, and the
new objects come after it, each of them behind the object that it is inside of.
-/

set_option autoImplicit false

namespace ClientGen.Resolve

open Names (Unbracketed)

/-! ## Own names -/

theorem ownName_not_mem (reserved : List String) (name : String) :
    ownName reserved name ∉ reserved := by
  unfold ownName
  split
  · obtain ⟨_, -, -, free, -⟩ := Names.firstFree_spec reserved name
    exact free
  · next free => simpa using free

theorem unbracketed_ownName {name : String} (plain : Unbracketed name) (reserved : List String) :
    Unbracketed (ownName reserved name) := by
  unfold ownName
  split
  · exact plain.firstFree reserved
  · exact plain

/-! ## Consistent registries -/

/-- An inline object that has been registered. -/
structure Registered where
  name : String
  schema : Schema
  fields : List Field

def Registered.entry (object : Registered) : String × Definition :=
  (object.name, .record object.fields)

/-- Whether a definition may stand under a name: if the base of the name is not reserved, the
definition is an inline object. -/
def Fits (reserved : List String) (name : String) (definition : Definition) : Prop :=
  Names.base name ∉ reserved → Unbracketed name ∧ ∃ fields, definition = .record fields

theorem fits_inline {name : String} (plain : Unbracketed name) (reserved : List String)
    (fields : List Field) : Fits reserved name (.record fields) :=
  fun _ => ⟨plain, fields, rfl⟩

theorem fits_document {reserved : List String} {name : String}
    (isReserved : Names.base name ∈ reserved) (definition : Definition) :
    Fits reserved name definition :=
  fun free => absurd isReserved free

/-- An indexed registry in which only inline objects stand under bases that are not reserved. -/
structure Consistent (reserved : List String) (definitions : Definitions) : Prop where
  indexed : definitions.Indexed
  fits : ∀ name definition, (name, definition) ∈ definitions.entries →
    Fits reserved name definition

namespace Consistent

variable {reserved : List String} {definitions : Definitions}

theorem empty (reserved : List String) : Consistent reserved {} := by
  constructor
  · exact Definitions.Indexed.empty
  · intro name definition member
    cases member

/-- What is found under a name that is not reserved is an inline object of that name. -/
theorem of_findByBase? (consistent : Consistent reserved definitions) {name : String}
    (free : name ∉ reserved) {found : String × Definition}
    (known : definitions.findByBase? name = some found) :
    ∃ fields, found = (name, .record fields) := by
  obtain ⟨other, definition⟩ := found
  obtain ⟨member, same⟩ := consistent.indexed.findByBase?_eq_some_iff.mp known
  obtain ⟨plain, fields, record⟩ := consistent.fits other definition member (same ▸ free)
  rw [Names.base_of_unbracketed plain] at same
  exact ⟨fields, by rw [same, record]⟩

theorem insert_new (consistent : Consistent reserved definitions) {name : String}
    {definition : Definition} (fits : Fits reserved name definition)
    (fresh : definitions.findByBase? (Names.base name) = none) :
    Consistent reserved (definitions.insert name definition) := by
  refine ⟨consistent.indexed.insert_new fresh _, fun other found member => ?_⟩
  rw [consistent.indexed.entries_insert_new fresh] at member
  rcases List.mem_append.mp member with old | now
  · exact consistent.fits other found old
  · cases List.mem_singleton.mp now
    exact fits

theorem insert_known (consistent : Consistent reserved definitions) {name : String}
    {definition : Definition} (fits : Fits reserved name definition)
    (known : name ∈ definitions.names) : Consistent reserved (definitions.insert name definition) := by
  refine ⟨consistent.indexed.insert_known known _, fun other found member => ?_⟩
  rcases Entries.mem_insert consistent.indexed.distinct member with ⟨rfl, rfl⟩ | ⟨-, old⟩
  · exact fits
  · exact consistent.fits other found old

end Consistent

/-! ## Parents first -/

/-- Objects in an order in which each of them is asked for from the start or by an earlier one, and
has the fields that its schema resolves to under its name. -/
inductive ParentsFirst (reserved : List String) (mappings : Entries String) :
    (String → Schema → Prop) → List Registered → Prop where
  | nil {asked : String → Schema → Prop} : ParentsFirst reserved mappings asked []
  | cons {asked : String → Schema → Prop} {name : String} {object : Registered}
      {rest : List Registered} {state : State} : asked name object.schema →
      object.name = ownName reserved name →
      Ensures (Resolve.object (.registering reserved) mappings object.name object.schema) state
        (fun found _ => found = object.fields) →
      ParentsFirst reserved mappings
        (fun other schema => asked other schema ∨ AskedIn object.name object.schema other schema)
        rest →
      ParentsFirst reserved mappings asked (object :: rest)

namespace ParentsFirst

variable {reserved : List String} {mappings : Entries String}

theorem mono {fewer more : String → Schema → Prop} {objects : List Registered}
    (ordered : ParentsFirst reserved mappings fewer objects)
    (weaken : ∀ name schema, fewer name schema → more name schema) :
    ParentsFirst reserved mappings more objects := by
  induction ordered generalizing more with
  | nil => exact .nil
  | cons isAsked named resolved _ ih =>
      refine .cons (weaken _ _ isAsked) named resolved (ih fun name schema known => ?_)
      exact known.imp_left (weaken name schema)

theorem append {asked : String → Schema → Prop} {before after : List Registered}
    (first : ParentsFirst reserved mappings asked before)
    (second : ParentsFirst reserved mappings asked after) :
    ParentsFirst reserved mappings asked (before ++ after) := by
  induction first with
  | nil => exact second
  | cons isAsked named resolved _ ih =>
      exact .cons isAsked named resolved (ih (second.mono fun _ _ known => .inl known))

theorem name_not_mem {asked : String → Schema → Prop} {objects : List Registered}
    (ordered : ParentsFirst reserved mappings asked objects) :
    ∀ object ∈ objects, object.name ∉ reserved := by
  induction ordered with
  | nil => simp
  | cons _ named _ _ ih =>
      intro object member
      rcases List.mem_cons.mp member with rfl | later
      · rw [named]
        exact ownName_not_mem reserved _
      · exact ih object later

theorem unbracketed {asked : String → Schema → Prop} {objects : List Registered}
    (ordered : ParentsFirst reserved mappings asked objects)
    (plain : ∀ name schema, asked name schema → Unbracketed name) :
    ∀ object ∈ objects, Unbracketed object.name := by
  induction ordered with
  | nil => simp
  | @cons _ name first _ _ isAsked named _ _ ih =>
      have own : Unbracketed first.name := by
        rw [named]
        exact unbracketed_ownName (plain name _ isAsked) reserved
      intro object member
      rcases List.mem_cons.mp member with rfl | later
      · exact own
      · refine ih ?_ object later
        rintro _ schema (old | ⟨entry, -, rfl, -⟩)
        · exact plain _ schema old
        · exact own.synthesized entry.1

end ParentsFirst

/-! ## Growth -/

/-- What is left of a state in a later one, and what has come. -/
structure Grown (reserved : List String) (first last : State) (added : List Registered) : Prop where
  entries : last.definitions.entries = first.definitions.entries ++ added.map Registered.entry
  consistent : Consistent reserved last.definitions
  notes : ∃ notes : List Diagnostic, last.diagnostics = first.diagnostics ++ notes ∧
    ∀ note ∈ notes, note.severity = .warning

theorem Grown.trans {reserved : List String} {first middle last : State}
    {before after : List Registered} (left : Grown reserved first middle before)
    (right : Grown reserved middle last after) : Grown reserved first last (before ++ after) := by
  obtain ⟨early, earlyNotes, earlyWarnings⟩ := left.notes
  obtain ⟨late, lateNotes, lateWarnings⟩ := right.notes
  refine ⟨?_, right.consistent, early ++ late, ?_, fun note member => ?_⟩
  · rw [right.entries, left.entries, List.map_append, List.append_assoc]
  · rw [lateNotes, earlyNotes, List.append_assoc]
  · rcases List.mem_append.mp member with inEarly | inLate
    · exact earlyWarnings note inEarly
    · exact lateWarnings note inLate

theorem renamingNotes_warn (reserved : List String) (name : String) :
    ∀ note ∈ renamingNotes reserved name, note.severity = .warning := by
  unfold renamingNotes
  split <;> simp

theorem Grown.note {reserved : List String} {state : State}
    (consistent : Consistent reserved state.definitions) (name : String) :
    Grown reserved state (state.note (renamingNotes reserved name)) [] :=
  ⟨by simp, consistent, _, rfl, renamingNotes_warn reserved name⟩

/-- A visit of a new object, once the objects inside of it have come. -/
theorem Grown.object {reserved : List String} {name own : String} {state inner : State}
    {nested : List Registered} (isOwn : ownName reserved name = own) (plain : Unbracketed own)
    (consistent : Consistent reserved state.definitions)
    (fresh : state.definitions.findByBase? (Names.base own) = none)
    (inside : Grown reserved (state.taken reserved name) inner nested) (schema : Schema)
    (fields : List Field) :
    Grown reserved state (inner.put own (.record fields)) (⟨own, schema, fields⟩ :: nested) := by
  have taken : (state.taken reserved name).definitions.entries =
      state.definitions.entries ++ [(own, .record [])] := by
    rw [State.taken, isOwn]
    exact consistent.indexed.entries_insert_new fresh _
  have split : inner.definitions.entries =
      state.definitions.entries ++ (own, .record []) :: nested.map Registered.entry := by
    rw [inside.entries, taken, List.append_assoc]
    rfl
  have member : (own, Definition.record []) ∈ inner.definitions.entries := by simp [split]
  have known : own ∈ inner.definitions.names := Entries.mem_keys member
  obtain ⟨notes, isNotes, warnings⟩ := inside.notes
  refine ⟨?_, inside.consistent.insert_known (fits_inline plain _ _) known,
    renamingNotes reserved name ++ notes, ?_, fun note isNote => ?_⟩
  · rw [State.put_definitions, inside.consistent.indexed.entries_insert_known split]
    rfl
  · rw [State.put_diagnostics, isNotes, State.taken, State.put_diagnostics, State.note_diagnostics,
      List.append_assoc]
  · rcases List.mem_append.mp isNote with own | later
    · exact renamingNotes_warn reserved name note own
    · exact warnings note later

theorem AskedBy.unbracketed {name asked : String} {schema object : Schema}
    (isAsked : AskedBy name schema asked object) (plain : Unbracketed name) : Unbracketed asked := by
  obtain ⟨rfl, -⟩ := isAsked
  exact plain

theorem AskedIn.unbracketed {owner asked : String} {schema object : Schema}
    (isAsked : AskedIn owner schema asked object) (plain : Unbracketed owner) :
    Unbracketed asked := by
  obtain ⟨entry, -, byProperty⟩ := isAsked
  exact byProperty.unbracketed (plain.synthesized entry.1)

/-- Visits leave every entry in its place, and put the new objects behind, parents first. -/
theorem Visits.grown {reserved : List String} {mappings : Entries String}
    {asked : String → Schema → Prop} {first last : State}
    (visits : Visits reserved mappings asked first last)
    (consistent : Consistent reserved first.definitions)
    (plain : ∀ name schema, asked name schema → Unbracketed name) :
    ∃ added, Grown reserved first last added ∧ ParentsFirst reserved mappings asked added := by
  induction visits with
  | done state => exact ⟨[], ⟨by simp, consistent, [], by simp, by simp⟩, .nil⟩
  | @known _ name _ _ _ _ _ _ _ ih =>
      obtain ⟨added, grown, ordered⟩ := ih consistent plain
      exact ⟨added, (Grown.note consistent name).trans grown, ordered⟩
  | @new asked name schema fields state inner last isAsked fresh _ resolved _ inside later =>
      have ownPlain := unbracketed_ownName (plain name schema isAsked) reserved
      rw [← Names.base_of_unbracketed ownPlain] at fresh
      have taken : Consistent reserved (state.taken reserved name).definitions :=
        consistent.insert_new (fits_inline ownPlain _ _) fresh
      obtain ⟨nested, grownInside, orderedInside⟩ :=
        inside taken fun _ _ isAsked => isAsked.unbracketed ownPlain
      have visited := Grown.object rfl ownPlain consistent fresh grownInside schema fields
      obtain ⟨rest, grownRest, orderedRest⟩ := later visited.consistent plain
      have ordered : ParentsFirst reserved mappings asked
          (⟨ownName reserved name, schema, fields⟩ :: nested) :=
        ParentsFirst.cons isAsked rfl (resolved.mono fun _ _ known => known.1)
          (orderedInside.mono fun _ _ known => .inr known)
      exact ⟨_, visited.trans grownRest, ordered.append orderedRest⟩

section Grown

variable {reserved : List String} {name : String} {state : State}

theorem type_grown (consistent : Consistent reserved state.definitions) (plain : Unbracketed name)
    (mappings : Entries String) (schema : Schema) :
    Ensures (type (.registering reserved) mappings name schema) state fun _ last =>
      ∃ added, Grown reserved state last added ∧
        ParentsFirst reserved mappings (AskedBy name schema) added := by
  refine (type_visits reserved mappings schema name state).mono fun _ last visits => ?_
  exact visits.grown consistent fun _ _ isAsked => isAsked.unbracketed plain

theorem object_grown (consistent : Consistent reserved state.definitions) (plain : Unbracketed name)
    (mappings : Entries String) (schema : Schema) :
    Ensures (object (.registering reserved) mappings name schema) state fun _ last =>
      ∃ added, Grown reserved state last added ∧
        ParentsFirst reserved mappings (AskedIn name schema) added := by
  refine (object_visits reserved mappings name schema state).mono fun _ last visits => ?_
  exact visits.grown consistent fun _ _ isAsked => isAsked.unbracketed plain

end Grown

end ClientGen.Resolve
