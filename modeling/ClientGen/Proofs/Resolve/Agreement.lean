import ClientGen.Proofs.Resolve.Registry

/-!
Agreement of fields with the registry. A field that carries the fields of an inline object names a
registered record with the same fields, as long as no object has the name of one that it is inside
of. Such a name is longer than theirs, unless a property adds nothing to it.
-/

set_option autoImplicit false

namespace ClientGen

/-- The names that are part of the text of a type: the text itself, and those in the item of an
array or in a member of a union. -/
inductive Mentions : String → String → Prop where
  | itself (name : String) : Mentions name name
  | item {inner name : String} : Mentions inner name → Mentions ("Array<" ++ inner ++ ">") name
  | member {members : List String} {member name : String} : member ∈ members →
      Mentions member name → Mentions (String.intercalate " | " members) name

/-- At any depth, the fields of an inline object are those of a record that the type names. -/
inductive Field.Agrees (find : String → Option Definition) : Field → Prop where
  | plain {field : Field} : field.properties = none → Agrees find field
  | inline {field : Field} {name : String} {children : List Field} :
      field.properties = some children → Mentions field.type name →
      find name = some (.record children) → (∀ child ∈ children, Agrees find child) →
      Agrees find field

/-- The fields of a record, or the one field of a scalar. -/
def Definition.shown : Definition → List Field
  | .record fields => fields
  | .scalar field => [field]

namespace Resolve

open Names (Unbracketed)

/-! ## Views of the registry -/

def Extends (smaller larger : String → Option Definition) : Prop :=
  ∀ name definition, smaller name = some definition → larger name = some definition

theorem Extends.agrees {smaller larger : String → Option Definition}
    (extended : Extends smaller larger) {field : Field} (agrees : field.Agrees smaller) :
    field.Agrees larger := by
  induction agrees with
  | plain none => exact .plain none
  | inline children mentioned found _ ih =>
      exact .inline children mentioned (extended _ _ found) ih

/-- The definitions but those that are still being resolved. -/
def visible (pending : List String) (definitions : Definitions) (name : String) :
    Option Definition :=
  if name ∈ pending then none else definitions.get? name

/-- All fields of what is resolved agree with what is resolved. -/
def Settled (pending : List String) (definitions : Definitions) : Prop :=
  ∀ entry ∈ definitions.entries, entry.1 ∉ pending →
    ∀ field ∈ entry.2.shown, field.Agrees (visible pending definitions)

section Views

variable {pending : List String} {definitions : Definitions} {name : String}

theorem visible_eq_some_iff (indexed : definitions.Indexed) {definition : Definition} :
    visible pending definitions name = some definition ↔
      name ∉ pending ∧ (name, definition) ∈ definitions.entries := by
  unfold visible
  split
  · next taken => simp [taken]
  · next free => rw [indexed.get?_eq_some_iff, and_iff_right free]

theorem visible_extends {later : Definitions} (indexed : definitions.Indexed)
    (laterIndexed : later.Indexed) (kept : definitions.entries ⊆ later.entries) :
    Extends (visible pending definitions) (visible pending later) := by
  intro other definition found
  obtain ⟨free, member⟩ := (visible_eq_some_iff indexed).mp found
  exact (visible_eq_some_iff laterIndexed).mpr ⟨free, kept member⟩

theorem Settled.insert_new (settled : Settled pending definitions) (indexed : definitions.Indexed)
    (fresh : definitions.findByBase? (Names.base name) = none) {definition : Definition}
    (agrees : ∀ field ∈ definition.shown, field.Agrees (visible pending definitions)) :
    Settled pending (definitions.insert name definition) := by
  have entries := indexed.entries_insert_new fresh definition
  have extended : Extends (visible pending definitions)
      (visible pending (definitions.insert name definition)) := by
    refine visible_extends indexed (indexed.insert_new fresh definition) ?_
    rw [entries]
    exact List.subset_append_left _ _
  intro entry member free field shown
  rw [entries] at member
  rcases List.mem_append.mp member with old | now
  · exact extended.agrees (settled entry old free field shown)
  · cases List.mem_singleton.mp now
    exact extended.agrees (agrees field shown)

theorem Settled.take (settled : Settled pending definitions) (indexed : definitions.Indexed)
    (fresh : definitions.findByBase? (Names.base name) = none) :
    Settled (name :: pending) (definitions.insert name (.record [])) := by
  have entries := indexed.entries_insert_new fresh (.record [])
  have apart := indexed.findByBase?_eq_none_iff.mp fresh
  have extended : Extends (visible pending definitions)
      (visible (name :: pending) (definitions.insert name (.record []))) := by
    intro other definition found
    obtain ⟨free, member⟩ := (visible_eq_some_iff indexed).mp found
    refine (visible_eq_some_iff (indexed.insert_new fresh _)).mpr ⟨?_, ?_⟩
    · intro taken
      rcases List.mem_cons.mp taken with rfl | old
      · exact apart other (Entries.mem_keys member) rfl
      · exact free old
    · rw [entries]
      exact List.mem_append_left _ member
  intro entry member free field shown
  rw [entries] at member
  rcases List.mem_append.mp member with old | now
  · refine extended.agrees (settled entry old (fun taken => free ?_) field shown)
    exact List.mem_cons_of_mem _ taken
  · cases List.mem_singleton.mp now
    exact absurd (.head _) free

variable (indexed : definitions.Indexed) (known : name ∈ definitions.names) (fields : List Field)

include indexed known

theorem put_extends : Extends (visible (name :: pending) definitions)
    (visible pending (definitions.insert name (.record fields))) := by
  intro other definition found
  obtain ⟨apart, member⟩ := (visible_eq_some_iff indexed).mp found
  rw [List.mem_cons, not_or] at apart
  refine (visible_eq_some_iff (indexed.insert_known known _)).mpr ⟨apart.2, ?_⟩
  rw [← (indexed.insert_known known _).get?_eq_some_iff, Definitions.get?_insert,
    if_neg fun same => apart.1 same.symm]
  exact indexed.get?_eq_some_iff.mpr member

theorem Settled.put (settled : Settled (name :: pending) definitions)
    (agrees : ∀ field ∈ fields, field.Agrees (visible (name :: pending) definitions)) :
    Settled pending (definitions.insert name (.record fields)) := by
  have extended : Extends (visible (name :: pending) definitions) _ :=
    put_extends indexed known fields
  rintro ⟨other, definition⟩ member apart field shown
  rcases Entries.mem_insert indexed.distinct member with ⟨rfl, rfl⟩ | ⟨different, old⟩
  · exact extended.agrees (agrees field shown)
  · refine extended.agrees (settled _ old ?_ field shown)
    simp [different, apart]

end Views

/-! ## Names of what is being resolved -/

/-- Whether a name is none of those of the inline objects that are being resolved, because it is
longer. Those of the document's own definitions are reserved. -/
def Behind (reserved pending : List String) (name : String) : Prop :=
  ∀ other ∈ pending, Names.base other ∈ reserved ∨ other.length < name.length

theorem length_le_ownName (reserved : List String) (name : String) :
    name.length ≤ (ownName reserved name).length := by
  unfold ownName
  split
  · obtain ⟨number, -, same, -, -⟩ := Names.firstFree_spec reserved name
    rw [same, String.length_append]
    exact Nat.le_add_right _ _
  · exact Nat.le_refl _

section Behind

variable {reserved pending : List String} {name : String}

theorem Behind.ownName_not_mem (behind : Behind reserved pending name) (plain : Unbracketed name) :
    ownName reserved name ∉ pending := by
  intro member
  rcases behind _ member with isReserved | shorter
  · rw [Names.base_of_unbracketed (unbracketed_ownName plain reserved)] at isReserved
    exact Resolve.ownName_not_mem reserved name isReserved
  · have longer := length_le_ownName reserved name
    omega

theorem Behind.synthesized (behind : Behind reserved pending name) {property : String}
    (title : Text.pascalCase property ≠ "") :
    Behind reserved (ownName reserved name :: pending)
      (Names.synthesized (ownName reserved name) property) := by
  have longer := length_le_ownName reserved name
  have grows : 0 < (Text.pascalCase property).length := by
    rw [Nat.pos_iff_ne_zero]
    intro empty
    exact title (String.length_eq_zero_iff.mp empty)
  intro other member
  rw [Names.synthesized, String.length_append]
  rcases List.mem_cons.mp member with rfl | old
  · right
    omega
  · refine (behind other old).imp_right fun shorter => ?_
    omega

end Behind

/-- An inline object in which, at any depth, the properties that hold inline objects have names that
are not lost in Pascal case. -/
inductive Titled : Schema → Prop where
  | intro {schema : Schema} :
      (∀ entry ∈ schema.declaredProperties, entry.2.inlineObjects ≠ [] →
        Text.pascalCase entry.1 ≠ "") →
      (∀ entry ∈ schema.declaredProperties, ∀ object ∈ entry.2.inlineObjects, Titled object) →
      Titled schema

/-! ## Resolving -/

/-- Whether the fields of an inline object, if there are any, are those of a record that one of
some texts names. -/
def Named (find : String → Option Definition) (texts : List String)
    (properties : Option (List Field)) : Prop :=
  ∀ children, properties = some children → ∃ text ∈ texts, ∃ name, Mentions text name ∧
    find name = some (.record children) ∧ ∀ child ∈ children, child.Agrees find

section Named

variable {find later : String → Option Definition} {texts more : List String}
  {properties : Option (List Field)}

theorem Named.mono (named : Named find texts properties) (extended : Extends find later)
    (kept : texts ⊆ more) : Named later more properties := by
  intro children some
  obtain ⟨text, member, name, mentioned, found, agree⟩ := named children some
  exact ⟨text, kept member, name, mentioned, extended _ _ found,
    fun child isChild => extended.agrees (agree child isChild)⟩

theorem Named.agrees {field : Field} (named : Named find [field.type] field.properties) :
    field.Agrees find := by
  cases shown : field.properties with
  | none => exact .plain shown
  | some children =>
      obtain ⟨text, member, name, mentioned, found, agree⟩ := named children shown
      cases List.mem_singleton.mp member
      exact .inline shown mentioned found agree

theorem Named.item {text : String} (named : Named find [text] properties) :
    Named find (texts ++ ["Array<" ++ text ++ ">"]) properties := by
  intro children some
  obtain ⟨_, member, name, mentioned, known⟩ := named children some
  cases List.mem_singleton.mp member
  exact ⟨_, by simp, name, .item mentioned, known⟩

theorem Named.union (named : Named find texts properties) (nullable : Bool) :
    Named find [unionText texts nullable] properties := by
  intro children some
  obtain ⟨text, member, name, mentioned, known⟩ := named children some
  refine ⟨_, List.mem_singleton_self _, name, .member ?_ mentioned, known⟩
  have distinct := List.mem_eraseDups.mpr member
  split
  · exact List.mem_append_left _ distinct
  · exact distinct

end Named

theorem Grown.kept {reserved : List String} {first last : State} {added : List Registered}
    (grown : Grown reserved first last added) :
    first.definitions.entries ⊆ last.definitions.entries := by
  rw [grown.entries]
  exact List.subset_append_left _ _

theorem Grown.visible_extends {reserved pending : List String} {first last : State}
    {added : List Registered} (grown : Grown reserved first last added)
    (consistent : Consistent reserved first.definitions) :
    Extends (visible pending first.definitions) (visible pending last.definitions) :=
  Resolve.visible_extends consistent.indexed grown.consistent.indexed grown.kept

section Settles

variable {reserved : List String} {mappings : Entries String}

/-- What an object is resolved to agrees with the registry after it. -/
def ObjectSettles (reserved : List String) (mappings : Entries String) (schema : Schema) : Prop :=
  ∀ owner pending state, Consistent reserved state.definitions →
    Settled pending state.definitions → Unbracketed owner →
    (∀ entry ∈ schema.declaredProperties, entry.2.inlineObjects ≠ [] →
      Behind reserved pending (Names.synthesized owner entry.1)) →
    (∀ entry ∈ schema.declaredProperties, ∀ object ∈ entry.2.inlineObjects, Titled object) →
    Ensures (object (.registering reserved) mappings owner schema) state fun fields last =>
      Settled pending last.definitions ∧
        ∀ field ∈ fields, field.Agrees (visible pending last.definitions)

def TypeSettles (reserved : List String) (mappings : Entries String) (schema : Schema) : Prop :=
  ∀ name pending state, Consistent reserved state.definitions →
    Settled pending state.definitions → Unbracketed name →
    (schema.inlineObjects ≠ [] → Behind reserved pending name) →
    (∀ object ∈ schema.inlineObjects, Titled object) →
    Ensures (type (.registering reserved) mappings name schema) state fun resolved last =>
      Settled pending last.definitions ∧
        Named (visible pending last.definitions) [resolved.type] resolved.properties

theorem inlineObject_settles {schema : Schema} (inside : ObjectSettles reserved mappings schema)
    (titled : Titled schema) {name : String} {pending : List String} {state : State}
    (consistent : Consistent reserved state.definitions)
    (settled : Settled pending state.definitions) (plain : Unbracketed name)
    (behind : Behind reserved pending name) :
    Ensures (inlineObject (.registering reserved) name fun own =>
        object (.registering reserved) mappings own schema) state
      fun named last => Settled pending last.definitions ∧
        Named (visible pending last.definitions) [named.1] (some named.2) := by
  have free := behind.ownName_not_mem plain
  have ownPlain := unbracketed_ownName plain reserved
  unfold Ensures
  cases lookup : state.definitions.findByBase? (ownName reserved name) with
  | some found =>
      -- The object is not one of those around it, whose names are shorter, so it is resolved.
      rw [inlineObject_run_known lookup]
      obtain ⟨fields, rfl⟩ := consistent.of_findByBase? (ownName_not_mem reserved name) lookup
      obtain ⟨member, -⟩ := consistent.indexed.findByBase?_eq_some_iff.mp lookup
      refine ⟨settled, ?_⟩
      rintro _ ⟨⟩
      refine ⟨_, List.mem_singleton_self _, _, .itself _, ?_, ?_⟩
      · exact (visible_eq_some_iff consistent.indexed).mpr ⟨free, member⟩
      · exact settled _ member free
  | none =>
      rw [inlineObject_run_new lookup]
      rw [← Names.base_of_unbracketed ownPlain] at lookup
      obtain ⟨titles, deeper⟩ := titled
      have taken : Consistent reserved (state.taken reserved name).definitions :=
        consistent.insert_new (fits_inline ownPlain _ _) lookup
      obtain ⟨nested, grown, -⟩ := object_grown taken ownPlain mappings schema
      obtain ⟨settledInside, agree⟩ := inside (ownName reserved name) (ownName reserved name :: pending)
        (state.taken reserved name) taken (settled.take consistent.indexed lookup) ownPlain
        (fun entry member objects => behind.synthesized (titles entry member objects)) deeper
      generalize (object (.registering reserved) mappings (ownName reserved name) schema).run
        (state.taken reserved name) = result at grown settledInside agree ⊢
      obtain ⟨fields, inner⟩ := result
      have isTaken : (ownName reserved name, .record []) ∈
          (state.taken reserved name).definitions.entries := by
        rw [State.taken, State.put_definitions, State.note_definitions,
          consistent.indexed.entries_insert_new lookup]
        exact List.mem_append_right _ (.head _)
      have known : ownName reserved name ∈ inner.definitions.names :=
        Entries.mem_keys (grown.kept isTaken)
      have indexed := grown.consistent.indexed
      refine ⟨settledInside.put indexed known fields agree, ?_⟩
      rintro _ ⟨⟩
      refine ⟨_, List.mem_singleton_self _, _, .itself _, ?_, ?_⟩
      · refine (visible_eq_some_iff (indexed.insert_known known _)).mpr ⟨free, ?_⟩
        rw [← (indexed.insert_known known _).get?_eq_some_iff, Definitions.get?_insert, if_pos rfl]
      · intro field member
        exact (put_extends indexed known fields).agrees (agree field member)

theorem object_settles_of_type {schema : Schema}
    (below : ∀ entry ∈ schema.declaredProperties, TypeSettles reserved mappings entry.2) :
    ObjectSettles reserved mappings schema := by
  intro owner pending state consistent settled plain behind titled
  have keeps : KeepsFields (.registering reserved) mappings owner schema.declaredProperties
      fun _ fields last => Consistent reserved last.definitions ∧
        Settled pending last.definitions ∧
        ∀ field ∈ fields, field.Agrees (visible pending last.definitions) := by
    constructor
    · intro _ _ _ _ _ _ known
      exact known
    · rintro seen entry fields later turn - ⟨laterConsistent, laterSettled, agree⟩
      have member : entry ∈ schema.declaredProperties := turn.subset (by simp)
      have entryPlain := plain.synthesized entry.1
      obtain ⟨added, grown, -⟩ := type_grown laterConsistent entryPlain mappings entry.2
      obtain ⟨lastSettled, named⟩ := below entry member _ pending later laterConsistent laterSettled
        entryPlain (behind entry member) (titled entry member)
      intro required
      refine ⟨grown.consistent, lastSettled, fun field isField => ?_⟩
      rcases List.mem_append.mp isField with old | now
      · exact (grown.visible_extends laterConsistent).agrees (agree field old)
      · cases List.mem_singleton.mp now
        exact Named.agrees named
  refine (object_ensures keeps ⟨consistent, settled, by simp⟩).mono ?_
  rintro fields last ⟨-, lastSettled, agree⟩
  exact ⟨lastSettled, agree⟩

theorem inlineObject_grown {state : State} (consistent : Consistent reserved state.definitions)
    {name : String} (plain : Unbracketed name) (mappings : Entries String) (schema : Schema) :
    Ensures (inlineObject (.registering reserved) name fun own =>
        object (.registering reserved) mappings own schema) state
      fun _ last => ∃ added, Grown reserved state last added := by
  have visits := @inlineObject_visits reserved mappings
    (fun asked object => asked = name ∧ object = schema) name schema ⟨rfl, rfl⟩
    (fun owner => object_visits reserved mappings owner schema) state
  refine visits.mono fun _ last visits => ?_
  obtain ⟨added, grown, -⟩ := visits.grown consistent (by
    rintro _ _ ⟨rfl, -⟩
    exact plain)
  exact ⟨added, grown⟩

/-- Each word of a type keeps the agreement if the schemas below the schema do. -/
theorem keepsWords_settles {schema : Schema} {name : String} {pending : List String}
    (several : schema.soleMember? = none) (inline : schema.reference = none)
    (free : schema.enumValues = [])
    (ofItems : ∀ items, schema.items = some items → TypeSettles reserved mappings items)
    (ofValues : ∀ values, schema.additional = some (.described values) →
      TypeSettles reserved mappings values)
    (ofDeclared : ∀ entry ∈ schema.declaredProperties, TypeSettles reserved mappings entry.2)
    (plain : Unbracketed name) (behind : schema.inlineObjects ≠ [] → Behind reserved pending name)
    (titled : ∀ object ∈ schema.inlineObjects, Titled object) :
    KeepsWords (.registering reserved) mappings name schema fun found last =>
      Consistent reserved last.definitions ∧ Settled pending last.definitions ∧
        Named (visible pending last.definitions) found.1 found.2.properties := by
  have objects := Schema.inlineObjects_of_words several inline free
  -- The objects of a part of the schema are among its own.
  have part {inner : Schema} (among : inner.inlineObjects ⊆ schema.inlineObjects) :
      (inner.inlineObjects ≠ [] → Behind reserved pending name) ∧
        ∀ object ∈ inner.inlineObjects, Titled object := by
    refine ⟨fun some => behind fun none => some ?_, fun object member => titled _ (among member)⟩
    exact List.subset_nil.mp (none ▸ among)
  constructor
  · rintro word found later - - ⟨consistent, settled, named⟩
    exact ⟨consistent, settled, named.mono (fun _ _ => id) (List.subset_append_left _ _)⟩
  · rintro found later - - ⟨consistent, settled, -⟩
    refine ⟨consistent, settled, ?_⟩
    rintro _ ⟨⟩
  · rintro items found later member isItems ⟨consistent, settled, -⟩
    have among : items.inlineObjects ⊆ schema.inlineObjects := by
      rw [objects, if_pos member, isItems]
      exact List.subset_append_left _ _
    obtain ⟨added, grown, -⟩ := type_grown consistent plain mappings items
    obtain ⟨lastSettled, named⟩ := ofItems items isItems name pending later consistent settled plain
      (part among).1 (part among).2
    exact ⟨grown.consistent, lastSettled, Named.item named⟩
  · rintro found later member properties ⟨consistent, settled, -⟩
    have isObject : schema ∈ schema.inlineObjects := by
      rw [objects, if_pos member, if_pos properties]
      exact List.mem_append_right _ (.head _)
    obtain ⟨added, grown⟩ := inlineObject_grown consistent plain mappings schema
    obtain ⟨lastSettled, named⟩ := inlineObject_settles (object_settles_of_type ofDeclared)
      (titled _ isObject) consistent settled plain (behind (List.ne_nil_of_mem isObject))
    refine ⟨grown.consistent, lastSettled, ?_⟩
    exact Named.mono named (fun _ _ => id) (List.subset_append_right _ _)
  · rintro values found later member empty maps isValues ⟨consistent, settled, named⟩
    have among : values.inlineObjects ⊆ schema.inlineObjects := by
      rw [objects, if_pos member, empty, if_pos maps, isValues]
      exact List.subset_append_right _ _
    obtain ⟨added, grown, -⟩ := type_grown consistent plain mappings values
    obtain ⟨lastSettled, -⟩ := ofValues values isValues name pending later consistent settled plain
      (part among).1 (part among).2
    exact ⟨grown.consistent, lastSettled,
      named.mono (grown.visible_extends consistent) (List.subset_append_left _ _)⟩

theorem type_settles (reserved : List String) (mappings : Entries String) (schema : Schema) :
    TypeSettles reserved mappings schema := by
  induction schema using Schema.induction_below with
  | step schema inSole inItems inValues inDeclared =>
    intro name pending state consistent settled plain behind titled
    rcases schema.form with ⟨sole, single⟩ | ⟨path, refers⟩ | ⟨several, inline, listed⟩ |
      ⟨several, inline, free⟩
    · rw [type_of_sole _ _ _ single]
      rw [Schema.inlineObjects_of_sole single] at behind titled
      exact inSole sole single name pending state consistent settled plain behind titled
    · rw [type_of_reference _ _ _ refers]
      refine ⟨settled, ?_⟩
      rintro _ ⟨⟩
    · rw [type_of_enum _ _ _ several inline listed]
      refine ⟨settled, ?_⟩
      rintro _ ⟨⟩
    · rw [type_of_words _ _ _ several inline free, ensures_bind]
      have keeps : KeepsWords (.registering reserved) mappings name schema _ :=
        keepsWords_settles several inline free inItems inValues inDeclared plain behind titled
      refine (words_ensures keeps ⟨consistent, settled, by rintro _ ⟨⟩⟩).mono ?_
      rintro found last ⟨-, lastSettled, named⟩
      exact ⟨lastSettled, named.union _⟩

theorem object_settles (reserved : List String) (mappings : Entries String) (schema : Schema) :
    ObjectSettles reserved mappings schema :=
  object_settles_of_type fun entry _ => type_settles reserved mappings entry.2

end Settles

end Resolve

end ClientGen
