import ClientGen.Proofs.Resolve.Rules

/-!
What carries an inline object: a field or a response whose type mentions the object by its name. The
object comes first in the type if its schema is the first of a union that is resolved, and if no
array around it is one of a union.
-/

set_option autoImplicit false

namespace ClientGen

namespace Field

/-- The fields of the inline object in the type of a field, none if there is no such object. -/
def children (field : Field) : List Field := field.properties.getD []

end Field

/-- A type in some arrays, one inside of the other. -/
def inArrays : Nat → String → String
  | 0, type => type
  | depth + 1, type => "Array<" ++ inArrays depth type ++ ">"

/-- Whether a name in some arrays is a type or the first member of a union. -/
def HeadedBy (name type : String) : Prop :=
  ∃ depth, type = inArrays depth name ∨ ∃ others, type = inArrays depth name ++ " | " ++ others

/-- What may carry an inline object: the name that the object has or would have, the type, and the
fields of the object. -/
structure Carrier where
  name : String
  type : String
  children : List Field

namespace Carrier

def ofField (owner : String) (field : Field) : Carrier :=
  ⟨Names.synthesized owner field.name, field.type, field.children⟩

def ofResolved (name : String) (resolved : ResolvedType) : Carrier :=
  ⟨name, resolved.type, resolved.properties.getD []⟩

/-- From a carrier to itself and to all that is nested in its object. -/
inductive Reaches : Carrier → Carrier → Prop where
  | self (carrier : Carrier) : Reaches carrier carrier
  | field {outer inner : Carrier} {field : Field} :
      field ∈ outer.children → Reaches (ofField outer.name field) inner → Reaches outer inner

/-- Whether an object in a carrier, or nested in it, comes first in its type. -/
def Headed (carrier : Carrier) : Prop :=
  ∀ object, carrier.Reaches object → object.children ≠ [] → HeadedBy object.name object.type

/-- Whether that is so for each of some fields of an object. -/
def HeadedFields (owner : String) (fields : List Field) : Prop :=
  ∀ field ∈ fields, (ofField owner field).Headed

variable {carrier outer inner : Carrier}

theorem Reaches.child (reaches : Reaches outer inner) {field : Field}
    (member : field ∈ inner.children) : Reaches outer (ofField inner.name field) := by
  induction reaches with
  | self carrier => exact .field member (.self _)
  | field outerMember _ ih => exact .field outerMember (ih member)

theorem headed_iff : carrier.Headed ↔
    (carrier.children ≠ [] → HeadedBy carrier.name carrier.type) ∧
      HeadedFields carrier.name carrier.children := by
  constructor
  · intro headed
    refine ⟨headed carrier (.self _), fun field member object reaches => ?_⟩
    exact headed object (.field member reaches)
  · intro headed object reaches nonempty
    cases reaches with
    | self _ => exact headed.1 nonempty
    | field member inside => exact headed.2 _ member object inside nonempty

end Carrier

/-! ## Schemas whose inline object comes first -/

namespace Schema

/-- Whether a schema is resolved by its type words. -/
structure Worded (schema : Schema) : Prop where
  several : schema.soleMember? = none
  inline : schema.reference = none
  free : schema.enumValues = []

/-- A schema whose type carries no inline object. -/
inductive Bare : Schema → Prop where
  | combined {schema sole : Schema} : schema.soleMember? = some sole → Bare sole → Bare schema
  | referring {schema : Schema} {path : String} : schema.reference = some path → Bare schema
  | listed {schema : Schema} : schema.soleMember? = none → schema.reference = none →
      schema.enumValues ≠ [] → Bare schema
  | worded {schema : Schema} : schema.Worded →
      ("object" ∈ schema.typeWords → schema.hasProperties = false) →
      ("array" ∈ schema.typeWords → ∀ items, schema.items = some items → Bare items) → Bare schema

/-- A schema of an inline object, or of arrays of one, that allows nothing else. -/
inductive Alone : Schema → Prop where
  | combined {schema sole : Schema} : schema.soleMember? = some sole → Alone sole → Alone schema
  | object {schema : Schema} : schema.Worded → schema.typeWords = ["object"] →
      schema.hasProperties = true → schema.nullable ≠ some true → Alone schema
  | array {schema items : Schema} : schema.Worded → schema.typeWords = ["array"] →
      schema.nullable ≠ some true → schema.items = some items → Alone items → Alone schema

/-- Whether the first word of a schema is that of an object, or of an array of nothing else. -/
def ObjectFirst (schema : Schema) : Prop :=
  (schema.typeWords.head? = some "object" ∧ schema.hasProperties = true) ∨
    (schema.typeWords.head? = some "array" ∧ ∃ items, schema.items = some items ∧ items.Alone)

/-- A schema for which the inline object, if there is one, comes first in the type; and so do all
that are nested in the object. -/
inductive InFront : Schema → Prop where
  | bare {schema : Schema} : schema.Bare → InFront schema
  | combined {schema sole : Schema} : schema.soleMember? = some sole → InFront sole →
      InFront schema
  | worded {schema : Schema} : schema.Worded → schema.ObjectFirst →
      ("array" ∈ schema.typeWords → ∀ items, schema.items = some items → InFront items) →
      ("object" ∈ schema.typeWords → ∀ entry ∈ schema.declaredProperties, InFront entry.2) →
      InFront schema

end Schema

namespace Resolve

open Carrier (HeadedFields headed_iff)

variable {mappings : Entries String} {name : String} {schema : Schema} {state : State}

theorem inlineObject_detached (fields : String → Step (List Field)) :
    inlineObject .detached name fields = do
      let found ← fields name
      return (name, found) := rfl

theorem type_bare (bare : schema.Bare) (mode : Mode) :
    Ensures (type mode mappings name schema) state fun resolved _ =>
      resolved.properties.getD [] = [] := by
  induction bare generalizing state with
  | combined single _ ih =>
      rw [type_of_sole mode mappings name single]
      exact ih
  | referring refers =>
      rw [type_of_reference mode mappings name refers, ensures_pure]
      rfl
  | listed several inline listed =>
      rw [type_of_enum mode mappings name several inline listed, ensures_pure]
      rfl
  | @worded schema worded noObject _ ih =>
      rw [type_of_words mode mappings name worded.several worded.inline worded.free, ensures_bind]
      have keeps : KeepsWords mode mappings name schema
          fun found _ => found.2.properties.getD [] = [] := by
        constructor
        · exact fun _ _ _ _ _ known => known
        · exact fun _ _ _ _ _ => rfl
        · exact fun items _ _ member found _ => ih member items found
        · intro _ _ member properties
          rw [noObject member] at properties
          cases properties
        · exact fun _ _ _ _ _ _ _ known => known
      exact words_ensures keeps rfl

theorem unionText_sole (member : String) : unionText [member] false = member := by
  simp [unionText, List.eraseDups_cons]

theorem headedBy_unionText (depth : Nat) (others : List String) (nullable : Bool) :
    HeadedBy name (unionText (inArrays depth name :: others) nullable) := by
  have headed (rest : List String) :
      HeadedBy name (String.intercalate " | " (inArrays depth name :: rest)) := by
    refine ⟨depth, ?_⟩
    cases rest with
    | nil => exact .inl (String.intercalate_singleton)
    | cons next rest => exact .inr ⟨String.intercalate " | " (next :: rest), String.intercalate_cons_cons⟩
  rw [unionText, List.eraseDups_cons]
  split
  · exact headed _
  · exact headed _

theorem addWord_object (properties : schema.hasProperties = true)
    (found : List String × ResolvedType) :
    addWord .detached mappings name schema found "object" = do
      let fields ← object .detached mappings name schema
      return (found.1 ++ [name], { found.2 with properties := some fields }) := by
  rw [addWord, if_neg (by decide), if_pos rfl, if_pos properties]
  rfl

theorem addWord_array {mode : Mode} {items : Schema} (isItems : schema.items = some items)
    (found : List String × ResolvedType) :
    addWord mode mappings name schema found "array" = do
      let inner ← type mode mappings name items
      return (found.1 ++ ["Array<" ++ inner.type ++ ">"], { inner with type := "" }) := by
  rw [addWord, if_pos rfl, isItems, itemType]

theorem type_alone (alone : schema.Alone) (mappings : Entries String) (name : String)
    (state : State) :
    Ensures (type .detached mappings name schema) state fun resolved _ =>
      ∃ depth, resolved.type = inArrays depth name := by
  induction alone with
  | combined single _ ih =>
      rw [type_of_sole .detached mappings name single]
      exact ih
  | @object schema worded single properties notNull =>
      rw [type_of_words .detached mappings name worded.several worded.inline worded.free, single,
        decide_eq_false notNull, List.foldlM_cons, addWord_object properties]
      exact ⟨0, unionText_sole name⟩
  | @array schema items worded single notNull found _ ih =>
      rw [type_of_words .detached mappings name worded.several worded.inline worded.free, single,
        decide_eq_false notNull, List.foldlM_cons, addWord_array found]
      change Ensures (type .detached mappings name items) state fun inner _ =>
        ∃ depth, unionText ["Array<" ++ inner.type ++ ">"] false = inArrays depth name
      refine ih.mono fun inner last known => ?_
      obtain ⟨depth, text⟩ := known
      exact ⟨depth + 1, (unionText_sole _).trans (congrArg ("Array<" ++ · ++ ">") text)⟩

/-- The members of a union of which the first is the object in some arrays, and what is known of the
value. -/
def Leads (name : String) (found : List String × ResolvedType) : Prop :=
  (∃ depth others, found.1 = inArrays depth name :: others) ∧
    HeadedFields name (found.2.properties.getD [])

theorem Leads.more {found : List String × ResolvedType} (leads : Leads name found) (word : String)
    {resolved : ResolvedType} (fields : HeadedFields name (resolved.properties.getD [])) :
    Leads name (found.1 ++ [word], resolved) := by
  obtain ⟨⟨depth, others, first⟩, -⟩ := leads
  exact ⟨⟨depth, others ++ [word], by rw [first]; rfl⟩, fields⟩

/-- The fields of an object are headed if those of its properties are. -/
theorem object_headed {owner : String}
    (inside : ∀ entry ∈ schema.declaredProperties, ∀ (name : String) (state : State),
      Ensures (type .detached mappings name entry.2) state fun resolved _ =>
        (Carrier.ofResolved name resolved).Headed) :
    Ensures (object .detached mappings owner schema) state fun fields _ =>
      HeadedFields owner fields := by
  have keeps : KeepsFields .detached mappings owner schema.declaredProperties
      fun _ fields _ => HeadedFields owner fields := by
    constructor
    · exact fun _ _ _ _ _ _ known => known
    · intro seen entry fields state covered _ known
      have member : entry ∈ schema.declaredProperties :=
        covered.subset (List.mem_append_right _ (.head _))
      refine (inside entry member _ state).mono fun resolved last headed required field inFields => ?_
      rcases List.mem_append.mp inFields with earlier | new
      · exact known field earlier
      · rw [List.mem_singleton.mp new]
        exact headed
  exact object_ensures keeps fun _ none => absurd none List.not_mem_nil

/-- The items and the properties that resolving a schema meets have headed types. -/
structure PartsHeaded (mappings : Entries String) (schema : Schema) : Prop where
  items : "array" ∈ schema.typeWords → ∀ items, schema.items = some items →
    ∀ (name : String) (state : State), Ensures (type .detached mappings name items) state
      fun resolved _ => (Carrier.ofResolved name resolved).Headed
  properties : "object" ∈ schema.typeWords → ∀ entry ∈ schema.declaredProperties,
    ∀ (name : String) (state : State), Ensures (type .detached mappings name entry.2) state
      fun resolved _ => (Carrier.ofResolved name resolved).Headed

section PartsHeaded

variable (parts : PartsHeaded mappings schema)

include parts

theorem PartsHeaded.keepsWords : KeepsWords .detached mappings name schema
    fun found _ => Leads name found := by
  constructor
  · exact fun word found _ _ _ leads => leads.more word leads.2
  · exact fun found _ _ _ leads => leads.more _ fun _ none => absurd none List.not_mem_nil
  · intro inner found state member isItems leads
    refine (parts.items member inner isItems name state).mono fun resolved last headed => ?_
    exact leads.more _ (headed_iff.mp headed).2
  · intro found state member _ leads
    rw [inlineObject_detached, ensures_bind]
    refine (object_headed (parts.properties member)).mono fun fields last headed => ?_
    exact leads.more _ headed
  · exact fun values found state _ _ _ _ leads => leads.more _ leads.2

theorem PartsHeaded.first_word (objectFirst : schema.ObjectFirst) :
    ∃ first rest, schema.typeWords = first :: rest ∧
      Ensures (addWord .detached mappings name schema ([], {}) first) state
        fun found _ => Leads name found := by
  rcases objectFirst with ⟨isFirst, hasProperties⟩ | ⟨isFirst, inner, isItems, alone⟩
  · obtain ⟨rest, words⟩ := List.head?_eq_some_iff.mp isFirst
    refine ⟨"object", rest, words, ?_⟩
    have member : "object" ∈ schema.typeWords := words ▸ .head _
    rw [addWord_object hasProperties, ensures_bind]
    refine (object_headed (parts.properties member)).mono fun fields last headed => ?_
    exact ⟨⟨0, [], rfl⟩, headed⟩
  · obtain ⟨rest, words⟩ := List.head?_eq_some_iff.mp isFirst
    refine ⟨"array", rest, words, ?_⟩
    have member : "array" ∈ schema.typeWords := words ▸ .head _
    rw [addWord_array isItems, ensures_bind]
    have headed := parts.items member inner isItems name state
    obtain ⟨depth, text⟩ := type_alone alone mappings name state
    exact ⟨⟨depth + 1, [], congrArg (fun text => ["Array<" ++ text ++ ">"]) text⟩,
      (headed_iff.mp headed).2⟩

theorem PartsHeaded.headed (worded : schema.Worded) (objectFirst : schema.ObjectFirst) :
    Ensures (type .detached mappings name schema) state fun resolved _ =>
      (Carrier.ofResolved name resolved).Headed := by
  obtain ⟨first, rest, words, now⟩ := @first_word mappings name schema state parts objectFirst
  rw [type_of_words .detached mappings name worded.several worded.inline worded.free, words,
    List.foldlM_cons, ensures_bind, ensures_bind]
  refine now.mono fun found last leads => ?_
  have all : Ensures (rest.foldlM (addWord .detached mappings name schema) found) last
      fun found _ => Leads name found :=
    ensures_foldlM leads fun _ _ word member known =>
      addWord_ensures parts.keepsWords (words ▸ .tail _ member) known
  refine all.mono fun found last leads => ?_
  obtain ⟨⟨depth, others, texts⟩, fields⟩ := leads
  refine headed_iff.mpr ⟨fun _ => ?_, fields⟩
  rw [texts]
  exact headedBy_unionText depth others _

end PartsHeaded

/-- If the inline object comes first in a schema, it comes first in the type. -/
theorem type_headed (front : schema.InFront) (mappings : Entries String) (name : String)
    (state : State) :
    Ensures (type .detached mappings name schema) state fun resolved _ =>
      (Carrier.ofResolved name resolved).Headed := by
  induction front generalizing name state with
  | bare bare =>
      refine (type_bare bare .detached).mono fun resolved last none => ?_
      have children : (Carrier.ofResolved name resolved).children = [] := none
      rw [headed_iff, children]
      exact ⟨fun nonempty => absurd rfl nonempty, fun _ none => absurd none List.not_mem_nil⟩
  | combined single _ ih =>
      rw [type_of_sole .detached mappings name single]
      exact ih name state
  | worded worded objectFirst _ _ items properties =>
      exact PartsHeaded.headed ⟨items, properties⟩ worded objectFirst

end Resolve

end ClientGen
