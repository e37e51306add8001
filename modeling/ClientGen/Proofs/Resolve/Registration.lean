import ClientGen.Proofs.Resolve.Frame
import ClientGen.Proofs.Resolve.NestedObjects

/-!
Registering beside plain resolution. As long as the inline objects that are met have names of their
own, both give the same value, and registering adds one record for each object, with the fields that
plain resolution gives it, in the order in which the objects are met.
-/

set_option autoImplicit false

namespace ClientGen

namespace Definitions

/-- The registry after some insertions. -/
def ofList (inserted : List (String × Definition)) : Definitions :=
  inserted.foldl (fun definitions entry => definitions.insert entry.1 entry.2) {}

theorem rooted_ofList (inserted : List (String × Definition)) : (ofList inserted).Rooted := by
  have keeps (definitions : Definitions) (rooted : definitions.Rooted) :
      (inserted.foldl (fun definitions entry => definitions.insert entry.1 entry.2)
        definitions).Rooted := by
    induction inserted generalizing definitions with
    | nil => exact rooted
    | cons entry rest ih => exact ih _ (rooted.insert definitions entry.1 entry.2)
  exact keeps {} Rooted.empty

variable {definitions : Definitions} {name other : String} {definition : Definition}

theorem insert_insert (definitions : Definitions) (name : String) (old definition : Definition) :
    (definitions.insert name old).insert name definition = definitions.insert name definition := by
  have known := hasKey_base_insert definitions name old
  rw [insert, known, if_pos rfl, insert, insert]
  simp only [Entries.insert_insert]

theorem insert_comm (known : name ∈ definitions.names)
    (base : definitions.bases.hasKey (Names.base name) = true) (apart : other ≠ name)
    (definition added : Definition) :
    (definitions.insert other added).insert name definition =
      (definitions.insert name definition).insert other added := by
  have still := hasKey_insert definitions other added _ base
  rw [insert, still, if_pos rfl, insert, insert, insert, base, if_pos rfl]
  simp only [Entries.insert_comm known apart]

end Definitions

namespace Resolve

open Names (Unbracketed)

section Registration

variable {reserved : List String} {mappings : Entries String} {state : State}

/-! ## Records -/

/-- The record for an inline object: the fields that it has without a registry. -/
def recordOf (mappings : Entries String) (met : InlineObject) : Definition :=
  .record (detached (object .detached mappings met.name met.schema))

def State.record (mappings : Entries String) (objects : List InlineObject) (state : State) :
    State :=
  objects.foldl (fun later met => later.put met.name (recordOf mappings met)) state

theorem State.record_append (objects more : List InlineObject) (state : State) :
    state.record mappings (objects ++ more) =
      (state.record mappings objects).record mappings more :=
  List.foldl_append

theorem State.record_diagnostics (objects : List InlineObject) (state : State) :
    (state.record mappings objects).diagnostics = state.diagnostics := by
  induction objects generalizing state with
  | nil => rfl
  | cons first rest ih => exact ih _

/-- A definition that is replaced changes places with the records of other objects. -/
theorem State.record_put_known {objects : List InlineObject} {name : String}
    (apart : ∀ met ∈ objects, met.name ≠ name) {state : State}
    (known : name ∈ state.definitions.names)
    (base : state.definitions.bases.hasKey (Names.base name) = true) (definition : Definition) :
    (state.record mappings objects).put name definition =
      (state.put name definition).record mappings objects := by
  induction objects generalizing state with
  | nil => rfl
  | cons first rest ih =>
      obtain ⟨here, others⟩ := List.forall_mem_cons.mp apart
      have still : name ∈ (state.put first.name (recordOf mappings first)).definitions.names :=
        Definitions.mem_names_insert.mpr (.inl known)
      have next := ih others still (Definitions.hasKey_insert state.definitions _ _ _ base)
      have same : (state.put first.name (recordOf mappings first)).put name definition =
          (state.put name definition).put first.name (recordOf mappings first) :=
        congrArg (State.mk · state.diagnostics) (Definitions.insert_comm known base here _ _)
      exact next.trans (congrArg (State.record mappings rest) same)

/-- What an object is registered with at first makes no difference in the end. -/
theorem State.record_put {objects : List InlineObject} {name : String}
    (apart : ∀ met ∈ objects, met.name ≠ name) (old definition : Definition) (state : State) :
    ((state.put name old).record mappings objects).put name definition =
      (state.put name definition).record mappings objects := by
  have known : name ∈ (state.put name old).definitions.names :=
    Definitions.mem_names_insert.mpr (.inr rfl)
  have base := Definitions.hasKey_base_insert state.definitions name old
  have again : (state.put name old).put name definition = state.put name definition :=
    congrArg (State.mk · state.diagnostics) (Definitions.insert_insert state.definitions name _ _)
  rw [State.record_put_known apart known base, again]

/-- Whether a name is free for an inline object. -/
structure Fresh (reserved : List String) (definitions : Definitions) (name : String) : Prop where
  plain : Unbracketed name
  unreserved : name ∉ reserved
  unlisted : name ∉ definitions.names
  unknown : definitions.bases.hasKey name = false

/-- Whether an object is registered. -/
structure Recorded (reserved : List String) (mappings : Entries String) (definitions : Definitions)
    (met : InlineObject) : Prop where
  unreserved : met.name ∉ reserved
  found : definitions.findByBase? met.name = some (met.name, recordOf mappings met)

/-- Objects with distinct names, all of them free. -/
structure AllFresh (reserved : List String) (definitions : Definitions)
    (objects : List InlineObject) : Prop where
  distinct : (objects.map InlineObject.name).Nodup
  fresh : ∀ met ∈ objects, Fresh reserved definitions met.name

variable {definitions : Definitions} {name : String}

theorem ownName_of_unreserved (free : name ∉ reserved) : ownName reserved name = name := by
  rw [ownName, if_neg (by simpa using free)]

theorem note_of_unreserved (free : name ∉ reserved) (state : State) :
    state.note (renamingNotes reserved name) = state := by
  rw [renamingNotes, if_neg (by simpa using free), State.note, List.append_nil]

theorem Fresh.findByBase? (fresh : Fresh reserved definitions name) :
    definitions.findByBase? name = none := by
  have none : definitions.bases.get? name = none := by
    simpa [Entries.hasKey] using fresh.unknown
  rw [Definitions.findByBase?, none]
  rfl

theorem Fresh.insert {other : String} (fresh : Fresh reserved definitions name)
    (plain : Unbracketed other) (apart : other ≠ name) (definition : Definition) :
    Fresh reserved (definitions.insert other definition) name := by
  refine ⟨fresh.plain, fresh.unreserved, fun listed => ?_, ?_⟩
  · cases Definitions.mem_names_insert.mp listed with
    | inl old => exact fresh.unlisted old
    | inr same => exact apart same.symm
  · have unknown := fresh.unknown
    rw [Entries.hasKey] at unknown ⊢
    rw [Definitions.bases_insert, Names.base_of_unbracketed plain, if_neg apart, ite_self, unknown]

theorem Fresh.recorded {met : InlineObject} (fresh : Fresh reserved definitions met.name) :
    Recorded reserved mappings (definitions.insert met.name (recordOf mappings met)) met := by
  refine ⟨fresh.unreserved, ?_⟩
  rw [Definitions.findByBase?, Definitions.bases_insert, Names.base_of_unbracketed fresh.plain,
    fresh.unknown, if_neg (by decide), if_pos rfl, Option.bind_some, Definitions.get?_insert,
    if_pos rfl]
  rfl

theorem Recorded.insert {met : InlineObject} (recorded : Recorded reserved mappings definitions met)
    {other : String} (plain : Unbracketed other) (apart : other ≠ met.name)
    (definition : Definition) :
    Recorded reserved mappings (definitions.insert other definition) met := by
  refine ⟨recorded.unreserved, ?_⟩
  have found := recorded.found
  rw [Definitions.findByBase?, Option.bind_eq_some_iff] at found ⊢
  obtain ⟨listed, base, entry⟩ := found
  refine ⟨listed, ?_, ?_⟩
  · rw [Definitions.bases_insert, Names.base_of_unbracketed plain, if_neg apart, ite_self, base]
  · rw [Option.map_eq_some_iff] at entry ⊢
    obtain ⟨value, present, same⟩ := entry
    cases same
    exact ⟨_, by rw [Definitions.get?_insert, if_neg apart, present], rfl⟩

theorem fresh_record {objects : List InlineObject}
    (apart : ∀ met ∈ objects, Unbracketed met.name ∧ met.name ≠ name)
    (fresh : Fresh reserved state.definitions name) :
    Fresh reserved (state.record mappings objects).definitions name := by
  induction objects generalizing state with
  | nil => exact fresh
  | cons first rest ih =>
      obtain ⟨⟨plain, here⟩, others⟩ := List.forall_mem_cons.mp apart
      exact ih others (fresh.insert plain here _)

theorem recorded_record {objects : List InlineObject} {met : InlineObject}
    (apart : ∀ other ∈ objects, Unbracketed other.name ∧ other.name ≠ met.name)
    (recorded : Recorded reserved mappings state.definitions met) :
    Recorded reserved mappings (state.record mappings objects).definitions met := by
  induction objects generalizing state with
  | nil => exact recorded
  | cons first rest ih =>
      obtain ⟨⟨plain, here⟩, others⟩ := List.forall_mem_cons.mp apart
      exact ih others (recorded.insert plain here _)

namespace AllFresh

variable {objects more : List InlineObject} {met : InlineObject}

theorem apart (all : AllFresh reserved definitions (met :: objects)) :
    ∀ other ∈ objects, other.name ≠ met.name := by
  have distinct := all.distinct
  rw [List.map_cons, List.nodup_cons] at distinct
  intro other member same
  exact distinct.1 (same ▸ List.mem_map_of_mem member)

theorem after_first (all : AllFresh reserved definitions (met :: objects))
    (definition : Definition) : AllFresh reserved (definitions.insert met.name definition) objects := by
  have plain := (all.fresh met (.head _)).plain
  refine ⟨(List.nodup_cons.mp all.distinct).2, fun other member => ?_⟩
  exact (all.fresh other (.tail _ member)).insert plain (all.apart other member).symm definition

theorem first (all : AllFresh reserved definitions (objects ++ more)) :
    AllFresh reserved definitions objects := by
  have distinct := all.distinct
  rw [List.map_append] at distinct
  exact ⟨distinct.of_append_left, fun met member => all.fresh met (List.mem_append_left _ member)⟩

theorem second (all : AllFresh reserved state.definitions (objects ++ more)) :
    AllFresh reserved (state.record mappings objects).definitions more := by
  have distinct := all.distinct
  rw [List.map_append, List.nodup_append] at distinct
  refine ⟨distinct.2.1, fun met member => fresh_record (fun other before => ?_) ?_⟩
  · refine ⟨(all.fresh other (List.mem_append_left _ before)).plain, ?_⟩
    exact distinct.2.2 _ (List.mem_map_of_mem before) _ (List.mem_map_of_mem member)
  · exact all.fresh met (List.mem_append_right _ member)

/-- Free objects that are recorded are registered. -/
theorem recorded (all : AllFresh reserved state.definitions objects) :
    ∀ met ∈ objects,
      Recorded reserved mappings (state.record mappings objects).definitions met := by
  induction objects generalizing state with
  | nil => exact fun _ none => absurd none List.not_mem_nil
  | cons first rest ih =>
      intro met member
      cases member with
      | head =>
          have now : Recorded reserved mappings
              (state.put first.name (recordOf mappings first)).definitions first :=
            (all.fresh first (.head _)).recorded
          have others : ∀ other ∈ rest, Unbracketed other.name ∧ other.name ≠ first.name :=
            fun other later => ⟨(all.fresh other (.tail _ later)).plain, all.apart other later⟩
          have kept := recorded_record others now
          exact kept
      | tail _ later => exact ih (all.after_first _) met later

theorem entries_record (all : AllFresh reserved state.definitions objects) :
    (state.record mappings objects).definitions.entries =
      state.definitions.entries ++ objects.map fun met => (met.name, recordOf mappings met) := by
  induction objects generalizing state with
  | nil => simp [State.record]
  | cons first rest ih =>
      have appended : (state.put first.name (recordOf mappings first)).definitions.entries =
          state.definitions.entries ++ [(first.name, recordOf mappings first)] :=
        Entries.insert_of_not_mem (all.fresh first (.head _)).unlisted
      rw [State.record, List.foldl_cons, ← State.record, ih (all.after_first _), appended,
        List.append_assoc]
      rfl

end AllFresh

/-! ## Steps beside each other -/

/-- A step that registers objects beside one that keeps no registry. Both have the same value. Free
objects are recorded, and for objects that are registered nothing is done. -/
structure Mirrors (reserved : List String) (mappings : Entries String)
    (objects : List InlineObject) {Value : Type} (registering plain : Step Value) : Prop where
  stateless : ∀ state, plain.run state = (detached plain, state)
  new : ∀ state, AllFresh reserved state.definitions objects →
    registering.run state = (detached plain, state.record mappings objects)
  known : ∀ state, (∀ met ∈ objects, Recorded reserved mappings state.definitions met) →
    registering.run state = (detached plain, state)

namespace Mirrors

variable {Value Next : Type} {objects more : List InlineObject} {registering plain : Step Value}
  {registeringNext plainNext : Value → Step Next}

theorem done (value : Value) : Mirrors reserved mappings [] (pure value) (pure value) :=
  ⟨fun _ => rfl, fun _ _ => rfl, fun _ _ => rfl⟩

theorem detached_bind (stateless : ∀ state, plain.run state = (detached plain, state)) :
    detached (plain >>= plainNext) = detached (plainNext (detached plain)) := by
  rw [detached, run_bind, stateless]
  rfl

theorem stateless_bind (first : Mirrors reserved mappings objects registering plain)
    (next : ∀ value, Mirrors reserved mappings more (registeringNext value) (plainNext value))
    (state : State) :
    (plain >>= plainNext).run state = (detached (plain >>= plainNext), state) := by
  rw [run_bind, first.stateless, (next _).stateless, detached_bind first.stateless]

theorem bind (first : Mirrors reserved mappings objects registering plain)
    (next : ∀ value, Mirrors reserved mappings more (registeringNext value) (plainNext value)) :
    Mirrors reserved mappings (objects ++ more) (registering >>= registeringNext)
      (plain >>= plainNext) := by
  constructor
  · exact first.stateless_bind next
  · intro state all
    rw [run_bind, first.new state all.first, (next _).new _ all.second,
      detached_bind first.stateless, State.record_append]
  · intro state known
    rw [run_bind, first.known state fun met member => known met (List.mem_append_left _ member),
      (next _).known state fun met member => known met (List.mem_append_right _ member),
      detached_bind first.stateless]

/-- A second step that meets only objects of the first one adds nothing. -/
theorem bind_again (first : Mirrors reserved mappings objects registering plain)
    (next : ∀ value, Mirrors reserved mappings more (registeringNext value) (plainNext value))
    (again : more ⊆ objects) :
    Mirrors reserved mappings objects (registering >>= registeringNext) (plain >>= plainNext) := by
  constructor
  · exact first.stateless_bind next
  · intro state all
    rw [run_bind, first.new state all,
      (next _).known _ fun met member => all.recorded met (again member),
      detached_bind first.stateless]
  · intro state known
    rw [run_bind, first.known state known,
      (next _).known state fun met member => known met (again member),
      detached_bind first.stateless]

theorem andThen (first : Mirrors reserved mappings objects registering plain)
    (after : Value → Next) :
    Mirrors reserved mappings objects (registering >>= fun value => pure (after value))
      (plain >>= fun value => pure (after value)) :=
  first.bind_again (fun value => done (after value)) (List.nil_subset _)

theorem mapM {Item : Type} {items : List Item} {objects : Item → List InlineObject}
    {registering plain : Item → Step Value}
    (each : ∀ item ∈ items,
      Mirrors reserved mappings (objects item) (registering item) (plain item)) :
    Mirrors reserved mappings (items.flatMap objects) (items.mapM registering)
      (items.mapM plain) := by
  induction items with
  | nil => exact done []
  | cons first rest ih =>
      have later := ih fun item member => each item (.tail _ member)
      rw [List.flatMap_cons, List.mapM_cons, List.mapM_cons]
      exact (each first (.head _)).bind fun value => later.andThen fun values => value :: values

/-- Words one after the other. A word that was there before meets nothing new. -/
theorem foldlM (words : List String) {objects : String → List InlineObject}
    {registering plain : Value → String → Step Value}
    (each : ∀ word value,
      Mirrors reserved mappings (objects word) (registering value word) (plain value word))
    (start : Value) :
    Mirrors reserved mappings (words.eraseDups.flatMap objects) (words.foldlM registering start)
      (words.foldlM plain start) := by
  induction words using List.reverseRecOn with
  | nil => exact done start
  | append_singleton before word ih =>
      rw [List.foldlM_append, List.foldlM_append, eraseDups_concat]
      simp only [List.foldlM_cons, List.foldlM_nil, bind_pure]
      split
      · next again =>
          refine ih.bind_again (each word) fun met member => ?_
          exact List.mem_flatMap.mpr ⟨word, List.mem_eraseDups.mpr again, member⟩
      · rw [List.flatMap_append, List.flatMap_singleton]
        exact ih.bind (each word)

/-- An inline object comes before the objects inside of it. -/
theorem inlineObject (met : InlineObject) {inside : List InlineObject}
    (fields : Mirrors reserved mappings inside
      (object (.registering reserved) mappings met.name met.schema)
      (object .detached mappings met.name met.schema)) :
    Mirrors reserved mappings (met :: inside)
      (inlineObject (.registering reserved) met.name fun own =>
        object (.registering reserved) mappings own met.schema)
      (inlineObject .detached met.name fun own => object .detached mappings own met.schema) := by
  have value : detached (Resolve.inlineObject .detached met.name fun own =>
      object .detached mappings own met.schema) =
        (met.name, detached (object .detached mappings met.name met.schema)) := rfl
  constructor
  · intro state
    exact congrArg (fun last => ((met.name, last.1), last.2)) (fields.stateless state)
  · intro state all
    have first := all.fresh met (.head _)
    have own := ownName_of_unreserved first.unreserved
    have unknown : state.definitions.findByBase? (ownName reserved met.name) = none := by
      rw [own]
      exact first.findByBase?
    have taken : state.taken reserved met.name = state.put met.name (.record []) := by
      rw [State.taken, note_of_unreserved first.unreserved, own]
    have resolved := fields.new (state.put met.name (.record [])) (all.after_first _)
    -- The object is registered without fields, then those inside of it, then once more with its
    -- fields: in the end it stands in the place that it took first.
    rw [inlineObject_run_new unknown]
    simp only [own, taken, resolved, value]
    rw [State.record_put all.apart]
    rfl
  · intro state known
    obtain ⟨free, found⟩ := known met (.head _)
    have own := ownName_of_unreserved free
    have isKnown : state.definitions.findByBase? (ownName reserved met.name) =
        some (met.name, recordOf mappings met) := by
      rw [own]
      exact found
    rw [inlineObject_run_known isKnown, note_of_unreserved free, own, value]
    rfl

end Mirrors

/-! ## Resolving -/

/-- Whether registering what a schema resolves to does what plain resolution does, under every
name. -/
def TypeMirrors (reserved : List String) (mappings : Entries String) (schema : Schema) : Prop :=
  ∀ name, Mirrors reserved mappings (schema.objectsAt name)
    (type (.registering reserved) mappings name schema) (type .detached mappings name schema)

theorem object_mirrors_of_type {schema : Schema}
    (below : ∀ entry ∈ schema.declaredProperties, TypeMirrors reserved mappings entry.2)
    (owner : String) :
    Mirrors reserved mappings (schema.objectsInside owner)
      (object (.registering reserved) mappings owner schema)
      (object .detached mappings owner schema) := by
  rw [Schema.objectsInside_eq, object_eq_mapM, object_eq_mapM]
  apply Mirrors.mapM
  intro declaration member
  exact (below _ (Schema.mem_declaredProperties member) _).andThen _

theorem addWord_mirrors {schema : Schema}
    (items : ∀ items, schema.items = some items → TypeMirrors reserved mappings items)
    (values : ∀ values, schema.additional = some (.described values) →
      TypeMirrors reserved mappings values)
    (declared : ∀ entry ∈ schema.declaredProperties, TypeMirrors reserved mappings entry.2)
    (name word : String) (found : List String × ResolvedType) :
    Mirrors reserved mappings (schema.objectsOfWord name word)
      (addWord (.registering reserved) mappings name schema found word)
      (addWord .detached mappings name schema found word) := by
  unfold addWord Schema.objectsOfWord
  split
  · cases isItems : schema.items with
    | none => exact .done _
    | some inner => exact (items inner isItems name).andThen _
  · split
    · split
      · have inside := object_mirrors_of_type declared name
        exact (Mirrors.inlineObject ⟨name, schema⟩ inside).andThen _
      · split
        · next maps =>
            obtain ⟨inner, isValues⟩ := Schema.exists_values maps
            rw [isValues]
            exact (values inner isValues name).andThen _
        · exact .done _
    · exact .done _

theorem type_mirrors (reserved : List String) (mappings : Entries String) (schema : Schema) :
    TypeMirrors reserved mappings schema := by
  induction schema using Schema.induction_below with
  | step schema inSole inItems inValues inDeclared =>
    intro name
    cases schema.form with
    | combined sole single =>
        rw [Schema.objectsAt_of_sole name single, type_of_sole _ _ _ single,
          type_of_sole _ _ _ single]
        exact inSole sole single name
    | referring path refers =>
        rw [Schema.objectsAt_of_reference name refers, type_of_reference _ _ _ refers,
          type_of_reference _ _ _ refers]
        exact .done _
    | listed several inline listed =>
        rw [Schema.objectsAt_of_listed name several listed,
          type_of_enum _ _ _ several inline listed, type_of_enum _ _ _ several inline listed]
        exact .done _
    | worded several inline free =>
        rw [Schema.objectsAt_of_words name several inline free,
          type_of_words _ _ _ several inline free, type_of_words _ _ _ several inline free]
        have words := Mirrors.foldlM schema.typeWords
          (addWord_mirrors inItems inValues inDeclared name) ([], {})
        exact words.andThen _

theorem object_mirrors (reserved : List String) (mappings : Entries String) (owner : String)
    (schema : Schema) :
    Mirrors reserved mappings (schema.objectsInside owner)
      (object (.registering reserved) mappings owner schema)
      (object .detached mappings owner schema) :=
  object_mirrors_of_type (fun entry _ => type_mirrors reserved mappings entry.2) owner

/-- If the inline objects that are met have free and distinct names, an object has the same fields
with and without a registry, and each of them is registered with those that it has without one. -/
theorem registered_fields_eq (reserved : List String) (mappings : Entries String) {owner : String}
    (plain : Unbracketed owner) (schema : Schema) (inserted : List (String × Definition))
    (diagnostics : List Diagnostic)
    (distinct : ((schema.objectsInside owner).map InlineObject.name).Nodup)
    (unreserved : ∀ met ∈ schema.objectsInside owner, met.name ∉ reserved)
    (unlisted : ∀ met ∈ schema.objectsInside owner,
      met.name ∉ (Definitions.ofList inserted).names)
    (unknown : ∀ met ∈ schema.objectsInside owner,
      (Definitions.ofList inserted).findByBase? met.name = none) :
    Ensures (object (.registering reserved) mappings owner schema)
        ⟨Definitions.ofList inserted, diagnostics⟩ fun fields last =>
      fields = detached (object .detached mappings owner schema) ∧
      last.diagnostics = diagnostics ∧
      last.definitions.entries = (Definitions.ofList inserted).entries ++
        (schema.objectsInside owner).map fun met =>
          (met.name, .record (detached (object .detached mappings met.name met.schema))) := by
  have fresh : AllFresh reserved (Definitions.ofList inserted) (schema.objectsInside owner) := by
    refine ⟨distinct, fun met member => ?_⟩
    have rooted := (Definitions.rooted_ofList inserted).isSome_findByBase? met.name
    rw [unknown met member] at rooted
    have inside := Schema.unbracketed_objectsInside
      (fun entry _ => Schema.unbracketed_objectsAt entry.2) plain met member
    exact ⟨inside, unreserved met member, unlisted met member, by simpa using rooted⟩
  have run := (object_mirrors reserved mappings owner schema).new
    ⟨Definitions.ofList inserted, diagnostics⟩ fresh
  rw [Ensures, run]
  exact ⟨rfl, State.record_diagnostics _ _, fresh.entries_record⟩

/-- A house with objects in a property, in an array, in a map and in a combination. -/
def house : Schema :=
  let object (name : String) : Schema :=
    { properties := [(name, { types := some (.one "string") })] }
  { properties := [
      ("owner", { properties := [("address", object "city")] }),
      ("rooms", { types := some (.many ["array", "null", "array"]), items := some (object "use") }),
      ("tags", { additional := some (.described (object "text")) })]
    allOf := [{ properties := [("owner", object "name"), ("garage", object "cars")] }] }

theorem registered_fields_eq_house :
    (house.objectsInside "House").map InlineObject.name =
        ["HouseOwner", "HouseOwnerAddress", "HouseRooms", "HouseTags", "HouseGarage"] ∧
      Ensures (object (.registering ["Owner"]) [] "House" house)
        ⟨Definitions.ofList [("Page<T>", .record [])], []⟩ fun fields last =>
          fields = detached (object .detached [] "House" house) ∧ last.diagnostics = [] ∧
            last.definitions.entries =
              (Definitions.ofList [("Page<T>", .record [])]).entries ++
                (house.objectsInside "House").map fun met =>
                  (met.name, .record (detached (object .detached [] met.name met.schema))) :=
  ⟨by decide +kernel,
    registered_fields_eq ["Owner"] [] (by decide) house [("Page<T>", .record [])] []
      (by decide +kernel) (by decide +kernel) (by decide +kernel) (by decide +kernel)⟩

end Registration

end Resolve

end ClientGen
