import ClientGen.Proofs.Definitions.Blocks
import ClientGen.Proofs.NamedType.Placeholders
import ClientGen.Proofs.Resolve.Frame
import ClientGen.Proofs.Resolve.ReferenceTypes

/-!
The fields of generic definitions. The definition under the name of a generic key is made by the first
key of its base, whatever the other keys are, and a field that refers to a definition has the type of
a reference with placeholders in it.
-/

set_option autoImplicit false

namespace ClientGen

namespace Definitions

open DeclaredName (declaration)
open NamedType (Restored)
open Resolve (Ensures State Unclosed)

/-! ## One name through a run -/

section Add

variable {reserved : List String} {key : String} {schema : Schema} {state : State} {name : String}

private theorem object_keeps (closed : ¬ Unclosed name) (isReserved : (declaration key).base ∈ reserved)
    (schema : Schema) (state : State) :
    Keeps name state.definitions ((Resolve.object (.registering reserved) (declaration key).mappings
      (declaration key).base schema).run state).2.definitions := by
  have visits := Resolve.object_visits reserved (declaration key).mappings (declaration key).base
    schema state
  refine Resolve.Visits.keeps visits closed ?_
  rintro _ object ⟨entry, -, rfl, -⟩
  exact Resolve.Asking.synthesized (.inl isReserved) entry.1

/-- Other keys leave alone what stands under a name, and so does a key with a known base. -/
theorem add_keeps (closed : ¬ Unclosed name) (isReserved : (declaration key).base ∈ reserved)
    (collapses : (declaration key).name = name →
      (state.definitions.findByBase? (declaration key).base).isSome) :
    Keeps name state.definitions ((add reserved key schema).run state).2.definitions := by
  cases known : state.definitions.findByBase? (declaration key).base with
  | some existing =>
      rw [add_run_known known]
      exact .refl name _
  | none =>
      have apart : (declaration key).name ≠ name := by
        intro same
        have found := collapses same
        rw [known] at found
        cases found
      by_cases free : schema.enumValues = []
      · by_cases objects : ∀ types, schema.types = some types → types.has "object" = true
        · rw [add_run_object known free objects]
          have taken := keeps_insert state.definitions name (.record []) apart
          have inside := object_keeps closed isReserved schema
            (state.put (declaration key).name (.record []))
          exact taken.trans (inside.trans (keeps_insert _ name _ apart))
        · push Not at objects
          obtain ⟨types, typed, other⟩ := objects
          rw [add_run_mismatched known free typed (by simpa using other)]
          exact keeps_insert _ name _ apart
      · rw [add_run_enumeration known free]
        exact keeps_insert _ name _ apart

/-- What a definition made by a key has for fields: those of the object under the key, resolved in
some state, or none. -/
def Declares (reserved : List String) (key : String) (schema : Schema) (definition : Definition) :
    Prop :=
  (schema.IsObject → ∃ state : State, definition.fields = ((Resolve.object (.registering reserved)
    (declaration key).mappings (declaration key).base schema).run state).1) ∧
  (¬ schema.IsObject → definition.fields = [])

/-- A key with a new base makes a definition under its name. -/
theorem add_declares (closed : ¬ Unclosed (declaration key).name)
    (isReserved : (declaration key).base ∈ reserved) (rooted : state.definitions.Rooted)
    (fresh : state.definitions.findByBase? (declaration key).base = none) :
    ∃ definition, ((add reserved key schema).run state).2.definitions.get? (declaration key).name =
        some definition ∧ Declares reserved key schema definition ∧
      ((add reserved key schema).run state).2.definitions.Rooted ∧
      ((add reserved key schema).run state).2.definitions.bases.hasKey
        (Names.base (declaration key).name) = true := by
  have put (definitions : Definitions) (definition : Definition) :
      (definitions.insert (declaration key).name definition).get? (declaration key).name =
        some definition := by
    rw [get?_insert, if_pos rfl]
  by_cases free : schema.enumValues = []
  · by_cases objects : ∀ types, schema.types = some types → types.has "object" = true
    · rw [add_run_object fresh free objects]
      have inside := object_keeps closed isReserved schema
        (state.put (declaration key).name (.record []))
      have rootedInside := inside.rooted (Rooted.insert _ _ _ rooted)
      refine ⟨_, put _ _, ⟨fun _ => ⟨_, rfl⟩, fun other => absurd ⟨free, objects⟩ other⟩, ?_, ?_⟩
      · exact Rooted.insert _ _ _ rootedInside
      · exact hasKey_base_insert _ _ _
    · have notObject : ¬ schema.IsObject := fun isObject => objects isObject.2
      push Not at objects
      obtain ⟨types, typed, other⟩ := objects
      rw [add_run_mismatched fresh free typed (by simpa using other)]
      refine ⟨_, put _ _, ⟨fun isObject => absurd isObject notObject, fun _ => rfl⟩, ?_, ?_⟩
      · exact Rooted.insert _ _ _ rooted
      · exact hasKey_base_insert _ _ _
  · have notObject : ¬ schema.IsObject := fun isObject => free isObject.1
    rw [add_run_enumeration fresh free]
    refine ⟨_, put _ _, ⟨fun isObject => absurd isObject notObject, fun _ => rfl⟩, ?_, ?_⟩
    · exact Rooted.insert _ _ _ rooted
    · exact hasKey_base_insert _ _ _

theorem addAll_append (reserved : List String) (before after : Entries Schema) (state : State) :
    (addAll reserved (before ++ after)).run state =
      (addAll reserved after).run ((addAll reserved before).run state).2 := by
  induction before generalizing state with
  | nil => rfl
  | cons entry rest ih => exact ih _

theorem addAll_keeps (closed : ¬ Unclosed name) {schemas : Entries Schema}
    (areReserved : ∀ key ∈ schemas.keys, (declaration key).base ∈ reserved)
    (rooted : state.definitions.Rooted)
    (collapse : ∀ key ∈ schemas.keys, (declaration key).name = name →
      state.definitions.bases.hasKey (declaration key).base = true) :
    Keeps name state.definitions ((addAll reserved schemas).run state).2.definitions := by
  induction schemas generalizing state with
  | nil => exact .refl name _
  | cons entry rest ih =>
      obtain ⟨key, schema⟩ := entry
      have step : Keeps name state.definitions ((add reserved key schema).run state).2.definitions := by
        refine add_keeps closed (areReserved key (.head _)) fun same => ?_
        exact (rooted.isSome_findByBase? _).mpr (collapse key (.head _) same)
      refine step.trans (ih (fun other member => areReserved other (.tail _ member))
        (step.rooted rooted) fun other member same => ?_)
      exact step.bases _ (collapse other (.tail _ member) same)

end Add

/-! ## Generic keys -/

section Generic

variable {schemas before after : Entries Schema} {key : String} {schema : Schema} {base : String}
  {argument : NamedType} {arguments : List NamedType}

theorem closed_of_generic (read : NamedType.parse? key = some ⟨base, argument :: arguments⟩) :
    ¬ Unclosed (declaration key).name := by
  rw [DeclaredName.declaration_of_generic read]
  intro unclosed
  apply unclosed
  rw [String.toList_append]
  exact List.getLast?_concat

/-- What stands under the name of a generic key is made from the first key of its base. -/
theorem declares_of_generic (split : schemas = before ++ (key, schema) :: after)
    (first : ∀ other ∈ before.keys, (declaration other).base ≠ (declaration key).base)
    (read : NamedType.parse? key = some ⟨base, argument :: arguments⟩) {definition : Definition}
    (declared : (ofSchemas schemas).value.get? (declaration key).name = some definition) :
    Declares (reservedNames schemas) key schema definition := by
  have closed := closed_of_generic read
  have keyPlain : Names.Unbracketed (declaration key).base :=
    DeclaredName.unbracketed_base (by simp [read])
  have keys : schemas.keys = before.keys ++ key :: after.keys := by simp [split, Entries.keys]
  have areReserved : ∀ other ∈ schemas.keys, (declaration other).base ∈ reservedNames schemas :=
    fun other => mem_reservedNames
  -- No earlier key is declared under the name.
  have early := @addAll_keeps (reservedNames schemas) {} _ closed before
    (fun other member => areReserved other (by simp [keys, member]))
    Rooted.empty
    (fun other member same => absurd (DeclaredName.base_eq_of_name_eq read same) (first other member))
  have ran : (ofSchemas schemas).value = ((addAll (reservedNames schemas) after).run
      ((add (reservedNames schemas) key schema).run
        ((addAll (reservedNames schemas) before).run {}).2).2).2.definitions := by
    have whole := addAll_append (reservedNames schemas) before ((key, schema) :: after) {}
    rw [← split] at whole
    rw [ofSchemas, whole]
    rfl
  rw [ran] at declared
  generalize ((addAll (reservedNames schemas) before).run {}).2 = earlier at early declared
  have rooted : earlier.definitions.Rooted := early.rooted Rooted.empty
  have isReserved := areReserved key (by simp [keys])
  -- Later keys of the name have its base, which is known by then.
  have late (state : State) (rootedState : state.definitions.Rooted)
      (known : state.definitions.bases.hasKey (declaration key).base = true) :
      Keeps (declaration key).name state.definitions
        ((addAll (reservedNames schemas) after).run state).2.definitions := by
    refine addAll_keeps closed (fun other member => areReserved other (by simp [keys, member]))
      rootedState fun other member same => ?_
    rw [DeclaredName.base_eq_of_name_eq read same]
    exact known
  cases known : earlier.definitions.findByBase? (declaration key).base with
  | some existing =>
      rw [add_run_known known] at declared
      have listed := (rooted.isSome_findByBase? _).mp (by rw [known]; rfl)
      have kept := (late (earlier.note [collapsed key existing.1]) rooted listed).same
      have nothing : earlier.definitions.get? (declaration key).name = none := early.same
      rw [kept, State.note_definitions, nothing] at declared
      cases declared
  | none =>
      have made : ∃ definition, _ ∧ Declares (reservedNames schemas) key schema definition ∧ _ :=
        add_declares closed isReserved rooted known
      obtain ⟨made, found, declares, nextRooted, listed⟩ := made
      rw [DeclaredName.base_name keyPlain] at listed
      rw [(late _ nextRooted listed).same, found] at declared
      cases declared
      exact declares

/-- The type of a field that refers to a definition, or to arrays of it, is that of the reference with
placeholders in it. Putting the arguments of the key in the place of its placeholders gives the type
that the property has without placeholders just if it does so for each plain name in the target. -/
theorem generic_types_restored_iff (split : schemas = before ++ (key, schema) :: after)
    (first : ∀ other ∈ before.keys, (declaration other).base ≠ (declaration key).base)
    (read : NamedType.parse? key = some ⟨base, argument :: arguments⟩) {definition : Definition}
    (declared : (ofSchemas schemas).value.get? (declaration key).name = some definition)
    {name : String} {property : Schema}
    (isProperty : schema.declaredProperties.find? (fun entry => entry.1 = name) =
      some (name, property))
    {path : String} {arrays : List Bool} (refers : property.Refers path arrays) :
    let target := NamedType.parse (Names.ofReference path)
    let shown := target.substitute (declaration key).mappings
    (schema.IsObject → ∃ field ∈ definition.fields, field.name = name) ∧
    ∀ field ∈ definition.fields, field.name = name →
      field.type = arrayText arrays shown.render ∧
      ∀ mode own state,
        arrayText arrays (shown.instantiate (argument :: arguments)).render =
            ((Resolve.type mode [] own property).run state).1.type ↔
          ∀ leaf ∈ target.leaves, Restored (argument :: arguments) leaf := by
  obtain ⟨objects, others⟩ := declares_of_generic split first read declared
  have resolves (state : State) := Resolve.object_field_of_refers isProperty refers
    (.registering (reservedNames schemas)) (declaration key).mappings (declaration key).base state
  refine ⟨fun isObject => ?_, fun field member named => ?_⟩
  · obtain ⟨state, fields⟩ := objects isObject
    rw [fields]
    exact (resolves state).1
  · by_cases isObject : schema.IsObject
    · obtain ⟨state, fields⟩ := objects isObject
      rw [fields] at member
      refine ⟨(resolves state).2 field member named, fun mode own state => ?_⟩
      have plain := Resolve.type_of_refers refers mode [] own state
      unfold Ensures at plain
      have inKey : NamedType.Unmarked ⟨base, argument :: arguments⟩ :=
        NamedType.unmarked_of_parse? read
      rw [plain, NamedType.substitute_nil, arrayText_inj, DeclaredName.declaration_of_generic read]
      exact NamedType.render_instantiate_substitute_iff (fun _ => inKey.argument) _
    · rw [others isObject] at member
      cases member

end Generic

def userReference : Schema := { reference := some "#/definitions/User" }

def usersSchema : Schema := { types := some (.one "array"), items := some userReference }

def pageSchema : Schema := { properties := [("content", usersSchema)] }

theorem generic_types_restored_pages :
    ∃ definition,
      (ofSchemas [("User", {}), ("Page«User»", pageSchema)]).value.get? "Page<T>" = some definition ∧
      (∃ field ∈ definition.fields, field.name = "content") ∧
      ∀ field ∈ definition.fields, field.name = "content" → field.type = "Array<T>" ∧
        ∀ mode own state,
          ((Resolve.type mode [] own usersSchema).run state).1.type = "Array<User>" := by
  have there : ((ofSchemas [("User", {}), ("Page«User»", pageSchema)]).value.get?
      (declaration "Page«User»").name).isSome := by
    decide +kernel
  obtain ⟨definition, declared⟩ := Option.isSome_iff_exists.mp there
  have pieces : NamedType.pieces [] "Page«User»".toList =
      [.name "Page", .opening, .name "User", .closing] := by
    decide +kernel
  have read : NamedType.parse? "Page«User»" = some ⟨"Page", [.plain "User"]⟩ := by
    rw [NamedType.parse?, pieces]
    rfl
  have first : ∀ other ∈ ["User"], (declaration other).base ≠ (declaration "Page«User»").base := by
    decide +kernel
  have refers : usersSchema.Refers "#/definitions/User" [false] :=
    .array rfl rfl rfl rfl rfl (.reference rfl)
  have isProperty : pageSchema.declaredProperties.find? (fun entry => entry.1 = "content") =
      some ("content", usersSchema) := by
    rfl
  have isObject : pageSchema.IsObject := ⟨rfl, fun _ typed => by cases typed⟩
  obtain ⟨fields, types⟩ := @generic_types_restored_iff _ [("User", {})] [] _ _ _ _ _ rfl first read
    definition declared "content" usersSchema isProperty "#/definitions/User" [false] refers
  have leaves : (NamedType.parse (Names.ofReference "#/definitions/User")).leaves = ["User"] := by
    decide +kernel
  have restored : ∀ leaf ∈ ["User"], Restored [.plain "User"] leaf := by
    intro leaf isUser
    cases List.mem_singleton.mp isUser
    refine ⟨fun argument isFirst => ?_, fun apart => absurd (by rfl) (apart _ (.head _))⟩
    cases List.mem_singleton.mp (List.mem_of_find?_eq_some isFirst)
    rfl
  have shown : (declaration "Page«User»").name = "Page<T>" := by decide +kernel
  refine ⟨definition, shown ▸ declared, fields isObject, fun field member named => ?_⟩
  obtain ⟨type, same⟩ := types field member named
  refine ⟨type.trans (by decide +kernel), fun mode own state => ?_⟩
  refine ((same mode own state).mpr (leaves ▸ restored)).symm.trans ?_
  decide +kernel

def nestedPageSchemas : Entries Schema :=
  [("Page«List«User»»", { properties := [("owner", userReference)] })]

/-- The owner of a page of lists of users is a user, but a list of users comes in the place of the
placeholder in the type of the field. -/
theorem nested_argument_not_restored :
    ∃ definition, (ofSchemas nestedPageSchemas).value.get? "Page<T>" = some definition ∧
      ∃ field ∈ definition.fields, field.name = "owner" ∧
        field.type = (NamedType.plain "T").render ∧
        ((NamedType.plain "T").instantiate [NamedType.parse "List«User»"]).render = "Array<User>" ∧
        ((Resolve.type .detached [] "PageOwner" userReference).run {}).1.type = "User" := by
  have owner : (((ofSchemas nestedPageSchemas).value.get? "Page<T>").any fun definition =>
      definition.fields.any fun field => field.name = "owner" && field.type = "T") = true := by
    decide +kernel
  rw [Option.any_eq_true] at owner
  obtain ⟨definition, declared, holds⟩ := owner
  rw [List.any_eq_true] at holds
  obtain ⟨field, isField, described⟩ := holds
  obtain ⟨named, typed⟩ : field.name = "owner" ∧ field.type = "T" := by simpa using described
  refine ⟨definition, declared, field, isField, named, ?_, ?_, ?_⟩
  · rw [typed]
    decide +kernel
  · decide +kernel
  · decide +kernel

end Definitions

end ClientGen
