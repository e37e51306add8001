import ClientGen.Proofs.Definitions.Blocks
import ClientGen.Proofs.Resolve.Agreement

/-!
Agreement of the fields in the definitions of a document with its inline objects, key after key.
-/

set_option autoImplicit false

namespace ClientGen.Definitions

open DeclaredName (declaration)
open Names (Unbracketed)
open Resolve (Behind Consistent Settled State Titled)

/-- A schema in which the inline objects, at any depth, have properties with names that make one. -/
def HoldsTitled (schema : Schema) : Prop :=
  ∀ property ∈ schema.declaredProperties, ∀ object ∈ property.2.inlineObjects, Titled object

section Add

variable {schemas done after : Entries Schema} {state : State} {blocks : List Block} {key : String}
  {schema : Schema}

theorem settled_add_object (progress : Progress schemas done state blocks)
    (isKey : key ∈ schemas.keys) (plain : Unbracketed (declaration key).base)
    (fresh : state.definitions.findByBase? (declaration key).base = none)
    (settled : Settled [] state.definitions) (free : schema.enumValues = [])
    (objects : ∀ types, schema.types = some types → types.has "object" = true)
    (titled : HoldsTitled schema) :
    Settled [] ((add (reservedNames schemas) key schema).run state).2.definitions := by
  rw [add_run_object fresh free objects]
  let taken := state.put (declaration key).name (.record [])
  have consistent : Consistent (reservedNames schemas) taken.definitions :=
    progress.insert_consistent isKey plain fresh _
  have isTaken : ((declaration key).name, .record []) ∈ taken.definitions.entries := by
    have entries := progress.insert_entries plain fresh (.record [])
    change _ ∈ (state.definitions.insert _ _).entries
    rw [entries]
    exact List.mem_append_right _ (.head _)
  have pending : Settled [(declaration key).name] taken.definitions := by
    rw [← DeclaredName.base_name plain] at fresh
    exact settled.take progress.consistent.indexed fresh
  have behind (name : String) : Behind (reservedNames schemas) [(declaration key).name] name := by
    intro other member
    cases List.mem_singleton.mp member
    left
    rw [DeclaredName.base_name plain]
    exact mem_reservedNames isKey
  obtain ⟨inline, grown, -⟩ :=
    Resolve.object_grown consistent plain (declaration key).mappings schema
  obtain ⟨inside, agree⟩ := Resolve.object_settles (reservedNames schemas) (declaration key).mappings
    schema _ _ taken consistent pending plain (fun entry _ _ => behind _) titled
  exact inside.put grown.consistent.indexed (Entries.mem_keys (grown.kept isTaken)) _ agree

theorem settled_add (progress : Progress schemas done state blocks) (isKey : key ∈ schemas.keys)
    (plain : Unbracketed (declaration key).base) (settled : Settled [] state.definitions)
    (titled : HoldsTitled schema) :
    Settled [] ((add (reservedNames schemas) key schema).run state).2.definitions := by
  cases known : state.definitions.findByBase? (declaration key).base with
  | some existing =>
      rw [add_run_known known]
      exact settled
  | none =>
      have fresh := known
      rw [← DeclaredName.base_name plain] at fresh
      have indexed := progress.consistent.indexed
      by_cases free : schema.enumValues = []
      · by_cases objects : ∀ types, schema.types = some types → types.has "object" = true
        · exact settled_add_object progress isKey plain known settled free objects titled
        · push Not at objects
          obtain ⟨types, typed, other⟩ := objects
          rw [add_run_mismatched known free typed (by simpa using other)]
          refine settled.insert_new indexed fresh ?_
          intro field member
          cases member
      · rw [add_run_enumeration known free]
        refine settled.insert_new indexed fresh ?_
        intro field member
        cases List.mem_singleton.mp member
        exact .plain rfl

theorem settled_addAll (progress : Progress schemas done state blocks)
    (distinct : schemas.keys.Nodup) (split : schemas = done ++ after)
    (plain : ∀ key ∈ schemas.keys, Unbracketed (declaration key).base)
    (settled : Settled [] state.definitions) (titled : ∀ entry ∈ after, HoldsTitled entry.2) :
    Settled [] ((addAll (reservedNames schemas) after).run state).2.definitions := by
  induction after generalizing done state blocks with
  | nil => exact settled
  | cons entry rest ih =>
      obtain ⟨key, schema⟩ := entry
      have isKey : key ∈ schemas.keys := by simp [split, Entries.keys]
      obtain ⟨more, next⟩ := progress.add distinct split plain
      refine ih next (by rw [split, List.append_assoc]; rfl) ?_ ?_
      · exact settled_add progress isKey (plain key isKey) settled (titled _ (.head _))
      · intro other member
        exact titled other (.tail _ member)

end Add

/-! ## Objects inside of objects -/

/-- The agreement of a field that is inside of objects with the given names: none of them is the name
of the object of the field, or of one further inside. -/
inductive AgreesInside (find : String → Option Definition) : List String → Field → Prop where
  | plain {outer : List String} {field : Field} : field.properties = none →
      AgreesInside find outer field
  | inline {outer : List String} {field : Field} {name : String} {children : List Field} :
      field.properties = some children → Mentions field.type name → name ∉ outer →
      find name = some (.record children) →
      (∀ child ∈ children, AgreesInside find (name :: outer) child) →
      AgreesInside find outer field

section Inside

variable {find : String → Option Definition} {field : Field}

private theorem sizeOf_children {children : List Field} (carried : field.properties = some children) :
    sizeOf children < sizeOf field := by
  obtain ⟨name, type, description, required, enumOption, target, format, defaultValue, properties⟩ :=
    field
  cases carried
  simp
  omega

/-- A record is larger than the fields at any depth in it, so theirs is another name. -/
theorem agrees_inside (agrees : field.Agrees find) {outer : List String}
    (larger : ∀ name ∈ outer, ∀ children, find name = some (.record children) →
      sizeOf field < sizeOf children) :
    AgreesInside find outer field := by
  induction agrees generalizing outer with
  | plain none => exact .plain none
  | @inline field name children carried mentioned found _ ih =>
      have smaller := sizeOf_children carried
      refine .inline carried mentioned ?_ found fun child isChild => ih child isChild ?_
      · -- The record found under the name would be larger than itself.
        intro taken
        have longer := larger name taken children found
        omega
      · have childSmaller := List.sizeOf_lt_of_mem isChild
        intro other isOuter others foundOther
        cases isOuter with
        | head =>
            rw [found] at foundOther
            cases foundOther
            exact childSmaller
        | tail _ enclosing =>
            have enclosed := larger other enclosing others foundOther
            omega

theorem agrees_inside_children {outer : List String} (agrees : AgreesInside find outer field)
    {children : List Field} (carried : field.properties = some children) :
    ∃ name, find name = some (.record children) ∧
      ∀ child ∈ children, AgreesInside find (name :: outer) child := by
  cases agrees with
  | plain none =>
      rw [none] at carried
      cases carried
  | inline same mentioned apart found agree =>
      rw [same] at carried
      cases carried
      exact ⟨_, found, agree⟩

end Inside

/-- Whether all fields of some definitions, at any depth, agree with the definitions, and no object
has the name of one around it. -/
def FieldsAgree (definitions : Definitions) : Prop :=
  ∀ entry ∈ definitions.entries, ∀ field ∈ entry.2.shown,
    AgreesInside (fun name => definitions.get? name) [entry.1] field

/-- A field that carries the fields of an inline object names a record with them, as long as the
names of properties make names for the objects inside of inline objects. -/
theorem fields_agree (schemas : Entries Schema) (distinct : schemas.keys.Nodup)
    (plain : ∀ key ∈ schemas.keys, Unbracketed (declaration key).base)
    (titled : ∀ entry ∈ schemas, HoldsTitled entry.2) : FieldsAgree (ofSchemas schemas).value := by
  have settled : Settled [] (ofSchemas schemas).value := by
    refine settled_addAll (Progress.start schemas) distinct rfl plain ?_ titled
    intro entry member
    cases member
  have all : Resolve.visible [] (ofSchemas schemas).value =
      fun name => (ofSchemas schemas).value.get? name := by
    funext name
    exact if_neg List.not_mem_nil
  obtain ⟨blocks, progress⟩ := exists_progress distinct plain
  intro entry member field shown
  have agrees := settled entry member List.not_mem_nil field shown
  rw [all] at agrees
  refine agrees_inside agrees ?_
  intro name isEntry children found
  cases List.mem_singleton.mp isEntry
  have standing : (ofSchemas schemas).value.get? entry.1 = some entry.2 :=
    progress.consistent.indexed.get?_eq_some_iff.mpr member
  have isRecord : entry.2 = .record children := Option.some.inj (standing.symm.trans found)
  rw [isRecord] at shown
  exact List.sizeOf_lt_of_mem shown

def citySchema : Schema := { types := some (.one "string") }

def addressSchema : Schema := { properties := [("city", citySchema)] }

def ownerSchema : Schema := { properties := [("address", addressSchema)] }

/-- A pet and its owner, who lives at an address; both the owner and the address are in place. -/
def titledSchemas : Entries Schema := [("Pet", { properties := [("owner", ownerSchema)] })]

theorem fields_agree_titled :
    titledSchemas.keys.Nodup ∧ (∀ key ∈ titledSchemas.keys, Unbracketed (declaration key).base) ∧
    (∀ entry ∈ titledSchemas, HoldsTitled entry.2) ∧ FieldsAgree (ofSchemas titledSchemas).value := by
  have distinct : titledSchemas.keys.Nodup := by decide +kernel
  have plain : ∀ key ∈ titledSchemas.keys, Unbracketed (declaration key).base := by decide +kernel
  have ofCity : citySchema.inlineObjects = [] := rfl
  have ofAddress : addressSchema.inlineObjects = [addressSchema] := rfl
  have ofOwner : ownerSchema.inlineObjects = [ownerSchema] := rfl
  have address : Titled addressSchema := by
    constructor
    · intro entry member objects
      cases List.mem_singleton.mp member
      exact absurd ofCity objects
    · intro entry member
      cases List.mem_singleton.mp member
      simp [ofCity]
  have owner : Titled ownerSchema := by
    constructor
    · intro entry member objects
      cases List.mem_singleton.mp member
      decide +kernel
    · intro entry member object inside
      cases List.mem_singleton.mp member
      cases List.mem_singleton.mp (ofAddress ▸ inside)
      exact address
  have titled : ∀ entry ∈ titledSchemas, HoldsTitled entry.2 := by
    intro entry member property isProperty object inside
    cases List.mem_singleton.mp member
    cases List.mem_singleton.mp isProperty
    cases List.mem_singleton.mp (ofOwner ▸ inside)
    exact owner
  exact ⟨distinct, plain, titled, fields_agree titledSchemas distinct plain titled⟩

/-- A pet with an owner in place, in whom a property with a name of no letters is an object. -/
def namelessSchemas : Entries Schema :=
  let owner : Schema := { properties := [("_", addressSchema)] }
  [("Pet", { properties := [("owner", owner)] })]

/-- The object inside of the owner gets the owner's name while the owner has no fields yet. -/
theorem nameless_fields_disagree : ¬ FieldsAgree (ofSchemas namelessSchemas).value := by
  have hollow : ((ofSchemas namelessSchemas).value.entries.any fun entry =>
      entry.2.shown.any fun field => field.properties.any fun children =>
        children.any fun child => child.properties.any List.isEmpty) = true := by
    decide +kernel
  have solid : ((ofSchemas namelessSchemas).value.entries.all fun entry =>
      !entry.2.fields.isEmpty) = true := by
    decide +kernel
  have distinct : (ofSchemas namelessSchemas).value.names.Nodup := by decide +kernel
  intro agree
  simp only [List.any_eq_true, Option.any_eq_true] at hollow
  obtain ⟨entry, isEntry, field, shown, children, carried, child, isChild, none, empty, isEmpty⟩ :=
    hollow
  obtain ⟨_, -, inside⟩ := agrees_inside_children (agree entry isEntry field shown) carried
  obtain ⟨name, found, -⟩ := agrees_inside_children (inside child isChild) empty
  have member := (Entries.get?_eq_some_iff distinct).mp found
  have filled := List.all_eq_true.mp solid _ member
  simp [Definition.fields, isEmpty] at filled

end ClientGen.Definitions
