import ClientGen.Proofs.Endpoint.Carriers
import ClientGen.Proofs.Resolve.Spelling
import ClientGen.Proofs.TypeScript.LocalName

/-!
The names in the types of operations. Inline objects stay in the fields, so a type mentions known
names and the name of the object that its field carries, and so do the types of the fields inside.
-/

set_option autoImplicit false

namespace ClientGen

open TypeScript (IsText IsWord Solid localName)

/-! ## Fields with their objects -/

/-- Whether a type mentions known names only, or one name in case there are fields of an object. -/
def Carried (refers : String → Prop) (name type : String) (children : List Field) : Prop :=
  IsText (fun word => refers word ∨ word = name ∧ children ≠ []) type

theorem Carried.local {refers : String → Prop} {name type : String} {children : List Field}
    (carried : Carried refers name type children) (solid : Solid name)
    (headed : children ≠ [] → HeadedBy name type) :
    Carried refers (localName type) type children := by
  refine carried.mono fun word known => known.imp_right fun own => ⟨own.1.trans ?_, own.2⟩
  exact (TypeScript.localName_of_headedBy solid (headed own.2)).symm

namespace Field

/-- At any depth, the type of a field mentions known names and that of the object in it, which is made
of the owner's name and the field's. -/
inductive SpelledFor (refers : String → Prop) : String → Field → Prop where
  | mk {owner : String} {field : Field} :
      (field.enumOption = [] →
        Carried refers (Names.synthesized owner field.name) field.type field.children) →
      (∀ child ∈ field.children, SpelledFor refers (Names.synthesized owner field.name) child) →
      SpelledFor refers owner field

/-- At any depth, the type of a field mentions known names and that of the interface for its object. -/
inductive Closed (refers : String → Prop) : Field → Prop where
  | mk {field : Field} :
      (field.enumOption = [] → Carried refers (localName field.type) field.type field.children) →
      (∀ child ∈ field.children, Closed refers child) → Closed refers field

variable {refers : String → Prop} {owner : String} {field : Field}

theorem SpelledFor.closed (spelled : SpelledFor refers owner field) (solid : Solid owner)
    (headed : (Carrier.ofField owner field).Headed) : Closed refers field := by
  induction spelled with
  | @mk owner field type _ ih =>
      obtain ⟨first, inside⟩ := Carrier.headed_iff.mp headed
      have named := solid.synthesized field.name
      exact .mk (fun none => (type none).local named first) fun child member =>
        ih child member named (inside child member)

end Field

/-- A resolved type like that of a field. -/
structure ResolvedType.SpelledFor (refers : String → Prop) (name : String)
    (resolved : ResolvedType) : Prop where
  type : resolved.enumOption = [] →
    Carried refers name resolved.type (resolved.properties.getD [])
  children : ∀ child ∈ resolved.properties.getD [], child.SpelledFor refers name

theorem ResolvedType.SpelledFor.fieldOf {refers : String → Prop} {owner property : String}
    {resolved : ResolvedType}
    (spelled : resolved.SpelledFor refers (Names.synthesized owner property)) (required : Bool)
    (schema : Schema) : (Resolve.fieldOf property required schema resolved).SpelledFor refers owner :=
  .mk spelled.type spelled.children

/-! ## Schemas whose fields carry their objects -/

/-- A schema for which the fields of the inline object in it are not lost: no array takes the place of
the object in a union, and no map has one for its values. -/
structure Schema.Carries (schema : Schema) : Prop where
  object : "object" ∈ schema.typeWords → schema.hasProperties = true → "array" ∉ schema.typeWords
  values : "object" ∈ schema.typeWords → schema.mapsValues = true → ∀ values,
    schema.additional = some (.described values) → values.inlineObjects = []

namespace Schema

/-- An inline object in such a schema is the schema itself or in the items of an array. -/
theorem Carries.source {schema : Schema} (carries : schema.Carries) (worded : schema.Worded)
    (inside : schema.inlineObjects ≠ []) :
    ("object" ∈ schema.typeWords ∧ schema.hasProperties = true) ∨
      ("array" ∈ schema.typeWords ∧ ∃ items, schema.items = some items ∧
        items.inlineObjects ≠ []) := by
  obtain ⟨object, member⟩ := List.exists_mem_of_ne_nil _ inside
  rw [Schema.inlineObjects_of_words worded.several worded.inline worded.free] at member
  rcases List.mem_append.mp member with below | here
  · split at below
    · next isArray =>
        cases found : schema.items with
        | none =>
            rw [found] at below
            cases below
        | some items =>
            rw [found] at below
            exact .inr ⟨isArray, items, rfl, List.ne_nil_of_mem below⟩
    · cases below
  · split at here
    · next isObject =>
        split at here
        · next properties => exact .inl ⟨isObject, properties⟩
        · split at here
          · next maps =>
              obtain ⟨values, found⟩ := Schema.exists_values maps
              rw [found, inlineObjectsOfValues, carries.values isObject maps values found] at here
              cases here
          · cases here
    · cases here

end Schema

namespace Resolve

variable {refers : String → Prop} {schema : Schema} {name : String}

theorem detached_scope (refers : String → Prop) : Scope .detached [] refers Schema.Carries
    fun name schema _ word => refers word ∨ word = name ∧ schema.inlineObjects ≠ [] where
  placeholders := fun _ none => absurd none List.not_mem_nil
  referred := fun _ _ _ _ known => .inl (known.resolve_right List.not_mem_nil)
  keeps := fun _ _ _ _ _ _ known => known
  sole := by
    intro name schema sole _ word single known
    rw [Schema.inlineObjects_of_sole single]
    exact known
  items := by
    intro name schema items _ word worded member found known
    refine known.imp_right fun own => ⟨own.1, ?_⟩
    rw [Schema.inlineObjects_of_words worded.several worded.inline worded.free, if_pos member, found]
    exact List.append_ne_nil_of_left_ne_nil own.2 _
  values := by
    intro name schema values _ word _ carries member maps found known
    refine known.imp_right fun own => absurd (carries.values member maps values found) own.2
  object := by
    intro name schema state worded _ member properties word
    refine ⟨⟨word, .inr ⟨rfl, ?_⟩⟩, fun _ => id⟩
    rw [Schema.inlineObjects_of_words worded.several worded.inline worded.free, if_pos member,
      if_pos properties]
    exact List.append_ne_nil_of_right_ne_nil _ (List.cons_ne_nil _ _)

/-- An object with properties has fields. -/
theorem object_nonempty {mode : Mode} {mappings : Entries String} {owner : String} {state : State}
    (inline : schema.reference = none) (properties : schema.hasProperties = true) :
    Ensures (object mode mappings owner schema) state fun fields _ => fields ≠ [] := by
  have keeps : KeepsFields mode mappings owner schema.declaredProperties fun seen fields _ =>
      seen ≠ [] → fields ≠ [] := by
    constructor
    · intro _ _ _ _ _ again _ _
      obtain ⟨field, member, -⟩ := again
      exact List.ne_nil_of_mem member
    · intro _ _ _ _ _ _ _
      refine (show Ensures (type _ _ _ _) _ fun _ _ => True from trivial).mono fun _ _ _ _ _ => ?_
      exact List.append_ne_nil_of_right_ne_nil _ (List.cons_ne_nil _ _)
  have declared : schema.declaredProperties ≠ [] := by
    refine List.append_ne_nil_of_left_ne_nil ?_ _
    simpa [inline, Schema.hasProperties] using properties
  exact (object_ensures keeps fun none => absurd rfl none).mono fun _ _ known => known declared

/-- A schema with an inline object resolves to the fields of one. -/
theorem type_carries (tame : schema.Tame refers Schema.Carries) (inside : schema.inlineObjects ≠ [])
    (state : State) :
    Ensures (type .detached [] name schema) state fun resolved _ =>
      resolved.properties.getD [] ≠ [] := by
  induction tame generalizing state with
  | combined single _ ih =>
      rw [type_of_sole _ _ _ single]
      rw [Schema.inlineObjects_of_sole single] at inside
      exact ih inside state
  | referring refersTo _ => exact absurd (Schema.inlineObjects_of_reference refersTo) inside
  | listed several _ listed => exact absurd (Schema.inlineObjects_of_listed several listed) inside
  | @worded schema worded carries _ _ _ _ _ _ inItems _ _ =>
      rw [type_of_words _ _ _ worded.several worded.inline worded.free, ensures_bind]
      have keeps (full : "array" ∈ schema.typeWords → ∃ items, schema.items = some items ∧
          items.inlineObjects ≠ []) : KeepsWords .detached [] name schema fun found _ =>
            found.2.properties.getD [] ≠ [] := by
        constructor
        · exact fun _ _ _ _ _ known => known
        · intro _ _ member none
          obtain ⟨items, found, -⟩ := full member
          rw [none] at found
          cases found
        · intro items _ later member isItems _
          obtain ⟨_, found, objects⟩ := full member
          rw [isItems] at found
          cases found
          exact inItems member items isItems objects later
        · intro _ later _ properties _
          rw [inlineObject_detached, ensures_bind]
          exact object_nonempty worded.inline properties
        · exact fun _ _ _ _ _ _ _ known => known
      rcases carries.source worded inside with ⟨isObject, properties⟩ | ⟨isArray, items, found, objects⟩
      · refine words_ensures_of_mem (keeps fun isArray => ?_) isObject (fun found later => ?_) state
        · exact absurd isArray (carries.object isObject properties)
        · rw [addWord_object properties, ensures_bind]
          exact object_nonempty worded.inline properties
      · refine words_ensures_of_mem (keeps fun _ => ⟨items, found, objects⟩) isArray
          (fun _ later => ?_) state
        rw [addWord_array found, ensures_bind]
        exact inItems isArray items found objects later

theorem type_carried (tame : schema.Tame refers Schema.Carries) (word : IsWord name) (state : State) :
    Ensures (type .detached [] name schema) state fun resolved _ => resolved.enumOption = [] →
      Carried refers name resolved.type (resolved.properties.getD []) := by
  have spelled := type_spelled_of_enumOption (detached_scope refers) tame word state
  by_cases inside : schema.inlineObjects = []
  · refine spelled.mono fun _ _ known none => (known none).mono fun other mentioned => ?_
    exact mentioned.imp_right fun own => absurd inside own.2
  · refine (spelled.and (type_carries tame inside state)).mono fun _ _ known none => ?_
    exact (known.1 none).mono fun other mentioned => mentioned.imp_right fun own => ⟨own.1, known.2⟩

theorem object_spelledFor {owner : String} (word : IsWord owner)
    (inside : ∀ entry ∈ schema.declaredProperties, ∀ (name : String), IsWord name →
      ∀ state : State, Ensures (type .detached [] name entry.2) state fun resolved _ =>
        resolved.SpelledFor refers name) (state : State) :
    Ensures (object .detached [] owner schema) state fun fields _ =>
      ∀ field ∈ fields, field.SpelledFor refers owner := by
  have keeps : KeepsFields .detached [] owner schema.declaredProperties fun _ fields _ =>
      ∀ field ∈ fields, field.SpelledFor refers owner := by
    constructor
    · exact fun _ _ _ _ _ _ known => known
    · intro seen entry fields later turn _ known
      have member : entry ∈ schema.declaredProperties :=
        turn.subset (List.mem_append_right _ (.head _))
      have now := inside entry member _ (word.synthesized entry.1) later
      refine now.mono fun resolved last spelled required field isField => ?_
      rcases List.mem_append.mp isField with earlier | new
      · exact known field earlier
      · rw [List.mem_singleton.mp new]
        exact spelled.fieldOf required entry.2
  exact object_ensures keeps fun _ none => absurd none List.not_mem_nil

/-- The types in a tame schema, at any depth, mention known names and those of their objects. -/
theorem type_spelledFor (tame : schema.Tame refers Schema.Carries) (word : IsWord name)
    (state : State) :
    Ensures (type .detached [] name schema) state fun resolved _ =>
      resolved.SpelledFor refers name := by
  -- What the type itself mentions is known; the induction is for the fields inside of it.
  have outside := type_carried tame word state
  induction tame generalizing name state with
  | combined single _ ih =>
      rw [type_of_sole _ _ _ single]
      rw [type_of_sole _ _ _ single] at outside
      exact ih word state outside
  | referring refersTo _ =>
      rw [type_of_reference _ _ _ refersTo] at outside ⊢
      exact ⟨outside, fun _ none => absurd none List.not_mem_nil⟩
  | listed several inline listed =>
      rw [type_of_enum _ _ _ several inline listed] at outside ⊢
      exact ⟨outside, fun _ none => absurd none List.not_mem_nil⟩
  | @worded schema worded _ _ _ items properties _ _ inItems inProperties _ =>
      have keeps : KeepsWords .detached [] name schema fun found _ =>
          ∀ child ∈ found.2.properties.getD [], child.SpelledFor refers name := by
        constructor
        · exact fun _ _ _ _ _ known => known
        · exact fun _ _ _ _ _ _ none => absurd none List.not_mem_nil
        · intro inner _ later member found _
          have tame := items member inner found
          have spelled := inItems member inner found word later (type_carried tame word later)
          exact spelled.mono fun _ _ known => known.children
        · intro _ later member _ _
          rw [inlineObject_detached, ensures_bind]
          refine object_spelledFor word (fun entry isEntry own isWord state => ?_) later
          have tame := properties member entry isEntry
          exact inProperties member entry isEntry isWord state (type_carried tame isWord state)
        · exact fun _ _ _ _ _ _ _ known => known
      have inside : Ensures (type .detached [] name schema) state fun resolved _ =>
          ∀ child ∈ resolved.properties.getD [], child.SpelledFor refers name := by
        rw [type_of_words _ _ _ worded.several worded.inline worded.free, ensures_bind]
        exact words_ensures keeps fun _ none => absurd none List.not_mem_nil
      exact (outside.and inside).mono fun _ _ known => ⟨known.1, known.2⟩

end Resolve

/-! ## Operations -/

namespace TypeScript

theorem Solid.isWord {name : String} (solid : Solid name) (nonempty : name ≠ "") : IsWord name :=
  ⟨nonempty, fun char member => isWordChar_of_not_separator (solid char member)⟩

end TypeScript

/-- What is asked of the schemas of an operation: they are tame, their inline objects come first and
are not lost, and that of the reply offers no choices. -/
structure Operation.Tame (refers : String → Prop) (operation : Operation) : Prop where
  schemas : ∀ schema, operation.Describes schema → schema.Tame refers Schema.Carries
  front : ∀ schema, operation.Describes schema → schema.InFront
  reply : ∀ schema, operation.replySchema? = some schema → schema.Free

namespace Operation

variable {refers : String → Prop} {operation : Operation} {owner : String}

theorem closed_of_mem_buckets (tame : operation.Tame refers) (solid : Solid owner)
    (nonempty : owner ≠ "") {field : Field} (member : field ∈ (operation.buckets owner).all) :
    field.Closed refers := by
  obtain ⟨name, required, schema, describes, rfl⟩ := exists_fieldFor member
  have word := (solid.isWord nonempty).synthesized name
  have spelled := Resolve.type_spelledFor (tame.schemas schema describes) word {}
  exact (spelled.fieldOf required schema).closed solid
    (headed_fieldFor (tame.front schema describes) name required)

/-- The type of a reply mentions known names and that of the interface for its object. -/
theorem closed_reply (tame : operation.Tame refers) (solid : Solid owner) (subject : String) :
    Carried refers (localName (operation.reply owner subject).value.type)
        (operation.reply owner subject).value.type
        (operation.reply owner subject).value.properties ∧
      ∀ child ∈ (operation.reply owner subject).value.properties, child.Closed refers := by
  have headed := @headed_reply operation owner tame.front subject
  rw [reply_value] at headed ⊢
  cases found : operation.replySchema? with
  | none => exact ⟨⟨[], fun _ none => absurd none List.not_mem_nil, rfl⟩,
      fun _ none => absurd none List.not_mem_nil⟩
  | some schema =>
      rw [found] at headed
      have describes := describes_of_replySchema? found
      have word : IsWord (owner ++ "Response") := solid.response.isWord (by simp)
      have spelled := Resolve.type_spelledFor (tame.schemas schema describes) word {}
      have none := @Resolve.type_of_free .detached [] (owner ++ "Response") schema {}
        (tame.reply schema found)
      obtain ⟨first, inside⟩ := Carrier.headed_iff.mp headed
      exact ⟨(spelled.type none).local solid.response first, fun child member =>
        (spelled.children child member).closed solid.response (inside child member)⟩

end Operation

/-- Whether the types in a resolved operation mention known names and those of interfaces. -/
structure Endpoint.Closed (refers : String → Prop) (endpoint : Endpoint) : Prop where
  parameters : ∀ field ∈ endpoint.parameters.all, field.Closed refers
  reply : Carried refers (localName endpoint.response.type) endpoint.response.type
    endpoint.response.properties
  inside : ∀ child ∈ endpoint.response.properties, child.Closed refers

theorem Candidate.closed_ofPaths {refers : String → Prop} {rules : PathRules}
    {paths : Entries PathItem}
    (tame : ∀ candidate ∈ ofPaths rules.filter paths, candidate.operation.Tame refers)
    {entry : String × Endpoint} (member : entry ∈ (Endpoint.ofPaths rules paths).value)
    (named : Text.pascalCase entry.1 ≠ "") : entry.2.Closed refers := by
  obtain ⟨candidate, listed, tag, described⟩ := exists_described member
  have solid := TypeScript.solid_pascalCase entry.1
  obtain ⟨reply, inside⟩ := Operation.closed_reply (tame candidate listed) solid candidate.subject
  rw [described]
  constructor
  · exact fun field inBuckets =>
      Operation.closed_of_mem_buckets (tame candidate listed) solid named inBuckets
  · exact reply
  · exact inside

end ClientGen
