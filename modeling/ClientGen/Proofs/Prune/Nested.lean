import ClientGen.Proofs.Prune.Steps

/-!
The schemas inside of a schema, and how pruning treats the members that hold them. A member is
pruned without a look at its neighbours, in one of four ways.
-/

set_option autoImplicit false

namespace ClientGen.Prune

/-- The names of members that hold one schema. -/
abbrev IsAlone (name : String) : Prop := name = "items" ∨ name = "additionalProperties"

/-- Whether a value stands as a schema in a member of another. A Boolean in the place of one schema
is passed over. -/
inductive InMember (part : Json) (name : String) (value : Json) : Prop where
  | property (key inner) :
      name = "properties" → value = .obj inner → (key, part) ∈ inner → InMember part name value
  | alone : IsAlone name → (∀ flag, value ≠ .bool flag) → part = value → InMember part name value
  | combined (parts) : name = "allOf" → value = .arr parts → part ∈ parts → InMember part name value

/-- Whether a value stands as a schema directly inside of another. -/
inductive Nested (part : Json) : Json → Prop where
  | intro {members name value} :
      (name, value) ∈ members → InMember part name value → Nested part (.obj members)

/-- The four kinds of members of a schema. -/
inductive MemberForm : String → Json → Prop where
  | properties (inner : List (String × Json)) : MemberForm "properties" (.obj inner)
  | alone {name value} : IsAlone name → (∀ flag, value ≠ .bool flag) → MemberForm name value
  | combined (parts : List Json) : MemberForm "allOf" (.arr parts)
  | plain {name value} : (∀ inner, (name, value) ≠ ("properties", .obj inner)) →
      (IsAlone name → ∃ flag, value = .bool flag) →
      (∀ parts, (name, value) ≠ ("allOf", .arr parts)) → MemberForm name value

theorem memberForm (name : String) (value : Json) : MemberForm name value := by
  by_cases isAlone : IsAlone name
  · cases value with
    | bool flag =>
        refine .plain ?_ (fun _ => ⟨flag, rfl⟩) ?_ <;> simp
    | _ => exact .alone isAlone (by simp)
  · by_cases object : ∃ inner, (name, value) = ("properties", .obj inner)
    · obtain ⟨inner, same⟩ := object
      cases same
      exact .properties inner
    · by_cases list : ∃ parts, (name, value) = ("allOf", .arr parts)
      · obtain ⟨parts, same⟩ := list
        cases same
        exact .combined parts
      · exact .plain (not_exists.mp object) (absurd · isAlone) (not_exists.mp list)

section InMember

variable {part value : Json} {name : String}

theorem inMember_properties_iff {inner : List (String × Json)} :
    InMember part "properties" (.obj inner) ↔ ∃ key, (key, part) ∈ inner := by
  constructor
  · intro inside
    cases inside with
    | property key _ _ same member =>
        cases same
        exact ⟨key, member⟩
    | alone isAlone => simp [IsAlone] at isAlone
    | combined _ named => simp at named
  · rintro ⟨key, member⟩
    exact .property key inner rfl rfl member

theorem InMember.eq_of_isAlone (inside : InMember part name value) (isAlone : IsAlone name) :
    part = value := by
  cases inside with
  | property _ _ named =>
      subst named
      simp [IsAlone] at isAlone
  | alone _ _ same => exact same
  | combined _ named =>
      subst named
      simp [IsAlone] at isAlone

theorem inMember_alone_iff (isAlone : IsAlone name) (noFlag : ∀ flag, value ≠ .bool flag) :
    InMember part name value ↔ part = value :=
  ⟨fun inside => inside.eq_of_isAlone isAlone, .alone isAlone noFlag⟩

theorem inMember_combined_iff {parts : List Json} :
    InMember part "allOf" (.arr parts) ↔ part ∈ parts := by
  constructor
  · intro inside
    cases inside with
    | property _ _ named => simp at named
    | alone isAlone => simp [IsAlone] at isAlone
    | combined _ _ same member =>
        cases same
        exact member
  · exact .combined parts rfl rfl

theorem not_inMember_of_plain (noProperties : ∀ inner, (name, value) ≠ ("properties", .obj inner))
    (flag : IsAlone name → ∃ flag, value = .bool flag)
    (noParts : ∀ parts, (name, value) ≠ ("allOf", .arr parts)) : ¬ InMember part name value := by
  intro inside
  cases inside with
  | property _ inner named same => exact noProperties inner (by rw [named, same])
  | alone isAlone noFlag =>
      obtain ⟨flag, same⟩ := flag isAlone
      exact noFlag flag same
  | combined parts named same => exact noParts parts (by rw [named, same])

end InMember

/-- Prunes one member of a schema. -/
def schemaMember (subject name : String) (value : Json) : Reported (Option Json) :=
  if name = "properties" then
    match value with
    | .obj inner => always (keepSchemas (some subject) (schemaEntries (some subject) inner))
    | other => untouched other
  else if name = "items" ∨ name = "additionalProperties" then
    match value with
    | .bool flag => untouched (.bool flag)
    | other => keepNested subject name (schema subject other)
  else if name = "allOf" then
    match value with
    | .arr parts => always (keepParts subject (schemaParts subject parts))
    | other => untouched other
  else untouched value

theorem schemaEntries_eq_map (owner : Option String) (members : List (String × Json)) :
    schemaEntries owner members =
      members.map fun member => (member.1, schema (entrySubject owner member.1) member.2) := by
  induction members with
  | nil => rfl
  | cons member rest ih => rw [schemaEntries, ih, List.map_cons]

theorem schemaParts_eq_map (subject : String) (parts : List Json) :
    schemaParts subject parts = parts.map (schema subject) := by
  induction parts with
  | nil => rfl
  | cons part rest ih => rw [schemaParts, ih, List.map_cons]

theorem keepSchemas_eq (owner : Option String) (prune : String → Json → Reported Json)
    (members : List (String × Json)) :
    keepSchemas owner (members.map fun member => (member.1, prune member.1 member.2)) =
      keepMembers (schemaProblem owner) prune members := by
  simp only [keepSchemas, keepMembers, keepAll, named, List.map_map, List.flatMap_map]
  rfl

theorem keepParts_eq (subject : String) (prune : Json → Reported Json) (parts : List Json) :
    keepParts subject (parts.map prune) =
      keepItems (fun part => problemOf subject "malformed `allOf` member" (Schema.decode part))
        prune parts := by
  simp only [keepParts, keepItems, keepAll, List.map_map, List.flatMap_map]
  rfl

theorem schema_obj (subject : String) (members : List (String × Json)) :
    schema subject (.obj members) = assembled schemaOrder (schemaMember subject) members := by
  rw [schema, assembled]
  congr 1
  induction members with
  | nil => rfl
  | cons member rest ih =>
      obtain ⟨name, value⟩ := member
      rw [List.map_cons, ← ih]
      cases value <;> rfl

theorem schemaMember_properties (subject : String) (inner : List (String × Json)) :
    schemaMember subject "properties" (.obj inner) =
      always (keepMembers (schemaProblem (some subject))
        (fun name => schema (entrySubject (some subject) name)) inner) := by
  change always (keepSchemas (some subject) (schemaEntries (some subject) inner)) = _
  rw [schemaEntries_eq_map]
  rw [keepSchemas_eq (some subject) fun name => schema (entrySubject (some subject) name)]

theorem schemaMember_alone (subject : String) {name : String} {value : Json}
    (isAlone : IsAlone name) (noFlag : ∀ flag, value ≠ .bool flag) :
    schemaMember subject name value = keepNested subject name (schema subject value) := by
  have other : name ≠ "properties" := by
    rintro rfl
    simp [IsAlone] at isAlone
  unfold schemaMember
  rw [if_neg other, if_pos isAlone]
  cases value with
  | bool flag => exact absurd rfl (noFlag flag)
  | _ => rfl

theorem schemaMember_combined (subject : String) (parts : List Json) :
    schemaMember subject "allOf" (.arr parts) =
      always (keepItems (fun part => problemOf subject "malformed `allOf` member"
        (Schema.decode part)) (schema subject) parts) := by
  change always (keepParts subject (schemaParts subject parts)) = _
  rw [schemaParts_eq_map, keepParts_eq]

theorem schemaMember_plain (subject : String) {name : String} {value : Json}
    (noProperties : ∀ inner, (name, value) ≠ ("properties", .obj inner))
    (flag : IsAlone name → ∃ flag, value = .bool flag)
    (noParts : ∀ parts, (name, value) ≠ ("allOf", .arr parts)) :
    schemaMember subject name value = untouched value := by
  unfold schemaMember
  split
  · next same =>
      subst same
      cases value with
      | obj inner => exact absurd rfl (noProperties inner)
      | _ => rfl
  · split
    · next isAlone =>
        obtain ⟨flag, rfl⟩ := flag isAlone
        rfl
    · split
      · next same =>
          subst same
          cases value with
          | arr parts => exact absurd rfl (noParts parts)
          | _ => rfl
      · rfl

theorem definitions_obj (members : List (String × Json)) :
    definitions (.obj members) =
      keepMembers (schemaProblem none) (fun name => schema (entrySubject none name)) members := by
  rw [definitions, schemaEntries_eq_map]
  exact keepSchemas_eq none _ members

theorem InMember.sizeOf_le {part value : Json} {name : String} (inside : InMember part name value) :
    sizeOf part ≤ sizeOf value := by
  cases inside with
  | property _ _ _ same member =>
      have here := List.sizeOf_lt_of_mem member
      subst same
      simp only [Json.obj.sizeOf_spec, Prod.mk.sizeOf_spec] at here ⊢
      omega
  | alone _ _ same => exact same ▸ Nat.le_refl _
  | combined _ _ same member =>
      have here := List.sizeOf_lt_of_mem member
      subst same
      simp only [Json.arr.sizeOf_spec]
      omega

/-- Induction on a value through the schemas inside of it. -/
theorem nested_induction {holds : Json → Prop}
    (step : ∀ value, (∀ part, Nested part value → holds part) → holds value) (value : Json) :
    holds value := by
  refine (measure fun value : Json => sizeOf value).wf.induction value fun value ih => ?_
  refine step value fun part nested => ih part ?_
  change sizeOf part < sizeOf value
  cases nested with
  | intro member inside =>
      have outer := List.sizeOf_lt_of_mem member
      have inner := inside.sizeOf_le
      simp only [Json.obj.sizeOf_spec, Prod.mk.sizeOf_spec] at outer ⊢
      omega

end ClientGen.Prune
