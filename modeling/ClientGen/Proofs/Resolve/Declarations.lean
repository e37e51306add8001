import ClientGen.Proofs.Distinct
import ClientGen.Proofs.Resolve.Rules

/-!
The fields of a combination. Its properties are declared by the object itself and by the inline
members, and the first declaration of each name is resolved, in order. A field is required if the
part that declares it or the object itself lists its name; what other members list is lost.
-/

set_option autoImplicit false

namespace ClientGen

theorem Required.flagged_iff (required : Required) :
    required.flagged = true ↔ required = .flag true := by
  cases required <;> simp [flagged]

namespace Schema

/-- Whether a schema lists a property as required. -/
def Lists (schema : Schema) (name : String) : Prop :=
  ∃ names, schema.required = .names names ∧ name ∈ names

theorem lists_iff (schema : Schema) (name : String) :
    schema.required.lists name = true ↔ schema.Lists name := by
  unfold Lists
  cases schema.required <;> simp [Required.lists]

instance (schema : Schema) (name : String) : Decidable (schema.Lists name) :=
  decidable_of_iff (schema.required.lists name = true) (schema.lists_iff name)

theorem decide_lists (schema : Schema) (name : String) :
    decide (schema.Lists name) = schema.required.lists name := by
  rw [Bool.eq_iff_iff, decide_eq_true_iff, schema.lists_iff]

/-- A property as a part of a combination declares it, and whether this part or the whole lists it
as required. -/
structure Declaration where
  name : String
  schema : Schema
  listed : Bool

/-- An object itself and the members of its combination, without those that are references. -/
def inlineParts (schema : Schema) : List Schema :=
  (schema :: schema.allOf).filter fun part => part.reference.isNone

def declarationsOf (isRequired : String → Bool) (properties : List (String × Schema)) :
    List Declaration :=
  properties.map fun entry => ⟨entry.1, entry.2, isRequired entry.1⟩

/-- The declarations of an object and those of the inline members of its combination. -/
def declarations (schema : Schema) : List Declaration :=
  schema.inlineParts.flatMap fun part =>
    declarationsOf (fun name => part.Lists name ∨ schema.Lists name) part.properties

/-- The declarations that are the first of a name, apart from some names. -/
def firstOf (taken : List String) : List Declaration → List Declaration
  | [] => []
  | first :: rest =>
      if first.name ∈ taken then firstOf taken rest
      else first :: firstOf (taken ++ [first.name]) rest

def firstDeclarations (schema : Schema) : List Declaration := firstOf [] schema.declarations

/-- Whether an object or an inline member of its combination lists a property as required. -/
def Requires (schema : Schema) (name : String) : Prop :=
  schema.Lists name ∨ ∃ part ∈ schema.allOf, part.reference = none ∧ part.Lists name

theorem names_firstOf (taken : List String) (declarations : List Declaration) :
    (firstOf taken declarations).map Declaration.name =
      ((declarations.map Declaration.name).filter fun name => name ∉ taken).eraseDups := by
  induction declarations generalizing taken with
  | nil => rfl
  | cons first rest ih =>
      rw [firstOf, List.map_cons, List.filter_cons]
      by_cases known : first.name ∈ taken
      · simp [known, ih]
      · rw [if_neg known, List.map_cons, ih, if_pos (by simpa using known), List.eraseDups_cons,
          List.filter_filter]
        congr 2
        refine List.filter_congr fun name _ => ?_
        by_cases same : name = first.name <;> simp [same, known]

theorem mem_firstOf {taken : List String} {declarations : List Declaration}
    {declaration : Declaration} : declaration ∈ firstOf taken declarations ↔
      declaration.name ∉ taken ∧
        declarations.find? (fun other => other.name = declaration.name) = some declaration := by
  induction declarations generalizing taken with
  | nil => simp [firstOf]
  | cons first rest ih =>
      rw [firstOf, List.find?_cons]
      by_cases known : first.name ∈ taken
      · rw [if_pos known, ih]
        refine and_congr_right fun free => ?_
        have apart : first.name ≠ declaration.name := fun same => free (same ▸ known)
        simp [apart]
      · rw [if_neg known, List.mem_cons, ih]
        by_cases same : first.name = declaration.name
        · rw [same] at known
          simp [same, known, eq_comm]
        · have other : declaration ≠ first := by
            rintro rfl
            exact same rfl
          simp [same, other, Ne.symm same]

theorem firstOf_congr {taken others : List String} (same : ∀ name, name ∈ taken ↔ name ∈ others)
    (declarations : List Declaration) :
    firstOf taken declarations = firstOf others declarations := by
  induction declarations generalizing taken others with
  | nil => rfl
  | cons first rest ih =>
      rw [firstOf, firstOf, ih same]
      have extended : ∀ name, name ∈ taken ++ [first.name] ↔ name ∈ others ++ [first.name] := by
        intro name
        rw [List.mem_append, List.mem_append, same]
      rw [ih extended]
      exact if_congr (same first.name) rfl rfl

theorem firstOf_append (taken : List String) (before after : List Declaration) :
    firstOf taken (before ++ after) =
      firstOf taken before ++ firstOf (taken ++ before.map Declaration.name) after := by
  induction before generalizing taken with
  | nil => simp [firstOf]
  | cons first rest ih =>
      rw [List.cons_append, firstOf, firstOf]
      split
      · next known =>
          rw [ih]
          congr 1
          refine firstOf_congr (fun name => ?_) after
          by_cases same : name = first.name
          · simp [same, known]
          · simp [same]
      · rw [ih, List.cons_append, List.map_cons, List.append_assoc]
        rfl

theorem requires_of_listed {schema : Schema} {declaration : Declaration}
    (member : declaration ∈ schema.declarations) (listed : declaration.listed = true) :
    schema.Requires declaration.name := by
  obtain ⟨part, isPart, inPart⟩ := List.mem_flatMap.mp member
  obtain ⟨entry, -, rfl⟩ := List.mem_map.mp inPart
  obtain ⟨among, inline⟩ := List.mem_filter.mp isPart
  rcases of_decide_eq_true listed with byPart | byWhole
  · cases among with
    | head => exact .inl byPart
    | tail _ isMember => exact .inr ⟨part, isMember, Option.isNone_iff_eq_none.mp inline, byPart⟩
  · exact .inl byWhole

/-- Whether what is required of an object is listed where it is declared, unless it is flagged
there. -/
def ListsWhereDeclared (schema : Schema) : Prop :=
  ∀ declaration ∈ schema.firstDeclarations, schema.Requires declaration.name →
    declaration.schema.required = .flag true ∨ declaration.listed = true

end Schema

namespace Resolve

open Schema (Declaration declarationsOf firstOf)

variable (mode : Mode) (mappings : Entries String) (owner : String)

/-- The field for a declaration. -/
def declared (declaration : Declaration) : Step Field :=
  property mode mappings owner declaration.name declaration.listed declaration.schema

/-- One declaration after the other adds its field, unless there is one of its name. -/
def addDeclared (done : List Field) : List Declaration → Step (List Field)
  | [] => return done
  | first :: rest => do
      if done.any fun field => field.name = first.name then addDeclared done rest
      else
        let field ← declared mode mappings owner first
        addDeclared (done ++ [field]) rest

theorem addDeclared_append (done : List Field) (before after : List Declaration) :
    addDeclared mode mappings owner done (before ++ after) =
      addDeclared mode mappings owner done before >>=
        fun extended => addDeclared mode mappings owner extended after := by
  induction before generalizing done with
  | nil => rfl
  | cons first rest ih =>
      rw [List.cons_append, addDeclared, addDeclared]
      split
      · exact ih done
      · rw [bind_assoc]
        exact bind_congr fun field => ih _

theorem propertyFields_eq (isRequired : String → Bool) (done : List Field)
    (properties : List (String × Schema)) :
    propertyFields mode mappings owner isRequired done properties =
      addDeclared mode mappings owner done (declarationsOf isRequired properties) := by
  induction properties generalizing done with
  | nil =>
      rw [propertyFields]
      rfl
  | cons entry rest ih =>
      obtain ⟨name, schema⟩ := entry
      rw [propertyFields, declarationsOf, List.map_cons, ← declarationsOf, addDeclared]
      split
      · exact ih done
      · rw [declared, property, bind_assoc]
        exact bind_congr fun resolved => ih _

theorem partFields_eq (isRequired : String → Bool) (done : List Field) (parts : List Schema) :
    partFields mode mappings owner isRequired done parts =
      addDeclared mode mappings owner done
        ((parts.filter fun part => part.reference.isNone).flatMap fun part =>
          declarationsOf (fun name => part.required.lists name || isRequired name)
            part.properties) := by
  induction parts generalizing done with
  | nil =>
      rw [partFields]
      rfl
  | cons part rest ih =>
      obtain ⟨reference, _, _, _, _, _, _, properties, _, _, _, _, _⟩ := part
      rw [partFields, List.filter_cons]
      cases reference with
      | some path => exact ih done
      | none =>
          refine (bind_congr fun extended => ih extended).trans ?_
          rw [propertyFields_eq, ← addDeclared_append]
          rfl

theorem object_eq_addDeclared (schema : Schema) :
    object mode mappings owner schema =
      addDeclared mode mappings owner [] schema.declarations := by
  have listed (part : Schema) : (fun name => decide (part.Lists name ∨ schema.Lists name)) =
      fun name => part.required.lists name || schema.required.lists name := by
    funext name
    rw [Bool.decide_or, Schema.decide_lists, Schema.decide_lists]
  have own : (fun name => schema.required.lists name || schema.required.lists name) =
      schema.required.lists := funext fun name => Bool.or_self _
  simp only [object, Schema.declarations, Schema.inlineParts, listed, List.filter_cons]
  cases inline : schema.reference with
  | some path => exact partFields_eq mode mappings owner _ [] schema.allOf
  | none =>
      refine (bind_congr fun extended =>
        partFields_eq mode mappings owner _ extended schema.allOf).trans ?_
      rw [propertyFields_eq, ← addDeclared_append, if_pos Option.isNone_none, List.flatMap_cons,
        own]

theorem addDeclared_eq (done : List Field) (declarations : List Declaration) :
    addDeclared mode mappings owner done declarations =
      (done ++ ·) <$> (firstOf (done.map Field.name) declarations).mapM
        (declared mode mappings owner) := by
  induction declarations generalizing done with
  | nil => simp [addDeclared, firstOf]
  | cons first rest ih =>
      rw [addDeclared, firstOf]
      have known : (done.any fun field => field.name = first.name) = true ↔
          first.name ∈ done.map Field.name := by
        simp
      by_cases member : first.name ∈ done.map Field.name
      · rw [if_pos (known.mpr member), if_pos member]
        exact ih done
      · rw [if_neg (fun any => member (known.mp any)), if_neg member, List.mapM_cons, declared,
          property]
        simp only [bind_assoc, pure_bind, map_bind]
        refine bind_congr fun resolved => ?_
        rw [ih, List.map_append, List.map_singleton]
        simp [fieldOf]

/-- The fields of an object are those of its first declarations, one after the other. -/
theorem object_eq_mapM (schema : Schema) :
    object mode mappings owner schema =
      schema.firstDeclarations.mapM (declared mode mappings owner) := by
  rw [object_eq_addDeclared, addDeclared_eq]
  exact id_map _

/-! ## Requirements -/

/-- What a declaration and its field have in common. -/
structure Declares (declaration : Declaration) (field : Field) : Prop where
  name : field.name = declaration.name
  required : field.required = true ↔
    declaration.listed = true ∨ declaration.schema.required = .flag true

theorem mapM_declared (declarations : List Declaration) (state : State) :
    Ensures (declarations.mapM (declared mode mappings owner)) state fun fields _ =>
      List.Forall₂ Declares declarations fields := by
  induction declarations generalizing state with
  | nil => exact .nil
  | cons first rest ih =>
      rw [List.mapM_cons, ensures_bind]
      have one : Ensures (declared mode mappings owner first) state
          fun field _ => Declares first field := by
        refine ⟨rfl, ?_⟩
        rw [← Required.flagged_iff, ← Bool.or_eq_true]
        rfl
      refine one.mono fun field later known => ?_
      rw [ensures_bind]
      exact (ih later).mono fun fields _ others => .cons known others

/-- Where a declaration has the requirement that it is listed with, its field has it too. -/
theorem Declares.required_iff {schema : Schema} {declaration : Declaration} {field : Field}
    (declares : Declares declaration field)
    (listed : declaration.listed = true → schema.Requires declaration.name) :
    (field.required = true ↔
        declaration.schema.required = .flag true ∨ schema.Requires declaration.name) ↔
      (schema.Requires declaration.name →
        declaration.schema.required = .flag true ∨ declaration.listed = true) := by
  rw [declares.required]
  constructor
  · intro same requires
    exact (same.mpr (.inr requires)).symm
  · intro kept
    constructor
    · intro required
      cases required with
      | inl byPart => exact .inr (listed byPart)
      | inr flagged => exact .inl flagged
    · intro claimed
      cases claimed with
      | inl flagged => exact .inr flagged
      | inr requires => exact (kept requires).symm

theorem forall₂_required_iff {schema : Schema} {declarations : List Declaration}
    {fields : List Field} (declares : List.Forall₂ Declares declarations fields)
    (listed : ∀ declaration ∈ declarations,
      declaration.listed = true → schema.Requires declaration.name) :
    List.Forall₂ (fun declaration field => field.required = true ↔
        declaration.schema.required = .flag true ∨ schema.Requires declaration.name)
      declarations fields ↔
    ∀ declaration ∈ declarations, schema.Requires declaration.name →
      declaration.schema.required = .flag true ∨ declaration.listed = true := by
  induction declares with
  | nil => simp
  | cons same _ ih =>
      obtain ⟨here, others⟩ := List.forall_mem_cons.mp listed
      rw [List.forall₂_cons, List.forall_mem_cons, ih others, same.required_iff here]

theorem names_of_declares {declarations : List Declaration} {fields : List Field}
    (declares : List.Forall₂ Declares declarations fields) :
    fields.map Field.name = declarations.map Declaration.name := by
  induction declares with
  | nil => rfl
  | cons same _ ih => rw [List.map_cons, List.map_cons, same.name, ih]

/-- Every declared property is there once, from its first declaration. All requirements are kept
exactly if each of them is listed by the object itself or by the part that declares the property. -/
theorem requirements_kept_iff (schema : Schema) (state : State) :
    object mode mappings owner schema =
      schema.firstDeclarations.mapM (declared mode mappings owner) ∧
    schema.firstDeclarations.map Declaration.name =
      (schema.declarations.map Declaration.name).eraseDups ∧
    (∀ declaration ∈ schema.firstDeclarations,
      schema.declarations.find? (fun other => other.name = declaration.name) = some declaration) ∧
    Ensures (object mode mappings owner schema) state fun fields _ =>
      fields.map Field.name = schema.firstDeclarations.map Declaration.name ∧
      (List.Forall₂ (fun declaration field => field.required = true ↔
          declaration.schema.required = .flag true ∨ schema.Requires declaration.name)
        schema.firstDeclarations fields ↔ schema.ListsWhereDeclared) := by
  have names : schema.firstDeclarations.map Declaration.name =
      (schema.declarations.map Declaration.name).eraseDups := by
    rw [Schema.firstDeclarations, Schema.names_firstOf]
    simp
  have first : ∀ declaration ∈ schema.firstDeclarations,
      schema.declarations.find? (fun other => other.name = declaration.name) = some declaration :=
    fun declaration member => (Schema.mem_firstOf.mp member).2
  have listed : ∀ declaration ∈ schema.firstDeclarations,
      declaration.listed = true → schema.Requires declaration.name :=
    fun declaration member => Schema.requires_of_listed (List.mem_of_find?_eq_some (first _ member))
  refine ⟨object_eq_mapM mode mappings owner schema, names, first, ?_⟩
  rw [object_eq_mapM]
  refine (mapM_declared mode mappings owner schema.firstDeclarations state).mono ?_
  intro fields last declares
  exact ⟨names_of_declares declares, forall₂_required_iff declares listed⟩

/-- A combination of an object and a list of what it requires. -/
def identified : Schema where
  allOf := [{ properties := [("id", { types := some (.one "integer") })] },
    { required := .names ["id"] }]

theorem required_elsewhere_lost :
    identified.reference = none ∧ identified.Requires "id" ∧
      (detached (object .detached [] "Pet" identified)).map
        (fun field => (field.name, field.required)) = [("id", false)] := by
  refine ⟨rfl, .inr ⟨_, .tail _ (.head _), rfl, ["id"], rfl, .head _⟩, ?_⟩
  decide +kernel

end Resolve

end ClientGen
