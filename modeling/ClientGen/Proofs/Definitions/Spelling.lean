import ClientGen.Proofs.Definitions.Agreement
import ClientGen.Proofs.Definitions.Generic
import ClientGen.Proofs.Definitions.SharedBases
import ClientGen.Proofs.Resolve.Spelling

/-!
The names in the types of definitions. While a document is resolved, a field mentions nothing but
bases that its keys have, bases that are in the index and the parameters of its own definition; in
the end each of these bases is that of a definition.
-/

set_option autoImplicit false

namespace ClientGen

open TypeScript (IsText IsWord)

/-! ## Words -/

namespace TypeScript

theorem IsWord.unbracketed {name : String} (word : IsWord name) : Names.Unbracketed name :=
  fun char member => Names.not_opening_of_unmarked (isPlain_of_isWordChar (word.2 char member)).2.1

theorem IsWord.ownName {name : String} (word : IsWord name) (reserved : List String) :
    IsWord (Resolve.ownName reserved name) := by
  unfold Resolve.ownName
  split
  · obtain ⟨number, -, same, -⟩ := Names.firstFree_spec reserved name
    rw [same]
    exact word.append fun char member =>
      isWordChar_of_isDigit (Names.isDigit_number number char member)
  · exact word

theorem isWord_placeholder (index : Nat) : IsWord (Names.placeholder index) :=
  ⟨Names.placeholder_nonempty index, fun char member =>
    isWordChar_of_not_separator (Names.placeholder_plain index char member)⟩

end TypeScript

/-! ## Parameters of generic definitions -/

namespace DeclaredName

/-- The parameters in the name of a definition. -/
def typeParameters (name : String) : List String :=
  (NamedType.parse name).arguments.map NamedType.name

theorem isWord_of_mem_placeholders {index : Nat} {arguments : List NamedType} {name : String}
    (member : name ∈ (placeholders index arguments).keys) : IsWord name := by
  obtain ⟨position, rfl⟩ := exists_of_mem_placeholders member
  exact TypeScript.isWord_placeholder position

theorem placeholders_of_mappings {key : String} (generic : (declaration key).mappings ≠ []) :
    ∃ base first rest, NamedType.parse? key = some ⟨base, first :: rest⟩ := by
  cases read : NamedType.parse? key with
  | none =>
      rw [declaration_of_malformed read] at generic
      exact absurd rfl generic
  | some type =>
      obtain ⟨base, arguments⟩ := type
      cases arguments with
      | nil =>
          rw [declaration, NamedType.parse_of_parse? read] at generic
          exact absurd rfl generic
      | cons first rest => exact ⟨base, first, rest, rfl⟩

theorem generic_of_mem_mappings {key placeholder : String}
    (member : placeholder ∈ (declaration key).mappings.keys) :
    ∃ base first rest, NamedType.parse? key = some ⟨base, first :: rest⟩ ∧
      placeholder ∈ (placeholders 0 (first :: rest)).keys := by
  have generic : (declaration key).mappings ≠ [] := by
    intro none
    rw [none] at member
    cases member
  obtain ⟨base, first, rest, read⟩ := placeholders_of_mappings generic
  rw [declaration_of_generic read] at member
  exact ⟨base, first, rest, read, member⟩

theorem isWord_of_mem_mappings {key placeholder : String}
    (member : placeholder ∈ (declaration key).mappings.keys) : IsWord placeholder := by
  obtain ⟨base, first, rest, read, inPlaceholders⟩ := generic_of_mem_mappings member
  exact isWord_of_mem_placeholders inPlaceholders

/-- The placeholders of a key are the parameters of the definition that it declares. -/
theorem mem_typeParameters {key placeholder : String}
    (member : placeholder ∈ (declaration key).mappings.keys) :
    placeholder ∈ typeParameters (declaration key).name := by
  obtain ⟨base, first, rest, read, inPlaceholders⟩ := generic_of_mem_mappings member
  rw [declaration_of_generic read]
  have readable := (NamedType.name_of_parse? read (NamedType.name_mem_names _)).toReadable
  have trimmed : Text.trimChars (base ++ "<" ++
      String.intercalate ", " (placeholders 0 (first :: rest)).keys ++ ">").toList =
      base.toList ++ '<' ::
        ((String.intercalate ", " (placeholders 0 (first :: rest)).keys).toList ++ ['>']) := by
    have solid : base.toList ≠ [] := by simpa using readable.nonempty
    have whole := Text.trimChars_between readable.trimmed (by rfl) solid (List.cons_ne_nil '>' [])
      ('<' :: (String.intercalate ", " (placeholders 0 (first :: rest)).keys).toList)
    simpa using whole
  have parsed := NamedType.parse?_of_trimChars readable (Names.placeholder_readable 0)
    (fun _ listed => readable_of_mem_placeholders listed) trimmed
  rw [typeParameters, NamedType.parse_of_parse? parsed, List.map_map]
  exact List.mem_map.mpr ⟨placeholder, inPlaceholders, rfl⟩

end DeclaredName

/-! ## Resolving into the registry -/

/-- What the types in a definition may mention while a document is resolved: bases of its keys, bases
that are in the index, and the definition's own parameters. -/
def Mentionable (reserved : List String) (definitions : Definitions) (parameters : List String)
    (word : String) : Prop :=
  word ∈ reserved ∨ definitions.bases.hasKey word = true ∨ word ∈ parameters

/-- Whether the fields of a definition, but for enumerations, mention only what they may. -/
def SpelledUnder (reserved : List String) (definitions : Definitions) (name : String)
    (definition : Definition) : Prop :=
  ∀ field ∈ definition.shown, field.enumOption = [] →
    IsText (Mentionable reserved definitions (DeclaredName.typeParameters name)) field.type

namespace Resolve

open Definitions (hasKey_insert hasKey_base_insert)

section Registry

variable {reserved : List String} {mappings : Entries String}

theorem hasKey_of_findByBase? {definitions : Definitions} {base : String}
    {found : String × Definition} (known : definitions.findByBase? base = some found) :
    definitions.bases.hasKey base = true := by
  obtain ⟨name, listed, -⟩ := Option.bind_eq_some_iff.mp known
  rw [Entries.hasKey, listed]
  rfl

/-- An inline object gets its own name, which is in the index then. -/
theorem inlineObject_listed {name : String} (plain : Names.Unbracketed (ownName reserved name))
    (fields : String → Step (List Field)) (state : State) :
    Ensures (inlineObject (.registering reserved) name fields) state fun named last =>
      named.1 = ownName reserved name ∧
        last.definitions.bases.hasKey (ownName reserved name) = true := by
  unfold Ensures
  cases lookup : state.definitions.findByBase? (ownName reserved name) with
  | some found =>
      rw [inlineObject_run_known lookup]
      exact ⟨rfl, hasKey_of_findByBase? lookup⟩
  | none =>
      rw [inlineObject_run_new lookup]
      refine ⟨rfl, ?_⟩
      have listed := hasKey_base_insert
        ((fields (ownName reserved name)).run (state.taken reserved name)).2.definitions
        (ownName reserved name)
        (.record ((fields (ownName reserved name)).run (state.taken reserved name)).1)
      rw [Names.base_of_unbracketed plain] at listed
      exact listed

theorem registering_scope (words : ∀ key ∈ mappings.keys, IsWord key) :
    Scope (.registering reserved) mappings (· ∈ reserved) (fun _ => True)
      fun _ _ state => Mentionable reserved state.definitions mappings.keys where
  placeholders := words
  referred := by
    intro _ _ state word known
    exact known.imp_right .inr
  keeps := by
    intro _ _ other part state word known
    refine (type_visits reserved mappings part other state).mono fun _ last visits => ?_
    exact known.imp_right fun later => later.imp_left visits.hasKey
  sole := fun _ _ _ _ _ _ => id
  items := fun _ _ _ _ _ _ _ _ => id
  values := fun _ _ _ _ _ _ _ _ _ _ => id
  object := by
    intro name schema state _ _ _ _ word
    have own := word.ownName reserved
    have visits : Ensures (inlineObject (.registering reserved) name fun own =>
        object (.registering reserved) mappings own schema) state
        fun _ last => Visits reserved mappings (fun _ _ => True) state last :=
      inlineObject_visits trivial (fun owner later => (object_visits reserved mappings owner schema
        later).mono fun _ _ inside => inside) state
    have named := inlineObject_listed own.unbracketed
      (fun own => object (.registering reserved) mappings own schema) state
    refine (visits.and named).mono fun found last known => ?_
    obtain ⟨visited, same, listed⟩ := known
    rw [same]
    refine ⟨⟨own, .inr (.inl listed)⟩, fun other mentioned => ?_⟩
    exact mentioned.imp_right fun later => later.imp_left visited.hasKey

end Registry

end Resolve

/-! ## What is spelled stays so -/

section Insert

variable {reserved parameters : List String} {first last definitions : Definitions} {name : String}
  {definition : Definition}

theorem Mentionable.grow (grows : ∀ base, first.bases.hasKey base = true →
    last.bases.hasKey base = true) {word : String} (known : Mentionable reserved first parameters word) :
    Mentionable reserved last parameters word :=
  known.imp_right fun later => later.imp_left (grows word)

theorem SpelledUnder.grow (spelled : SpelledUnder reserved first name definition)
    (grows : ∀ base, first.bases.hasKey base = true → last.bases.hasKey base = true) :
    SpelledUnder reserved last name definition :=
  fun field member none => (spelled field member none).mono fun _ => Mentionable.grow grows

def AllSpelled (reserved : List String) (definitions : Definitions) : Prop :=
  ∀ entry ∈ definitions.entries, SpelledUnder reserved definitions entry.1 entry.2

theorem AllSpelled.insert (all : AllSpelled reserved definitions)
    (now : SpelledUnder reserved definitions name definition) :
    AllSpelled reserved (definitions.insert name definition) := by
  have grows := Definitions.hasKey_insert definitions name definition
  intro entry member
  obtain ⟨other, found⟩ := entry
  rcases Entries.mem_of_mem_insert member with ⟨rfl, rfl⟩ | old
  · exact now.grow grows
  · exact (all _ old).grow grows

theorem spelledUnder_hollow (reserved : List String) (definitions : Definitions) (name : String) :
    SpelledUnder reserved definitions name (.record []) :=
  fun _ none => absurd none List.not_mem_nil

end Insert

namespace Resolve

section Registry

variable {reserved : List String} {mappings : Entries String} {schema : Schema} {owner : String}

/-- The fields of an object mention what they may if its placeholders are parameters. -/
theorem object_spelledUnder (words : ∀ key ∈ mappings.keys, IsWord key)
    (tame : ∀ entry ∈ schema.declaredProperties, entry.2.Tame (· ∈ reserved) fun _ => True)
    (word : IsWord owner) {name : String}
    (parameters : ∀ key ∈ mappings.keys, key ∈ DeclaredName.typeParameters name) (state : State) :
    Ensures (object (.registering reserved) mappings owner schema) state fun fields last =>
      SpelledUnder reserved last.definitions name (.record fields) := by
  refine (object_spelled (registering_scope words) tame word state).mono fun fields last known => ?_
  intro field member none
  obtain ⟨entry, -, spelled⟩ := known field member
  refine (spelled none).mono fun other mentioned => ?_
  exact mentioned.imp_right fun later => later.imp_right (parameters other)

/-- Objects that are registered mention what they may. -/
theorem Visits.spelled {asked : String → Schema → Prop} {first last : State}
    (visits : Visits reserved mappings asked first last)
    (all : AllSpelled reserved first.definitions)
    (tame : ∀ name schema, asked name schema → mappings = [] ∧ IsWord name ∧
      ∀ entry ∈ schema.declaredProperties, entry.2.Tame (· ∈ reserved) fun _ => True) :
    AllSpelled reserved last.definitions := by
  induction visits with
  | done => exact all
  | known _ _ _ ih => exact ih all tame
  | @new asked name schema fields state inner last isAsked _ _ resolved _ inside later =>
      obtain ⟨none, word, properties⟩ := tame name schema isAsked
      have own := word.ownName reserved
      have nothing : ∀ key, key ∉ mappings.keys := by simp [none, Entries.keys]
      have taken : AllSpelled reserved (state.taken reserved name).definitions :=
        all.insert (spelledUnder_hollow _ _ _)
      have nested := inside taken (by
        rintro _ object ⟨entry, isEntry, rfl, member⟩
        exact ⟨none, own.synthesized entry.1, (properties entry isEntry).inlineObjects object member⟩)
      have spelled : Ensures (object (.registering reserved) mappings (ownName reserved name) schema)
          (state.taken reserved name) fun fields last =>
            SpelledUnder reserved last.definitions (ownName reserved name) (.record fields) :=
        object_spelledUnder (fun key member => absurd member (nothing key)) properties own
          (fun key member => absurd member (nothing key)) _
      obtain ⟨rfl, rfl⟩ := resolved
      exact later (nested.insert spelled) tame

end Registry

end Resolve

/-! ## Keys -/

namespace Definitions

open DeclaredName (declaration)
open Resolve (State)

/-- What is asked of the schema under a key: the names it is declared with are words, its properties
are tame if it is an object, and a generic one has no inline objects. -/
structure Tame (reserved : List String) (key : String) (schema : Schema) : Prop where
  word : IsWord (declaration key).base
  properties : schema.IsObject → ∀ entry ∈ schema.declaredProperties,
    entry.2.Tame (· ∈ reserved) fun _ => True
  plain : (declaration key).mappings ≠ [] → ∀ entry ∈ schema.declaredProperties,
    entry.2.inlineObjects = []

section Added

variable {reserved : List String} {key : String} {schema : Schema} {state last : State}

theorem object_visits_key (reserved : List String) (key : String) (schema : Schema) (state : State) :
    Resolve.Visits reserved (declaration key).mappings
      (Resolve.AskedIn (declaration key).base schema)
      (state.put (declaration key).name (.record []))
      ((Resolve.object (.registering reserved) (declaration key).mappings (declaration key).base
        schema).run (state.put (declaration key).name (.record []))).2 :=
  Resolve.object_visits _ _ _ _ _

theorem Added.grows (added : Added reserved key schema state last) (base : String)
    (known : state.definitions.bases.hasKey base = true) :
    last.definitions.bases.hasKey base = true := by
  cases added with
  | known _ => exact known
  | enumeration _ _ => exact hasKey_insert _ _ _ base known
  | mismatched _ _ _ _ => exact hasKey_insert _ _ _ base known
  | object _ _ =>
      have taken := hasKey_insert state.definitions (declaration key).name (.record []) base known
      exact hasKey_insert _ _ _ base ((object_visits_key reserved key schema state).hasKey taken)

theorem Added.listed (added : Added reserved key schema state last)
    (plain : Names.Unbracketed (declaration key).base) :
    last.definitions.bases.hasKey (declaration key).base = true := by
  rw [← DeclaredName.base_name plain]
  cases added with
  | known found =>
      rw [DeclaredName.base_name plain]
      exact Resolve.hasKey_of_findByBase? found
  | enumeration _ _ => exact hasKey_base_insert _ _ _
  | mismatched _ _ _ _ => exact hasKey_base_insert _ _ _
  | object _ _ => exact hasKey_base_insert _ _ _

theorem Added.spelled (added : Added reserved key schema state last)
    (tame : Tame reserved key schema) (all : AllSpelled reserved state.definitions) :
    AllSpelled reserved last.definitions := by
  cases added with
  | known _ => exact all
  | enumeration _ listed =>
      refine all.insert fun field member none => ?_
      cases List.mem_singleton.mp member
      exact absurd none listed
  | mismatched _ _ _ _ => exact all.insert (spelledUnder_hollow _ _ _)
  | object _ isObject =>
      have properties := tame.properties isObject
      have taken : AllSpelled reserved (state.put (declaration key).name (.record [])).definitions :=
        all.insert (spelledUnder_hollow _ _ _)
      refine AllSpelled.insert ?_ (Resolve.object_spelledUnder
        (fun _ => DeclaredName.isWord_of_mem_mappings) properties tame.word
        (fun _ => DeclaredName.mem_typeParameters) _)
      refine (object_visits_key reserved key schema state).spelled taken ?_
      rintro _ object ⟨entry, isEntry, rfl, member⟩
      refine ⟨?_, tame.word.synthesized entry.1, (properties entry isEntry).inlineObjects object member⟩
      by_contra generic
      rw [tame.plain generic entry isEntry] at member
      cases member

end Added

/-- Every key leads to a definition with its base, and all definitions mention what they may. -/
theorem addAll_spelled {reserved : List String} {schemas : Entries Schema} {state : State}
    (tame : ∀ entry ∈ schemas, Tame reserved entry.1 entry.2)
    (all : AllSpelled reserved state.definitions) :
    AllSpelled reserved ((addAll reserved schemas).run state).2.definitions ∧
      ∀ base, state.definitions.bases.hasKey base = true ∨ base ∈ reservedNames schemas →
        ((addAll reserved schemas).run state).2.definitions.bases.hasKey base = true := by
  induction schemas generalizing state with
  | nil =>
      refine ⟨all, fun base known => ?_⟩
      cases known with
      | inl old => exact old
      | inr none => cases none
  | cons entry rest ih =>
      obtain ⟨key, schema⟩ := entry
      have here := tame (key, schema) (.head _)
      have added := added_add reserved key schema state
      obtain ⟨spelled, listed⟩ := ih (fun other member => tame other (.tail _ member))
        (added.spelled here all)
      refine ⟨spelled, fun base known => listed base ?_⟩
      rcases known with old | isKey
      · exact .inl (added.grows base old)
      · cases isKey with
        | head => exact .inl (added.listed here.word.unbracketed)
        | tail _ later => exact .inr later

/-- The names that a definition may mention: bases of definitions and its own parameters. -/
def InScope (definitions : Definitions) (owner word : String) : Prop :=
  word ∈ definitions.names.map Names.base ∨ word ∈ DeclaredName.typeParameters owner

/-- The types in the definitions of a document mention nothing but names in scope, and the base of each
key is that of a definition. -/
theorem ofSchemas_spelled {schemas : Entries Schema}
    (tame : ∀ entry ∈ schemas, Tame (reservedNames schemas) entry.1 entry.2) :
    (∀ word ∈ reservedNames schemas, word ∈ (ofSchemas schemas).value.names.map Names.base) ∧
    ∀ entry ∈ (ofSchemas schemas).value.entries, ∀ field ∈ entry.2.shown, field.enumOption = [] →
      IsText (InScope (ofSchemas schemas).value entry.1) field.type := by
  have empty : AllSpelled (reservedNames schemas) ({} : State).definitions :=
    fun _ none => absurd none List.not_mem_nil
  obtain ⟨spelled, listed⟩ := addAll_spelled tame empty
  have start : Anchored (tornNames schemas) ({} : State).definitions := Anchored.empty _
  have anchored := (follows_addAll (reservedNames schemas) start
    fun key member torn => mem_tornNames.mpr ⟨key, member, torn, rfl⟩).1.anchored
  have isBase (word : String) (known : (ofSchemas schemas).value.bases.hasKey word = true) :
      word ∈ (ofSchemas schemas).value.names.map Names.base := by
    obtain ⟨name, found⟩ := Option.isSome_iff_exists.mp known
    obtain ⟨member, same⟩ := anchored.known word name found
    exact List.mem_map.mpr ⟨name, member, same⟩
  refine ⟨fun word isReserved => isBase word (listed word (.inr isReserved)), ?_⟩
  intro entry member field shown none
  refine (spelled entry member field shown none).mono fun word known => ?_
  rcases known with isReserved | known | parameter
  · exact .inl (isBase word (listed word (.inr isReserved)))
  · exact .inl (isBase word known)
  · exact .inr parameter

end Definitions

end ClientGen
