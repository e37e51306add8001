import ClientGen.Proofs.Definitions.Blocks

/-!
Bases that several definitions share. The index takes the base of a name by cutting it at the first
opening bracket, and the look-up for a key takes what the parser makes of it. Both agree unless the
key is torn: then the look-up finds nothing, and the definition is put beside others with its base,
as are the inline objects in it. No other base is ever shared, whatever the keys are.
-/

set_option autoImplicit false

namespace ClientGen

open DeclaredName (Torn declaration)
open Names (Unbracketed)

/-! ## The index with bases that may be shared -/

namespace Definitions

/-- The index leads from every base to the one definition with it, or to one of several if one of the
anchors has that base. -/
structure Anchored (anchors : List String) (definitions : Definitions) : Prop where
  distinct : definitions.names.Nodup
  known : ∀ base name, definitions.bases.get? base = some name →
    name ∈ definitions.names ∧ Names.base name = base
  listed : ∀ name ∈ definitions.names, ∃ first,
    definitions.bases.get? (Names.base name) = some first ∧
      (first = name ∨ ∃ anchor ∈ anchors, Names.base anchor = Names.base name)

/-- Whether a definition may be put under a name: there is one, or there is none with its base, or
its base is that of an anchor. -/
def Fitting (anchors : List String) (definitions : Definitions) (name : String) : Prop :=
  name ∈ definitions.names ∨ definitions.findByBase? (Names.base name) = none ∨
    ∃ anchor ∈ anchors, Names.base anchor = Names.base name

/-- A registry in place of an earlier one, whose names it has kept. -/
structure Follows (anchors : List String) (first last : Definitions) : Prop where
  anchored : Anchored anchors last
  names : first.names ⊆ last.names

variable {anchors : List String} {definitions : Definitions}

theorem Follows.trans {first middle last : Definitions} (before : Follows anchors first middle)
    (after : Follows anchors middle last) : Follows anchors first last :=
  ⟨after.anchored, fun _ member => after.names (before.names member)⟩

namespace Anchored

theorem empty (anchors : List String) : Anchored anchors {} := by
  constructor
  · exact List.nodup_nil
  · intro base name listed
    cases listed
  · intro name member
    cases member

/-- A base that is looked up without success is not in the index. -/
theorem unlisted (anchored : Anchored anchors definitions) {base : String}
    (missing : definitions.findByBase? base = none) : definitions.bases.get? base = none := by
  by_contra some
  obtain ⟨name, listed⟩ := Option.ne_none_iff_exists'.mp some
  obtain ⟨definition, inEntries⟩ := Entries.exists_of_mem_keys (anchored.known base name listed).1
  have present := (Entries.get?_eq_some_iff anchored.distinct).mpr inEntries
  simp [findByBase?, get?, listed, present] at missing

/-- What is looked up with an opening bracket is not found. -/
theorem findByBase?_bracketed (anchored : Anchored anchors definitions) {base : String}
    (bracketed : ¬ Unbracketed base) : definitions.findByBase? base = none := by
  unfold findByBase?
  cases listed : definitions.bases.get? base with
  | none => rfl
  | some name =>
      have same := (anchored.known base name listed).2
      exact absurd (same ▸ Names.base_unbracketed name) bracketed

section Insert

variable {name : String}

/-- After an insertion the index leads to names that are there, and each has the base. -/
theorem known_insert (anchored : Anchored anchors definitions) (definition : Definition)
    {base other : String}
    (listed : (definitions.insert name definition).bases.get? base = some other) :
    other ∈ (definitions.insert name definition).names ∧ Names.base other = base := by
  have old (listed : definitions.bases.get? base = some other) :
      other ∈ (definitions.insert name definition).names ∧ Names.base other = base := by
    obtain ⟨member, same⟩ := anchored.known base other listed
    exact ⟨mem_names_insert.mpr (.inl member), same⟩
  rw [bases_insert] at listed
  split at listed
  · exact old listed
  · split at listed
    · next same =>
        cases listed
        exact ⟨mem_names_insert.mpr (.inr rfl), same⟩
    · exact old listed

/-- Where the base of a fitting name is in the index, it leads to that name or is an anchor's. -/
theorem listed_fitting (anchored : Anchored anchors definitions)
    (fitting : Fitting anchors definitions name)
    (held : definitions.bases.hasKey (Names.base name) = true) :
    ∃ first, definitions.bases.get? (Names.base name) = some first ∧
      (first = name ∨ ∃ anchor ∈ anchors, Names.base anchor = Names.base name) := by
  obtain ⟨first, listed⟩ := Option.isSome_iff_exists.mp held
  rcases fitting with old | missing | anchor
  · exact anchored.listed name old
  · rw [anchored.unlisted missing] at listed
    cases listed
  · exact ⟨first, listed, .inr anchor⟩

theorem listed_insert (anchored : Anchored anchors definitions)
    (fitting : Fitting anchors definitions name) (definition : Definition) {other : String}
    (member : other ∈ (definitions.insert name definition).names) :
    ∃ first, (definitions.insert name definition).bases.get? (Names.base other) = some first ∧
      (first = other ∨ ∃ anchor ∈ anchors, Names.base anchor = Names.base other) := by
  cases held : definitions.bases.hasKey (Names.base name) with
  | true =>
      simp only [bases_insert, held, if_true]
      rcases mem_names_insert.mp member with old | rfl
      · exact anchored.listed other old
      · exact anchored.listed_fitting fitting held
  | false =>
      simp only [bases_insert, held, Bool.false_eq_true, if_false]
      split
      · next same =>
          -- The base was not in the index, so no definition had it.
          refine ⟨name, rfl, .inl ?_⟩
          rcases mem_names_insert.mp member with old | now
          · obtain ⟨first, listed, -⟩ := anchored.listed other old
            rw [Entries.hasKey, same, listed] at held
            cases held
          · exact now.symm
      · next different =>
          rcases mem_names_insert.mp member with old | rfl
          · exact anchored.listed other old
          · exact absurd rfl different

theorem insert (anchored : Anchored anchors definitions)
    (fitting : Fitting anchors definitions name) (definition : Definition) :
    Follows anchors definitions (definitions.insert name definition) := by
  refine ⟨⟨?_, ?_, ?_⟩, fun other member => mem_names_insert.mpr (.inl member)⟩
  · rw [names_insert]
    split
    · exact anchored.distinct
    · next fresh =>
        exact anchored.distinct.append (List.nodup_singleton _) (by simpa using fresh)
  · intro base other listed
    exact anchored.known_insert definition listed
  · intro other member
    exact anchored.listed_insert fitting definition member

end Insert

end Anchored

end Definitions

/-! ## Inline objects -/

namespace Resolve

open Definitions (Anchored Fitting Follows)

variable {anchors : List String}

/-- Whether a name holds no opening bracket, or begins like one of the anchors up to it. -/
def Hanging (anchors : List String) (name : String) : Prop :=
  Unbracketed name ∨ ¬ Unbracketed name ∧ ∃ anchor ∈ anchors, Names.base anchor = Names.base name

theorem Hanging.append {name suffix : String} (hanging : Hanging anchors name)
    (plain : Unbracketed suffix) : Hanging anchors (name ++ suffix) := by
  rcases hanging with unbracketed | ⟨bracketed, anchor⟩
  · exact .inl (unbracketed.append plain)
  · refine .inr ⟨fun whole => bracketed fun char member => whole char ?_, ?_⟩
    · rw [String.toList_append]
      exact List.mem_append_left _ member
    · rwa [Names.base_append bracketed]

theorem Hanging.synthesized {owner : String} (hanging : Hanging anchors owner) (property : String) :
    Hanging anchors (Names.synthesized owner property) :=
  hanging.append fun _ member =>
    Names.not_opening_of_unmarked (Text.pascalCase_unmarked property member)

theorem Hanging.ownName {name : String} (hanging : Hanging anchors name) (reserved : List String) :
    Hanging anchors (ownName reserved name) := by
  unfold Resolve.ownName
  split
  · obtain ⟨number, -, same, -⟩ := Names.firstFree_spec reserved name
    rw [same]
    exact hanging.append (Names.unbracketed_number number)
  · exact hanging

theorem Hanging.fitting {name : String} (hanging : Hanging anchors name) {definitions : Definitions}
    (fresh : definitions.findByBase? name = none) : Fitting anchors definitions name := by
  rcases hanging with plain | ⟨-, anchor⟩
  · rw [← Names.base_of_unbracketed plain] at fresh
    exact .inr (.inl fresh)
  · exact .inr (.inr anchor)

/-- Visits add definitions without a bracket under new bases, and the others under bases of anchors. -/
theorem Visits.follows {reserved : List String} {mappings : Entries String}
    {asked : String → Schema → Prop} {first last : State}
    (visits : Visits reserved mappings asked first last)
    (anchored : Anchored anchors first.definitions)
    (hanging : ∀ name schema, asked name schema → Hanging anchors name) :
    Follows anchors first.definitions last.definitions := by
  induction visits with
  | done state => exact ⟨anchored, fun _ => id⟩
  | known _ _ _ ih => exact ih anchored hanging
  | @new asked name schema fields state inner last isAsked fresh _ _ _ inside later =>
      have own := (hanging name schema isAsked).ownName reserved
      have taken : Follows anchors state.definitions (state.taken reserved name).definitions :=
        anchored.insert (own.fitting fresh) (.record [])
      have nested : Follows anchors (state.taken reserved name).definitions inner.definitions := by
        refine inside taken.anchored ?_
        rintro _ object ⟨entry, -, rfl, -⟩
        exact own.synthesized entry.1
      have known : ownName reserved name ∈ inner.definitions.names :=
        nested.names (Definitions.mem_names_insert.mpr (.inr rfl))
      have put := nested.anchored.insert (.inl known) (.record fields)
      exact taken.trans (nested.trans (put.trans (later put.anchored hanging)))

end Resolve

/-! ## Keys -/

namespace Definitions

open Resolve (Hanging State)

section Add

variable {anchors reserved : List String} {key : String} {schema : Schema} {state : State}

theorem fitting_declared (isAnchor : Torn key → (declaration key).name ∈ anchors)
    (fresh : state.definitions.findByBase? (declaration key).base = none) :
    Fitting anchors state.definitions (declaration key).name := by
  by_cases torn : Torn key
  · exact .inr (.inr ⟨_, isAnchor torn, rfl⟩)
  · rw [← DeclaredName.base_name (DeclaredName.unbracketed_base_of_not_torn torn)] at fresh
    exact .inr (.inl fresh)

theorem hanging_declared (isAnchor : Torn key → (declaration key).name ∈ anchors) :
    Hanging anchors (declaration key).base := by
  by_cases torn : Torn key
  · obtain ⟨same, bracketed⟩ := torn.bracketed
    rw [same]
    exact .inr ⟨bracketed, _, isAnchor torn, rfl⟩
  · exact .inl (DeclaredName.unbracketed_base_of_not_torn torn)

/-- A key with a new base adds a definition under its name. -/
theorem follows_add_new (anchored : Anchored anchors state.definitions)
    (isAnchor : Torn key → (declaration key).name ∈ anchors)
    (fresh : state.definitions.findByBase? (declaration key).base = none) :
    Follows anchors state.definitions ((add reserved key schema).run state).2.definitions ∧
      (declaration key).name ∈ ((add reserved key schema).run state).2.definitions.names := by
  have fitting := fitting_declared isAnchor fresh
  by_cases free : schema.enumValues = []
  · by_cases objects : ∀ types, schema.types = some types → types.has "object" = true
    · rw [add_run_object fresh free objects]
      have taken := anchored.insert fitting (.record [])
      have visits := Resolve.object_visits reserved (declaration key).mappings
        (declaration key).base schema (state.put (declaration key).name (.record []))
      have inside := visits.follows taken.anchored (by
        rintro _ object ⟨entry, -, rfl, -⟩
        exact (hanging_declared isAnchor).synthesized entry.1)
      have known := inside.names (mem_names_insert.mpr (.inr rfl))
      have put := inside.anchored.insert (.inl known)
      exact ⟨taken.trans (inside.trans (put _)), mem_names_insert.mpr (.inr rfl)⟩
    · push Not at objects
      obtain ⟨types, typed, other⟩ := objects
      rw [add_run_mismatched fresh free typed (by simpa using other)]
      exact ⟨anchored.insert fitting _, mem_names_insert.mpr (.inr rfl)⟩
  · rw [add_run_enumeration fresh free]
    exact ⟨anchored.insert fitting _, mem_names_insert.mpr (.inr rfl)⟩

/-- A key adds what fits, and a torn key always adds a definition under its name. -/
theorem follows_add (reserved : List String) (schema : Schema)
    (anchored : Anchored anchors state.definitions)
    (isAnchor : Torn key → (declaration key).name ∈ anchors) :
    Follows anchors state.definitions ((add reserved key schema).run state).2.definitions ∧
      (Torn key →
        (declaration key).name ∈ ((add reserved key schema).run state).2.definitions.names) := by
  cases known : state.definitions.findByBase? (declaration key).base with
  | none =>
      obtain ⟨follows, present⟩ := follows_add_new anchored isAnchor known
      exact ⟨follows, fun _ => present⟩
  | some existing =>
      rw [add_run_known known]
      refine ⟨⟨anchored, fun _ => id⟩, fun torn => ?_⟩
      obtain ⟨same, bracketed⟩ := torn.bracketed
      rw [anchored.findByBase?_bracketed (same ▸ bracketed)] at known
      cases known

theorem follows_addAll (reserved : List String) {schemas : Entries Schema}
    (anchored : Anchored anchors state.definitions)
    (areAnchors : ∀ key ∈ schemas.keys, Torn key → (declaration key).name ∈ anchors) :
    Follows anchors state.definitions ((addAll reserved schemas).run state).2.definitions ∧
      ∀ key ∈ schemas.keys, Torn key →
        (declaration key).name ∈ ((addAll reserved schemas).run state).2.definitions.names := by
  induction schemas generalizing state with
  | nil => exact ⟨⟨anchored, fun _ => id⟩, fun key member => absurd member List.not_mem_nil⟩
  | cons entry rest ih =>
      obtain ⟨key, schema⟩ := entry
      obtain ⟨step, present⟩ := follows_add reserved schema anchored (areAnchors key (.head _))
      obtain ⟨later, others⟩ := ih step.anchored fun other member => areAnchors other (.tail _ member)
      refine ⟨step.trans later, fun other member torn => ?_⟩
      cases member with
      | head => exact later.names (present torn)
      | tail _ inRest => exact others other inRest torn

end Add

/-! ## All definitions -/

/-- Whether no two definitions share a base, and the base of each name leads to what stands there. -/
structure BasesDistinct (definitions : Definitions) : Prop where
  distinct : (definitions.names.map Names.base).Nodup
  found : ∀ entry ∈ definitions.entries,
    definitions.findByBase? (Names.base entry.1) = some entry

theorem Indexed.basesDistinct {definitions : Definitions} (indexed : Indexed definitions) :
    BasesDistinct definitions := by
  constructor
  · refine indexed.distinct.map_on fun left inLeft right inRight same => ?_
    have leads := indexed.found left inLeft
    rw [same, indexed.found right inRight] at leads
    exact (Option.some.inj leads).symm
  · intro entry member
    exact indexed.findByBase?_eq_some_iff.mpr ⟨member, rfl⟩

/-- Where every anchor has its base for itself, the index leads from each base to one definition. -/
theorem Anchored.indexed {anchors : List String} {definitions : Definitions}
    (anchored : Anchored anchors definitions)
    (alone : ∀ anchor ∈ anchors, ∀ name ∈ definitions.names,
      Names.base name = Names.base anchor → name = anchor) : Indexed definitions := by
  refine ⟨anchored.distinct, fun name member => ?_, anchored.known⟩
  obtain ⟨first, listed, isFirst⟩ := anchored.listed name member
  rw [listed]
  rcases isFirst with same | ⟨anchor, isAnchor, alike⟩
  · rw [same]
  · obtain ⟨firstMember, firstBase⟩ := anchored.known _ first listed
    rw [alone anchor isAnchor name member alike.symm,
      alone anchor isAnchor first firstMember (firstBase.trans alike.symm)]

/-- The names under which torn keys are declared. -/
def tornNames (schemas : Entries Schema) : List String :=
  (schemas.keys.filter fun key => Torn key).map fun key => (declaration key).name

theorem mem_tornNames {schemas : Entries Schema} {name : String} :
    name ∈ tornNames schemas ↔ ∃ key ∈ schemas.keys, Torn key ∧ (declaration key).name = name := by
  simp [tornNames, and_assoc]

/-- No two definitions share a base exactly if the base of every torn key belongs to the definition
under that key alone. -/
theorem bases_distinct_iff (schemas : Entries Schema) :
    BasesDistinct (ofSchemas schemas).value ↔
      ∀ key ∈ schemas.keys, Torn key → ∀ name ∈ (ofSchemas schemas).value.names,
        Names.base name = Names.base (declaration key).name → name = (declaration key).name := by
  have start : Anchored (tornNames schemas) ({} : State).definitions := Anchored.empty _
  obtain ⟨follows, present⟩ := follows_addAll (reservedNames schemas) start
    fun key member torn => mem_tornNames.mpr ⟨key, member, torn, rfl⟩
  constructor
  · intro distinct key member torn name isName same
    exact List.inj_on_of_nodup_map distinct.distinct isName (present key member torn) same
  · intro alone
    refine (follows.anchored.indexed fun anchor isAnchor name isName same => ?_).basesDistinct
    obtain ⟨key, member, torn, rfl⟩ := mem_tornNames.mp isAnchor
    exact alone key member torn name isName same

/-- Two empty objects; the second key is torn. -/
def tornSchemas : Entries Schema := [("Broken", {}), ("Broken«Pet", {})]

/-- Both keys have a definition under the base of the first. -/
theorem torn_key_shares_base : ¬ BasesDistinct (ofSchemas tornSchemas).value := by
  have shared : (ofSchemas tornSchemas).value.names.map Names.base = ["Broken", "Broken"] := by
    decide +kernel
  intro apart
  have distinct := apart.distinct
  rw [shared] at distinct
  simp at distinct

end Definitions

end ClientGen
