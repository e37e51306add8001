import ClientGen.Proofs.NamedType.RoundTrip
import ClientGen.Proofs.Resolve.Carriers
import ClientGen.Proofs.TypeScript.Spelling

/-!
Schemas whose types are texts of known names. The names come from references, from the type words and
from inline objects; an enumeration leaves its choices in place of its name, wherever they are passed
on. What a name has to be known for, and what resolving has to keep, is the same in both modes.
-/

set_option autoImplicit false

namespace ClientGen

open TypeScript (IsLeaf IsWord IsText IsArgument IsSingle Spelled primitiveWords)

/-! ## References -/

namespace NamedType

/-- Whether a reference is made of known names, where lists have one argument each. -/
inductive Refers (refers : String → Prop) : NamedType → Prop where
  | leaf {name : String} : IsLeaf refers name → Refers refers (plain name)
  | list {name : String} {item : NamedType} : name ∈ collectionNames → Refers refers item →
      Refers refers ⟨name, [item]⟩
  | applied {name : String} {first : NamedType} {rest : List NamedType} : IsWord name →
      refers name → shownName name = name → (∀ argument ∈ first :: rest, Refers refers argument) →
      Refers refers ⟨name, first :: rest⟩

theorem shownAll_substituteAll (mappings : Entries String) (types : List NamedType) :
    shownAll (substituteAll mappings types) =
      types.map fun type => (type.substitute mappings).shown := by
  induction types with
  | nil => rfl
  | cons type rest ih => rw [substituteAll, shownAll, ih, List.map_cons]

theorem mem_keys_of_keyOf? {mappings : Entries String} {value key : String}
    (found : keyOf? value mappings = some key) : key ∈ mappings.keys := by
  obtain ⟨entry, isEntry, rfl⟩ := Option.map_eq_some_iff.mp found
  exact List.mem_map_of_mem (List.mem_of_find?_eq_some isEntry)

/-- A reference brings in no names but those in it and the placeholders for some of them. -/
theorem Refers.spelled {refers : String → Prop} {type : NamedType} (isReference : Refers refers type)
    {mappings : Entries String} (words : ∀ key ∈ mappings.keys, IsWord key) (inside : Bool) :
    Spelled (fun name => refers name ∨ name ∈ mappings.keys) inside
      (type.substitute mappings).shown := by
  induction isReference generalizing inside with
  | @leaf name isLeaf =>
      rw [plain, substitute, plain, shown]
      cases found : keyOf? name mappings with
      | none => exact .leaf (isLeaf.mono fun _ => .inl)
      | some key =>
          have isKey := mem_keys_of_keyOf? found
          exact .leaf (.inr ⟨words key isKey, .inr isKey⟩)
  | list isList _ ih =>
      have array : ∀ name ∈ collectionNames, shownName name = "Array" := by decide
      rw [substitute, substituteAll, shown_applied, shownAll, array _ isList]
      exact .array (ih true)
  | @applied name first rest word isKnown same _ ih =>
      rw [substitute, shown_applied, same, shownAll_substituteAll]
      refine .applied word (.inl isKnown) same fun argument member => ?_
      have inMap : argument ∈ (first :: rest).map fun type => (type.substitute mappings).shown := member
      obtain ⟨type, listed, rfl⟩ := List.mem_map.mp inMap
      exact ih type listed true

end NamedType

/-! ## Schemas -/

namespace Schema

/-- A schema whose type carries no choices of an enumeration. -/
inductive Free : Schema → Prop where
  | combined {schema sole : Schema} : schema.soleMember? = some sole → Free sole → Free schema
  | referring {schema : Schema} {path : String} : schema.reference = some path → Free schema
  | worded {schema : Schema} : schema.Worded →
      ("array" ∈ schema.typeWords → ∀ items, schema.items = some items → Free items) → Free schema

/-- A schema whose type may stand in brackets: it is no union, or one of names only. -/
inductive Nests : Schema → Prop where
  | combined {schema sole : Schema} : schema.soleMember? = some sole → Nests sole → Nests schema
  | referring {schema : Schema} {path : String} : schema.reference = some path → Nests schema
  | listed {schema : Schema} : schema.soleMember? = none → schema.reference = none →
      schema.enumValues ≠ [] → Nests schema
  | single {schema : Schema} {word : String} : schema.Worded → schema.typeWords = [word] →
      schema.nullable ≠ some true → Nests schema
  | names {schema : Schema} : schema.Worded → schema.typeWords ≠ [] → "array" ∉ schema.typeWords →
      schema.mapsValues = false → Nests schema

/-- Whether the words of a schema make nothing but names, neither arrays nor maps. -/
def NamesOnly (schema : Schema) : Prop :=
  "array" ∉ schema.typeWords ∧ schema.mapsValues = false

/-- A schema made of the words for primitive types and of known references, in which arrays and maps
hold what may stand in brackets, and maps hold no choices. `asks` is what more is asked of each part
that is resolved by its words. -/
inductive Tame (refers : String → Prop) (asks : Schema → Prop) : Schema → Prop where
  | combined {schema sole : Schema} : schema.soleMember? = some sole → Tame refers asks sole →
      Tame refers asks schema
  | referring {schema : Schema} {path : String} : schema.reference = some path →
      (NamedType.parse (Names.ofReference path)).Refers refers → Tame refers asks schema
  | listed {schema : Schema} : schema.soleMember? = none → schema.reference = none →
      schema.enumValues ≠ [] → Tame refers asks schema
  | worded {schema : Schema} : schema.Worded → asks schema →
      (∀ word ∈ schema.typeWords, word ≠ "array" → word ∈ primitiveWords) →
      ("array" ∈ schema.typeWords → ∀ items, schema.items = some items → items.Nests) →
      ("array" ∈ schema.typeWords → ∀ items, schema.items = some items →
        Tame refers asks items) →
      ("object" ∈ schema.typeWords → ∀ entry ∈ schema.declaredProperties,
        Tame refers asks entry.2) →
      ("object" ∈ schema.typeWords → schema.mapsValues = true → ∀ values,
        schema.additional = some (.described values) → values.Nests ∧ values.Free) →
      ("object" ∈ schema.typeWords → schema.mapsValues = true → ∀ values,
        schema.additional = some (.described values) → Tame refers asks values) →
      Tame refers asks schema

/-- The properties of the inline objects of a tame schema are tame. -/
theorem Tame.inlineObjects {refers : String → Prop} {asks : Schema → Prop} {schema : Schema}
    (tame : schema.Tame refers asks) :
    ∀ object ∈ schema.inlineObjects, ∀ entry ∈ object.declaredProperties,
      entry.2.Tame refers asks := by
  induction tame with
  | combined single _ ih =>
      rw [inlineObjects_of_sole single]
      exact ih
  | referring refersTo _ =>
      rw [inlineObjects_of_reference refersTo]
      exact fun _ none => absurd none List.not_mem_nil
  | listed several _ listed =>
      rw [inlineObjects_of_listed several listed]
      exact fun _ none => absurd none List.not_mem_nil
  | @worded schema worded _ _ _ _ properties _ _ inItems _ inValues =>
      intro object member
      rw [inlineObjects_of_words worded.several worded.inline worded.free] at member
      rcases List.mem_append.mp member with below | here
      · split at below
        · next isArray =>
            cases found : schema.items with
            | none =>
                rw [found] at below
                cases below
            | some items =>
                rw [found] at below
                exact inItems isArray items found object below
        · cases below
      · split at here
        · next isObject =>
            split at here
            · rw [List.mem_singleton.mp here]
              exact properties isObject
            · split at here
              · next maps =>
                  obtain ⟨values, found⟩ := exists_values maps
                  rw [found] at here
                  exact inValues isObject maps values found object here
              · cases here
        · cases here

variable {schema inner : Schema}

theorem Free.sole (free : schema.Free) (single : schema.soleMember? = some inner) :
    inner.Free := by
  cases free with
  | combined isSole inside =>
      rw [single] at isSole
      cases isSole
      exact inside
  | referring refers =>
      rw [(allOf_of_soleMember? single).1] at refers
      cases refers
  | worded worded _ =>
      rw [worded.several] at single
      cases single

theorem Nests.sole (nests : schema.Nests) (single : schema.soleMember? = some inner) :
    inner.Nests := by
  cases nests with
  | combined isSole inside =>
      rw [single] at isSole
      cases isSole
      exact inside
  | referring refers =>
      rw [(allOf_of_soleMember? single).1] at refers
      cases refers
  | listed several _ _ =>
      rw [several] at single
      cases single
  | single worded _ _ =>
      rw [worded.several] at single
      cases single
  | names worded _ _ _ =>
      rw [worded.several] at single
      cases single

theorem Nests.words (nests : schema.Nests) (worded : schema.Worded) :
    (∃ word, schema.typeWords = [word] ∧ schema.nullable ≠ some true) ∨
      (schema.typeWords ≠ [] ∧ "array" ∉ schema.typeWords ∧ schema.mapsValues = false) := by
  cases nests with
  | combined single _ =>
      rw [worded.several] at single
      cases single
  | referring refers =>
      rw [worded.inline] at refers
      cases refers
  | listed _ _ listed => exact absurd worded.free listed
  | @single _ word _ words notNull => exact .inl ⟨word, words, notNull⟩
  | names _ some noArray noMap => exact .inr ⟨some, noArray, noMap⟩

theorem Free.not_listed (free : schema.Free) (several : schema.soleMember? = none)
    (inline : schema.reference = none) : schema.enumValues = [] := by
  cases free with
  | combined single _ =>
      rw [several] at single
      cases single
  | referring refers =>
      rw [inline] at refers
      cases refers
  | worded worded _ => exact worded.free

theorem Free.items (free : schema.Free) (worded : schema.Worded)
    (member : "array" ∈ schema.typeWords) {items : Schema} (isItems : schema.items = some items) :
    items.Free := by
  cases free with
  | combined single _ =>
      rw [worded.several] at single
      cases single
  | referring refers =>
      rw [worded.inline] at refers
      cases refers
  | worded _ inside => exact inside member items isItems

end Schema

namespace Resolve

/-! ## Choices -/

section Words

variable {mode : Mode} {mappings : Entries String} {name : String} {schema : Schema} {state : State}

/-- A type without choices comes from a schema that offers none. -/
theorem free_of_type (mode : Mode) (mappings : Entries String) (schema : Schema) :
    ∀ name state, Ensures (type mode mappings name schema) state fun resolved _ =>
      resolved.enumOption = [] → schema.Free := by
  induction schema using Schema.induction_below with
  | step schema inSole inItems _ _ =>
    intro name state
    rcases schema.form with ⟨sole, single⟩ | ⟨path, refers⟩ | ⟨several, inline, listed⟩ |
      ⟨several, inline, free⟩
    · rw [type_of_sole _ _ _ single]
      exact (inSole sole single name state).mono fun _ _ known none => .combined single (known none)
    · exact fun _ => .referring refers
    · rw [type_of_enum _ _ _ several inline listed]
      exact fun none => absurd none listed
    · by_cases below : "array" ∈ schema.typeWords → ∀ items, schema.items = some items → items.Free
      · exact fun _ => .worded ⟨several, inline, free⟩ below
      · push Not at below
        obtain ⟨member, items, isItems, offers⟩ := below
        rw [type_of_words _ _ _ several inline free, ensures_bind]
        have makes (found : List String × ResolvedType) (later : State) :
            Ensures (addWord mode mappings name schema found "array") later
              fun next _ => next.2.enumOption ≠ [] := by
          rw [addWord_array isItems]
          exact (inItems items isItems name later).mono fun _ _ known none => offers (known none)
        have keeps : KeepsWords mode mappings name schema fun found _ => found.2.enumOption ≠ [] := by
          constructor
          · exact fun _ _ _ _ _ known => known
          · intro found later _ none
            rw [isItems] at none
            cases none
          · intro other found later _ isOther _
            rw [isItems] at isOther
            cases isOther
            exact (inItems items isItems name later).mono fun _ _ known none => offers (known none)
          · exact fun found later _ _ known => known
          · exact fun values found later _ _ _ _ known => known
        refine (words_ensures_of_mem keeps member makes state).mono fun found _ some none => ?_
        exact absurd none some

theorem type_of_free (free : schema.Free) :
    Ensures (type mode mappings name schema) state fun resolved _ => resolved.enumOption = [] := by
  induction free generalizing state with
  | combined single _ ih =>
      rw [type_of_sole _ _ _ single]
      exact ih
  | referring refersTo =>
      rw [type_of_reference _ _ _ refersTo]
      rfl
  | @worded schema worded _ ih =>
      rw [type_of_words _ _ _ worded.several worded.inline worded.free, ensures_bind]
      have keeps : KeepsWords mode mappings name schema fun found _ => found.2.enumOption = [] := by
        constructor
        · exact fun _ _ _ _ _ known => known
        · exact fun _ _ _ _ _ => rfl
        · exact fun items _ _ member found _ => ih member items found
        · exact fun _ _ _ _ known => known
        · exact fun _ _ _ _ _ _ _ known => known
      exact words_ensures keeps rfl

/-! ## Unions -/

theorem exists_unionText (members : List String) (nullable : Bool) :
    ∃ texts, unionText members nullable = String.intercalate " | " texts ∧
      (members ≠ [] → texts ≠ []) ∧ ∀ text ∈ texts, text ∈ members ∨ text = "null" := by
  have distinct : ∀ text ∈ members.eraseDups, text ∈ members :=
    fun text member => List.mem_eraseDups.mp member
  have nonempty (some : members ≠ []) : members.eraseDups ≠ [] := by
    obtain ⟨text, member⟩ := List.exists_mem_of_ne_nil members some
    exact List.ne_nil_of_mem (List.mem_eraseDups.mpr member)
  simp only [unionText]
  split
  · refine ⟨_, rfl, fun _ => by simp, fun text member => ?_⟩
    cases List.mem_append.mp member with
    | inl inMembers => exact .inl (distinct text inMembers)
    | inr isNull => exact .inr (List.mem_singleton.mp isNull)
  · exact ⟨_, rfl, nonempty, fun text member => .inl (distinct text member)⟩

theorem isLeaf_primitive {known : String → Prop} {word : String} (primitive : word ∈ primitiveWords) :
    IsLeaf known word := .inl primitive

theorem isText_unionText {known : String → Prop} {members : List String}
    (singles : ∀ text ∈ members, IsSingle known text) (nullable : Bool) :
    IsText known (unionText members nullable) := by
  obtain ⟨texts, same, -, among⟩ := exists_unionText members nullable
  rw [same]
  refine TypeScript.isText_union fun text member => ?_
  rcases among text member with inMembers | rfl
  · exact singles text inMembers
  · exact IsLeaf.isSingle (isLeaf_primitive (by decide))

theorem isArgument_unionText {known : String → Prop} {members : List String} (some : members ≠ [])
    (leaves : ∀ text ∈ members, IsLeaf known text) (nullable : Bool) :
    IsArgument known (unionText members nullable) := by
  obtain ⟨texts, same, nonempty, among⟩ := exists_unionText members nullable
  rw [same]
  refine TypeScript.isArgument_union (nonempty some) fun text member => ?_
  rcases among text member with inMembers | rfl
  · exact leaves text inMembers
  · exact isLeaf_primitive (by decide)

/-- Each word makes one member of the union. -/
theorem words_length (words : List String) (found : List String × ResolvedType) :
    Ensures (words.foldlM (addWord mode mappings name schema) found) state
      fun next _ => next.1.length = found.1.length + words.length := by
  induction words generalizing found state with
  | nil => rfl
  | cons word rest ih =>
      have one : Ensures (addWord mode mappings name schema found word) state
          fun next _ => next.1.length = found.1.length + 1 := by
        unfold addWord Ensures
        split
        · exact List.length_append
        · split
          · split
            · exact List.length_append
            · split
              · exact List.length_append
              · exact List.length_append
          · exact List.length_append
      rw [List.foldlM_cons, ensures_bind]
      refine one.mono fun next later length => ?_
      refine (ih next).mono fun last _ total => ?_
      rw [total, length, List.length_cons]
      omega

end Words

/-! ## Types -/

/-- The members of a union so far, which are names if the union has nothing else. -/
structure Members (known : String → Prop) (namesOnly : Prop) (texts : List String) : Prop where
  singles : ∀ text ∈ texts, IsSingle known text
  leaves : namesOnly → ∀ text ∈ texts, IsLeaf known text

theorem Members.snoc {known more : String → Prop} {namesOnly : Prop} {texts : List String}
    (members : Members known namesOnly texts) (weaken : ∀ name, known name → more name)
    {text : String} (single : IsSingle more text) (leaf : namesOnly → IsLeaf more text) :
    Members more namesOnly (texts ++ [text]) := by
  constructor
  · intro other member
    cases List.mem_append.mp member with
    | inl earlier => exact (members.singles other earlier).mono weaken
    | inr now => exact List.mem_singleton.mp now ▸ single
  · intro only other member
    cases List.mem_append.mp member with
    | inl earlier => exact (members.leaves only other earlier).mono weaken
    | inr now => exact List.mem_singleton.mp now ▸ leaf only

/-- What names are known for while a document is resolved in some mode. `knows` takes the name made
for a type, its schema and the state: references and placeholders are known, names that are known
stay so, those of a part are known for the whole, and an inline object is known once it is resolved. -/
structure Scope (mode : Mode) (mappings : Entries String) (refers : String → Prop)
    (asks : Schema → Prop) (knows : String → Schema → State → String → Prop) : Prop where
  placeholders : ∀ key ∈ mappings.keys, IsWord key
  referred : ∀ name schema state word, refers word ∨ word ∈ mappings.keys →
    knows name schema state word
  keeps : ∀ name schema other part state word, knows name schema state word →
    Ensures (type mode mappings other part) state fun _ last => knows name schema last word
  sole : ∀ name schema sole state word, schema.soleMember? = some sole →
    knows name sole state word → knows name schema state word
  items : ∀ name schema items state word, schema.Worded → "array" ∈ schema.typeWords →
    schema.items = some items → knows name items state word → knows name schema state word
  values : ∀ name schema values state word, schema.Worded → asks schema →
    "object" ∈ schema.typeWords → schema.mapsValues = true →
    schema.additional = some (.described values) → knows name values state word →
    knows name schema state word
  object : ∀ name schema state, schema.Worded → asks schema → "object" ∈ schema.typeWords →
    schema.hasProperties = true → IsWord name →
    Ensures (inlineObject mode name fun own => object mode mappings own schema) state
      fun named last => (IsWord named.1 ∧ knows name schema last named.1) ∧
        ∀ word, knows name schema state word → knows name schema last word

section Types

variable {mode : Mode} {mappings : Entries String} {refers : String → Prop} {asks : Schema → Prop}
  {knows : String → Schema → State → String → Prop} {schema : Schema} {name : String}

/-- Each word adds a member to the union, and a name unless it is that of arrays or of maps. -/
theorem keepsWords_members (scope : Scope mode mappings refers asks knows) (worded : schema.Worded)
    (asked : asks schema)
    (primitive : ∀ word ∈ schema.typeWords, word ≠ "array" → word ∈ primitiveWords)
    (word : IsWord name)
    (ofItems : ∀ items, "array" ∈ schema.typeWords → schema.items = some items → ∀ state,
      Ensures (type mode mappings name items) state fun inner last =>
        IsArgument (knows name items last) inner.type)
    (ofValues : ∀ values, "object" ∈ schema.typeWords → schema.mapsValues = true →
      schema.additional = some (.described values) → ∀ state,
      Ensures (type mode mappings name values) state fun inner last =>
        IsArgument (knows name values last) inner.type) :
    KeepsWords mode mappings name schema fun found last =>
      Members (knows name schema last) schema.NamesOnly found.1 := by
  constructor
  · intro other found later member notArray members
    have leaf : IsLeaf (knows name schema later) other :=
      isLeaf_primitive (primitive other member notArray)
    exact members.snoc (fun _ => id) leaf.isSingle fun _ => leaf
  · intro found later member _ members
    have leaf : IsLeaf (knows name schema later) "any" := isLeaf_primitive (by decide)
    exact members.snoc (fun _ => id) leaf.isSingle.isArgument.array
      fun namesOnly => absurd member namesOnly.1
  · intro items found later member isItems members
    have argument : IsArgument _ _ := ofItems items member isItems later
    refine members.snoc (fun other known => scope.keeps _ _ _ _ _ other known)
      (IsArgument.array ?_) fun namesOnly => absurd member namesOnly.1
    exact argument.mono fun other known => scope.items _ _ _ _ other worded member isItems known
  · intro found later member properties members
    obtain ⟨⟨isWord, known⟩, weaken⟩ :=
      scope.object name schema later worded asked member properties word
    have leaf : IsLeaf _ _ := .inr ⟨isWord, known⟩
    exact members.snoc weaken leaf.isSingle fun _ => leaf
  · intro values found later member _ maps isValues members
    have argument : IsArgument _ _ := ofValues values member maps isValues later
    refine members.snoc (fun other known => scope.keeps _ _ _ _ _ other known)
      (IsArgument.map ?_) fun namesOnly => ?_
    · exact argument.mono fun other known =>
        scope.values _ _ _ _ other worded asked member maps isValues known
    · rw [namesOnly.2] at maps
      cases maps

/-- The union of all words may stand in brackets if the schema says so. -/
theorem Members.isArgument {known : String → Prop} {texts : List String}
    (members : Members known schema.NamesOnly texts) (worded : schema.Worded)
    (length : texts.length = schema.typeWords.length) (nests : schema.Nests) :
    IsArgument known (unionText texts (schema.nullable = some true)) := by
  rcases nests.words worded with ⟨word, words, notNull⟩ | ⟨some, namesOnly⟩
  · rw [words] at length
    obtain ⟨text, same⟩ := List.length_eq_one_iff.mp length
    rw [same, decide_eq_false notNull, unionText_sole]
    exact (members.singles text (same ▸ .head _)).isArgument
  · refine isArgument_unionText (fun empty => some ?_) (members.leaves namesOnly) _
    rw [empty] at length
    exact List.eq_nil_of_length_eq_zero length.symm

/-- A tame schema without choices has a type whose names are known. -/
theorem type_spelled (scope : Scope mode mappings refers asks knows)
    (tame : schema.Tame refers asks) (free : schema.Free) (word : IsWord name) (state : State) :
    Ensures (type mode mappings name schema) state fun resolved last =>
      IsText (knows name schema last) resolved.type ∧
        (schema.Nests → IsArgument (knows name schema last) resolved.type) := by
  induction tame generalizing state with
  | @combined schema sole single _ ih =>
      rw [type_of_sole _ _ _ single]
      refine (ih (free.sole single) state).mono fun resolved last known => ?_
      have weaken (other : String) := scope.sole name schema sole last other single
      exact ⟨known.1.mono weaken, fun nests => (known.2 (nests.sole single)).mono weaken⟩
  | @referring schema path refersTo isReference =>
      rw [type_of_reference _ _ _ refersTo, ensures_pure]
      have spelled := isReference.spelled scope.placeholders false
      have text : (referenceType mappings path).type =
          ((NamedType.parse (Names.ofReference path)).substitute mappings).shown.render := by
        rw [NamedType.render_shown, referenceType]
      have single : IsSingle (knows name schema state) (referenceType mappings path).type :=
        ⟨_, spelled.mono (scope.referred name schema state), text⟩
      exact ⟨single.isText, fun _ => single.isArgument⟩
  | listed several inline listed => exact absurd (free.not_listed several inline) listed
  | @worded schema worded asked primitive nest _ _ nestValues _ inItems _ inValues =>
      rw [type_of_words _ _ _ worded.several worded.inline worded.free, ensures_bind]
      have keeps : KeepsWords mode mappings name schema fun found last =>
          Members (knows name schema last) schema.NamesOnly found.1 := by
        refine keepsWords_members scope worded asked primitive word ?_ ?_
        · intro items member isItems later
          have inside := inItems member items isItems (free.items worded member isItems) later
          exact inside.2 (nest member items isItems)
        · intro values member maps isValues later
          obtain ⟨nests, freeValues⟩ := nestValues member maps values isValues
          exact (inValues member maps values isValues freeValues later).2 nests
      have none : Members (knows name schema state) schema.NamesOnly [] :=
        ⟨fun _ none => absurd none List.not_mem_nil, fun _ _ none => absurd none List.not_mem_nil⟩
      have all := words_ensures keeps none
      have length : Ensures (schema.typeWords.foldlM (addWord mode mappings name schema) ([], {}))
          state fun found _ => found.1.length = schema.typeWords.length := by
        simpa using words_length schema.typeWords ([], {})
      refine (all.and length).mono fun found last known => ?_
      obtain ⟨members, length⟩ := known
      rw [ensures_pure]
      exact ⟨isText_unionText members.singles _, members.isArgument worded length⟩

/-- A field that is no enumeration has a type whose names are known. -/
theorem type_spelled_of_enumOption (scope : Scope mode mappings refers asks knows)
    (tame : schema.Tame refers asks) (word : IsWord name) (state : State) :
    Ensures (type mode mappings name schema) state fun resolved last =>
      resolved.enumOption = [] → IsText (knows name schema last) resolved.type := by
  by_cases free : schema.Free
  · exact (type_spelled scope tame free word state).mono fun _ _ known _ => known.1
  · exact (free_of_type mode mappings schema name state).mono fun _ _ known none =>
      absurd (known none) free

/-- The types of the fields of an object mention names that are known. -/
theorem object_spelled (scope : Scope mode mappings refers asks knows) {owner : String}
    (tame : ∀ entry ∈ schema.declaredProperties, entry.2.Tame refers asks) (word : IsWord owner)
    (state : State) :
    Ensures (object mode mappings owner schema) state fun fields last =>
      ∀ field ∈ fields, ∃ entry ∈ schema.declaredProperties, field.enumOption = [] →
        IsText (knows (Names.synthesized owner entry.1) entry.2 last) field.type := by
  have keeps : KeepsFields mode mappings owner schema.declaredProperties fun _ fields last =>
      ∀ field ∈ fields, ∃ entry ∈ schema.declaredProperties, field.enumOption = [] →
        IsText (knows (Names.synthesized owner entry.1) entry.2 last) field.type := by
    constructor
    · exact fun _ _ _ _ _ _ known => known
    · intro seen entry fields later turn _ known
      have member : entry ∈ schema.declaredProperties :=
        turn.subset (List.mem_append_right _ (.head _))
      have now := type_spelled_of_enumOption scope (tame entry member) (word.synthesized entry.1) later
      intro required field isField
      rcases List.mem_append.mp isField with earlier | new
      · obtain ⟨other, isOther, spelled⟩ := known field earlier
        refine ⟨other, isOther, fun none => (spelled none).mono fun name isKnown => ?_⟩
        exact scope.keeps _ _ _ _ _ name isKnown
      · rw [List.mem_singleton.mp new]
        exact ⟨entry, member, now⟩
  exact object_ensures keeps fun _ none => absurd none List.not_mem_nil

end Types

end Resolve

end ClientGen
