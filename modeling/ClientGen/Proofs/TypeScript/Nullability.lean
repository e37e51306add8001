import ClientGen.Proofs.Names.Unbracketed
import ClientGen.Proofs.Resolve.Carriers
import ClientGen.Proofs.Resolve.Visits
import ClientGen.Proofs.TypeScript.UnionMembers

/-!
Schemas that may be null. A schema that is resolved by its type words has null among the members of
its type, outside of all brackets. Combinations with a sole member, references and enumerations are
resolved before anything looks whether they may be null, so their types are those that they have
without it.
-/

set_option autoImplicit false

namespace ClientGen

namespace TypeScript

/-! ## Balanced texts -/

/-- The depth of the brackets after some characters. -/
def nesting (depth : Nat) : List Char → Nat
  | [] => depth
  | char :: rest =>
      if Names.isOpening char then nesting (depth + 1) rest
      else if Names.isClosing char then nesting (depth - 1) rest
      else nesting depth rest

theorem nesting_append (depth : Nat) (before after : List Char) :
    nesting depth (before ++ after) = nesting (nesting depth before) after := by
  induction before generalizing depth with
  | nil => rfl
  | cons char rest ih =>
      rw [List.cons_append, nesting, nesting]
      split
      · exact ih _
      · split
        · exact ih _
        · exact ih _

/-- Whether a text leaves the depth of the brackets as it is, wherever it stands. -/
def IsBalanced (text : String) : Prop := ∀ depth, nesting depth text.toList = depth

theorem IsBalanced.append {left right : String} (first : IsBalanced left)
    (second : IsBalanced right) : IsBalanced (left ++ right) := by
  intro depth
  rw [String.toList_append, nesting_append, first, second]

theorem isBalanced_of_unmarked {text : String}
    (unmarked : ∀ char ∈ text.toList, NamedType.isMark char = false) : IsBalanced text := by
  intro depth
  generalize text.toList = chars at unmarked
  induction chars with
  | nil => rfl
  | cons char rest ih =>
      have here := unmarked char (.head _)
      simp only [NamedType.isMark_eq, Bool.or_eq_false_iff] at here
      rw [nesting, here.1.1, here.1.2, if_neg (by decide), if_neg (by decide)]
      exact ih fun other member => unmarked other (.tail _ member)

/-- A balanced text may stand between an opening and a closing bracket. -/
theorem IsBalanced.enclosed {text start : String} (balanced : IsBalanced text)
    (opens : ∀ depth, nesting depth start.toList = depth + 1) :
    IsBalanced (start ++ text ++ ">") := by
  intro depth
  rw [String.toList_append, String.toList_append, nesting_append, nesting_append, opens, balanced]
  rfl

theorem IsBalanced.array {item : String} (balanced : IsBalanced item) :
    IsBalanced ("Array<" ++ item ++ ">") :=
  balanced.enclosed fun _ => rfl

theorem IsBalanced.map {values : String} (balanced : IsBalanced values) :
    IsBalanced ("Map<string, " ++ values ++ ">") :=
  balanced.enclosed fun _ => rfl

theorem isBalanced_intercalate {texts : List String} (balanced : ∀ text ∈ texts, IsBalanced text) :
    IsBalanced (String.intercalate " | " texts) := by
  induction texts with
  | nil => exact fun depth => rfl
  | cons first rest ih =>
      cases rest with
      | nil =>
          rw [String.intercalate_singleton]
          exact balanced first (.head _)
      | cons next others =>
          have bar : IsBalanced " | " := fun depth => rfl
          rw [String.intercalate_cons_cons]
          exact ((balanced first (.head _)).append bar).append
            (ih fun text member => balanced text (.tail _ member))

/-! ## Members of balanced unions -/

/-- A union is cut at a bar outside of the brackets. -/
theorem cutUnion_bar {depth : Nat} {chars : List Char} (outside : nesting depth chars = 0)
    (run rest : List Char) :
    cutUnion depth run (chars ++ '|' :: rest) = cutUnion depth run chars ++ cutUnion 0 [] rest := by
  induction chars generalizing depth run with
  | nil =>
      cases outside
      rfl
  | cons char others ih =>
      rw [nesting] at outside
      rw [List.cons_append, cutUnion, cutUnion]
      split
      · next opening =>
          rw [if_pos opening] at outside
          exact ih outside _
      · next notOpening =>
          rw [if_neg notOpening] at outside
          split
          · next closing =>
              rw [if_pos closing] at outside
              exact ih outside _
          · next notClosing =>
              rw [if_neg notClosing] at outside
              split
              · rw [ih outside, List.cons_append]
              · exact ih outside _

theorem trimmed_around (chars : List Char) :
    Text.trimChars (chars ++ [' ']) = Text.trimChars chars ∧
      Text.trimChars (' ' :: chars) = Text.trimChars chars := by
  have blank : ∀ char ∈ [' '], Text.isBlank char = true := Text.forall_of_all (by decide)
  have none : ∀ char ∈ ([] : List Char), Text.isBlank char = true := by simp
  have behind := Text.trimChars_blank_around chars none blank
  have before := Text.trimChars_blank_around chars blank none
  rw [List.nil_append] at behind
  rw [List.append_nil] at before
  exact ⟨behind, before⟩

/-- A blank behind a union belongs to its last member. -/
theorem trimmed_cutUnion_concat (depth : Nat) (run chars : List Char) :
    (cutUnion depth run (chars ++ [' '])).map Text.trimChars =
      (cutUnion depth run chars).map Text.trimChars := by
  induction chars generalizing depth run with
  | nil =>
      have last : cutUnion depth run [' '] = [run.reverse ++ [' ']] := by
        simp [cutUnion, Names.isOpening, Names.isClosing]
      rw [List.nil_append, last, cutUnion, List.map_singleton, (trimmed_around _).1]
      rfl
  | cons char rest ih =>
      rw [List.cons_append, cutUnion, cutUnion]
      split
      · exact ih _ _
      · split
        · exact ih _ _
        · split
          · rw [List.map_cons, ih, List.map_cons]
          · exact ih _ _

/-- One in front of it belongs to its first member. -/
theorem trimmed_cutUnion_blank (depth : Nat) (run chars : List Char) :
    (cutUnion depth (run ++ [' ']) chars).map Text.trimChars =
      (cutUnion depth run chars).map Text.trimChars := by
  have first (run : List Char) : (run ++ [' ']).reverse = ' ' :: run.reverse := List.reverse_concat
  induction chars generalizing depth run with
  | nil =>
      rw [cutUnion, cutUnion, first, List.map_singleton, List.map_singleton, (trimmed_around _).2]
  | cons char rest ih =>
      rw [cutUnion, cutUnion]
      split
      · exact ih (depth + 1) (char :: run)
      · split
        · exact ih (depth - 1) (char :: run)
        · split
          · rw [List.map_cons, List.map_cons, first, (trimmed_around _).2]
          · exact ih depth (char :: run)

theorem unionMembers_bar {left : String} (balanced : IsBalanced left) (right : String) :
    unionMembers (left ++ " | " ++ right) = unionMembers left ++ unionMembers right := by
  have chars : (left ++ " | " ++ right).toList =
      (left.toList ++ [' ']) ++ '|' :: ' ' :: right.toList := by
    simp
  have outside : nesting 0 (left.toList ++ [' ']) = 0 := by
    rw [nesting_append, balanced]
    rfl
  have blank : cutUnion 0 [] (' ' :: right.toList) = cutUnion 0 ([] ++ [' ']) right.toList := by
    simp [cutUnion, Names.isOpening, Names.isClosing]
  rw [unionMembers, chars, cutUnion_bar outside, List.map_append, trimmed_cutUnion_concat, blank,
    trimmed_cutUnion_blank, List.filter_append, List.map_append]
  rfl

/-- The members of a union of balanced texts are those of the texts. -/
theorem unionMembers_flatMap {texts : List String} (balanced : ∀ text ∈ texts, IsBalanced text) :
    unionMembers (String.intercalate " | " texts) = texts.flatMap unionMembers := by
  induction texts with
  | nil => decide
  | cons first rest ih =>
      cases rest with
      | nil => rw [String.intercalate_singleton, List.flatMap_singleton]
      | cons next others =>
          rw [String.intercalate_cons_cons, unionMembers_bar (balanced first (.head _)),
            ih fun text member => balanced text (.tail _ member)]
          rfl

end TypeScript

open TypeScript (IsBalanced isBalanced_intercalate isBalanced_of_unmarked unionMembers
  unionMembers_flatMap)

/-- Whether null is a member of a type or one of the choices that take the place of the type. -/
def ResolvedType.ShowsNull (resolved : ResolvedType) : Prop :=
  "null" ∈ unionMembers resolved.type ∨ .null ∈ resolved.enumOption

/-- A schema in which no type word and no reference has an unmatched bracket. -/
inductive Schema.Balanced (mappings : Entries String) : Schema → Prop where
  | combined {schema sole : Schema} : schema.soleMember? = some sole → Balanced mappings sole →
      Balanced mappings schema
  | referring {schema : Schema} {path : String} : schema.reference = some path →
      IsBalanced (Resolve.referenceType mappings path).type → Balanced mappings schema
  | listed {schema : Schema} : schema.soleMember? = none → schema.reference = none →
      schema.enumValues ≠ [] → Balanced mappings schema
  | worded {schema : Schema} : schema.Worded → (∀ word ∈ schema.typeWords, IsBalanced word) →
      (∀ items, schema.items = some items → Balanced mappings items) →
      (∀ values, schema.additional = some (.described values) → Balanced mappings values) →
      Balanced mappings schema

namespace Resolve

variable {mode : Mode} {mappings : Entries String} {name : String} {schema : Schema} {state : State}

/-! ## Types of balanced schemas -/

/-- The members of a union, with null at the end if it is allowed and not there yet. -/
def unionParts (members : List String) (nullable : Bool) : List String :=
  if nullable && !members.eraseDups.contains "null" then members.eraseDups ++ ["null"]
  else members.eraseDups

theorem unionText_eq (members : List String) (nullable : Bool) :
    unionText members nullable = String.intercalate " | " (unionParts members nullable) := rfl

theorem null_mem_unionParts (members : List String) : "null" ∈ unionParts members true := by
  by_cases listed : "null" ∈ members
  · simp [unionParts, listed]
  · simp [unionParts, listed]

theorem isBalanced_unionParts {members : List String}
    (balanced : ∀ text ∈ members, IsBalanced text) (nullable : Bool) :
    ∀ text ∈ unionParts members nullable, IsBalanced text := by
  have distinct : ∀ text ∈ members.eraseDups, IsBalanced text :=
    fun text member => balanced text (List.mem_eraseDups.mp member)
  intro text member
  rw [unionParts] at member
  split at member
  · cases List.mem_append.mp member with
    | inl inDistinct => exact distinct text inDistinct
    | inr null =>
        cases List.mem_singleton.mp null
        exact fun depth => rfl
  · exact distinct text member

theorem null_mem_unionText {members : List String}
    (balanced : ∀ text ∈ members, IsBalanced text) :
    "null" ∈ unionMembers (unionText members true) := by
  have itself : "null" ∈ unionMembers "null" := by decide
  rw [unionText_eq, unionMembers_flatMap (isBalanced_unionParts balanced true)]
  exact List.mem_flatMap.mpr ⟨"null", null_mem_unionParts members, itself⟩

theorem isBalanced_ownName (plain : IsBalanced name) (reserved : List String) :
    IsBalanced (ownName reserved name) := by
  unfold ownName
  split
  · obtain ⟨number, -, same, -, -⟩ := Names.firstFree_spec reserved name
    rw [same]
    exact plain.append (isBalanced_of_unmarked (Names.unmarked_number number))
  · exact plain

theorem inlineObject_name (mode : Mode) (name : String) (fields : String → Step (List Field))
    (state : State) :
    Ensures (inlineObject mode name fields) state fun named _ =>
      named.1 = ownName mode.reserved name := by
  cases mode with
  | detached => rfl
  | registering reserved =>
      unfold Ensures
      cases lookup : state.definitions.findByBase? (ownName reserved name) with
      | some found =>
          rw [inlineObject_run_known lookup]
          rfl
      | none =>
          rw [inlineObject_run_new lookup]
          rfl

theorem keepsWords_balanced (words : ∀ word ∈ schema.typeWords, IsBalanced word)
    (plain : IsBalanced name)
    (items : ∀ items, schema.items = some items → ∀ state,
      Ensures (type mode mappings name items) state fun inner _ => IsBalanced inner.type)
    (values : ∀ values, schema.additional = some (.described values) → ∀ state,
      Ensures (type mode mappings name values) state fun inner _ => IsBalanced inner.type) :
    KeepsWords mode mappings name schema fun found _ => ∀ text ∈ found.1, IsBalanced text := by
  have more {texts : List String} {new : String} (known : ∀ text ∈ texts, IsBalanced text)
      (balanced : IsBalanced new) : ∀ text ∈ texts ++ [new], IsBalanced text := by
    intro text member
    cases List.mem_append.mp member with
    | inl old => exact known text old
    | inr last =>
        cases List.mem_singleton.mp last
        exact balanced
  constructor
  · intro word found state member _ known
    exact more known (words word member)
  · intro found state _ _ known
    exact more known fun depth => rfl
  · intro inner found state _ isItems known
    exact (items inner isItems state).mono fun _ _ balanced => more known balanced.array
  · intro found state _ _ known
    refine (inlineObject_name mode name _ state).mono fun named _ same => more known ?_
    rw [same]
    exact isBalanced_ownName plain _
  · intro inner found state _ _ _ isValues known
    exact (values inner isValues state).mono fun _ _ balanced => more known balanced.map

theorem type_balanced (balanced : schema.Balanced mappings) (plain : IsBalanced name) (mode : Mode)
    (state : State) :
    Ensures (type mode mappings name schema) state fun resolved _ => IsBalanced resolved.type := by
  induction balanced generalizing state with
  | combined single _ ih =>
      rw [type_of_sole mode mappings name single]
      exact ih state
  | referring refers reference =>
      rw [type_of_reference mode mappings name refers]
      exact reference
  | listed several inline listed =>
      rw [type_of_enum mode mappings name several inline listed]
      exact plain
  | @worded schema worded words _ _ items values =>
      rw [type_of_words mode mappings name worded.several worded.inline worded.free, ensures_bind]
      have keeps := keepsWords_balanced words plain items values
      refine (words_ensures keeps (by simp)).mono fun found _ members => ?_
      exact isBalanced_intercalate (isBalanced_unionParts members _)

/-! ## Null -/

/-- What is resolved by its words shows that it may be null. -/
theorem type_showsNull (worded : schema.Worded) (nullable : schema.nullable = some true)
    (balanced : schema.Balanced mappings) (plain : IsBalanced name) (mode : Mode) (state : State) :
    Ensures (type mode mappings name schema) state fun resolved _ => resolved.ShowsNull := by
  cases balanced with
  | combined single _ => cases worded.several.symm.trans single
  | referring refers _ => cases worded.inline.symm.trans refers
  | listed _ _ listed => exact absurd worded.free listed
  | worded _ words items values =>
      rw [type_of_words mode mappings name worded.several worded.inline worded.free, ensures_bind,
        decide_eq_true nullable]
      have keeps := keepsWords_balanced words plain
        (fun inner isItems => type_balanced (items inner isItems) plain mode)
        (fun inner isValues => type_balanced (values inner isValues) plain mode)
      refine (words_ensures keeps (by simp)).mono fun found _ members => ?_
      exact .inl (null_mem_unionText members)

/-- What is not resolved by its words has the same type whether it may be null or not. -/
theorem type_of_not_worded (unworded : ¬ schema.Worded) (mode : Mode) (mappings : Entries String)
    (name : String) (nullable : Option Bool) :
    type mode mappings name { schema with nullable := nullable } =
      type mode mappings name schema := by
  cases schema.form with
  | combined sole single =>
      have alike : { schema with nullable := nullable }.soleMember? = some sole := single
      rw [type_of_sole mode mappings name single, type_of_sole mode mappings name alike]
  | referring path refers =>
      have alike : { schema with nullable := nullable }.reference = some path := refers
      rw [type_of_reference mode mappings name refers, type_of_reference mode mappings name alike]
  | listed several inline listed =>
      have alike : { schema with nullable := nullable }.soleMember? = none := several
      rw [type_of_enum mode mappings name several inline listed,
        type_of_enum mode mappings name alike inline listed]
  | worded several inline free => exact absurd ⟨several, inline, free⟩ unworded

/-- A schema that may be null shows it exactly if it is resolved by its words, or if its type would
show null anyway. -/
theorem nullability_kept_iff (nullable : schema.nullable = some true)
    (balanced : schema.Balanced mappings) (plain : IsBalanced name) (mode : Mode) (state : State) :
    Ensures (type mode mappings name schema) state (fun resolved _ => resolved.ShowsNull) ↔
      schema.Worded ∨
        Ensures (type mode mappings name { schema with nullable := none }) state
          fun resolved _ => resolved.ShowsNull := by
  by_cases worded : schema.Worded
  · exact iff_of_true (type_showsNull worded nullable balanced plain mode state) (.inl worded)
  · rw [type_of_not_worded worded mode mappings name none]
    exact (or_iff_right worded).symm

/-- A list of names, which may be null like each of the names. -/
def petNames : Schema where
  types := some (.one "array")
  items := some { types := some (.one "string"), nullable := some true }
  nullable := some true

theorem nullability_kept_petNames :
    petNames.nullable = some true ∧ petNames.Balanced [] ∧ IsBalanced "OwnerPets" ∧
      (Ensures (type .detached [] "OwnerPets" petNames) {} (fun resolved _ => resolved.ShowsNull) ↔
        petNames.Worded ∨
          Ensures (type .detached [] "OwnerPets" { petNames with nullable := none }) {}
            fun resolved _ => resolved.ShowsNull) ∧
      (detached (type .detached [] "OwnerPets" petNames)).type = "Array<string | null> | null" := by
  have item : Schema.Balanced [] { types := some (.one "string"), nullable := some true } := by
    refine .worded ⟨rfl, rfl, rfl⟩ ?_ (fun _ none => by cases none) (fun _ none => by cases none)
    intro word member
    cases List.mem_singleton.mp member
    exact isBalanced_of_unmarked (Text.forall_of_all (by decide))
  have balanced : petNames.Balanced [] := by
    refine .worded ⟨rfl, rfl, rfl⟩ ?_ ?_ (fun _ none => by cases none)
    · intro word member
      cases List.mem_singleton.mp member
      exact isBalanced_of_unmarked (Text.forall_of_all (by decide))
    · intro items isItems
      cases isItems
      exact item
  have plain : IsBalanced "OwnerPets" := isBalanced_of_unmarked (Text.forall_of_all (by decide))
  exact ⟨rfl, balanced, plain, nullability_kept_iff rfl balanced plain .detached {}, by decide⟩

def nullableUser : Schema := { reference := some "#/definitions/User", nullable := some true }

def nullableSoleUser : Schema :=
  { allOf := [{ reference := some "#/definitions/User" }], nullable := some true }

def nullableState : Schema :=
  { types := some (.one "string"), enumValues := [.str "new", .str "sold"], nullable := some true }

/-- Whether a schema may be null and its type does not show it. -/
def LosesNull (name : String) (schema : Schema) : Prop :=
  schema.nullable = some true ∧ ¬ (detached (type .detached [] name schema)).ShowsNull

/-- A reference, a combination with a sole member and an enumeration lose that they may be null. -/
theorem nullability_lost : LosesNull "PetOwner" nullableUser ∧
    LosesNull "PetOwner" nullableSoleUser ∧ LosesNull "PetState" nullableState := by
  have choices : .null ∉ nullableState.enumValues := by simp [nullableState]
  have unshown {resolved : ResolvedType} (text : "null" ∉ unionMembers resolved.type)
      (choices : Json.null ∉ resolved.enumOption) : ¬ resolved.ShowsNull :=
    fun shown => shown.elim text choices
  constructor
  · exact ⟨rfl, unshown (by decide) List.not_mem_nil⟩
  · constructor
    · exact ⟨rfl, unshown (by decide) List.not_mem_nil⟩
    · exact ⟨rfl, unshown (by decide) choices⟩

end Resolve

end ClientGen
