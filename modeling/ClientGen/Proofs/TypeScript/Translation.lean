import ClientGen.Proofs.NamedType.Leaves
import ClientGen.Proofs.TypeScript.UnionMembers
import ClientGen.Resolve
import Mathlib.Logic.Relation

/-!
When the translation of a type ends. A name with a bar is translated like a type of its own. In a
well-formed member it lies between brackets, so it is shorter than the type and holds no brackets
itself. A malformed member is a name as a whole, and when it holds a bar its translation asks for
itself: arrays of arrays that may be null are such members.
-/

set_option autoImplicit false

namespace ClientGen.TypeScript

/-- The names inside of a type that are translated like types of their own. -/
def innerUnions (type : String) : List String :=
  ((unionMembers (Text.trim type)).flatMap fun member => (NamedType.parse member).leaves).filter
    fun name => Text.contains name "|"

/-- The types that the translation of a type enters, the type itself among them. -/
def Enters : String → String → Prop :=
  Relation.ReflTransGen fun outer inner => inner ∈ innerUnions outer

/-- Every member of a union that holds a bar is a well-formed name with arguments. -/
def MembersWellFormed (type : String) : Prop :=
  ∀ member ∈ unionMembers (Text.trim type),
    Text.contains member "|" = true → (NamedType.parse? member).isSome

/-! ## One step of the translation -/

theorem contains_bar_iff (text : String) : Text.contains text "|" = true ↔ '|' ∈ text.toList := by
  have part (chars : List Char) : Text.hasPart ['|'] chars = true ↔ '|' ∈ chars := by
    induction chars with
    | nil => simp [Text.hasPart, Text.afterStart?]
    | cons char rest ih =>
        by_cases same : '|' = char <;> simp [Text.hasPart, Text.afterStart?, same, ih]
  simpa [Text.contains] using part text.toList

theorem mem_innerUnions {type name : String} :
    name ∈ innerUnions type ↔
      (∃ member ∈ unionMembers (Text.trim type), name ∈ (NamedType.parse member).leaves) ∧
        '|' ∈ name.toList := by
  simp [innerUnions, contains_bar_iff]

private theorem isSome_both {First Second Result : Type} (first : Option First)
    (second : Option Second) (combine : First → Second → Result) :
    (do let left ← first; let right ← second; return combine left right : Option Result).isSome ↔
      first.isSome ∧ second.isSome := by
  cases first <;> cases second <;> simp

mutual

/-- A type can be written exactly if all plain names in it can. -/
theorem ofNamed_isSome_iff (plain : String → Option String) (type : NamedType) :
    (ofNamed plain type).isSome ↔ ∀ leaf ∈ type.leaves, (plain leaf).isSome := by
  obtain ⟨name, arguments⟩ := type
  cases arguments with
  | nil => simp [ofNamed, NamedType.leaves]
  | cons first rest =>
      rw [ofNamed, isSome_both, ofNamed_isSome_iff plain first, ofNamedList_isSome_iff plain rest]
      simp [NamedType.leaves, or_imp, forall_and]

theorem ofNamedList_isSome_iff (plain : String → Option String) (types : List NamedType) :
    (ofNamedList plain types).isSome ↔
      ∀ leaf ∈ NamedType.leavesOfAll types, (plain leaf).isSome := by
  cases types with
  | nil => simp [ofNamedList, NamedType.leavesOfAll]
  | cons type rest =>
      rw [ofNamedList, isSome_both, ofNamed_isSome_iff plain type, ofNamedList_isSome_iff plain rest]
      simp [NamedType.leavesOfAll, or_imp, forall_and]

end

theorem plainName_isSome_iff (union : String → Option String) (name : String) :
    (plainName union name).isSome ↔ ('|' ∈ name.toList → (union name).isSome) := by
  unfold plainName
  split
  case h_11 =>
    rw [← contains_bar_iff]
    split
    · next bar => simp [bar]
    · next noBar => simp [noBar]
  all_goals simp

theorem written_succ_isSome_iff (fuel : Nat) (type : String) :
    (written (fuel + 1) type).isSome ↔ ∀ inner ∈ innerUnions type, (written fuel inner).isSome := by
  have members : (written (fuel + 1) type).isSome ↔
      (ofNamedList (plainName (written fuel))
        ((unionMembers (Text.trim type)).map NamedType.parse)).isSome := by
    simp only [written]
    split
    · next blank =>
        have empty : Text.trim type = "" := by simpa using blank
        simp [empty, unionMembers, cutUnion, Text.trimChars, Text.trimStart, Text.trimEnd,
          ofNamedList]
    · cases ofNamedList (plainName (written fuel))
        ((unionMembers (Text.trim type)).map NamedType.parse) <;> simp
  rw [members, ofNamedList_isSome_iff]
  simp only [NamedType.mem_leavesOfAll, plainName_isSome_iff, mem_innerUnions, List.mem_map]
  constructor
  · rintro all inner ⟨⟨member, listed, leaf⟩, bar⟩
    exact all inner ⟨_, ⟨member, listed, rfl⟩, leaf⟩ bar
  · rintro all leaf ⟨_, ⟨member, listed, rfl⟩, inLeaves⟩ bar
    exact all leaf ⟨⟨member, listed, inLeaves⟩, bar⟩

/-! ## Well-formed members -/

/-- A name with a bar in a well-formed member lies between brackets. -/
theorem innerUnion_of_wellFormed {type inner : String} (wellFormed : MembersWellFormed type)
    (entered : inner ∈ innerUnions type) :
    inner.length < (Text.trim type).length ∧
      ∀ char ∈ inner.toList, NamedType.isMark char = false := by
  obtain ⟨⟨member, listed, leaf⟩, bar⟩ := mem_innerUnions.mp entered
  have known := isMember_of_mem listed
  have inMember := NamedType.leaf_infix leaf
  have memberBar : '|' ∈ member.toList := inMember.subset bar
  obtain ⟨read, parsed⟩ :=
    Option.isSome_iff_exists.mp (wellFormed member listed ((contains_bar_iff member).mpr memberBar))
  have unmarked := (NamedType.leaf_of_parse? parsed (NamedType.parse_of_parse? parsed ▸ leaf)).2
  refine ⟨?_, unmarked⟩
  by_contra long
  -- As long as the whole, the name is the whole member and its bar stands outside of brackets.
  have memberLength := known.inside.length_le
  have innerLength := inMember.length_le
  have same : inner.toList = member.toList := by
    refine inMember.eq_of_length ?_
    simp only [String.length_toList] at memberLength innerLength ⊢
    omega
  refine bar_not_mem_of_depthAfter known.closed (fun char inside => ?_) memberBar
  have plain := unmarked char (same ▸ inside)
  simp only [NamedType.isMark_eq, Bool.or_eq_false_iff] at plain
  exact plain.1

/-- Outside of brackets every bar separates members, so a text without brackets has no inner
unions. -/
theorem innerUnions_of_unmarked {type : String}
    (unmarked : ∀ char ∈ type.toList, NamedType.isMark char = false) : innerUnions type = [] := by
  refine List.eq_nil_iff_forall_not_mem.mpr fun inner entered => ?_
  obtain ⟨⟨member, listed, leaf⟩, bar⟩ := mem_innerUnions.mp entered
  have known := isMember_of_mem listed
  have inType : ∀ char ∈ member.toList, char ∈ type.toList := fun char inside =>
    (Text.trimChars_infix type.toList).subset (by simpa using known.inside.subset inside)
  refine bar_not_mem_of_depthAfter known.closed (fun char inside => ?_)
    ((NamedType.leaf_infix leaf).subset bar)
  have plain := unmarked char (inType char inside)
  simp only [NamedType.isMark_eq, Bool.or_eq_false_iff] at plain
  exact plain.1

theorem written_of_unmarked {type : String}
    (unmarked : ∀ char ∈ type.toList, NamedType.isMark char = false) (fuel : Nat) :
    (written (fuel + 1) type).isSome := by
  rw [written_succ_isSome_iff, innerUnions_of_unmarked unmarked]
  simp

theorem written_of_wellFormed {type : String} (wellFormed : MembersWellFormed type) (fuel : Nat) :
    (written (fuel + 2) type).isSome :=
  (written_succ_isSome_iff (fuel + 1) type).mpr fun _ entered =>
    written_of_unmarked (innerUnion_of_wellFormed wellFormed entered).2 fuel

theorem entered_shorter_of_wellFormed {type outer inner : String}
    (wellFormed : MembersWellFormed type) (reached : Enters type outer)
    (entered : inner ∈ innerUnions outer) : inner.length < (Text.trim outer).length := by
  rcases Relation.ReflTransGen.cases_head reached with same | ⟨first, enteredFirst, further⟩
  · subst same
    exact (innerUnion_of_wellFormed wellFormed entered).1
  · -- An inner union has none itself, so nothing is entered from there.
    have none := innerUnions_of_unmarked (innerUnion_of_wellFormed wellFormed enteredFirst).2
    rcases Relation.ReflTransGen.cases_head further with same | ⟨second, enteredSecond, _⟩
    · rw [← same, none] at entered
      simp at entered
    · rw [none] at enteredSecond
      simp at enteredSecond

/-! ## Malformed members -/

/-- A malformed member with a bar enters itself. -/
theorem exists_self_entered_of_malformed {type : String} (malformed : ¬ MembersWellFormed type) :
    ∃ member ∈ innerUnions type, member ∈ innerUnions member ∧ Text.trim member = member := by
  simp only [MembersWellFormed, not_forall] at malformed
  obtain ⟨member, listed, bar, unread⟩ := malformed
  have known := isMember_of_mem listed
  have leaf : member ∈ (NamedType.parse member).leaves := by
    rw [NamedType.parse_of_malformed (by simpa using unread), known.trim_self]
    simp
  have barred := (contains_bar_iff member).mp bar
  refine ⟨member, mem_innerUnions.mpr ⟨⟨member, listed, leaf⟩, barred⟩,
    mem_innerUnions.mpr ⟨⟨member, ?_, leaf⟩, barred⟩, known.trim_self⟩
  simp [known.trim_self, known.unionMembers_self]

theorem written_of_self_entered {type : String} (entered : type ∈ innerUnions type) (fuel : Nat) :
    written fuel type = none := by
  induction fuel with
  | zero => rfl
  | succ fuel ih =>
      by_contra some
      have all := (written_succ_isSome_iff fuel type).mp (Option.isSome_iff_ne_none.mpr some)
      simpa [ih] using all type entered

theorem written_of_malformed {type : String} (malformed : ¬ MembersWellFormed type) (fuel : Nat) :
    written fuel type = none := by
  obtain ⟨member, entered, selfEntered, -⟩ := exists_self_entered_of_malformed malformed
  cases fuel with
  | zero => rfl
  | succ fuel =>
      by_contra some
      have all := (written_succ_isSome_iff fuel type).mp (Option.isSome_iff_ne_none.mpr some)
      simpa [written_of_self_entered selfEntered fuel] using all member entered

/-! ## All types -/

theorem exists_written_iff (type : String) :
    (∃ fuel, (written fuel type).isSome) ↔ MembersWellFormed type := by
  constructor
  · rintro ⟨fuel, some⟩
    by_contra malformed
    simp [written_of_malformed malformed fuel] at some
  · intro wellFormed
    exact ⟨2, written_of_wellFormed wellFormed 0⟩

theorem entered_shorter_iff (type : String) :
    (∀ outer, Enters type outer → ∀ inner ∈ innerUnions outer,
      inner.length < (Text.trim outer).length) ↔ MembersWellFormed type := by
  constructor
  · intro shorter
    by_contra malformed
    obtain ⟨member, entered, selfEntered, trimmed⟩ := exists_self_entered_of_malformed malformed
    have less := shorter member (Relation.ReflTransGen.single entered) member selfEntered
    simp [trimmed] at less
  · intro wellFormed outer reached inner entered
    exact entered_shorter_of_wellFormed wellFormed reached entered

/-- One more re-entry than the type has characters is fuel enough. -/
theorem ofType?_isSome_iff (type : String) : (ofType? type).isSome ↔ MembersWellFormed type := by
  constructor
  · intro some
    exact (exists_written_iff type).mp ⟨_, some⟩
  · intro wellFormed
    unfold ofType?
    cases size : type.length with
    | zero =>
        have empty : type = "" := by simpa using size
        subst empty
        exact written_of_unmarked (by simp) 0
    | succ less => exact written_of_wellFormed wellFormed less

/-- The translation of the type of a schema ends exactly if every member of it that holds a bar is
well-formed, and only then is every type that it enters shorter than the one from which it is
entered. -/
theorem schema_translation_ends_iff (mode : Resolve.Mode) (mappings : Entries String)
    (name : String) (schema : Schema) (state : Resolve.State) :
    let type := ((Resolve.type mode mappings name schema).run state).1.type
    ((∃ fuel, (written fuel type).isSome) ↔ MembersWellFormed type) ∧
      ((ofType? type).isSome ↔ MembersWellFormed type) ∧
      ((∀ outer, Enters type outer → ∀ inner ∈ innerUnions outer,
        inner.length < (Text.trim outer).length) ↔ MembersWellFormed type) :=
  ⟨exists_written_iff _, ofType?_isSome_iff _, entered_shorter_iff _⟩

/-- The translation of an array of arrays of texts, the inner ones possibly null, asks for itself. -/
theorem nested_nullable_array_never_ends :
    let texts : Schema := { types := some (.one "string") }
    let inner : Schema := { types := some (.one "array"), items := some texts, nullable := some true }
    let outer : Schema := { types := some (.one "array"), items := some inner }
    let type := (Resolve.detached (Resolve.type .detached [] "GridRows" outer)).type
    type = "Array<Array<string> | null>" ∧ (¬ ∃ fuel, (written fuel type).isSome) ∧
      ¬ ∀ outer, Enters type outer → ∀ inner ∈ innerUnions outer,
        inner.length < (Text.trim outer).length := by
  have resolved : (Resolve.detached (Resolve.type .detached [] "GridRows"
      { types := some (.one "array")
        items := some {
          types := some (.one "array")
          items := some { types := some (.one "string") }
          nullable := some true } })).type = "Array<Array<string> | null>" := by
    decide +kernel
  have malformed : ¬ MembersWellFormed "Array<Array<string> | null>" := by
    unfold MembersWellFormed
    decide +kernel
  simp only [resolved]
  exact ⟨trivial, fun ends => malformed ((exists_written_iff _).mp ends),
    fun shorter => malformed ((entered_shorter_iff _).mp shorter)⟩

end ClientGen.TypeScript
