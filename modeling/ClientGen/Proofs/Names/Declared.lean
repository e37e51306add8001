import ClientGen.DeclaredName
import ClientGen.Proofs.NamedType.Placeholders
import ClientGen.Proofs.NamedType.Reading
import ClientGen.Proofs.Names.Unbracketed

/-!
Declared names of keys. The base of a key is read from it by the parser, and the base of the name
that it is declared under by cutting at the first bracket. Both are the same unless a bracket is left
in the former, and none is left when the parser accepts the key. The name of a key with arguments
holds a placeholder for each of them.
-/

set_option autoImplicit false

namespace ClientGen.DeclaredName

open Names (Unbracketed)

theorem base_eq (key : String) : (declaration key).base = (NamedType.parse key).name := by
  unfold declaration
  simp only
  split <;> rfl

theorem unbracketed_base {key : String} (wellFormed : (NamedType.parse? key).isSome) :
    Unbracketed (declaration key).base := by
  obtain ⟨type, read⟩ := Option.isSome_iff_exists.mp wellFormed
  have isName := NamedType.name_of_parse? read type.name_mem_names
  rw [base_eq, NamedType.parse_of_parse? read]
  intro char member
  exact Names.not_opening_of_unmarked (isName.unmarked char member)

theorem declaration_of_generic {key base : String} {first : NamedType} {rest : List NamedType}
    (read : NamedType.parse? key = some ⟨base, first :: rest⟩) :
    declaration key =
      ⟨base ++ "<" ++ String.intercalate ", " (placeholders 0 (first :: rest)).keys ++ ">", base,
        placeholders 0 (first :: rest)⟩ := by
  rw [declaration, NamedType.parse_of_parse? read]
  rfl

theorem base_name {key : String} (plain : Unbracketed (declaration key).base) :
    Names.base (declaration key).name = (declaration key).base := by
  cases read : NamedType.parse? key with
  | none =>
      rw [base_eq] at plain ⊢
      unfold declaration
      rw [NamedType.parse_of_malformed read] at plain ⊢
      exact Names.base_of_unbracketed plain
  | some type =>
      have isName := NamedType.name_of_parse? read type.name_mem_names
      obtain ⟨name, arguments⟩ := type
      cases arguments with
      | nil =>
          rw [base_eq] at plain ⊢
          unfold declaration
          rw [NamedType.parse_of_parse? read] at plain ⊢
          exact Names.base_of_unbracketed plain
      | cons first rest =>
          rw [declaration_of_generic read] at plain ⊢
          have trimmed := Text.trimEnd_of_trimChars isName.trimmed
          have cut := Names.base_of_bracketed plain trimmed
            (String.intercalate ", " (placeholders 0 (first :: rest)).keys ++ ">")
          rw [← String.append_assoc] at cut
          exact cut

theorem exists_of_mem_placeholders {index : Nat} {arguments : List NamedType} {name : String}
    (member : name ∈ (placeholders index arguments).keys) :
    ∃ position, name = Names.placeholder position := by
  induction arguments generalizing index with
  | nil => cases member
  | cons first rest ih =>
      rcases List.mem_cons.mp member with rfl | later
      · exact ⟨index, rfl⟩
      · exact ih later

theorem readable_of_mem_placeholders {index : Nat} {arguments : List NamedType} {name : String}
    (member : name ∈ (placeholders index arguments).keys) : NamedType.Readable name := by
  obtain ⟨position, rfl⟩ := exists_of_mem_placeholders member
  exact Names.placeholder_readable position

/-- No key but those with its base is declared under the name of a generic key: a text like that
name is never malformed. -/
theorem base_eq_of_name_eq {key other base : String} {first : NamedType} {rest : List NamedType}
    (read : NamedType.parse? key = some ⟨base, first :: rest⟩)
    (same : (declaration other).name = (declaration key).name) :
    (declaration other).base = (declaration key).base := by
  have keyFormed : (NamedType.parse? key).isSome := by simp [read]
  cases readOther : NamedType.parse? other with
  | some type =>
      have otherFormed : (NamedType.parse? other).isSome := by simp [readOther]
      rw [← base_name (unbracketed_base otherFormed), same, base_name (unbracketed_base keyFormed)]
  | none =>
      -- A malformed key is declared under its own text, which would then be well-formed.
      have isName : NamedType.IsName key base :=
        NamedType.name_of_parse? read (NamedType.name_mem_names _)
      have trimmed : Text.trimChars other.toList = base.toList ++ '<' ::
          ((String.intercalate ", " (Names.placeholder 0 :: (placeholders 1 rest).keys)).toList ++
            ['>']) := by
        have name : (declaration other).name = Text.trim other := by
          rw [declaration, NamedType.parse_of_malformed readOther]
          rfl
        rw [name, declaration_of_generic read] at same
        have chars := congrArg String.toList same
        rw [Text.toList_trim] at chars
        rw [chars]
        simp [placeholders, Entries.keys]
      have accepted := NamedType.parse?_of_trimChars isName.toReadable
        (Names.placeholder_readable 0) (fun _ member => readable_of_mem_placeholders member) trimmed
      rw [readOther] at accepted
      cases accepted

/-! ## Generic keys -/

theorem placeholders_eq_mapIdx (index : Nat) (arguments : List NamedType) :
    placeholders index arguments = arguments.mapIdx fun position argument =>
      (Names.placeholder (index + position), argument.innermost) := by
  induction arguments generalizing index with
  | nil => rfl
  | cons first rest ih =>
      rw [placeholders, ih, List.mapIdx_cons]
      simp only [Nat.add_zero, Nat.add_assoc, Nat.add_comm 1]

/-- The plain name that a type ends in: with arguments, the one that its last argument ends in. -/
inductive EndsIn : NamedType → String → Prop where
  | plain (name : String) : EndsIn ⟨name, []⟩ name
  | applied {base name : String} {arguments : List NamedType} {last : NamedType} :
      arguments.getLast? = some last → EndsIn last name → EndsIn ⟨base, arguments⟩ name

mutual

theorem endsIn_innermost : ∀ type : NamedType, EndsIn type type.innermost
  | ⟨name, []⟩ => .plain name
  | ⟨name, first :: rest⟩ => endsIn_innermostOf name (first :: rest) (List.cons_ne_nil _ _)

theorem endsIn_innermostOf (base : String) : ∀ arguments : List NamedType, arguments ≠ [] →
    EndsIn ⟨base, arguments⟩ (NamedType.innermostOf base arguments)
  | [], nonempty => absurd rfl nonempty
  | [argument], _ => by
      rw [NamedType.innermostOf]
      exact .applied rfl (endsIn_innermost argument)
  | _ :: next :: rest, _ => by
      rw [NamedType.innermostOf]
      cases endsIn_innermostOf base (next :: rest) (List.cons_ne_nil _ _) with
      | applied isLast ends => exact .applied (by simpa using isLast) ends

end

theorem keys_placeholders (index : Nat) (arguments : List NamedType) :
    (placeholders index arguments).keys = (NamedType.bindings index arguments).keys := by
  induction arguments generalizing index with
  | nil => rfl
  | cons first rest ih => exact congrArg (Names.placeholder index :: ·) (ih (index + 1))

theorem placeholders_distinct (index : Nat) (arguments : List NamedType) :
    (placeholders index arguments).keys.Nodup := by
  rw [keys_placeholders]
  exact NamedType.bindings_distinct index arguments

/-- No placeholder is put in the place of another. -/
theorem ofList_placeholders (index : Nat) (arguments : List NamedType) :
    Entries.ofList (placeholders index arguments) = placeholders index arguments := by
  apply Entries.foldl_insert
  exact placeholders_distinct index arguments

/-- A name with arguments is read from its own text. -/
theorem parse?_arguments {base name : String} {names : List String}
    (readable : NamedType.Readable base) (first : NamedType.Readable name)
    (rest : ∀ other ∈ names, NamedType.Readable other) :
    NamedType.parse? (base ++ "<" ++ String.intercalate ", " (name :: names) ++ ">") =
      some ⟨base, (name :: names).map NamedType.plain⟩ := by
  apply NamedType.parse?_of_trimChars readable first rest
  have chars : (base ++ "<" ++ String.intercalate ", " (name :: names) ++ ">").toList =
      base.toList ++ ('<' :: (String.intercalate ", " (name :: names)).toList) ++ ['>'] := by simp
  have solid : base.toList ≠ [] := by simpa using readable.nonempty
  rw [chars, Text.trimChars_between readable.trimmed (by decide) solid (by decide)]
  simp

/-- What the declaration of a type with arguments tells of it. Each argument has a placeholder of
its own, for the plain name that the argument ends in: none is lost when they are put into the
mappings one after the other. The declared name is read as the type with the placeholders for arguments,
and cut at its bracket to the same base. -/
structure Declares (declared : DeclaredName) (type : NamedType) : Prop where
  inserted : declared.mappings = Entries.ofList (type.arguments.mapIdx fun position argument =>
    (Names.placeholder position, argument.innermost))
  count : declared.mappings.length = type.arguments.length
  distinct : declared.mappings.keys.Nodup
  standsFor : ∀ position argument, type.arguments[position]? = some argument →
    declared.mappings[position]? = some (Names.placeholder position, argument.innermost) ∧
      EndsIn argument argument.innermost
  name : NamedType.parse declared.name =
    ⟨type.name, declared.mappings.keys.map NamedType.plain⟩
  base : declared.base = type.name
  cut : Names.base declared.name = declared.base

/-- Every key that is read as a type with arguments is declared faithfully. -/
theorem generic_key_declared (key : String) (generic : (NamedType.parse key).isGeneric = true) :
    (declaration key).Declares (NamedType.parse key) := by
  cases read : NamedType.parse? key with
  | none =>
      rw [NamedType.parse_of_malformed read] at generic
      cases generic
  | some type =>
      obtain ⟨base, arguments⟩ := type
      rw [NamedType.parse_of_parse? read] at generic ⊢
      cases arguments with
      | nil => cases generic
      | cons first rest =>
          have isName : NamedType.IsName key base :=
            NamedType.name_of_parse? read (NamedType.name_mem_names _)
          have wellFormed : (NamedType.parse? key).isSome := by simp [read]
          have cut := base_name (unbracketed_base wellFormed)
          have indexed := placeholders_eq_mapIdx 0 (first :: rest)
          simp only [Nat.zero_add] at indexed
          rw [declaration_of_generic read] at cut ⊢
          constructor
          case inserted => rw [← indexed, ofList_placeholders]
          case count => rw [indexed, List.length_mapIdx]
          case distinct => exact placeholders_distinct 0 (first :: rest)
          case standsFor =>
            intro position argument isArgument
            rw [indexed, List.getElem?_mapIdx, isArgument]
            exact ⟨rfl, endsIn_innermost argument⟩
          case name =>
            apply NamedType.parse_of_parse?
            apply parse?_arguments isName.toReadable (Names.placeholder_readable 0)
            intro other member
            exact readable_of_mem_placeholders member
          case base => rfl
          case cut => exact cut

/-- A key with brackets of both kinds, nested arguments and a second round of placeholders. -/
theorem generic_key_declared_tuple :
    (NamedType.parse "Tuple«Pet, Page«List<User>», Map<string, Pet>, Order»").isGeneric = true ∧
    (declaration "Tuple«Pet, Page«List<User>», Map<string, Pet>, Order»").Declares
      (NamedType.parse "Tuple«Pet, Page«List<User>», Map<string, Pet>, Order»") ∧
    declaration "Tuple«Pet, Page«List<User>», Map<string, Pet>, Order»" =
      ⟨"Tuple<T, K, U, T1>", "Tuple",
        [("T", "Pet"), ("K", "User"), ("U", "Pet"), ("T1", "Order")]⟩ :=
  ⟨by decide +kernel, generic_key_declared _ (by decide +kernel), by decide +kernel⟩

/-! ## Keys with brackets that are not well-formed -/

/-- A key that has an opening bracket and is not well-formed. -/
def Torn (key : String) : Prop := NamedType.parse? key = none ∧ ¬ Unbracketed key

instance (key : String) : Decidable (Torn key) :=
  inferInstanceAs (Decidable (NamedType.parse? key = none ∧ ¬ Unbracketed key))

private theorem unbracketed_trim_iff (text : String) :
    Unbracketed (Text.trim text) ↔ Unbracketed text := by
  constructor
  · intro plain char member
    obtain ⟨before, after, around, blankBefore, blankAfter⟩ := Text.exists_blank_around text.toList
    rw [around, List.mem_append, List.mem_append] at member
    have blank (isBlank : Text.isBlank char = true) : char ∉ ['<', '«'] :=
      Names.not_opening_of_unmarked (NamedType.isMark_of_isBlank isBlank)
    rcases member with (inBefore | inside) | inAfter
    · exact blank (blankBefore char inBefore)
    · exact plain char (by rwa [Text.toList_trim])
    · exact blank (blankAfter char inAfter)
  · intro plain char member
    rw [Text.toList_trim] at member
    exact plain char ((Text.trimChars_infix text.toList).subset member)

theorem declaration_of_malformed {key : String} (malformed : NamedType.parse? key = none) :
    declaration key = ⟨Text.trim key, Text.trim key, []⟩ := by
  rw [declaration, NamedType.parse_of_malformed malformed]
  rfl

/-- A torn key is declared under its own text, which holds a bracket. -/
theorem Torn.bracketed {key : String} (torn : Torn key) :
    (declaration key).base = (declaration key).name ∧ ¬ Unbracketed (declaration key).name := by
  rw [declaration_of_malformed torn.1]
  exact ⟨rfl, fun plain => torn.2 ((unbracketed_trim_iff key).mp plain)⟩

/-- Only the base of a torn key holds a bracket. -/
theorem unbracketed_base_of_not_torn {key : String} (whole : ¬ Torn key) :
    Unbracketed (declaration key).base := by
  cases read : NamedType.parse? key with
  | some type => exact unbracketed_base (by simp [read])
  | none =>
      rw [declaration_of_malformed read]
      have plain : Unbracketed key := by
        by_contra bracketed
        exact whole ⟨read, bracketed⟩
      exact (unbracketed_trim_iff key).mpr plain

end ClientGen.DeclaredName
