import ClientGen.Proofs.NamedType.RoundTrip
import ClientGen.Proofs.TypeScript.Spelling

/-!
Types as trees, and their translation by recursion on the tree. Cutting the text of a type at its bars,
reading the members and translating names that are unions once more comes to the same.
-/

set_option autoImplicit false

namespace ClientGen.TypeScript

open NamedType (Derives DerivesList Readable plain)

/-! ## Trees -/

/-- A name as it stands in a type: not blank, without white space at its ends, brackets, commas and
bars. -/
structure BareName where
  text : String
  readable : Readable text
  barless : '|' ∉ text.toList

/-- An argument: a name with arguments of its own, or a union of names. -/
inductive TypeArgument where
  | applied (name : BareName) (first : TypeArgument) (rest : List TypeArgument)
  | names (first : BareName) (rest : List BareName)

/-- A member of a union: a name, or a name with arguments. -/
inductive TypeMember where
  | bare (name : BareName)
  | applied (name : BareName) (first : TypeArgument) (rest : List TypeArgument)

structure TypeUnion where
  first : TypeMember
  rest : List TypeMember

/-! ## Texts -/

mutual

def TypeArgument.text : TypeArgument → String
  | .applied name first rest =>
      name.text ++ "<" ++ String.intercalate ", " (first.text :: textsOf rest) ++ ">"
  | .names first rest => String.intercalate " | " ((first :: rest).map BareName.text)

def textsOf : List TypeArgument → List String
  | [] => []
  | argument :: rest => argument.text :: textsOf rest

end

def TypeMember.text : TypeMember → String
  | .bare name => name.text
  | .applied name first rest => (TypeArgument.applied name first rest).text

def TypeUnion.text (type : TypeUnion) : String :=
  String.intercalate " | " ((type.first :: type.rest).map TypeMember.text)

/-! ## Translations -/

/-- The names that have another name in the target language. -/
def primitiveNames : Entries String :=
  [("integer", "number"), ("number", "number"), ("string", "string"), ("date", "string"),
    ("date-time", "string"), ("boolean", "boolean"), ("file", "Blob"), ("any", "unknown"),
    ("object", "Record<string, unknown>"), ("null", "null")]

def BareName.translation (name : BareName) : String :=
  (primitiveNames.get? name.text).getD name.text

/-- An array of items: the item with brackets behind it, in parentheses if it holds a bar. -/
def arrayOf (item : String) : String :=
  if '|' ∈ item.toList then "(" ++ item ++ ")[]" else item ++ "[]"

/-- A name with arguments. Arrays of one item and maps of keys to values have a notation of their own. -/
def application (name : String) (arguments : List String) : String :=
  match name, arguments with
  | "Array", [item] => arrayOf item
  | "Map", [key, value] => "Record<" ++ key ++ ", " ++ value ++ ">"
  | _, _ => name ++ "<" ++ String.intercalate ", " arguments ++ ">"

mutual

def TypeArgument.translation : TypeArgument → String
  | .applied name first rest => application name.text (first.translation :: translationsOf rest)
  | .names first rest => String.intercalate " | " ((first :: rest).map BareName.translation)

def translationsOf : List TypeArgument → List String
  | [] => []
  | argument :: rest => argument.translation :: translationsOf rest

end

def TypeMember.translation : TypeMember → String
  | .bare name => name.translation
  | .applied name first rest => (TypeArgument.applied name first rest).translation

def TypeUnion.translation (type : TypeUnion) : String :=
  String.intercalate " | " ((type.first :: type.rest).map TypeMember.translation)

/-! ## Reading the texts -/

mutual

/-- What the text of an argument is read as: a union of names is one name as a whole. -/
def TypeArgument.read : TypeArgument → NamedType
  | .applied name first rest => ⟨name.text, first.read :: readAll rest⟩
  | .names first rest => plain (String.intercalate " | " ((first :: rest).map BareName.text))

def readAll : List TypeArgument → List NamedType
  | [] => []
  | argument :: rest => argument.read :: readAll rest

end

def TypeMember.read : TypeMember → NamedType
  | .bare name => plain name.text
  | .applied name first rest => (TypeArgument.applied name first rest).read

/-- The texts of names make one name, in which the names are the members of a union. -/
theorem readable_names (first : BareName) (rest : List BareName) :
    Readable (String.intercalate " | " ((first :: rest).map BareName.text)) := by
  apply readable_union (by simp)
  intro word member
  obtain ⟨name, -, rfl⟩ := List.mem_map.mp member
  exact name.readable

mutual

theorem derives_argument : ∀ argument : TypeArgument,
    Derives false argument.text.toList argument.read
  | .applied name first rest => by
      rw [TypeArgument.text, TypeArgument.read]
      exact name.readable.derives_applied (derives_arguments rest (derives_argument first))
  | .names first rest => by
      rw [TypeArgument.text, TypeArgument.read]
      exact (readable_names first rest).derives

theorem derives_arguments : ∀ (rest : List TypeArgument) {text : String} {type : NamedType},
    Derives false text.toList type →
    DerivesList false (String.intercalate ", " (text :: textsOf rest)).toList
      (type :: readAll rest)
  | [], text, type, derived => by
      rw [textsOf, String.intercalate_singleton]
      exact .single derived
  | next :: rest, text, type, derived => by
      have blank : ∀ char ∈ [' '], Text.isBlank char = true := Text.forall_of_all (by decide)
      have later := (derives_arguments rest (derives_argument next)).after_blank blank
      have list := DerivesList.more derived later
      rw [textsOf, readAll, String.intercalate_cons_cons]
      simpa using list

end

theorem TypeMember.derives : ∀ member : TypeMember, Derives false member.text.toList member.read
  | .bare name => name.readable.derives
  | .applied name first rest => derives_argument (.applied name first rest)

theorem TypeMember.isWhole (member : TypeMember) : IsWhole member.text := by
  cases member with
  | bare name =>
      have solid : name.text.toList ≠ [] := by simpa using name.readable.nonempty
      exact isWhole_of_derives (TypeMember.bare name).derives name.barless name.readable.trimmed solid
  | applied name first rest =>
      have solid : name.text.toList ≠ [] := by simpa using name.readable.nonempty
      have chars : (TypeMember.applied name first rest).text.toList = name.text.toList ++
          ('<' :: (String.intercalate ", " (first.text :: textsOf rest)).toList) ++ ['>'] := by
        simp [TypeMember.text, TypeArgument.text]
      apply isWhole_of_derives (TypeMember.applied name first rest).derives
      · rw [TypeMember.read, TypeArgument.read]
        exact name.barless
      · rw [chars]
        exact Text.trimChars_between name.readable.trimmed (by decide) solid (by simp) _
      · simp [chars]

/-! ## Translating the texts -/

theorem plainName_bare (union : String → Option String) (name : BareName) :
    plainName union name.text = some name.translation := by
  by_cases primitive : name.text ∈ primitiveWords
  · have table : ∀ word ∈ primitiveWords,
        plainName union word = some ((primitiveNames.get? word).getD word) := by
      intro word member
      simp only [primitiveWords, List.mem_cons, List.not_mem_nil, or_false] at member
      rcases member with rfl | rfl | rfl | rfl | rfl | rfl | rfl | rfl | rfl | rfl <;> rfl
    exact table _ primitive
  · have noBar : Text.contains name.text "|" = false := by
      rw [← Bool.not_eq_true, contains_bar_iff]
      exact name.barless
    have other : primitiveNames.get? name.text = none :=
      (Entries.get?_eq_none_iff _ _).mpr primitive
    rw [plainName_of_other union primitive, noBar, BareName.translation, other]
    rfl

theorem applied_eq_application (name : String) (arguments : List String) :
    applied name arguments = application name arguments := by
  fun_cases application name arguments with
  | case1 item => simp only [applied, arrayOf, contains_bar_iff]
  | case2 key value => rfl
  | case3 _ _ notArray notMap => exact applied.eq_3 name arguments notArray notMap

/-- A union is written member by member. -/
theorem written_members {members : List TypeMember} (nonempty : members ≠ []) {fuel : Nat}
    (each : ∀ member ∈ members,
      ofNamed (plainName (written fuel)) member.read = some member.translation) :
    written (fuel + 1) (String.intercalate " | " (members.map TypeMember.text)) =
      some (String.intercalate " | " (members.map TypeMember.translation)) := by
  have whole : ∀ text ∈ members.map TypeMember.text, IsWhole text := by
    intro text isText
    obtain ⟨member, -, rfl⟩ := List.mem_map.mp isText
    exact member.isWhole
  have read : (members.map TypeMember.text).map NamedType.parse = members.map TypeMember.read := by
    rw [List.map_map]
    refine List.map_congr_left fun member _ => ?_
    exact NamedType.parse_of_parse? (NamedType.parse?_of_derives member.derives)
  have translated : ofNamedList (plainName (written fuel)) (members.map TypeMember.read) =
      some (members.map TypeMember.translation) := by
    clear nonempty whole read
    induction members with
    | nil => rfl
    | cons member rest ih =>
        rw [List.map_cons, ofNamedList, each member (.head _),
          ih fun other listed => each other (.tail _ listed)]
        rfl
  rw [written_intercalate (by simpa using nonempty) whole, read, translated]
  rfl

theorem ofNamed_bare (union : String → Option String) (name : BareName) :
    ofNamed (plainName union) (TypeMember.bare name).read = some name.translation := by
  rw [TypeMember.read, plain, ofNamed]
  exact plainName_bare union name

theorem written_names (first : BareName) (rest : List BareName) (fuel : Nat) :
    written (fuel + 1) (String.intercalate " | " ((first :: rest).map BareName.text)) =
      some (String.intercalate " | " ((first :: rest).map BareName.translation)) := by
  have members : ((first :: rest).map TypeMember.bare) ≠ [] := by simp
  have each : ∀ member ∈ (first :: rest).map TypeMember.bare,
      ofNamed (plainName (written fuel)) member.read = some member.translation := by
    intro member listed
    obtain ⟨name, -, rfl⟩ := List.mem_map.mp listed
    exact ofNamed_bare _ name
  have names := written_members members each
  rw [List.map_map, List.map_map] at names
  exact names

mutual

theorem ofNamed_argument (fuel : Nat) : ∀ argument : TypeArgument,
    ofNamed (plainName (written (fuel + 1))) argument.read = some argument.translation
  | .applied name first rest => by
      rw [TypeArgument.read, ofNamed, ofNamed_argument fuel first, ofNamedList_arguments fuel rest,
        TypeArgument.translation, ← applied_eq_application]
      rfl
  | .names first [] => by
      rw [TypeArgument.read, TypeArgument.translation, List.map_singleton, List.map_singleton,
        String.intercalate_singleton, String.intercalate_singleton]
      exact ofNamed_bare _ first
  | .names first (second :: rest) => by
      have bar : '|' ∈ (String.intercalate " | "
          ((first :: second :: rest).map BareName.text)).toList := bar_mem_union _ _ _
      have other : String.intercalate " | " ((first :: second :: rest).map BareName.text) ∉
          primitiveWords := by
        have none : ∀ word ∈ primitiveWords, '|' ∉ word.toList := by decide
        exact fun primitive => none _ primitive bar
      rw [TypeArgument.read, plain, ofNamed, plainName_of_other _ other,
        if_pos ((contains_bar_iff _).mpr bar)]
      exact written_names first (second :: rest) fuel

theorem ofNamedList_arguments (fuel : Nat) : ∀ arguments : List TypeArgument,
    ofNamedList (plainName (written (fuel + 1))) (readAll arguments) =
      some (translationsOf arguments)
  | [] => rfl
  | argument :: rest => by
      rw [readAll, ofNamedList, ofNamed_argument fuel argument, ofNamedList_arguments fuel rest]
      rfl

end

/-- The translation of a union is made of those of its members. -/
theorem ofType?_members {members : List TypeMember} (nonempty : members ≠ []) :
    ofType? (String.intercalate " | " (members.map TypeMember.text)) =
      some (String.intercalate " | " (members.map TypeMember.translation)) := by
  have whole : ∀ text ∈ members.map TypeMember.text, IsWhole text := by
    intro text isText
    obtain ⟨member, -, rfl⟩ := List.mem_map.mp isText
    exact member.isWhole
  obtain ⟨fuel, same⟩ := exists_ofType?_eq_written (by simpa using nonempty) whole
  rw [same]
  apply written_members nonempty
  intro member _
  cases member with
  | bare name => exact ofNamed_bare _ name
  | applied name first rest => exact ofNamed_argument fuel (.applied name first rest)

/-- The text of a type is translated as its tree is. -/
theorem translation_follows_tree (type : TypeUnion) : ofType? type.text = some type.translation := by
  rw [TypeUnion.text, TypeUnion.translation]
  exact ofType?_members (List.cons_ne_nil _ _)

def arrayName : BareName where
  text := "Array"
  readable := IsWord.readable ⟨by decide, Text.forall_of_all (by decide +kernel)⟩
  barless := by decide

def nullName : BareName where
  text := "null"
  readable := IsWord.readable ⟨by decide, Text.forall_of_all (by decide +kernel)⟩
  barless := by decide

def userName : BareName where
  text := "User"
  readable := IsWord.readable ⟨by decide, Text.forall_of_all (by decide +kernel)⟩
  barless := by decide

/-- Arrays of users or nothing, or nothing instead of an array. -/
def usersOrNull : TypeUnion :=
  ⟨.applied arrayName (.names userName [nullName]) [], [.bare nullName]⟩

theorem translation_follows_tree_users :
    ofType? "Array<User | null> | null" = some "(User | null)[] | null" := by
  have text : usersOrNull.text = "Array<User | null> | null" := by decide +kernel
  have translation : usersOrNull.translation = "(User | null)[] | null" := by decide +kernel
  rw [← text, ← translation]
  exact translation_follows_tree usersOrNull

end ClientGen.TypeScript
