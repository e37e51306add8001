import ClientGen.Proofs.NamedType.Grammar
import ClientGen.Proofs.NamedType.Replacement

/-!
Reading the text of a type that was read from any text. Lists are shown as arrays, which changes a
type once and not again, and what could not be read the first time cannot be read from its text.
-/

set_option autoImplicit false

namespace ClientGen.NamedType

/-! ## Types as they are shown -/

/-- The names that stand for a list where they have arguments. -/
def listNames : List String := ["List", "Set", "Collection", "Array"]

mutual

/-- A type with an array in the place of each list in it. A name without arguments is no list. -/
def shown : NamedType → NamedType
  | ⟨name, []⟩ => plain name
  | ⟨name, first :: rest⟩ =>
      ⟨if name ∈ listNames then "Array" else name, shown first :: shownAll rest⟩

def shownAll : List NamedType → List NamedType
  | [] => []
  | type :: rest => shown type :: shownAll rest

end

/-- What is put in the place of a list is the name under which it is rendered. -/
theorem shown_applied (name : String) (first : NamedType) (rest : List NamedType) :
    shown ⟨name, first :: rest⟩ = ⟨shownName name, first.shown :: shownAll rest⟩ := by
  have sameNames : collectionNames = listNames := rfl
  rw [shown, shownName, sameNames]
  simp only [List.contains_iff_mem]

theorem shownName_shownName (name : String) : shownName (shownName name) = shownName name := by
  by_cases list : collectionNames.contains name = true
  · have array : shownName name = "Array" := if_pos list
    rw [array]
    rfl
  · have same : shownName name = name := if_neg list
    rw [same, same]

mutual

theorem render_shown : ∀ type : NamedType, type.shown.render = type.render
  | ⟨name, []⟩ => by rw [shown, plain]
  | ⟨name, first :: rest⟩ => by
      rw [shown_applied, render, render, shownName_shownName, render_shown first, renderRest_shown rest]

theorem renderRest_shown : ∀ types : List NamedType, renderRest (shownAll types) = renderRest types
  | [] => by rw [shownAll]
  | type :: rest => by rw [shownAll, renderRest, renderRest, render_shown type, renderRest_shown rest]

end

theorem Readable.shownName {name : String} (readable : Readable name) :
    Readable (shownName name) where
  nonempty := by
    unfold NamedType.shownName
    split
    · decide
    · exact readable.nonempty
  unmarked := shownName_unmarked readable.unmarked
  trimmed := by
    unfold NamedType.shownName
    split
    · decide
    · exact readable.trimmed

mutual

theorem isExact_shown : ∀ {type : NamedType}, (∀ name ∈ type.names, Readable name) →
    type.shown.IsExact
  | ⟨name, []⟩, readable => by
      rw [shown, plain, IsExact]
      exact readable name (by simp [names])
  | ⟨name, first :: rest⟩, readable => by
      rw [names, namesOfAll, List.forall_mem_cons, List.forall_mem_append] at readable
      obtain ⟨isName, inFirst, inRest⟩ := readable
      rw [shown_applied, IsExact]
      exact ⟨isName.shownName, shownName_shownName name, isExact_shown inFirst,
        allExact_shownAll inRest⟩

theorem allExact_shownAll : ∀ {types : List NamedType}, (∀ name ∈ namesOfAll types, Readable name) →
    AllExact (shownAll types)
  | [], _ => trivial
  | type :: rest, readable => by
      rw [namesOfAll, List.forall_mem_append] at readable
      rw [shownAll, AllExact]
      exact ⟨isExact_shown readable.1, allExact_shownAll readable.2⟩

end

/-! ## Reading again -/

/-- White space around a text leaves its derivations as they are. -/
theorem Derives.around {chars before after : List Char} {type : NamedType}
    (derived : Derives false chars type) (blankBefore : ∀ char ∈ before, Text.isBlank char = true)
    (blankAfter : ∀ char ∈ after, Text.isBlank char = true) :
    Derives false (before ++ chars ++ after) type := by
  have beside {blanks : List Char} (blank : ∀ char ∈ blanks, Text.isBlank char = true) :
      IsBeside false blanks := ⟨blank, fun maximal => by cases maximal⟩
  cases derived with
  | @plain inFront run behind isBefore isRun isAfter =>
      have derived := Derives.plain (beside (List.forall_mem_append.mpr ⟨blankBefore, isBefore.blank⟩))
        isRun (beside (List.forall_mem_append.mpr ⟨isAfter.blank, blankAfter⟩))
      simpa only [List.append_assoc] using derived
  | applied isBefore isRun between opens list closes blank =>
      have derived := Derives.applied
        (beside (List.forall_mem_append.mpr ⟨blankBefore, isBefore.blank⟩)) isRun between opens list
        closes (List.forall_mem_append.mpr ⟨blank, blankAfter⟩)
      simpa only [List.append_assoc, List.cons_append] using derived

theorem DerivesList.after_blank {chars before : List Char} {types : List NamedType}
    (list : DerivesList false chars types) (blank : ∀ char ∈ before, Text.isBlank char = true) :
    DerivesList false (before ++ chars) types := by
  have none : ∀ char ∈ ([] : List Char), Text.isBlank char = true := by simp
  cases list with
  | single only =>
      have derived := only.around blank none
      rw [List.append_nil] at derived
      exact .single derived
  | more first others =>
      have derived := first.around blank none
      rw [List.append_nil] at derived
      rw [← List.append_assoc]
      exact .more derived others

theorem parse?_trim {text : String} (malformed : parse? text = none) :
    parse? (Text.trim text) = none := by
  cases read : parse? (Text.trim text) with
  | none => rfl
  | some type =>
      have derived : Derives false (Text.trim text).toList type := parse?_eq_some_iff.mp read
      obtain ⟨before, after, around, blankBefore, blankAfter⟩ := Text.exists_blank_around text.toList
      rw [Text.toList_trim] at derived
      have whole := derived.around blankBefore blankAfter
      rw [← around] at whole
      rw [parse?_eq_some_iff.mpr whole] at malformed
      cases malformed

/-- The text of a type that was read from any text is read as that type with arrays in place of its
lists, and this type has the same text. -/
theorem shown_type_read_back (text : String) :
    parse (parse text).render = (parse text).shown ∧
      (parse text).shown.render = (parse text).render := by
  refine ⟨?_, render_shown _⟩
  cases read : parse? text with
  | some type =>
      rw [parse_of_parse? read, ← render_shown]
      apply parse_render
      exact isExact_shown fun name member => (name_of_parse? read member).toReadable
  | none =>
      have shownText : (plain (Text.trim text)).render = Text.trim text := by rw [plain, render]
      have again : Text.trim (Text.trim text) = Text.trim text := by
        rw [Text.trim, Text.toList_trim, Text.trimChars_trimChars, Text.trim]
      rw [parse_of_malformed read, shownText, parse_of_malformed (parse?_trim read), again, plain,
        shown, plain]

/-- All four names of lists become arrays, but not the one without arguments. What cannot be read
stays as it is. -/
theorem shown_type_read_back_lists :
    let lists := parse "Map« List«Set<Pet>» , Collection«Array«List»»»"
    parse lists.render =
        ⟨"Map", [⟨"Array", [⟨"Array", [plain "Pet"]⟩]⟩, ⟨"Array", [⟨"Array", [plain "List"]⟩]⟩]⟩ ∧
      lists.shown.render = "Map<Array<Array<Pet>>, Array<Array<List>>>" ∧
      parse (parse " List«Pet").render = plain "List«Pet" := by
  have lists := shown_type_read_back "Map« List«Set<Pet>» , Collection«Array«List»»»"
  have torn := shown_type_read_back " List«Pet"
  refine ⟨lists.1.trans ?_, lists.2.trans ?_, torn.1.trans ?_⟩ <;> cbv

end ClientGen.NamedType
