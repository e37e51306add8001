import ClientGen.Proofs.NamedType.Leaves

/-!
Replacing the plain names in a type by types. The texts of types without brackets and commas in their
names can be told apart: the text of a replaced type is the same as before only if that of each of its
plain names is.
-/

set_option autoImplicit false

namespace ClientGen.NamedType

/-! ## Replacement -/

mutual

/-- Replaces the plain names in a type by the types that a function gives for them. -/
def mapLeaves (replace : String → NamedType) : NamedType → NamedType
  | ⟨name, []⟩ => replace name
  | ⟨name, first :: rest⟩ => ⟨name, mapLeaves replace first :: mapLeavesAll replace rest⟩

def mapLeavesAll (replace : String → NamedType) : List NamedType → List NamedType
  | [] => []
  | type :: rest => mapLeaves replace type :: mapLeavesAll replace rest

end

theorem mapLeaves_plain (replace : String → NamedType) (name : String) :
    mapLeaves replace (plain name) = replace name := by
  rw [plain, mapLeaves]

section Replacement

variable (mappings : Entries String) (first second : String → NamedType)

mutual

theorem substitute_eq_mapLeaves : ∀ type : NamedType, type.substitute mappings =
    type.mapLeaves fun leaf => plain ((keyOf? leaf mappings).getD leaf)
  | ⟨name, []⟩ => by rw [substitute, mapLeaves]
  | ⟨name, argument :: rest⟩ => by
      rw [substitute, mapLeaves, substitute_eq_mapLeaves argument, substituteAll_eq_mapLeavesAll rest]

theorem substituteAll_eq_mapLeavesAll : ∀ types : List NamedType, substituteAll mappings types =
    mapLeavesAll (fun leaf => plain ((keyOf? leaf mappings).getD leaf)) types
  | [] => by rw [substituteAll, mapLeavesAll]
  | type :: rest => by
      rw [substituteAll, mapLeavesAll, substitute_eq_mapLeaves type, substituteAll_eq_mapLeavesAll rest]

end

mutual

theorem mapLeaves_mapLeaves : ∀ type : NamedType, (type.mapLeaves first).mapLeaves second =
    type.mapLeaves fun leaf => (first leaf).mapLeaves second
  | ⟨name, []⟩ => by rw [mapLeaves, mapLeaves]
  | ⟨name, argument :: rest⟩ => by
      rw [mapLeaves, mapLeaves, mapLeaves, mapLeaves_mapLeaves argument,
        mapLeavesAll_mapLeavesAll rest]

theorem mapLeavesAll_mapLeavesAll : ∀ types : List NamedType,
    mapLeavesAll second (mapLeavesAll first types) =
      mapLeavesAll (fun leaf => (first leaf).mapLeaves second) types
  | [] => by rw [mapLeavesAll, mapLeavesAll, mapLeavesAll]
  | type :: rest => by
      rw [mapLeavesAll, mapLeavesAll, mapLeavesAll, mapLeaves_mapLeaves type,
        mapLeavesAll_mapLeavesAll rest]

end

mutual

theorem mapLeaves_id : ∀ type : NamedType, type.mapLeaves plain = type
  | ⟨name, []⟩ => by rw [mapLeaves, plain]
  | ⟨name, argument :: rest⟩ => by rw [mapLeaves, mapLeaves_id argument, mapLeavesAll_id rest]

theorem mapLeavesAll_id : ∀ types : List NamedType, mapLeavesAll plain types = types
  | [] => by rw [mapLeavesAll]
  | type :: rest => by rw [mapLeavesAll, mapLeaves_id type, mapLeavesAll_id rest]

end

end Replacement

theorem substitute_nil (type : NamedType) : type.substitute [] = type := by
  rw [substitute_eq_mapLeaves]
  exact mapLeaves_id type

/-! ## Texts -/

/-- A type whose names hold no brackets and commas. -/
def Unmarked (type : NamedType) : Prop :=
  ∀ name ∈ type.names, ∀ char ∈ name.toList, isMark char = false

theorem unmarked_of_parse? {text : String} {type : NamedType} (read : parse? text = some type) :
    type.Unmarked :=
  fun _ member => (name_of_parse? read member).unmarked

theorem Unmarked.argument {name : String} {arguments : List NamedType}
    (unmarked : Unmarked ⟨name, arguments⟩) {argument : NamedType} (member : argument ∈ arguments) :
    argument.Unmarked := by
  intro inner inside
  apply unmarked
  rw [names]
  exact List.mem_cons_of_mem _ (mem_namesOfAll.mpr ⟨argument, member, inside⟩)

theorem shownName_unmarked {name : String} (unmarked : ∀ char ∈ name.toList, isMark char = false) :
    ∀ char ∈ (shownName name).toList, isMark char = false := by
  unfold shownName
  split
  · have all : "Array".toList.all (fun char => !isMark char) = true := by decide
    intro char member
    simpa using List.all_eq_true.mp all char member
  · exact unmarked

/-- What comes after the type that a text starts with, inside of some argument lists. -/
def afterText : Nat → List Char → List Char
  | _, [] => []
  | depth, char :: rest =>
      if char = '<' then afterText (depth + 1) rest
      else if char = '>' then
        match depth with
        | 0 => char :: rest
        | outer + 1 => afterText outer rest
      else if char = ',' then
        match depth with
        | 0 => char :: rest
        | _ + 1 => afterText depth rest
      else afterText depth rest

theorem afterText_unmarked {name : List Char} (unmarked : ∀ char ∈ name, isMark char = false)
    (depth : Nat) (rest : List Char) : afterText depth (name ++ rest) = afterText depth rest := by
  induction name with
  | nil => rfl
  | cons char name ih =>
      have plain := unmarked char (.head _)
      simp only [isMark_eq, Names.isOpening, Names.isClosing, Bool.or_eq_false_iff,
        beq_eq_false_iff_ne] at plain
      obtain ⟨⟨⟨notOpening, -⟩, notClosing, -⟩, notComma⟩ := plain
      have passed : afterText depth (char :: (name ++ rest)) = afterText depth (name ++ rest) := by
        simp [afterText.eq_def depth (char :: _), notOpening, notClosing, notComma]
      rw [List.cons_append, passed]
      exact ih fun other member => unmarked other (.tail _ member)

mutual

theorem afterText_render (depth : Nat) (after : List Char) : ∀ type : NamedType, type.Unmarked →
    afterText depth (type.render.toList ++ after) = afterText depth after
  | ⟨name, []⟩, unmarked => by
      rw [render]
      exact afterText_unmarked (unmarked name (by simp [names])) depth after
  | ⟨name, first :: rest⟩, unmarked => by
      have shown := shownName_unmarked (unmarked name (by simp [names]))
      have inFirst := unmarked.argument (.head _)
      have inRest (type : NamedType) (member : type ∈ rest) := unmarked.argument (.tail _ member)
      rw [render]
      simp only [String.toList_append, List.append_assoc]
      rw [afterText_unmarked shown]
      change afterText (depth + 1) (first.render.toList ++ _) = _
      rw [afterText_render (depth + 1) _ first inFirst, afterText_renderRest depth _ rest inRest]
      rfl

theorem afterText_renderRest (depth : Nat) (after : List Char) : ∀ types : List NamedType,
    (∀ type ∈ types, type.Unmarked) →
    afterText (depth + 1) ((renderRest types).toList ++ after) = afterText (depth + 1) after
  | [], _ => by rw [renderRest]; rfl
  | type :: rest, unmarked => by
      rw [renderRest]
      simp only [String.toList_append, List.append_assoc]
      change afterText (depth + 1) (type.render.toList ++ _) = _
      rw [afterText_render (depth + 1) _ type (unmarked type (.head _)),
        afterText_renderRest depth _ rest fun other member => unmarked other (.tail _ member)]

end

/-- The text of an argument ends where the next one or the end of the list comes. -/
theorem afterText_rest (types : List NamedType) (after : List Char)
    (ended : afterText 0 after = after) :
    afterText 0 ((renderRest types).toList ++ after) = (renderRest types).toList ++ after := by
  cases types with
  | nil =>
      rw [renderRest]
      exact ended
  | cons type rest =>
      rw [renderRest]
      simp only [String.toList_append, List.append_assoc]
      rfl

theorem render_append_inj {left right : NamedType} (inLeft : left.Unmarked) (inRight : right.Unmarked)
    {leftAfter rightAfter : List Char} (leftEnded : afterText 0 leftAfter = leftAfter)
    (rightEnded : afterText 0 rightAfter = rightAfter)
    (same : left.render.toList ++ leftAfter = right.render.toList ++ rightAfter) :
    left.render = right.render ∧ leftAfter = rightAfter := by
  have after : leftAfter = rightAfter := by
    rw [← leftEnded, ← rightEnded, ← afterText_render 0 leftAfter left inLeft, same,
      afterText_render 0 rightAfter right inRight]
  subst after
  exact ⟨String.toList_inj.mp (List.append_cancel_right same), rfl⟩

/-! ## Texts of replaced types -/

mutual

theorem Unmarked.mapLeaves {replace : String → NamedType} : ∀ {type : NamedType}, type.Unmarked →
    (∀ leaf ∈ type.leaves, (replace leaf).Unmarked) → (type.mapLeaves replace).Unmarked
  | ⟨name, []⟩, _, replaced => by
      rw [NamedType.mapLeaves]
      exact replaced name (by simp [leaves])
  | ⟨name, first :: rest⟩, unmarked, replaced => by
      rw [leaves] at replaced
      have inFirst : (first.mapLeaves replace).Unmarked :=
        (unmarked.argument (.head _)).mapLeaves fun leaf member =>
          replaced leaf (List.mem_append_left _ member)
      have inRest : ∀ type ∈ mapLeavesAll replace rest, type.Unmarked :=
        unmarked_mapLeavesAll (fun type member => unmarked.argument (.tail _ member))
          fun leaf member => replaced leaf (List.mem_append_right _ member)
      rw [NamedType.mapLeaves]
      intro inner member
      rw [names, namesOfAll] at member
      rcases List.mem_cons.mp member with rfl | inside
      · exact unmarked inner (by simp [names])
      · rcases List.mem_append.mp inside with ofFirst | ofRest
        · exact inFirst inner ofFirst
        · obtain ⟨type, isType, inType⟩ := mem_namesOfAll.mp ofRest
          exact inRest type isType inner inType

theorem unmarked_mapLeavesAll {replace : String → NamedType} : ∀ {types : List NamedType},
    (∀ type ∈ types, type.Unmarked) → (∀ leaf ∈ leavesOfAll types, (replace leaf).Unmarked) →
    ∀ type ∈ mapLeavesAll replace types, type.Unmarked
  | [], _, _ => by simp [mapLeavesAll]
  | first :: rest, unmarked, replaced => by
      rw [leavesOfAll] at replaced
      rw [mapLeavesAll]
      intro type member
      rcases List.mem_cons.mp member with rfl | later
      · exact (unmarked first (.head _)).mapLeaves fun leaf member =>
          replaced leaf (List.mem_append_left _ member)
      · exact unmarked_mapLeavesAll (fun other isOther => unmarked other (.tail _ isOther))
          (fun leaf member => replaced leaf (List.mem_append_right _ member)) type later

end

mutual

/-- Replacing plain names leaves the text of a type as it is just if it leaves the text of each. -/
theorem render_mapLeaves_eq_iff {replace : String → NamedType} : ∀ {type : NamedType},
    type.Unmarked → (∀ leaf ∈ type.leaves, (replace leaf).Unmarked) →
    ((type.mapLeaves replace).render = type.render ↔
      ∀ leaf ∈ type.leaves, (replace leaf).render = leaf)
  | ⟨name, []⟩, _, _ => by simp [mapLeaves, leaves, render]
  | ⟨name, first :: rest⟩, unmarked, replaced => by
      rw [leaves] at replaced ⊢
      have inFirst := unmarked.argument (.head _)
      have inRest (type : NamedType) (member : type ∈ rest) := unmarked.argument (.tail _ member)
      have ofFirst (leaf : String) (member : leaf ∈ first.leaves) :=
        replaced leaf (List.mem_append_left _ member)
      have ofRest (leaf : String) (member : leaf ∈ leavesOfAll rest) :=
        replaced leaf (List.mem_append_right _ member)
      rw [List.forall_mem_append, ← render_mapLeaves_eq_iff inFirst ofFirst,
        ← renderRest_mapLeavesAll_eq_iff inRest ofRest, mapLeaves, render, render]
      constructor
      · intro same
        rw [← String.toList_inj] at same
        simp only [String.toList_append, List.append_assoc, List.append_cancel_left_eq] at same
        -- Both texts of the first argument end where the text of the others begins.
        have closed : afterText 0 ['>'] = ['>'] := rfl
        obtain ⟨sameFirst, sameRest⟩ := render_append_inj (inFirst.mapLeaves ofFirst) inFirst
          (afterText_rest _ _ closed) (afterText_rest _ _ closed) same
        exact ⟨sameFirst, String.toList_inj.mp (List.append_cancel_right sameRest)⟩
      · rintro ⟨sameFirst, sameRest⟩
        rw [sameFirst, sameRest]

theorem renderRest_mapLeavesAll_eq_iff {replace : String → NamedType} : ∀ {types : List NamedType},
    (∀ type ∈ types, type.Unmarked) → (∀ leaf ∈ leavesOfAll types, (replace leaf).Unmarked) →
    (renderRest (mapLeavesAll replace types) = renderRest types ↔
      ∀ leaf ∈ leavesOfAll types, (replace leaf).render = leaf)
  | [], _, _ => by simp [mapLeavesAll, leavesOfAll]
  | first :: rest, unmarked, replaced => by
      rw [leavesOfAll] at replaced ⊢
      have inFirst := unmarked first (.head _)
      have inRest (type : NamedType) (member : type ∈ rest) := unmarked type (.tail _ member)
      have ofFirst (leaf : String) (member : leaf ∈ first.leaves) :=
        replaced leaf (List.mem_append_left _ member)
      have ofRest (leaf : String) (member : leaf ∈ leavesOfAll rest) :=
        replaced leaf (List.mem_append_right _ member)
      rw [List.forall_mem_append, ← render_mapLeaves_eq_iff inFirst ofFirst,
        ← renderRest_mapLeavesAll_eq_iff inRest ofRest, mapLeavesAll, renderRest, renderRest]
      constructor
      · intro same
        rw [← String.toList_inj] at same
        simp only [String.toList_append, List.append_assoc, List.append_cancel_left_eq] at same
        rw [← List.append_nil (renderRest (mapLeavesAll replace rest)).toList,
          ← List.append_nil (renderRest rest).toList] at same
        obtain ⟨sameFirst, sameRest⟩ := render_append_inj (inFirst.mapLeaves ofFirst) inFirst
          (afterText_rest _ _ rfl) (afterText_rest _ _ rfl) same
        exact ⟨sameFirst, String.toList_inj.mp (List.append_cancel_right sameRest)⟩
      · rintro ⟨sameFirst, sameRest⟩
        rw [sameFirst, sameRest]

end

end ClientGen.NamedType
