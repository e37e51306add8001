import ClientGen.Proofs.NamedType.Grammar
import ClientGen.TypeScript.Type

/-!
The members of a union. Each member is a trimmed part of the type without a bar outside of its
brackets, and such a part is the only member of itself.
-/

set_option autoImplicit false

namespace ClientGen.TypeScript

/-- The depth of the brackets after some characters, none if a bar stands outside of them. -/
def depthAfter (depth : Nat) : List Char → Option Nat
  | [] => some depth
  | char :: rest =>
      if Names.isOpening char then depthAfter (depth + 1) rest
      else if Names.isClosing char then depthAfter (depth - 1) rest
      else if char = '|' ∧ depth = 0 then none
      else depthAfter depth rest

theorem depthAfter_append (depth : Nat) (before after : List Char) :
    depthAfter depth (before ++ after) = (depthAfter depth before).bind (depthAfter · after) := by
  induction before generalizing depth with
  | nil => rfl
  | cons char rest ih =>
      simp only [List.cons_append, depthAfter]
      split
      · exact ih _
      · split
        · exact ih _
        · split
          · rfl
          · exact ih _

/-- A character that neither cuts a union nor changes the depth. -/
def IsNeutral (char : Char) : Prop :=
  Names.isOpening char = false ∧ Names.isClosing char = false ∧ char ≠ '|'

theorem isNeutral_of_isBlank {char : Char} (blank : Text.isBlank char = true) : IsNeutral char := by
  refine ⟨?_, ?_, ?_⟩
  · by_contra opening
    simp only [Names.isOpening, Bool.not_eq_false, Bool.or_eq_true, beq_iff_eq] at opening
    rcases opening with same | same <;> subst same <;> revert blank <;> decide
  · by_contra closing
    simp only [Names.isClosing, Bool.not_eq_false, Bool.or_eq_true, beq_iff_eq] at closing
    rcases closing with same | same <;> subst same <;> revert blank <;> decide
  · intro same
    subst same
    revert blank
    decide

theorem depthAfter_of_neutral {chars : List Char} (neutral : ∀ char ∈ chars, IsNeutral char)
    (depth : Nat) : depthAfter depth chars = some depth := by
  induction chars with
  | nil => rfl
  | cons char rest ih =>
      obtain ⟨notOpening, notClosing, notBar⟩ := neutral char (.head _)
      have rests := ih fun other member => neutral other (.tail _ member)
      simp [depthAfter, notOpening, notClosing, notBar, rests]

/-- Without a bar outside of the brackets, a bar can only stand behind a bracket. -/
theorem bar_not_mem_of_depthAfter {chars : List Char} (closed : (depthAfter 0 chars).isSome)
    (noBrackets : ∀ char ∈ chars, Names.isOpening char = false ∧ Names.isClosing char = false) :
    '|' ∉ chars := by
  induction chars with
  | nil => simp
  | cons char rest ih =>
      obtain ⟨notOpening, notClosing⟩ := noBrackets char (.head _)
      simp only [depthAfter, notOpening, notClosing, Bool.false_eq_true, if_false, and_true] at closed
      split at closed
      · simp at closed
      · next notBar =>
          have rests := ih closed fun other member => noBrackets other (.tail _ member)
          simpa using ⟨fun same => notBar same.symm, rests⟩

theorem cutUnion_of_depthAfter {depth : Nat} {run chars : List Char}
    (closed : (depthAfter depth chars).isSome) :
    cutUnion depth run chars = [run.reverse ++ chars] := by
  induction chars generalizing depth run with
  | nil => simp [cutUnion]
  | cons char rest ih =>
      simp only [depthAfter] at closed
      simp only [cutUnion]
      split at closed
      · next opening => simp [opening, ih closed]
      · split at closed
        · next notOpening closing => simp [notOpening, closing, ih closed]
        · split at closed
          · simp at closed
          · next notOpening notClosing notCut => simp [notOpening, notClosing, notCut, ih closed]

/-- Every part that a type is cut into lies in the type and has no bar outside of its brackets. The
run that was read so far ends at the current depth. -/
theorem cutUnion_part {depth : Nat} {run chars part : List Char}
    (reached : depthAfter 0 run.reverse = some depth) (member : part ∈ cutUnion depth run chars) :
    part <:+: run.reverse ++ chars ∧ (depthAfter 0 part).isSome := by
  induction chars generalizing depth run with
  | nil =>
      have same : part = run.reverse := by simpa [cutUnion] using member
      subst same
      simp [reached]
  | cons char rest ih =>
      have extended : run.reverse ++ char :: rest = (char :: run).reverse ++ rest := by simp
      simp only [cutUnion] at member
      split at member
      · next opening =>
          rw [extended]
          exact ih (by simp [depthAfter_append, reached, depthAfter, opening]) member
      · split at member
        · next notOpening closing =>
            rw [extended]
            exact ih (by simp [depthAfter_append, reached, depthAfter, notOpening, closing]) member
        · split at member
          · next cut =>
            obtain ⟨-, outside⟩ := cut
            subst outside
            rcases List.mem_cons.mp member with same | later
            · subst same
              exact ⟨(List.prefix_append _ _).isInfix, by simp [reached]⟩
            · have start : depthAfter 0 ([] : List Char).reverse = some 0 := rfl
              obtain ⟨inRest, closed⟩ := ih start later
              refine ⟨?_, closed⟩
              have tail : rest <:+ run.reverse ++ char :: rest := ⟨run.reverse ++ [char], by simp⟩
              exact (by simpa using inRest : part <:+: rest).trans tail.isInfix
          · next notOpening notClosing notCut =>
              rw [extended]
              exact ih (by simp [depthAfter_append, reached, depthAfter, notOpening, notClosing,
                notCut]) member

/-- Characters up to a known depth are part of the run that is read there. -/
theorem cutUnion_append {depth after : Nat} {chars : List Char}
    (reached : depthAfter depth chars = some after) (run rest : List Char) :
    cutUnion depth run (chars ++ rest) = cutUnion after (chars.reverse ++ run) rest := by
  induction chars generalizing depth run with
  | nil =>
      cases reached
      rfl
  | cons char others ih =>
      simp only [depthAfter] at reached
      simp only [List.cons_append, cutUnion, List.reverse_cons, List.append_assoc]
      split at reached
      · next opening => simp [opening, ih reached]
      · split at reached
        · next notOpening closing => simp [notOpening, closing, ih reached]
        · split at reached
          · cases reached
          · next notOpening notClosing notCut => simp [notOpening, notClosing, notCut, ih reached]

theorem depthAfter_trimChars {chars : List Char} (closed : (depthAfter 0 chars).isSome) :
    (depthAfter 0 (Text.trimChars chars)).isSome := by
  obtain ⟨before, after, split, blankBefore, blankAfter⟩ := Text.exists_blank_around chars
  have neutral := depthAfter_of_neutral (fun char member => isNeutral_of_isBlank
    (blankBefore char member)) 0
  rw [split, List.append_assoc, depthAfter_append, neutral] at closed
  cases reached : depthAfter 0 (Text.trimChars chars) with
  | some depth => rfl
  | none => simp [depthAfter_append, reached] at closed

/-- What is known of a member of a union. -/
structure IsMember (type member : String) : Prop where
  trimmed : Text.trimChars member.toList = member.toList
  nonempty : member.toList ≠ []
  inside : member.toList <:+: type.toList
  closed : (depthAfter 0 member.toList).isSome

theorem isMember_of_mem {type member : String} (listed : member ∈ unionMembers type) :
    IsMember type member := by
  simp only [unionMembers, List.mem_map, List.mem_filter] at listed
  obtain ⟨chars, ⟨⟨part, cut, trimmed⟩, nonempty⟩, same⟩ := listed
  subst same trimmed
  have start : depthAfter 0 ([] : List Char).reverse = some 0 := rfl
  obtain ⟨inside, closed⟩ := cutUnion_part start cut
  exact {
    trimmed := by simp [Text.trimChars_trimChars]
    nonempty := by simpa using nonempty
    inside := by simpa using (Text.trimChars_infix part).trans inside
    closed := by simpa using depthAfter_trimChars closed }

/-- A member is the only member of itself. -/
theorem IsMember.unionMembers_self {type member : String} (known : IsMember type member) :
    unionMembers member = [member] := by
  simp [unionMembers, cutUnion_of_depthAfter known.closed, known.trimmed, known.nonempty]

theorem IsMember.trim_self {type member : String} (known : IsMember type member) :
    Text.trim member = member := by
  simp [Text.trim, known.trimmed]

/-- A text that is a member wherever it stands between bars. -/
structure IsWhole (text : String) : Prop where
  trimmed : Text.trimChars text.toList = text.toList
  nonempty : text.toList ≠ []
  level : depthAfter 0 text.toList = some 0

private theorem cutUnion_intercalate {first : String} {rest : List String} {before : List Char}
    (whole : ∀ text ∈ first :: rest, IsWhole text)
    (blank : ∀ char ∈ before, Text.isBlank char = true) :
    (cutUnion 0 before.reverse (String.intercalate " | " (first :: rest)).toList).map
      Text.trimChars = (first :: rest).map String.toList := by
  have now := whole first (.head _)
  have none : ∀ char ∈ ([] : List Char), Text.isBlank char = true := by simp
  induction rest generalizing first before with
  | nil =>
      have closed : (depthAfter 0 first.toList).isSome := by simp [now.level]
      have trimmed := Text.trimChars_around now.trimmed now.nonempty blank none
      rw [List.append_nil] at trimmed
      rw [String.intercalate_singleton, cutUnion_of_depthAfter closed, List.reverse_reverse,
        List.map_singleton, trimmed]
      rfl
  | cons next others ih =>
      have space : ∀ char ∈ [' '], Text.isBlank char = true := Text.forall_of_all (by decide)
      have later := ih (fun text member => whole text (.tail _ member)) space
        (whole next (.tail _ (.head _)))
      have trimmed := Text.trimChars_around now.trimmed now.nonempty blank space
      have chars : (String.intercalate " | " (first :: next :: others)).toList =
          first.toList ++ ' ' :: '|' :: ' ' :: (String.intercalate " | " (next :: others)).toList := by
        rw [String.intercalate_cons_cons]
        simp
      have step : cutUnion 0 (first.toList.reverse ++ before.reverse)
          (' ' :: '|' :: ' ' :: (String.intercalate " | " (next :: others)).toList) =
            (before ++ first.toList ++ [' ']) ::
              cutUnion 0 [' '].reverse (String.intercalate " | " (next :: others)).toList := by
        simp [cutUnion, Names.isOpening, Names.isClosing]
      rw [chars, cutUnion_append now.level, step, List.map_cons, trimmed, later]
      rfl

/-- Texts that are whole are the members of the union that they make. -/
theorem unionMembers_intercalate {texts : List String} (whole : ∀ text ∈ texts, IsWhole text) :
    unionMembers (String.intercalate " | " texts) = texts := by
  cases texts with
  | nil => simp [unionMembers, cutUnion, Text.trimChars, Text.trimStart, Text.trimEnd]
  | cons first rest =>
      have none : ∀ char ∈ ([] : List Char), Text.isBlank char = true := by simp
      have cut := cutUnion_intercalate whole none
      rw [List.reverse_nil] at cut
      have kept : ((first :: rest).map String.toList).filter (fun member => !member.isEmpty) =
          (first :: rest).map String.toList := by
        refine List.filter_eq_self.mpr fun member isMember => ?_
        obtain ⟨text, listed, rfl⟩ := List.mem_map.mp isMember
        simpa using (whole text listed).nonempty
      rw [unionMembers, cut, kept, List.map_map]
      simp [Function.comp_def]

theorem trimmed_intercalate {first : String} {rest : List String}
    (whole : ∀ text ∈ first :: rest, Text.trimChars text.toList = text.toList ∧ text.toList ≠ []) :
    Text.trimChars (String.intercalate " | " (first :: rest)).toList =
        (String.intercalate " | " (first :: rest)).toList ∧
      (String.intercalate " | " (first :: rest)).toList ≠ [] := by
  obtain ⟨trimmed, nonempty⟩ := whole first (.head _)
  induction rest generalizing first with
  | nil =>
      rw [String.intercalate_singleton]
      exact ⟨trimmed, nonempty⟩
  | cons next others ih =>
      obtain ⟨trimmedNext, nonemptyNext⟩ := whole next (.tail _ (.head _))
      obtain ⟨trimmedRest, nonemptyRest⟩ :=
        ih (fun text member => whole text (.tail _ member)) trimmedNext nonemptyNext
      rw [String.intercalate_cons_cons, String.toList_append, String.toList_append]
      refine ⟨Text.trimChars_between trimmed trimmedRest nonempty nonemptyRest _, ?_⟩
      simp [nonempty]

/-- A union of whole texts is written member by member. -/
theorem written_intercalate {texts : List String} (nonempty : texts ≠ [])
    (whole : ∀ text ∈ texts, IsWhole text) (fuel : Nat) :
    written (fuel + 1) (String.intercalate " | " texts) =
      (ofNamedList (plainName (written fuel)) (texts.map NamedType.parse)).map
        (String.intercalate " | ") := by
  obtain ⟨first, rest, rfl⟩ := List.exists_cons_of_ne_nil nonempty
  obtain ⟨trimmed, solid⟩ :=
    trimmed_intercalate fun text member => ⟨(whole text member).trimmed, (whole text member).nonempty⟩
  have same : Text.trim (String.intercalate " | " (first :: rest)) =
      String.intercalate " | " (first :: rest) := by
    rw [Text.trim]
    exact (congrArg String.ofList trimmed).trans String.ofList_toList
  have filled : (String.intercalate " | " (first :: rest)).isEmpty = false := by
    rw [← Bool.not_eq_true, String.isEmpty_iff]
    exact fun empty => solid (by rw [empty]; rfl)
  simp only [written, same, filled]
  rw [unionMembers_intercalate whole, if_neg (by decide)]
  cases ofNamedList (plainName (written fuel)) ((first :: rest).map NamedType.parse) <;> rfl

/-- A union that is not empty is given fuel for the names inside of brackets. -/
theorem exists_ofType?_eq_written {texts : List String} (nonempty : texts ≠ [])
    (whole : ∀ text ∈ texts, IsWhole text) :
    ∃ fuel, ofType? (String.intercalate " | " texts) =
      written (fuel + 2) (String.intercalate " | " texts) := by
  obtain ⟨first, rest, rfl⟩ := List.exists_cons_of_ne_nil nonempty
  have solid := (trimmed_intercalate fun text member =>
    ⟨(whole text member).trimmed, (whole text member).nonempty⟩).2
  have long : (String.intercalate " | " (first :: rest)).length ≠ 0 := by
    intro zero
    rw [← String.length_toList] at zero
    exact solid (List.eq_nil_of_length_eq_zero zero)
  obtain ⟨fuel, size⟩ := Nat.exists_eq_succ_of_ne_zero long
  exact ⟨fuel, by rw [ofType?, size]⟩

/-! ## Types as members -/

open NamedType (Derives DerivesList isMark isMark_eq)

theorem depthAfter_blank {blanks : List Char} (blank : ∀ char ∈ blanks, Text.isBlank char = true)
    (depth : Nat) (rest : List Char) : depthAfter depth (blanks ++ rest) = depthAfter depth rest := by
  rw [depthAfter_append,
    depthAfter_of_neutral fun char member => isNeutral_of_isBlank (blank char member)]
  rfl

theorem depthAfter_unmarked {chars : List Char} (unmarked : ∀ char ∈ chars, isMark char = false)
    {depth : Nat} (free : depth = 0 → '|' ∉ chars) (rest : List Char) :
    depthAfter depth (chars ++ rest) = depthAfter depth rest := by
  induction chars with
  | nil => rfl
  | cons char others ih =>
      have plain := unmarked char (.head _)
      simp only [isMark_eq, Bool.or_eq_false_iff] at plain
      have notCut : ¬ (char = '|' ∧ depth = 0) := by
        rintro ⟨rfl, zero⟩
        exact free zero (.head _)
      rw [List.cons_append, depthAfter, plain.1.1, plain.1.2, if_neg (by decide),
        if_neg (by decide), if_neg notCut]
      exact ih (fun other member => unmarked other (.tail _ member))
        fun zero bar => free zero (.tail _ bar)

/-- A run has a bar only if its name has. -/
theorem bar_mem_nameOf {run : List Char} (bar : '|' ∈ run) :
    '|' ∈ (NamedType.nameOf run).toList := by
  obtain ⟨before, after, around, blankBefore, blankAfter⟩ := Text.exists_blank_around run
  have solid : Text.isBlank '|' = false := by decide
  rw [around, List.mem_append, List.mem_append] at bar
  rcases bar with (inBefore | inside) | inAfter
  · rw [blankBefore _ inBefore] at solid
    cases solid
  · rwa [NamedType.nameOf, String.toList_ofList]
  · rw [blankAfter _ inAfter] at solid
    cases solid

theorem depthAfter_run {maximal : Bool} {before run after : List Char}
    (isBefore : NamedType.IsBeside maximal before) (isRun : NamedType.IsRun run)
    (isAfter : NamedType.IsBeside maximal after) {depth : Nat}
    (free : depth = 0 → '|' ∉ (NamedType.nameOf run).toList) (rest : List Char) :
    depthAfter depth (before ++ run ++ after ++ rest) = depthAfter depth rest := by
  rw [List.append_assoc, List.append_assoc, depthAfter_blank isBefore.blank,
    depthAfter_unmarked isRun.unmarked fun zero bar => free zero (bar_mem_nameOf bar),
    depthAfter_blank isAfter.blank]

mutual

/-- A type leaves the depth as it was, and a bar in it stands in brackets if its name has none. -/
theorem depthAfter_derived {maximal : Bool} : ∀ {chars : List Char} {type : NamedType},
    Derives maximal chars type → ∀ {depth : Nat}, (depth = 0 → '|' ∉ type.name.toList) →
      ∀ rest : List Char, depthAfter depth (chars ++ rest) = depthAfter depth rest
  | _, _, .plain before isRun after, depth, free, rest =>
      depthAfter_run before isRun after free rest
  | _, _, @Derives.applied _ _ _ _ inside after opening closing _ before isRun between isOpening
      list isClosing blank, depth, free, rest => by
      have opens := Names.isOpening_iff.mpr isOpening
      have closes := Names.isClosing_iff.mpr isClosing
      have notOpening := NamedType.isOpening_of_isClosing closes
      rw [List.append_assoc, depthAfter_run before isRun between free, List.cons_append, depthAfter,
        if_pos opens, List.append_assoc, depthAfter_derivedList list depth, List.cons_append,
        depthAfter, notOpening, if_neg (by decide), if_pos closes, Nat.add_sub_cancel,
        depthAfter_blank blank]

theorem depthAfter_derivedList {maximal : Bool} : ∀ {chars : List Char} {types : List NamedType},
    DerivesList maximal chars types → ∀ (depth : Nat) (rest : List Char),
      depthAfter (depth + 1) (chars ++ rest) = depthAfter (depth + 1) rest
  | _, _, .single only, depth, rest => depthAfter_derived only (by simp) rest
  | _, _, .more first others, depth, rest => by
      rw [List.append_assoc, depthAfter_derived first (by simp), List.cons_append, depthAfter,
        if_neg (by decide), if_neg (by decide), if_neg (by simp)]
      exact depthAfter_derivedList others depth rest

end

theorem isWhole_of_derives {maximal : Bool} {text : String} {type : NamedType}
    (derived : Derives maximal text.toList type) (barless : '|' ∉ type.name.toList)
    (trimmed : Text.trimChars text.toList = text.toList) (nonempty : text.toList ≠ []) :
    IsWhole text where
  trimmed := trimmed
  nonempty := nonempty
  level := by
    have level := depthAfter_derived derived (fun _ : 0 = 0 => barless) []
    rwa [List.append_nil] at level

end ClientGen.TypeScript
