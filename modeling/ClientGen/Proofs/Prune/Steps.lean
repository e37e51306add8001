import ClientGen.Proofs.Document.Detect
import ClientGen.Proofs.Json.Readable

/-!
The steps that pruning is made of: keeping the members or items without a problem, pruning the parts
before they are tried, and putting an object together from its pruned members. Of each step it is
said when it leaves a value alone, and what holds of the value that it leads to.
-/

set_option autoImplicit false

namespace ClientGen

/-- Whether the members of an object are all as asked. A value that is no object has none. -/
def Json.AllMembers (holds : String → Json → Prop) : Json → Prop
  | .obj members => ∀ member ∈ members, holds member.1 member.2
  | _ => True

/-- Whether the items of an array are all as asked. A value that is no array has none. -/
def Json.AllItems (holds : Json → Prop) : Json → Prop
  | .arr items => ∀ item ∈ items, holds item
  | _ => True

namespace Prune

open Json (Decoded Reads)

theorem problemOf_eq_none_iff {Value : Type} {subject message : String}
    {decode : Json → Decoded Value} {json : Json} :
    problemOf subject message (decode json) = none ↔ Reads decode json :=
  problemOf_eq_none

theorem schemaProblem_eq_none_iff {owner : Option String} {name : String} {json : Json} :
    schemaProblem owner name json = none ↔ Reads Schema.decode json :=
  problemOf_eq_none

theorem filter_map_eq_self_iff {Item : Type} {change : Item → Item} {keep : Item → Bool}
    {items : List Item} : (items.map change).filter keep = items ↔
      ∀ item ∈ items, change item = item ∧ keep item := by
  constructor
  · intro same
    have whole : (items.map change).filter keep = items.map change :=
      List.filter_sublist.eq_of_length (by rw [same, List.length_map])
    have fixed : items.map change = items.map id := by rw [← whole, same, List.map_id]
    intro item member
    have unchanged : change item = item := List.map_inj_left.mp fixed item member
    have kept := List.filter_eq_self.mp whole (change item) (List.mem_map_of_mem member)
    exact ⟨unchanged, unchanged ▸ kept⟩
  · intro each
    have fixed : items.map change = items := by
      calc items.map change = items.map id :=
            List.map_congr_left fun item member => (each item member).1
        _ = items := List.map_id _
    rw [fixed]
    exact List.filter_eq_self.mpr fun item member => (each item member).2

theorem reported_eq_iff {Value : Type} {reported : Reported Value} {value : Value}
    {diagnostics : List Diagnostic} : reported = ⟨value, diagnostics⟩ ↔
      reported.value = value ∧ reported.diagnostics = diagnostics := by
  cases reported
  simp

/-! ## Objects and arrays whose parts are pruned -/

/-- Prunes an object by its members, and leaves a value that is no object alone. -/
def onMembers (prune : List (String × Json) → Reported Json) : Json → Reported Json
  | .obj members => prune members
  | other => ⟨other, []⟩

/-- Prunes each member of an object, and puts the object together again. -/
def assembled (order : List String) (prune : String → Json → Reported (Option Json))
    (members : List (String × Json)) : Reported Json :=
  assemble order (members.map fun member => (member.1, prune member.1 member.2))

/-- Prunes each item, and keeps those without a problem afterwards. -/
def keepAll {Item : Type} (problem? : Item → Option Diagnostic) (prune : Item → Reported Item)
    (items : List Item) : Reported (List Item) :=
  let kept := retain problem? (items.map fun item => (prune item).value)
  ⟨kept.value, (items.flatMap fun item => (prune item).diagnostics) ++ kept.diagnostics⟩

section KeepAll

variable {Item : Type} {problem? : Item → Option Diagnostic} {prune : Item → Reported Item}
variable {items : List Item}

theorem keepAll_eq_self_iff : keepAll problem? prune items = ⟨items, []⟩ ↔
    ∀ item ∈ items, prune item = ⟨item, []⟩ ∧ problem? item = none := by
  have value : (keepAll problem? prune items).value = items ↔
      ∀ item ∈ items, (prune item).value = item ∧ (problem? item).isNone = true :=
    filter_map_eq_self_iff
  rw [reported_eq_iff, value]
  constructor
  · rintro ⟨kept, silent⟩ item member
    obtain ⟨same, clean⟩ := kept item member
    have inside := List.flatMap_eq_nil_iff.mp (List.append_eq_nil_iff.mp silent).1 item member
    exact ⟨reported_eq_iff.mpr ⟨same, inside⟩, Option.isNone_iff_eq_none.mp clean⟩
  · intro each
    refine ⟨fun item member => ?_, List.append_eq_nil_iff.mpr ⟨?_, ?_⟩⟩
    · obtain ⟨same, clean⟩ := each item member
      rw [same]
      exact ⟨rfl, Option.isNone_iff_eq_none.mpr clean⟩
    · refine List.flatMap_eq_nil_iff.mpr fun item member => ?_
      rw [(each item member).1]
    · refine List.filterMap_eq_nil_iff.mpr (List.forall_mem_map.mpr fun item member => ?_)
      obtain ⟨same, clean⟩ := each item member
      rw [same]
      exact clean

theorem of_mem_keepAll {holds : Item → Prop} (each : ∀ item ∈ items, holds (prune item).value)
    {item : Item} (kept : item ∈ (keepAll problem? prune items).value) :
    holds item ∧ problem? item = none := by
  obtain ⟨listed, clean⟩ := List.mem_filter.mp kept
  obtain ⟨written, member, rfl⟩ := List.mem_map.mp listed
  exact ⟨each written member, Option.isNone_iff_eq_none.mp clean⟩

end KeepAll

def named (name : String) (pruned : Reported Json) : Reported (String × Json) :=
  ⟨(name, pruned.value), pruned.diagnostics⟩

/-- Prunes each member of an object, and keeps those without a problem. -/
def keepMembers (problem? : String → Json → Option Diagnostic)
    (prune : String → Json → Reported Json) (members : List (String × Json)) : Reported Json :=
  let kept := keepAll (fun member => problem? member.1 member.2)
    (fun member => named member.1 (prune member.1 member.2)) members
  ⟨.obj kept.value, kept.diagnostics⟩

def keepItems (problem? : Json → Option Diagnostic) (prune : Json → Reported Json)
    (items : List Json) : Reported Json :=
  let kept := keepAll problem? prune items
  ⟨.arr kept.value, kept.diagnostics⟩

section Steps

variable {problem? : String → Json → Option Diagnostic} {itemProblem? : Json → Option Diagnostic}
variable {members : List (String × Json)} {value : Json}

theorem retain_eq_self_iff {Item : Type} {problem? : Item → Option Diagnostic} {items : List Item} :
    retain problem? items = ⟨items, []⟩ ↔ ∀ item ∈ items, problem? item = none := by
  simp only [retain, Reported.mk.injEq, List.filter_eq_self, List.filterMap_eq_nil_iff,
    Option.isNone_iff_eq_none, and_self]

theorem retainMembers_eq_self_iff : retainMembers problem? value = ⟨value, []⟩ ↔
    value.AllMembers fun name member => problem? name member = none := by
  cases value with
  | obj members =>
      have kept : retain (fun member => problem? member.1 member.2) members = ⟨members, []⟩ ↔
          ∀ member ∈ members, problem? member.1 member.2 = none := retain_eq_self_iff
      rw [Json.AllMembers, ← kept, reported_eq_iff, reported_eq_iff, retainMembers, Json.obj.injEq]
  | _ => exact iff_of_true rfl trivial

theorem allMembers_retainMembers : (retainMembers problem? value).value.AllMembers
    fun name member => problem? name member = none := by
  cases value with
  | obj members =>
      intro member kept
      exact Option.isNone_iff_eq_none.mp (List.mem_filter.mp kept).2
  | _ => trivial

theorem retainItems_eq_self_iff : retainItems itemProblem? value = ⟨value, []⟩ ↔
    value.AllItems fun item => itemProblem? item = none := by
  cases value with
  | arr items =>
      rw [Json.AllItems, ← retain_eq_self_iff, reported_eq_iff, reported_eq_iff, retainItems,
        Json.arr.injEq]
  | _ => exact iff_of_true rfl trivial

theorem allItems_retainItems : (retainItems itemProblem? value).value.AllItems
    fun item => itemProblem? item = none := by
  cases value with
  | arr items =>
      intro item kept
      exact Option.isNone_iff_eq_none.mp (List.mem_filter.mp kept).2
  | _ => trivial

theorem always_eq_untouched_iff {pruned : Reported Json} :
    always pruned = untouched value ↔ pruned = ⟨value, []⟩ := by
  rw [always, untouched, reported_eq_iff, reported_eq_iff, Option.some.injEq]

theorem checked_eq_untouched_iff {pruned : Reported Json} :
    checked itemProblem? pruned = untouched value ↔
      pruned = ⟨value, []⟩ ∧ itemProblem? value = none := by
  rw [untouched, reported_eq_iff, reported_eq_iff, checked]
  cases found : itemProblem? pruned.value with
  | none =>
      rw [Option.some.injEq]
      refine ⟨fun same => ⟨same, same.1 ▸ found⟩, And.left⟩
  | some problem =>
      simp only [reduceCtorEq, false_and, false_iff]
      rintro ⟨⟨rfl, -⟩, clean⟩
      rw [found] at clean
      cases clean

theorem checked_value_eq_some {pruned : Reported Json} {kept : Json}
    (isKept : (checked itemProblem? pruned).value = some kept) :
    pruned.value = kept ∧ itemProblem? kept = none := by
  rw [checked] at isKept
  split at isKept
  · next clean =>
      cases isKept
      exact ⟨rfl, clean⟩
  · cases isKept

section Assemble

variable {prune : String → Json → Reported (Option Json)} {order : List String}

theorem assembled_value_eq_iff : (assembled order prune members).value = .obj members ↔
    ∀ member ∈ members, (prune member.1 member.2).value = some member.2 := by
  have same : members = members.map id := (List.map_id _).symm
  rw [assembled, assemble, Json.obj.injEq, List.filterMap_map]
  nth_rewrite 2 [same]
  rw [List.filterMap_eq_map_iff_forall_eq_some]
  refine forall₂_congr fun member _ => ?_
  rw [Function.comp_apply, Option.map_eq_some_iff]
  constructor
  · rintro ⟨kept, isKept, unchanged⟩
    exact isKept.trans (congrArg some (congrArg Prod.snd unchanged))
  · exact fun isKept => ⟨member.2, isKept, rfl⟩

/-- An object put together from its members is the same object without a report just if each member
is left alone. The order of the reports has to name every member that is not. -/
theorem assembled_eq_self_iff (plain : ∀ name, name ∉ order → prune name = untouched) :
    assembled order prune members = ⟨.obj members, []⟩ ↔
      ∀ member ∈ members, prune member.1 member.2 = untouched member.2 := by
  rw [reported_eq_iff, assembled_value_eq_iff]
  constructor
  · rintro ⟨kept, silent⟩ member isMember
    by_cases named : member.1 ∈ order
    · refine reported_eq_iff.mpr ⟨kept member isMember, ?_⟩
      have here := List.flatMap_eq_nil_iff.mp silent member.1 named
      have own := List.flatMap_eq_nil_iff.mp here _ (List.mem_map_of_mem isMember)
      rwa [if_pos rfl] at own
    · exact congrFun (plain member.1 named) member.2
  · intro each
    refine ⟨fun member isMember => by rw [each member isMember]; rfl, ?_⟩
    refine List.flatMap_eq_nil_iff.mpr fun name _ => List.flatMap_eq_nil_iff.mpr ?_
    rw [List.forall_mem_map]
    intro member isMember
    rw [each member isMember]
    exact ite_self _

theorem allMembers_assembled_iff {holds : String → Json → Prop} :
    (assembled order prune members).value.AllMembers holds ↔
      ∀ member ∈ members, ∀ kept, (prune member.1 member.2).value = some kept →
        holds member.1 kept := by
  rw [assembled, assemble, List.filterMap_map]
  simp only [Json.AllMembers, List.forall_mem_filterMap, Function.comp_apply]
  refine forall₂_congr fun member _ => ⟨fun all kept isKept => ?_, fun each entry same => ?_⟩
  · exact all (member.1, kept) (by rw [isKept]; rfl)
  · obtain ⟨kept, isKept, rfl⟩ := Option.map_eq_some_iff.mp same
    exact each kept isKept

end Assemble

theorem keepMembers_eq_self_iff {prune : String → Json → Reported Json} :
    keepMembers problem? prune members = ⟨.obj members, []⟩ ↔
      ∀ member ∈ members, prune member.1 member.2 = ⟨member.2, []⟩ ∧
        problem? member.1 member.2 = none := by
  rw [keepMembers, Reported.mk.injEq, Json.obj.injEq, ← reported_eq_iff, keepAll_eq_self_iff]
  refine forall₂_congr fun member _ => and_congr_left' ?_
  rw [named, Reported.mk.injEq, reported_eq_iff, Prod.ext_iff]
  simp

theorem allMembers_keepMembers {prune : String → Json → Reported Json}
    {holds : String → Json → Prop}
    (each : ∀ member ∈ members, holds member.1 (prune member.1 member.2).value) :
    (keepMembers problem? prune members).value.AllMembers fun name value =>
      holds name value ∧ problem? name value = none := by
  intro member kept
  exact @of_mem_keepAll (String × Json) _ _ _ (fun entry => holds entry.1 entry.2) each _ kept

theorem keepItems_eq_self_iff {prune : Json → Reported Json} {items : List Json} :
    keepItems itemProblem? prune items = ⟨.arr items, []⟩ ↔
      ∀ item ∈ items, prune item = ⟨item, []⟩ ∧ itemProblem? item = none := by
  rw [keepItems, Reported.mk.injEq, Json.arr.injEq, ← reported_eq_iff, keepAll_eq_self_iff]

theorem allItems_keepItems {prune : Json → Reported Json} {items : List Json} {holds : Json → Prop}
    (each : ∀ item ∈ items, holds (prune item).value) :
    (keepItems itemProblem? prune items).value.AllItems fun item =>
      holds item ∧ itemProblem? item = none :=
  fun _ kept => of_mem_keepAll each kept

end Steps

/-! ## Pruning as a normal form -/

/-- Pruning leaves exactly the tidy values alone, and leads to one of them. -/
structure Settles (prune : Json → Reported Json) (tidy : Json → Prop) : Prop where
  fixed {value : Json} : prune value = ⟨value, []⟩ ↔ tidy value
  settled (value : Json) : tidy (prune value).value

/-- The same for a member, which may be gone afterwards. -/
structure MemberSettles (prune : Json → Reported (Option Json)) (tidy : Json → Prop) : Prop where
  fixed {value : Json} : prune value = untouched value ↔ tidy value
  settled {value kept : Json} : (prune value).value = some kept → tidy kept

theorem Settles.twice {prune : Json → Reported Json} {tidy : Json → Prop}
    (settles : Settles prune tidy) (value : Json) :
    prune (prune value).value = ⟨(prune value).value, []⟩ :=
  settles.fixed.mpr (settles.settled value)

section Settles

variable {tidy good : Json → Prop} {problem? : Json → Option Diagnostic}
variable {prune : Json → Reported Json}

theorem settles_untouched : MemberSettles untouched fun _ => True :=
  ⟨iff_of_true rfl trivial, fun _ => trivial⟩

theorem Settles.always (settles : Settles prune tidy) :
    MemberSettles (fun value => Prune.always (prune value)) tidy := by
  constructor
  case fixed => exact always_eq_untouched_iff.trans settles.fixed
  case settled =>
    intro value kept isKept
    cases isKept
    exact settles.settled value

theorem Settles.checked (settles : Settles prune tidy)
    (clean : ∀ value, problem? value = none ↔ good value) :
    MemberSettles (fun value => Prune.checked problem? (prune value)) fun value =>
      tidy value ∧ good value := by
  constructor
  case fixed => exact checked_eq_untouched_iff.trans (and_congr settles.fixed (clean _))
  case settled =>
    intro value kept isKept
    obtain ⟨rfl, isClean⟩ := checked_value_eq_some isKept
    exact ⟨settles.settled value, (clean _).mp isClean⟩

theorem settles_retainItems (clean : ∀ value, problem? value = none ↔ good value) :
    Settles (retainItems problem?) (Json.AllItems good) := by
  have same : (fun value => problem? value = none) = good :=
    funext fun value => propext (clean value)
  subst same
  exact ⟨retainItems_eq_self_iff, fun _ => allItems_retainItems⟩

end Settles

section MapSettles

variable {tidy good : String → Json → Prop} {problem? : String → Json → Option Diagnostic}

theorem settles_retainMembers (clean : ∀ name value, problem? name value = none ↔ good name value) :
    Settles (retainMembers problem?) (Json.AllMembers good) := by
  have same : (fun name value => problem? name value = none) = good :=
    funext₂ fun name value => propext (clean name value)
  subst same
  exact ⟨retainMembers_eq_self_iff, fun _ => allMembers_retainMembers⟩

theorem settles_onMembers {prune : List (String × Json) → Reported Json}
    (fixed : ∀ members, prune members = ⟨.obj members, []⟩ ↔
      ∀ member ∈ members, tidy member.1 member.2)
    (settled : ∀ members, (prune members).value.AllMembers tidy) :
    Settles (onMembers prune) (Json.AllMembers tidy) := by
  constructor
  case fixed =>
    intro value
    cases value with
    | obj members => exact fixed members
    | _ => exact iff_of_true rfl trivial
  case settled =>
    intro value
    cases value with
    | obj members => exact settled members
    | _ => trivial

theorem settles_keepMembers {prune : String → Json → Reported Json}
    (settles : ∀ name, Settles (prune name) (tidy name))
    (clean : ∀ name value, problem? name value = none ↔ good name value) :
    Settles (onMembers (keepMembers problem? prune))
      (Json.AllMembers fun name value => tidy name value ∧ good name value) := by
  have same : (fun name value => problem? name value = none) = good :=
    funext₂ fun name value => propext (clean name value)
  subst same
  refine settles_onMembers (fun members => ?_) fun members => ?_
  · rw [keepMembers_eq_self_iff]
    exact forall₂_congr fun member _ => and_congr_left' (settles member.1).fixed
  · exact allMembers_keepMembers fun member _ => (settles member.1).settled member.2

theorem settles_assembled {prune : String → Json → Reported (Option Json)} {order : List String}
    (settles : ∀ name, MemberSettles (prune name) (tidy name))
    (plain : ∀ name, name ∉ order → prune name = untouched) :
    Settles (onMembers (assembled order prune)) (Json.AllMembers tidy) := by
  refine settles_onMembers (fun members => ?_) fun members => ?_
  · rw [assembled_eq_self_iff plain]
    exact forall₂_congr fun member _ => (settles member.1).fixed
  · exact allMembers_assembled_iff.mpr fun member _ kept => (settles member.1).settled

end MapSettles

end Prune

end ClientGen
