import ClientGen.Proofs.Document.References
import ClientGen.Proofs.Json.ReadBack
import ClientGen.Proofs.Prune.SchemaParts

/-!
What stands under one name of a document does not show in the rest of it. Two documents that differ
in one definition, or in one path, are read side by side: both are pruned, decoded and freed of their
references, and at every stage they agree on all that was not changed.
-/

set_option autoImplicit false

namespace ClientGen

open Json (Decoded Puts decodeEntries)

/-! ## Entries under all names but one -/

namespace Entries

variable {Value : Type}

/-- All entries, or all but those under one name. -/
def apartFrom (left? : Option String) (entries : Entries Value) : Entries Value :=
  entries.filter fun entry => some entry.1 ≠ left?

theorem apartFrom_around (key : String) (value : Value) (before after : Entries Value) :
    (before ++ (key, value) :: after).apartFrom (some key) =
      (before ++ after).apartFrom (some key) := by
  simp [apartFrom]

/-- Whatever keeps the names of entries can be done before some are left out. -/
theorem apartFrom_map {Result : Type} (left? : Option String) (change : String → Value → Result)
    (entries : Entries Value) :
    apartFrom left? (entries.map fun entry => (entry.1, change entry.1 entry.2)) =
      (entries.apartFrom left?).map fun entry => (entry.1, change entry.1 entry.2) := by
  rw [apartFrom, List.filter_map]
  rfl

theorem apartFrom_filter (left? : Option String) (keep : String × Value → Bool)
    (entries : Entries Value) :
    apartFrom left? (entries.filter keep) = (entries.apartFrom left?).filter keep :=
  List.filter_comm ..

/-- An insertion under another name leaves the place of an entry alone. -/
theorem exists_insert_around {key name : String} (other : name ≠ key) (inserted : Value)
    (before after : Entries Value) : ∃ left right, ∀ value,
      insert key inserted (before ++ (name, value) :: after) = left ++ (name, value) :: right := by
  induction before with
  | nil => exact ⟨[], insert key inserted after, fun value => by simp [insert, other]⟩
  | cons entry rest ih =>
      obtain ⟨left, right, around⟩ := ih
      by_cases same : entry.1 = key
      · exact ⟨(key, inserted) :: rest, after, fun value => by simp [insert, same]⟩
      · exact ⟨entry :: left, right, fun value => by simp [insert, same, around value]⟩

theorem get?_around {key name : String} (other : name ≠ key) (before after : Entries Value)
    (first second : Value) : get? key (before ++ (name, first) :: after) =
      get? key (before ++ (name, second) :: after) := by
  rw [get?_append, get?_append, get?_cons, get?_cons, if_neg other, if_neg other]

end Entries

namespace Json

/-- Two values are the same but for what stands under keys that are followed one after the other. -/
inductive DifferAt : List String → Json → Json → Prop where
  | here (first second : Json) : DifferAt [] first second
  | inside {key rest first second} (before after : List (String × Json)) :
      DifferAt rest first second →
      DifferAt (key :: rest) (.obj (before ++ (key, first) :: after))
        (.obj (before ++ (key, second) :: after))

/-- Two objects have the same members, in the same order, under all names or under all but one. -/
def AgreeApart (left? : Option String) (first second : Json) : Prop :=
  ∃ members others, first = .obj members ∧ second = .obj others ∧
    Entries.apartFrom left? members = Entries.apartFrom left? others

theorem DifferAt.agreeApart {key : String} {first second : Json}
    (differ : DifferAt [key] first second) : AgreeApart (some key) first second := by
  cases differ with
  | inside before after _ =>
      refine ⟨_, _, rfl, rfl, ?_⟩
      rw [Entries.apartFrom_around, Entries.apartFrom_around]

theorem decodeEntries_apartFrom {Value : Type} {decode : Json → Decoded Value}
    {members : List (String × Json)} {entries : Entries Value} (left? : Option String)
    (decoded : decodeEntries decode (.obj members) = .ok entries) :
    decodeEntries decode (.obj (Entries.apartFrom left? members)) =
      .ok (entries.apartFrom left?) := by
  have related := mapM_eq_ok_iff.mp decoded
  refine mapM_eq_ok_iff.mpr ?_
  clear decoded
  induction related with
  | nil => exact .nil
  | @cons member entry _ _ read _ ih =>
      obtain ⟨value, -, rfl⟩ := eq_of_map read
      unfold Entries.apartFrom at ih ⊢
      rw [List.filter_cons, List.filter_cons]
      split
      · exact .cons read ih
      · exact ih

theorem AgreeApart.entries {Value : Type} {decode : Json → Decoded Value} {left? : Option String}
    {first second : Json} (agree : AgreeApart left? first second) {entries other : Entries Value}
    (read : decodeEntries decode first = .ok entries)
    (readOther : decodeEntries decode second = .ok other) :
    entries.apartFrom left? = other.apartFrom left? := by
  obtain ⟨members, others, rfl, rfl, same⟩ := agree
  have left := decodeEntries_apartFrom left? read
  have right := decodeEntries_apartFrom left? readOther
  rw [same, right] at left
  exact Except.ok.inj left.symm

/-- Two records that are put together from the same members stay related if every member keeps them
so. -/
theorem Puts.related {Item Record : Type} {put : String → Item → Record → Decoded Record}
    {Related : Record → Record → Prop} {members : List (String × Item)}
    {before after other last : Record} (puts : Puts put before members after)
    (others : Puts put other members last)
    (step : ∀ name item before after other last, put name item before = .ok after →
      put name item other = .ok last → Related before other → Related after last)
    (start : Related before other) : Related after last := by
  induction members generalizing before other with
  | nil =>
      cases puts
      cases others
      exact start
  | cons member rest ih =>
      obtain ⟨next, first, puts⟩ := Puts.cons_iff.mp puts
      obtain ⟨middle, second, others⟩ := Puts.cons_iff.mp others
      exact ih puts others (step _ _ _ _ _ _ first second start)

theorem Puts.append_inv {Item Record : Type} {put : String → Item → Record → Decoded Record}
    {members rest : List (String × Item)} {before after : Record}
    (puts : Puts put before (members ++ rest) after) :
    ∃ next, Puts put before members next ∧ Puts put next rest after := by
  induction members generalizing before with
  | nil => exact ⟨before, .nil, puts⟩
  | cons member members ih =>
      obtain ⟨next, first, puts⟩ := Puts.cons_iff.mp puts
      obtain ⟨middle, puts, later⟩ := ih puts
      exact ⟨middle, Puts.cons_iff.mpr ⟨next, first, puts⟩, later⟩

theorem RecordShape.puts_of_decode {Record : Type} {shape : RecordShape} {empty record : Record}
    {put : String → Json → Record → Decoded Record} {members : List (String × Json)}
    (decoded : shape.decode empty put (.obj members) = .ok record) :
    Puts put empty members record := by
  obtain ⟨last, puts, complete⟩ := exists_of_bind decoded
  split at complete
  · cases complete
  · cases complete
    exact puts

/-- Two records that are read from objects with one different member are related if that member makes
them so and every other member keeps them so. -/
theorem RecordShape.related_of_decode {Record : Type} {shape : RecordShape} {empty : Record}
    {put : String → Json → Record → Decoded Record} {Related : Record → Record → Prop}
    {name : String} {first second : Json} {before after : List (String × Json)}
    {record other : Record}
    (decoded : shape.decode empty put (.obj (before ++ (name, first) :: after)) = .ok record)
    (decodedOther : shape.decode empty put (.obj (before ++ (name, second) :: after)) = .ok other)
    (change : ∀ common left right, put name first common = .ok left →
      put name second common = .ok right → Related left right)
    (step : ∀ name item before after other last, put name item before = .ok after →
      put name item other = .ok last → Related before other → Related after last) :
    Related record other := by
  -- Both records are the same until the member that differs is put.
  obtain ⟨common, left, puts⟩ := Puts.append_inv (puts_of_decode decoded)
  obtain ⟨same, right, others⟩ := Puts.append_inv (puts_of_decode decodedOther)
  cases left.symm.trans right
  obtain ⟨next, here, puts⟩ := Puts.cons_iff.mp puts
  obtain ⟨nextOther, there, others⟩ := Puts.cons_iff.mp others
  exact puts.related others step (change common next nextOther here there)

end Json

/-! ## Pruning -/

namespace Prune

open Json (AgreeApart DifferAt)

theorem agreeApart_keepMembers {problem? : String → Json → Option Diagnostic}
    {prune : String → Json → Reported Json} {left? : Option String} {first second : Json}
    (agree : AgreeApart left? first second) :
    AgreeApart left? (onMembers (keepMembers problem? prune) first).value
      (onMembers (keepMembers problem? prune) second).value := by
  obtain ⟨members, others, rfl, rfl, same⟩ := agree
  have kept : ∀ members : List (String × Json),
      Entries.apartFrom left? (keepAll (fun member => problem? member.1 member.2)
        (fun member => named member.1 (prune member.1 member.2)) members).value =
      ((Entries.apartFrom left? members).map fun member =>
        (member.1, (prune member.1 member.2).value)).filter fun member =>
          (problem? member.1 member.2).isNone := by
    intro members
    refine (Entries.apartFrom_filter left? _ _).trans ?_
    exact congrArg _ (Entries.apartFrom_map left? (fun name value => (prune name value).value)
      members)
  exact ⟨_, _, rfl, rfl, by rw [kept, kept, same]⟩

theorem agreeApart_definitions {left? : Option String} {first second : Json}
    (agree : AgreeApart left? first second) :
    AgreeApart left? (definitions first).value (definitions second).value := by
  rw [definitions_eq]
  exact agreeApart_keepMembers agree

theorem agreeApart_paths {left? : Option String} {first second : Json}
    (agree : AgreeApart left? first second) :
    AgreeApart left? (paths first).value (paths second).value := by
  rw [paths_eq]
  exact agreeApart_keepMembers agree

/-- The value of a pruned record of maps is put together from its pruned members, one by one. -/
theorem assemble_around (order : List String) {prune : String → Json → Reported (Option Json)}
    (stays : ∀ name value, (prune name value).value.isSome) (name : String) (value : Json)
    (before after : List (String × Json)) :
    (assemble order ((before ++ (name, value) :: after).map fun member =>
        (member.1, prune member.1 member.2))).value =
      .obj ((before.map fun member => (member.1, (prune member.1 member.2).value.getD .null)) ++
        (name, (prune name value).value.getD .null) ::
        (after.map fun member => (member.1, (prune member.1 member.2).value.getD .null))) := by
  rw [assemble_value order stays, List.map_append, List.map_cons]

end Prune

/-! ## Decoding -/

/-- Two collections of shared values are the same but for one schema. -/
structure Components.Agree (definition? : Option String) (first second : Components) : Prop where
  schemas : first.schemas.apartFrom definition? = second.schemas.apartFrom definition?
  parameters : first.parameters = second.parameters
  requestBodies : first.requestBodies = second.requestBodies
  responses : first.responses = second.responses

/-- Two documents of the older dialect agree on all that counts in them, but for one definition and
one path. -/
structure SwaggerDocument.Agree (definition? path? : Option String)
    (first second : SwaggerDocument) : Prop where
  info : first.info = second.info
  definitions : first.definitions.apartFrom definition? =
    second.definitions.apartFrom definition?
  paths : first.paths.apartFrom path? = second.paths.apartFrom path?
  parameters : first.parameters = second.parameters
  responses : first.responses = second.responses
  consumes : first.consumes = second.consumes
  produces : first.produces = second.produces

/-- The same for two documents of the newer dialect. -/
structure OpenApiDocument.Agree (definition? path? : Option String)
    (first second : OpenApiDocument) : Prop where
  info : first.info = second.info
  paths : first.paths.apartFrom path? = second.paths.apartFrom path?
  components : (first.components.getD {}).Agree definition? (second.components.getD {})

/-- How the pruned values of one member differ if one definition or one path was changed. -/
inductive Source.MemberChange : (definition? path? : Option String) → String → Json → Json → Prop
  where
  | definitions {key first second} : Json.AgreeApart (some key) first second →
      MemberChange (some key) none "definitions" first second
  | components {key first second} : (∀ left right,
        Json.decodeOption Components.decode first = .ok left →
        Json.decodeOption Components.decode second = .ok right →
        (left.getD {}).Agree (some key) (right.getD {})) →
      MemberChange (some key) none "components" first second
  | paths {key first second} : Json.AgreeApart (some key) first second →
      MemberChange none (some key) "paths" first second

section Agree

variable {definition? path? : Option String} {name : String} {value first second : Json}

theorem Components.Agree.refl (components : Components) : Agree definition? components components :=
  ⟨rfl, rfl, rfl, rfl⟩

theorem Components.Agree.put {before after other last : Components}
    (one : put name value before = .ok after) (same : put name value other = .ok last)
    (agree : Agree definition? before other) : Agree definition? after last := by
  unfold Components.put at one same
  split at one
  case h_5 =>
    cases one
    split at same
    case h_5 =>
      cases same
      exact agree
    all_goals contradiction
  all_goals
    obtain ⟨found, rfl, rfl⟩ := Json.eq_of_builds one same
  case h_1 => exact { agree with schemas := rfl }
  case h_2 => exact { agree with parameters := rfl }
  case h_3 => exact { agree with requestBodies := rfl }
  case h_4 => exact { agree with responses := rfl }

theorem SwaggerDocument.Agree.refl (document : SwaggerDocument) :
    Agree definition? path? document document :=
  ⟨rfl, rfl, rfl, rfl, rfl, rfl, rfl⟩

theorem SwaggerDocument.Agree.put {before after other last : SwaggerDocument}
    (one : put name value before = .ok after) (same : put name value other = .ok last)
    (agree : Agree definition? path? before other) : Agree definition? path? after last := by
  unfold SwaggerDocument.put at one same
  split at one
  case h_10 =>
    cases one
    split at same
    case h_10 =>
      cases same
      exact agree
    all_goals contradiction
  all_goals
    obtain ⟨found, rfl, rfl⟩ := Json.eq_of_builds one same
  case h_2 => exact { agree with info := rfl }
  case h_4 => exact { agree with paths := rfl }
  case h_5 => exact { agree with definitions := rfl }
  case h_6 => exact { agree with parameters := rfl }
  case h_7 => exact { agree with responses := rfl }
  case h_8 => exact { agree with consumes := rfl }
  case h_9 => exact { agree with produces := rfl }
  all_goals exact { agree with }

theorem SwaggerDocument.agree_of_change {common left right : SwaggerDocument}
    (change : Source.MemberChange definition? path? name first second)
    (one : put name first common = .ok left) (other : put name second common = .ok right) :
    Agree definition? path? left right := by
  have same : Agree definition? path? common common := .refl common
  cases change with
  | definitions agree =>
      obtain ⟨entries, read, rfl⟩ := Json.eq_of_build one
      obtain ⟨others, readOther, rfl⟩ := Json.eq_of_build other
      exact { same with definitions := agree.entries read readOther }
  | components =>
      cases one
      cases other
      exact same
  | paths agree =>
      obtain ⟨entries, read, rfl⟩ := Json.eq_of_build one
      obtain ⟨others, readOther, rfl⟩ := Json.eq_of_build other
      exact { same with paths := agree.entries read readOther }

theorem OpenApiDocument.Agree.refl (document : OpenApiDocument) :
    Agree definition? path? document document :=
  ⟨rfl, rfl, .refl _⟩

theorem OpenApiDocument.Agree.put {before after other last : OpenApiDocument}
    (one : put name value before = .ok after) (same : put name value other = .ok last)
    (agree : Agree definition? path? before other) : Agree definition? path? after last := by
  unfold OpenApiDocument.put at one same
  split at one
  case h_5 =>
    cases one
    split at same
    case h_5 =>
      cases same
      exact agree
    all_goals contradiction
  all_goals
    obtain ⟨found, rfl, rfl⟩ := Json.eq_of_builds one same
  case h_1 => exact { agree with }
  case h_2 => exact { agree with info := rfl }
  case h_3 => exact { agree with paths := rfl }
  case h_4 => exact { agree with components := .refl _ }

theorem OpenApiDocument.agree_of_change {common left right : OpenApiDocument}
    (change : Source.MemberChange definition? path? name first second)
    (one : put name first common = .ok left) (other : put name second common = .ok right) :
    Agree definition? path? left right := by
  have same : Agree definition? path? common common := .refl common
  cases change with
  | definitions =>
      cases one
      cases other
      exact same
  | components agree =>
      obtain ⟨components, read, rfl⟩ := Json.eq_of_build one
      obtain ⟨others, readOther, rfl⟩ := Json.eq_of_build other
      exact { same with components := agree _ _ read readOther }
  | paths agree =>
      obtain ⟨entries, read, rfl⟩ := Json.eq_of_build one
      obtain ⟨others, readOther, rfl⟩ := Json.eq_of_build other
      exact { same with paths := agree.entries read readOther }

theorem Components.agree_of_differAt {key : String} {left right : Option Components}
    (differ : Json.DifferAt ["schemas", key] first second)
    (one : Json.decodeOption decode (Prune.components first).value = .ok left)
    (other : Json.decodeOption decode (Prune.components second).value = .ok right) :
    (left.getD {}).Agree (some key) (right.getD {}) := by
  cases differ with
  | inside before after differ =>
      rw [Prune.components, Prune.assemble_around _ Prune.componentsMember_isSome] at one other
      obtain ⟨components, read, rfl⟩ := Json.eq_of_map one
      obtain ⟨others, readOther, rfl⟩ := Json.eq_of_map other
      refine Json.RecordShape.related_of_decode read readOther
        (fun common left right put same => ?_) fun _ _ _ _ _ _ => Agree.put
      obtain ⟨schemas, found, rfl⟩ := Json.eq_of_build put
      obtain ⟨otherSchemas, foundOther, rfl⟩ := Json.eq_of_build same
      have agree := Prune.agreeApart_definitions differ.agreeApart
      have alike : Agree (some key) common common := .refl common
      exact { alike with schemas := agree.entries found foundOther }

end Agree

/-! ## Documents of one dialect -/

namespace Source

/-- Two documents of the same dialect agree on all that counts in them, but for one definition and one
path. -/
inductive Agree (definition? path? : Option String) : Source → Source → Prop where
  | swagger {first second} : first.Agree definition? path? second →
      Agree definition? path? (.swagger first) (.swagger second)
  | openApi {first second} : first.Agree definition? path? second →
      Agree definition? path? (.openApi first) (.openApi second)

variable {definition? path? : Option String} {name : String} {first second : Json}
variable {before after : List (String × Json)}

theorem MemberChange.ne_version {key : String} (isVersion : key ∈ ["swagger", "openapi"])
    (change : MemberChange definition? path? name first second) : name ≠ key := by
  simp only [List.mem_cons, List.not_mem_nil, or_false] at isVersion
  rcases isVersion with rfl | rfl <;> cases change <;> decide

/-- The values of a member after pruning. -/
def pruned (name : String) (value : Json) : Json :=
  (Prune.documentMember name value).value.getD .null

theorem related_of_decodeAs {Record : Type} {shape : Json.RecordShape} {empty : Record}
    {put : String → Json → Record → Decoded Record} {Related : Record → Record → Prop}
    {key version start : String} {one other : Reported Record} (notVersion : name ≠ key)
    (decoded : decodeAs key version start (shape.decode empty put)
      (.obj (before ++ (name, first) :: after)) = .ok one)
    (decodedOther : decodeAs key version start (shape.decode empty put)
      (.obj (before ++ (name, second) :: after)) = .ok other)
    (change : ∀ common left right, put name (pruned name first) common = .ok left →
      put name (pruned name second) common = .ok right → Related left right)
    (step : ∀ name item before after other last, put name item before = .ok after →
      put name item other = .ok last → Related before other → Related after last) :
    Related one.value other.value := by
  -- The version is written into the document before it is pruned, at the same place in both.
  obtain ⟨left, right, around⟩ :=
    Entries.exists_insert_around notVersion (.str version : Json) before after
  have reads : ∀ value (reported : Reported Record),
      decodeAs key version start (shape.decode empty put)
        (.obj (before ++ (name, value) :: after)) = .ok reported →
      shape.decode empty put (.obj
        ((left.map fun member => (member.1, pruned member.1 member.2)) ++
          (name, pruned name value) ::
          (right.map fun member => (member.1, pruned member.1 member.2)))) =
        .ok reported.value := by
    intro value reported decoded
    rw [decodeAs] at decoded
    split at decoded
    · simp only [withVersion, around, Prune.document,
        Prune.assemble_around _ Prune.documentMember_isSome] at decoded
      split at decoded
      · next read =>
          cases decoded
          exact read
      · cases decoded
    · cases decoded
  exact Json.RecordShape.related_of_decode (reads first one decoded)
    (reads second other decodedOther) change step

theorem version?_around {key : String} (other : name ≠ key) (first second : Json) :
    version? key (.obj (before ++ (name, second) :: after)) =
      version? key (.obj (before ++ (name, first) :: after)) := by
  rw [version?, version?, Json.member?, Json.member?, Entries.get?_around other]

/-- Two documents that are read, and that differ in a definition or in a path, are of the same
dialect and agree on the rest. -/
theorem agree_of_detect {one other : Reported Source}
    (read : detect (.obj (before ++ (name, first) :: after)) = .ok one)
    (readOther : detect (.obj (before ++ (name, second) :: after)) = .ok other)
    (change : MemberChange definition? path? name (pruned name first) (pruned name second)) :
    Agree definition? path? one.value other.value := by
  unfold detect at read readOther
  rw [version?_around (change.ne_version (.head _)) first] at readOther
  cases found : version? "swagger" (.obj (before ++ (name, first) :: after)) with
  | some version =>
      simp only [found] at read readOther
      obtain ⟨document, decoded, rfl⟩ := Json.eq_of_map read
      obtain ⟨otherDocument, decodedOther, rfl⟩ := Json.eq_of_map readOther
      exact .swagger (related_of_decodeAs (change.ne_version (.head _)) decoded decodedOther
        (fun _ _ _ => SwaggerDocument.agree_of_change change)
        fun _ _ _ _ _ _ => SwaggerDocument.Agree.put)
  | none =>
      rw [version?_around (change.ne_version (.tail _ (.head _))) first] at readOther
      simp only [found] at read readOther
      cases known : version? "openapi" (.obj (before ++ (name, first) :: after)) with
      | none =>
          simp only [known] at read
          cases read
      | some version =>
          simp only [known] at read readOther
          obtain ⟨document, decoded, rfl⟩ := Json.eq_of_map read
          obtain ⟨otherDocument, decodedOther, rfl⟩ := Json.eq_of_map readOther
          exact .openApi (related_of_decodeAs (change.ne_version (.tail _ (.head _))) decoded
            decodedOther (fun _ _ _ => OpenApiDocument.agree_of_change change)
            fun _ _ _ _ _ _ => OpenApiDocument.Agree.put)

/-- The version member of a document names a version that is read. -/
def Understood (members : List (String × Json)) : Prop :=
  (∃ version, version? "swagger" (.obj members) = some version ∧
    Text.startsWith version "2." = true) ∨
  version? "swagger" (.obj members) = none ∧
    ∃ version, version? "openapi" (.obj members) = some version ∧
      Text.startsWith version "3." = true

theorem exists_detect_ok {members : List (String × Json)} (distinct : (Entries.keys members).Nodup)
    (understood : Understood members) (shaped : WellShaped members) :
    ∃ one, detect (.obj members) = .ok one := by
  rcases understood with ⟨version, found, start⟩ | ⟨none, version, found, start⟩
  · obtain ⟨reported, decoded⟩ := exists_swagger_ok distinct shaped start
    exact ⟨_, by simp only [detect, found, decoded]; rfl⟩
  · obtain ⟨reported, decoded⟩ := exists_openApi_ok distinct shaped start
    exact ⟨_, by simp only [detect, none, found, decoded]; rfl⟩

end Source

/-! ## Documents without references -/

theorem PathItem.inlinedEntries_value (shared : Shared) (complete : Operation → Operation)
    (paths : Entries PathItem) : (inlinedEntries shared complete paths).value =
      paths.map fun entry => (entry.1, (entry.2.inlined shared complete entry.1).value) := by
  induction paths with
  | nil => rfl
  | cons entry rest ih =>
      obtain ⟨url, item⟩ := entry
      rw [inlinedEntries, Reported.value_bind, Reported.value_bind, ih]
      rfl

theorem PathItem.apartFrom_inlinedEntries {shared other : Shared}
    {complete completeOther : Operation → Operation} {path? : Option String}
    {paths others : Entries PathItem} (sameShared : shared = other)
    (sameComplete : complete = completeOther)
    (agree : paths.apartFrom path? = others.apartFrom path?) :
    (inlinedEntries shared complete paths).value.apartFrom path? =
      (inlinedEntries other completeOther others).value.apartFrom path? := by
  subst sameShared sameComplete
  have inlinedFirst : ∀ paths, (inlinedEntries shared complete paths).value.apartFrom path? =
      (paths.apartFrom path?).map fun entry =>
        (entry.1, (entry.2.inlined shared complete entry.1).value) := by
    intro paths
    rw [inlinedEntries_value]
    exact Entries.apartFrom_map path?
      (fun url item => (item.inlined shared complete url).value) paths
  rw [inlinedFirst, inlinedFirst, agree]

namespace Document

/-- Two documents say the same about themselves, and have the same definitions and the same paths, in
the same order, but for one of them. -/
structure Agree (definition? path? : Option String) (first second : Document) : Prop where
  info : first.info = second.info
  definitions : first.definitions.apartFrom definition? =
    second.definitions.apartFrom definition?
  paths : first.paths.apartFrom path? = second.paths.apartFrom path?

theorem agree_ofSource {definition? path? : Option String} {first second : Source}
    (agree : first.Agree definition? path? second) :
    Agree definition? path? (ofSource first).value (ofSource second).value := by
  cases agree with
  | swagger agree =>
      refine ⟨agree.info, agree.definitions, ?_⟩
      simp only [ofSource, ofSwagger, Reported.value_bind, Reported.value_pure]
      exact PathItem.apartFrom_inlinedEntries (by rw [agree.parameters, agree.responses])
        (by rw [agree.consumes, agree.produces]) agree.paths
  | openApi agree =>
      refine ⟨agree.info, agree.components.schemas, ?_⟩
      simp only [ofSource, ofOpenApi, Reported.value_bind, Reported.value_pure]
      have shared := agree.components
      exact PathItem.apartFrom_inlinedEntries
        (by rw [shared.parameters, shared.requestBodies, shared.responses]) rfl agree.paths

/-- Two documents are the same but for the value of one definition, or of one path. -/
inductive Change : (definition? path? : Option String) → Json → Json → Prop where
  | definition {path key first second} : path ∈ Prune.definitionPaths →
      Json.DifferAt (path ++ [key]) first second → Change (some key) none first second
  | path {key first second} :
      Json.DifferAt ["paths", key] first second → Change none (some key) first second

variable {definition? path? : Option String}

theorem Change.exists_memberChange {first second : Json}
    (change : Change definition? path? first second) : ∃ name before one other after,
      first = .obj (before ++ (name, one) :: after) ∧
      second = .obj (before ++ (name, other) :: after) ∧
      Source.MemberChange definition? path? name (Source.pruned name one)
        (Source.pruned name other) := by
  cases change with
  | definition isPath differ =>
      simp only [Prune.definitionPaths, List.mem_cons, List.not_mem_nil, or_false] at isPath
      rcases isPath with rfl | rfl
      · cases differ with
        | inside before after differ =>
            refine ⟨"definitions", before, _, _, after, rfl, rfl, .definitions ?_⟩
            exact Prune.agreeApart_definitions differ.agreeApart
      · cases differ with
        | inside before after differ =>
            refine ⟨"components", before, _, _, after, rfl, rfl, .components ?_⟩
            exact fun _ _ one other => Components.agree_of_differAt differ one other
  | path differ =>
      cases differ with
      | inside before after differ =>
          refine ⟨"paths", before, _, _, after, rfl, rfl, .paths ?_⟩
          exact Prune.agreeApart_paths differ.agreeApart

/-- What stands under one definition or under one path of a document has no effect on its other
definitions and paths, nor on their order. Neither can it keep the document from being read as long
as the two have the right shape on the outside. -/
theorem entries_isolated {first second : List (String × Json)}
    (change : Change definition? path? (.obj first) (.obj second)) :
    (∀ one other, ofJson (.obj first) = .ok one → ofJson (.obj second) = .ok other →
      Agree definition? path? one.value other.value) ∧
    ((Entries.keys first).Nodup → Source.Understood first → Source.WellShaped first →
      Source.WellShaped second →
      ∃ one other, ofJson (.obj first) = .ok one ∧ ofJson (.obj second) = .ok other) := by
  obtain ⟨name, before, old, new, after, here, there, member⟩ := change.exists_memberChange
  cases here
  cases there
  constructor
  · intro one other read readOther
    obtain ⟨source, found, rfl⟩ := Json.eq_of_map read
    obtain ⟨otherSource, foundOther, rfl⟩ := Json.eq_of_map readOther
    exact agree_ofSource (Source.agree_of_detect found foundOther member)
  · intro distinct understood shaped shapedOther
    have distinctOther : (Entries.keys (before ++ (name, new) :: after)).Nodup := by
      simpa [Entries.keys] using distinct
    have understoodOther : Source.Understood (before ++ (name, new) :: after) := by
      rw [Source.Understood, Source.version?_around (member.ne_version (.head _)) old,
        Source.version?_around (member.ne_version (.tail _ (.head _))) old]
      exact understood
    obtain ⟨one, found⟩ := Source.exists_detect_ok distinct understood shaped
    obtain ⟨other, foundOther⟩ :=
      Source.exists_detect_ok distinctOther understoodOther shapedOther
    exact ⟨_, _, congrArg (Except.map _) found, congrArg (Except.map _) foundOther⟩

/-- A definition that is no schema is lost without the ones beside it. -/
theorem entries_isolated_pets :
    let members (pet : Json) : List (String × Json) := [("swagger", .str "2.0"),
      ("definitions", .obj [("Owner", .obj []), ("Pet", pet), ("Store", .obj [])])]
    Change (some "Pet") none (.obj (members (.str "cat"))) (.obj (members (.obj []))) ∧
      ∃ one other, ofJson (.obj (members (.str "cat"))) = .ok one ∧
        ofJson (.obj (members (.obj []))) = .ok other ∧
        Agree (some "Pet") none one.value other.value := by
  intro members
  have change : Change (some "Pet") none (.obj (members (.str "cat")))
      (.obj (members (.obj []))) :=
    .definition (show ["definitions"] ∈ Prune.definitionPaths from .head _)
      (.inside [("swagger", .str "2.0")] []
        (.inside [("Owner", .obj [])] [("Store", .obj [])] (.here _ _)))
  have shaped : ∀ pet, Source.WellShaped (members pet) := by
    intro pet
    constructor <;> simp [members, Json.IsMap]
  have isolated := entries_isolated change
  obtain ⟨one, other, read, readOther⟩ := isolated.2 (by decide)
    (.inl ⟨"2.0", rfl, by decide⟩) (shaped _) (shaped _)
  exact ⟨change, one, other, read, readOther, isolated.1 one other read readOther⟩

end Document

end ClientGen
