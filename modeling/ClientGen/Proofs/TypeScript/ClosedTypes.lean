import ClientGen.ApiModel
import ClientGen.Proofs.Definitions.Spelling
import ClientGen.Proofs.Endpoint.Spelling
import ClientGen.Proofs.TypeScript.Interfaces

/-!
Closed types: each identifier in a type of a client is brought in by the translation, a parameter of
the definition around it, or the name of something that is declared, and imported if it is declared
elsewhere.
-/

set_option autoImplicit false

namespace ClientGen.TypeScript

/-! ## Types in declarations and modules -/

def Declaration.types : Declaration → List String
  | .interface _ members => members.map Member.type
  | .alias _ _ target => [target]

/-- The types in the signature of a function and in the interface for its parameters. -/
def Function.types (function : Function) : List String :=
  function.parameters.map Member.type ++
    (if function.parameters.isEmpty then [] else [function.parametersName]) ++ [function.response]

def Module.types (module : Module) : List String :=
  module.interfaces.flatMap (fun entry => entry.2.map Member.type) ++
    module.functions.flatMap Function.types

/-- The names of the interfaces in a module. -/
def Module.declared (module : Module) : List String :=
  module.interfaces.map (·.1) ++
    (module.functions.filter fun function => !function.parameters.isEmpty).map
      Function.parametersName

/-- Whether a client can be written and all identifiers in its types are known where they stand. -/
structure TypesClosed (model : ApiModel) : Prop where
  writable : isWritableClient model.definitions model.endpoints = true
  definitions : ∀ entry ∈ model.definitions.entries,
    ∀ type ∈ (Declaration.ofDefinition entry.1 entry.2).types, ∀ name ∈ identifiers type,
      name ∈ builtInNames ∨ model.definitions.InScope entry.1 name
  modules : ∀ module ∈ modules model.definitions model.endpoints, ∀ type ∈ module.types,
    ∀ name ∈ identifiers type, name ∈ builtInNames ∨
      (name ∈ model.definitions.names.map Names.base ∧ name ∈ module.imports) ∨
      name ∈ module.declared

/-! ## Translated types -/

section Translated

variable {known : String → Prop} {type name : String}

theorem isSome_ofType? (isText : IsText known type) : (ofType? type).isSome := by
  obtain ⟨found, written, -⟩ := isText.exists_ofType?
  rw [written]
  rfl

theorem identifiers_ofType (isText : IsText known type) (member : name ∈ identifiers (ofType type)) :
    name.toList ∈ wordRuns [] (ofType type).toList ∧ (name ∈ builtInNames ∨ known name) := by
  obtain ⟨found, written, uses⟩ := isText.exists_ofType?
  have same : ofType type = found := by rw [ofType, written, Option.getD_some]
  rw [same] at member ⊢
  exact uses.identifiers member

variable {field : Field}

theorem isWritable_of_isText (isText : field.enumOption = [] → IsText known field.type) :
    isWritable field = true := by
  cases none : field.enumOption with
  | nil => simp [isWritable, isSome_ofType? (isText none)]
  | cons first rest => simp [isWritable, Field.isEnum, none]

/-- Literals bring in no name but that of the null value. -/
theorem identifiers_ofField (isText : field.enumOption = [] → IsText known field.type)
    (member : name ∈ identifiers (ofField field)) :
    name ∈ builtInNames ∨ (name.toList ∈ wordRuns [] (ofField field).toList ∧ known name) := by
  by_cases listed : field.isEnum = true
  · left
    rw [identifiers_of_isEnum listed member]
    decide
  · have none : field.enumOption = [] := by simpa [Field.isEnum] using listed
    rw [ofField, if_neg listed] at member ⊢
    obtain ⟨isRun, builtIn | isKnown⟩ := identifiers_ofType (isText none) member
    · exact .inl builtIn
    · exact .inr ⟨isRun, isKnown⟩

end Translated

/-! ## Definitions -/

theorem types_ofDefinition {name type : String} {definition : Definition}
    (member : type ∈ (Declaration.ofDefinition name definition).types) :
    type = "Record<string, unknown>" ∨ ∃ field ∈ definition.shown, type = ofField field := by
  cases definition with
  | scalar field => exact .inr ⟨field, .head _, List.mem_singleton.mp member⟩
  | record fields =>
      cases fields with
      | nil => exact .inl (List.mem_singleton.mp member)
      | cons first rest =>
          rw [Declaration.ofDefinition, Declaration.types, List.map_map] at member
          · obtain ⟨field, isField, rfl⟩ := List.mem_map.mp member
            exact .inr ⟨field, isField, rfl⟩
          · simp

section Definitions

variable {definitions : Definitions} (spelled : ∀ entry ∈ definitions.entries,
  ∀ field ∈ entry.2.shown, field.enumOption = [] →
    IsText (definitions.InScope entry.1) field.type)

include spelled

theorem isWritable_definitions :
    (definitions.entries.all fun entry => Declaration.isWritableDefinition entry.2) = true := by
  refine List.all_eq_true.mpr fun entry member => ?_
  have writable : ∀ field ∈ entry.2.shown, isWritable field = true := fun field shown =>
    isWritable_of_isText (spelled entry member field shown)
  obtain ⟨name, definition⟩ := entry
  cases definition with
  | scalar field => exact writable field (.head _)
  | record fields => exact List.all_eq_true.mpr writable

theorem identifiers_definitions {entry : String × Definition}
    (member : entry ∈ definitions.entries) {type name : String}
    (isType : type ∈ (Declaration.ofDefinition entry.1 entry.2).types)
    (inType : name ∈ identifiers type) :
    name ∈ builtInNames ∨ definitions.InScope entry.1 name := by
  rcases types_ofDefinition isType with rfl | ⟨field, shown, rfl⟩
  · have builtIn : ∀ name ∈ identifiers "Record<string, unknown>", name ∈ builtInNames := by
      decide +kernel
    exact .inl (builtIn name inType)
  · exact (identifiers_ofField (spelled entry member field shown) inType).imp_right And.right

end Definitions

/-! ## Collecting interfaces -/

/-- Whether the interfaces for the objects of some fields are known in a module. -/
def Knows (exported : List String) (locals : Locals) (fields : List Field) : Prop :=
  ∀ field ∈ fields, field.children ≠ [] → isKnown exported locals (localName field.type) = true

/-- Fields with closed types in a module that knows the interfaces for their objects. -/
structure FieldsClosed (refers : String → Prop) (exported : List String) (locals : Locals)
    (fields : List Field) : Prop where
  closed : ∀ field ∈ fields, field.Closed refers
  known : Knows exported locals fields

/-- What collecting does to the interfaces so far: none is lost, and the fields of the new ones are
closed. -/
structure Gathered (refers : String → Prop) (exported : List String) (locals after : Locals) :
    Prop where
  kept : locals ⊆ after
  closed : ∀ entry ∈ after, entry ∈ locals ∨ FieldsClosed refers exported after entry.2

section Collecting

variable {refers : String → Prop} {exported : List String} {locals after last : Locals}

theorem isKnown_mono (more : locals ⊆ after) {name : String}
    (known : isKnown exported locals name = true) : isKnown exported after name = true := by
  rw [isKnown, Bool.or_eq_true] at known ⊢
  refine known.imp_right fun there => ?_
  obtain ⟨entry, member, same⟩ := List.any_eq_true.mp there
  exact List.any_eq_true.mpr ⟨entry, more member, same⟩

theorem Knows.mono {fields : List Field} (knows : Knows exported locals fields)
    (more : locals ⊆ after) : Knows exported after fields :=
  fun field member nonempty => isKnown_mono more (knows field member nonempty)

theorem Gathered.refl (locals : Locals) : Gathered refers exported locals locals :=
  ⟨fun _ member => member, fun _ member => .inl member⟩

theorem Gathered.trans (first : Gathered refers exported locals after)
    (second : Gathered refers exported after last) : Gathered refers exported locals last where
  kept := fun _ member => second.kept (first.kept member)
  closed entry member := by
    cases second.closed entry member with
    | inr closed => exact .inr closed
    | inl earlier =>
        refine (first.closed entry earlier).imp_right fun closed => ?_
        exact ⟨closed.closed, closed.known.mono second.kept⟩

theorem children_closed {field : Field} (closed : field.Closed refers) :
    ∀ child ∈ field.children, child.Closed refers := by
  cases closed with
  | mk _ inside => exact inside

mutual

theorem collectField_gathers : (field : Field) → (locals : Locals) → field.Closed refers →
    Gathered refers exported locals (collectField exported field locals) ∧
      (field.children ≠ [] →
        isKnown exported (collectField exported field locals) (localName field.type) = true)
  | ⟨_, type, _, _, _, _, _, _, properties⟩, locals, closed =>
      collectProperties_gathers properties (localName type) locals (children_closed closed)

theorem collectProperties_gathers : (properties : Option (List Field)) → (name : String) →
    (locals : Locals) → (∀ child ∈ properties.getD [], child.Closed refers) →
    Gathered refers exported locals (collectProperties exported name properties locals) ∧
      (properties.getD [] ≠ [] →
        isKnown exported (collectProperties exported name properties locals) name = true)
  | none, _, locals, _ => ⟨.refl locals, fun nonempty => absurd rfl nonempty⟩
  | some fields, name, locals, closed => by
      rw [collectProperties]
      split
      · next stop =>
          refine ⟨.refl locals, fun nonempty => ?_⟩
          simpa [show fields ≠ [] from nonempty] using stop
      · obtain ⟨gathered, known⟩ :=
          collectFields_gathers fields (locals ++ [(name, fields)]) closed
        refine ⟨⟨fun _ member => ?_, fun entry member => ?_⟩, fun _ => ?_⟩
        · exact gathered.kept (List.mem_append_left _ member)
        · cases gathered.closed entry member with
          | inr closed => exact .inr closed
          | inl earlier =>
              rcases List.mem_append.mp earlier with before | new
              · exact .inl before
              · rw [List.mem_singleton.mp new]
                exact .inr ⟨closed, known⟩
        · refine isKnown_mono gathered.kept ?_
          simp [isKnown]

theorem collectFields_gathers : (fields : List Field) → (locals : Locals) →
    (∀ field ∈ fields, field.Closed refers) →
    Gathered refers exported locals (collectFields exported fields locals) ∧
      Knows exported (collectFields exported fields locals) fields
  | [], locals, _ => ⟨.refl locals, fun _ none => absurd none List.not_mem_nil⟩
  | field :: rest, locals, closed => by
      obtain ⟨first, now⟩ := collectField_gathers field locals (closed field (.head _))
      obtain ⟨second, later⟩ := collectFields_gathers rest (collectField exported field locals)
        fun other member => closed other (.tail _ member)
      rw [collectFields]
      refine ⟨first.trans second, fun other member => ?_⟩
      cases member with
      | head => exact fun nonempty => isKnown_mono second.kept (now nonempty)
      | tail _ inRest => exact later other inRest

end

/-- Whether the interfaces for the objects of an operation are known in a module. -/
structure KnowsEndpoint (exported : List String) (locals : Locals) (endpoint : Endpoint) : Prop where
  parameters : Knows exported locals (declaredParameters endpoint)
  reply : endpoint.response.properties ≠ [] →
    isKnown exported locals (localName endpoint.response.type) = true

theorem collectEndpoint_gathers {endpoint : Endpoint} (closed : endpoint.Closed refers)
    (locals : Locals) :
    Gathered refers exported locals (collectEndpoint exported locals endpoint) ∧
      KnowsEndpoint exported (collectEndpoint exported locals endpoint) endpoint := by
  obtain ⟨first, parameters⟩ := @collectFields_gathers refers exported
    (declaredParameters endpoint) locals fun field declared =>
      closed.parameters field (distinctParameters_subset _ declared)
  obtain ⟨second, reply⟩ := @collectProperties_gathers refers exported
    (some endpoint.response.properties) (localName endpoint.response.type)
    (collectFields exported (declaredParameters endpoint) locals) closed.inside
  exact ⟨first.trans second, parameters.mono second.kept, reply⟩

theorem localsOf_gathers {endpoints : Entries Endpoint}
    (closed : ∀ entry ∈ endpoints, entry.2.Closed refers) :
    Gathered refers exported [] (localsOf exported endpoints) ∧
      ∀ entry ∈ endpoints, KnowsEndpoint exported (localsOf exported endpoints) entry.2 := by
  induction endpoints using List.reverseRecOn with
  | nil => exact ⟨.refl [], fun _ none => absurd none List.not_mem_nil⟩
  | append_singleton before entry ih =>
      obtain ⟨first, done⟩ := ih fun other member => closed other (List.mem_append_left _ member)
      obtain ⟨second, now⟩ := collectEndpoint_gathers
        (closed entry (List.mem_append_right _ (.head _))) (localsOf exported before)
      rw [localsOf_concat]
      refine ⟨first.trans second, fun other member => ?_⟩
      rcases List.mem_append.mp member with earlier | new
      · have known := done other earlier
        exact ⟨known.parameters.mono second.kept,
          fun nonempty => isKnown_mono second.kept (known.reply nonempty)⟩
      · rw [List.mem_singleton.mp new]
        exact now

end Collecting

/-! ## Modules -/

theorem mem_insertSorted {text other : String} {texts : List String} :
    other ∈ insertSorted text texts ↔ other = text ∨ other ∈ texts := by
  induction texts with
  | nil => simp [insertSorted]
  | cons first rest ih =>
      rw [insertSorted]
      split
      · rw [List.mem_cons]
      · split
        · next same => simp [same]
        · rw [List.mem_cons, ih, List.mem_cons]
          exact or_left_comm

theorem mem_sortedDistinct {text : String} {texts : List String} :
    text ∈ sortedDistinct texts ↔ text ∈ texts := by
  induction texts using List.reverseRecOn with
  | nil => rfl
  | append_singleton before last ih =>
      have split : sortedDistinct (before ++ [last]) = insertSorted last (sortedDistinct before) := by
        rw [sortedDistinct, List.foldl_append]
        rfl
      rw [split, mem_insertSorted, ih, List.mem_append, List.mem_singleton]
      exact or_comm

section Modules

variable {refers : String → Prop} {exported : List String} {locals : Locals} {tag type name : String}
  {endpoints : Entries Endpoint}

/-- The names in the types of a module by which it finds its imports. -/
def mentionedIn (exported : List String) (endpoints : Entries Endpoint) : List String :=
  (endpoints.flatMap fun entry => mentionedNames entry.2) ++
    (localsOf exported endpoints).flatMap fun entry =>
      entry.2.flatMap fun field => capitalNames (ofField field)

/-- A known name in a type is that of an interface in the module, or it is imported. -/
theorem imported_or_declared (importable : ∀ name ∈ exported, Importable name)
    (known : isKnown exported (localsOf exported endpoints) name = true)
    (isRun : name.toList ∈ wordRuns [] type.toList)
    (mentioned : capitalNames type ⊆ mentionedIn exported endpoints) :
    (name ∈ exported ∧ name ∈ (Module.ofEndpoints exported tag endpoints).imports) ∨
      name ∈ (Module.ofEndpoints exported tag endpoints).declared := by
  by_cases isLocal : (localsOf exported endpoints).any (fun entry => entry.1 = name) = true
  · right
    obtain ⟨entry, member, same⟩ := List.any_eq_true.mp isLocal
    have isName : entry.1 = name := of_decide_eq_true same
    refine List.mem_append_left _ (List.mem_map.mpr ⟨_, List.mem_map_of_mem member, isName⟩)
  · left
    rw [isKnown, Bool.or_eq_true] at known
    have isExported := known.resolve_right isLocal
    have member : name ∈ exported := List.contains_iff_mem.mp isExported
    have found := mentioned ((importable name member).mem_capitalNames isRun)
    refine ⟨member, List.mem_filter.mpr ⟨mem_sortedDistinct.mpr found, ?_⟩⟩
    rw [isExported, Bool.eq_false_iff.mpr isLocal]
    rfl

theorem identifiers_closed {fields : List Field} (exports : ∀ name, refers name → name ∈ exported)
    (closed : FieldsClosed refers exported locals fields) {field : Field} (member : field ∈ fields)
    (inType : name ∈ identifiers (ofField field)) : name ∈ builtInNames ∨
      (name.toList ∈ wordRuns [] (ofField field).toList ∧ isKnown exported locals name = true) := by
  cases closed.closed field member with
  | mk carried _ =>
      refine (identifiers_ofField carried inType).imp_right fun found => ⟨found.1, ?_⟩
      rcases found.2 with isReference | ⟨rfl, nonempty⟩
      · rw [isKnown, List.contains_iff_mem.mpr (exports name isReference), Bool.true_or]
      · exact closed.known field member nonempty

/-- Where the types in a module come from. -/
inductive TypeIn (exported : List String) (endpoints : Entries Endpoint) : String → Prop where
  | interface {entry : String × List Field} {field : Field} : entry ∈ localsOf exported endpoints →
      field ∈ entry.2 → TypeIn exported endpoints (ofField field)
  | parameter {entry : String × Endpoint} {field : Field} : entry ∈ endpoints →
      field ∈ declaredParameters entry.2 → TypeIn exported endpoints (ofField field)
  | parameters {entry : String × Endpoint} : entry ∈ endpoints → declaredParameters entry.2 ≠ [] →
      TypeIn exported endpoints (Text.pascalCase entry.1 ++ "Params")
  | reply {entry : String × Endpoint} : entry ∈ endpoints →
      TypeIn exported endpoints (ofType entry.2.response.type)

theorem typeIn_ofEndpoints (member : type ∈ (Module.ofEndpoints exported tag endpoints).types) :
    TypeIn exported endpoints type := by
  obtain ⟨-, -, functions, interfaces⟩ := ofEndpoints_parts exported tag endpoints
  rw [Module.types, functions, interfaces] at member
  rcases List.mem_append.mp member with inInterface | inFunction
  · obtain ⟨shown, isShown, inShown⟩ := List.mem_flatMap.mp inInterface
    obtain ⟨entry, isLocal, rfl⟩ := List.mem_map.mp isShown
    obtain ⟨_, isMember, rfl⟩ := List.mem_map.mp inShown
    obtain ⟨field, isField, rfl⟩ := List.mem_map.mp isMember
    exact .interface isLocal isField
  · obtain ⟨_, isFunction, inTypes⟩ := List.mem_flatMap.mp inFunction
    obtain ⟨entry, isEntry, rfl⟩ := List.mem_map.mp isFunction
    rcases List.mem_append.mp inTypes with first | isReply
    · rcases List.mem_append.mp first with isParameter | isInterface
      · obtain ⟨_, isMember, rfl⟩ := List.mem_map.mp isParameter
        obtain ⟨field, declared, rfl⟩ := List.mem_map.mp isMember
        exact .parameter isEntry declared
      · split at isInterface
        · cases isInterface
        · next some =>
            rw [List.mem_singleton.mp isInterface]
            exact .parameters isEntry fun none => some (by simp [Function.ofEndpoint, none])
    · simp only [Function.ofEndpoint, List.mem_singleton] at isReply
      rw [isReply]
      exact .reply isEntry

/-- In a module for closed operations, each identifier in a type is known. -/
theorem identifiers_module (importable : ∀ name ∈ exported, Importable name)
    (exports : ∀ name, refers name → name ∈ exported)
    (closed : ∀ entry ∈ endpoints, entry.2.Closed refers)
    (member : type ∈ (Module.ofEndpoints exported tag endpoints).types)
    (inType : name ∈ identifiers type) : name ∈ builtInNames ∨
      (name ∈ exported ∧ name ∈ (Module.ofEndpoints exported tag endpoints).imports) ∨
      name ∈ (Module.ofEndpoints exported tag endpoints).declared := by
  obtain ⟨gathered, knows⟩ := @localsOf_gathers refers exported endpoints closed
  cases typeIn_ofEndpoints member with
  | @interface entry field isLocal isField =>
      have fields := (gathered.closed entry isLocal).resolve_left List.not_mem_nil
      refine (identifiers_closed exports fields isField inType).imp_right fun found => ?_
      refine imported_or_declared importable found.2 found.1 fun other capital => ?_
      refine List.mem_append_right _ (List.mem_flatMap.mpr ⟨entry, isLocal, ?_⟩)
      exact List.mem_flatMap.mpr ⟨field, isField, capital⟩
  | @parameter entry field isEntry declared =>
      have fields : FieldsClosed refers exported (localsOf exported endpoints)
          (declaredParameters entry.2) :=
        ⟨fun other isOther => (closed entry isEntry).parameters other
          (distinctParameters_subset _ isOther), (knows entry isEntry).parameters⟩
      refine (identifiers_closed exports fields declared inType).imp_right fun found => ?_
      refine imported_or_declared importable found.2 found.1 fun other capital => ?_
      refine List.mem_append_left _ (List.mem_flatMap.mpr ⟨entry, isEntry, ?_⟩)
      exact List.mem_append_left _ (List.mem_flatMap.mpr ⟨field, declared, capital⟩)
  | @parameters entry isEntry some =>
      have word : ∀ char ∈ (Text.pascalCase entry.1 ++ "Params").toList, isWordChar char = true := by
        have params : ∀ char ∈ "Params".toList, isWordChar char = true :=
          Text.forall_of_all (by decide)
        intro char inText
        rw [String.toList_append] at inText
        cases List.mem_append.mp inText with
        | inl inName => exact isWordChar_of_not_separator (solid_pascalCase entry.1 char inName)
        | inr inParams => exact params char inParams
      have uses : Uses (· = Text.pascalCase entry.1 ++ "Params")
        (Text.pascalCase entry.1 ++ "Params") := uses_word word rfl
      obtain ⟨-, rfl⟩ := uses.identifiers inType
      refine .inr (.inr (List.mem_append_right _ ?_))
      refine List.mem_map.mpr ⟨Function.ofEndpoint entry.1 entry.2, List.mem_filter.mpr ⟨?_, ?_⟩, rfl⟩
      · exact List.mem_map.mpr ⟨entry, isEntry, rfl⟩
      · simpa [Function.ofEndpoint] using some
  | @reply entry isEntry =>
      obtain ⟨isRun, known⟩ := identifiers_ofType (closed entry isEntry).reply inType
      refine known.imp_right fun isKnown => ?_
      refine imported_or_declared importable ?_ isRun fun other capital => ?_
      · rcases isKnown with isReference | ⟨rfl, nonempty⟩
        · rw [TypeScript.isKnown, List.contains_iff_mem.mpr (exports name isReference), Bool.true_or]
        · exact (knows entry isEntry).reply nonempty
      · refine List.mem_append_left _ (List.mem_flatMap.mpr ⟨entry, isEntry, ?_⟩)
        exact List.mem_append_right _ capital

theorem isWritable_module (closed : ∀ entry ∈ endpoints, entry.2.Closed refers) :
    isWritableModule exported endpoints = true := by
  obtain ⟨gathered, -⟩ := @localsOf_gathers refers exported endpoints closed
  have writable {field : Field} (fieldClosed : field.Closed refers) : isWritable field = true := by
    cases fieldClosed with
    | mk carried _ => exact isWritable_of_isText carried
  rw [isWritableModule, Bool.and_eq_true]
  constructor
  · refine List.all_eq_true.mpr fun entry member => ?_
    have known := closed entry member
    rw [isWritableEndpoint, Bool.and_eq_true]
    refine ⟨List.all_eq_true.mpr fun field declared => ?_, isSome_ofType? known.reply⟩
    exact writable (known.parameters field (distinctParameters_subset _ declared))
  · refine List.all_eq_true.mpr fun entry member => List.all_eq_true.mpr fun field isField => ?_
    have fields := (gathered.closed entry member).resolve_left List.not_mem_nil
    exact writable (fields.closed field isField)

end Modules

/-! ## Documents -/

/-- What is asked of the schemas of a document. References mention bases of definitions. -/
structure TypesTame (rules : PathRules) (document : Document) : Prop where
  definitions : ∀ entry ∈ document.definitions,
    Definitions.Tame (Definitions.reservedNames document.definitions) entry.1 entry.2
  operations : ∀ candidate ∈ Candidate.ofPaths rules.filter document.paths,
    candidate.operation.Tame (· ∈ Definitions.reservedNames document.definitions)

/-- For every document with tame schemas, in which operations have names that make words and
definitions have names that are found for import: a client can be written, and each identifier in one
of its types is built in, a parameter of the definition around it, or declared: among the definitions,
from which modules import it, or in the same module. -/
theorem types_closed (rules : PathRules) (document : Document) (model : ApiModel)
    (resolved : (ApiModel.ofDocument rules document).value = model)
    (tame : TypesTame rules document)
    (named : ∀ entry ∈ model.endpoints, Text.pascalCase entry.1 ≠ "")
    (importable : ∀ name ∈ model.definitions.names, Importable (Names.base name)) :
    TypesClosed model := by
  subst resolved
  obtain ⟨exports, spelled⟩ := Definitions.ofSchemas_spelled tame.definitions
  have closed : ∀ entry ∈ (ApiModel.ofDocument rules document).value.endpoints,
      entry.2.Closed (· ∈ Definitions.reservedNames document.definitions) :=
    fun entry member => Candidate.closed_ofPaths tame.operations member (named entry member)
  have tagged (tag : String) : ∀ entry ∈ Endpoint.tagged
      (ApiModel.ofDocument rules document).value.endpoints tag,
      entry.2.Closed (· ∈ Definitions.reservedNames document.definitions) :=
    fun entry member => closed entry (List.mem_of_mem_filter member)
  have imports : ∀ name ∈ (ApiModel.ofDocument rules document).value.definitions.names.map
      Names.base, Importable name := by
    intro name member
    obtain ⟨whole, isName, rfl⟩ := List.mem_map.mp member
    exact importable whole isName
  constructor
  · rw [isWritableClient, Bool.and_eq_true]
    refine ⟨isWritable_definitions spelled, ?_⟩
    rw [Endpoint.byTag_eq]
    refine List.all_eq_true.mpr fun group member => ?_
    obtain ⟨tag, -, rfl⟩ := List.mem_map.mp member
    exact isWritable_module (tagged tag)
  · intro entry member type isType name inType
    exact identifiers_definitions spelled member isType inType
  · intro module isModule type isType name inType
    obtain ⟨tag, -, rfl⟩ := exists_tag_of_mem isModule
    exact identifiers_module imports exports (tagged tag) isType inType

/-! ## Pages of pets -/

/-- A schema with the word of a primitive type, and nothing else that counts, is tame. -/
theorem tame_primitive {refers : String → Prop} {asks : Schema → Prop} {schema : Schema}
    {word : String} (worded : schema.Worded) (asked : asks schema) (words : schema.typeWords = [word])
    (primitive : word ∈ primitiveWords) (empty : schema.declaredProperties = [])
    (single : schema.mapsValues = false) : schema.Tame refers asks := by
  have noArray : "array" ∉ schema.typeWords := by
    rw [words, List.mem_singleton]
    rintro rfl
    exact absurd primitive (by decide)
  refine .worded worded asked (fun other member _ => ?_) (fun array => absurd array noArray)
    (fun array => absurd array noArray) (fun _ entry member => ?_) (fun _ maps => ?_) fun _ maps => ?_
  · rw [words, List.mem_singleton] at member
    exact member ▸ primitive
  · rw [empty] at member
    cases member
  · rw [single] at maps
    cases maps
  · rw [single] at maps
    cases maps

/-- An object is tame if its properties are. -/
theorem tame_object {refers : String → Prop} {schema : Schema} (worded : schema.Worded)
    (words : schema.typeWords = ["object"]) (properties : schema.hasProperties = true)
    (tame : ∀ entry ∈ schema.declaredProperties, entry.2.Tame refers fun _ => True) :
    schema.Tame refers fun _ => True := by
  have noArray : "array" ∉ schema.typeWords := by
    rw [words]
    decide
  have single : schema.mapsValues = false := by
    unfold Schema.mapsValues
    split <;> simp [properties]
  refine .worded worded trivial (fun word member _ => ?_) (fun array => absurd array noArray)
    (fun array => absurd array noArray) (fun _ => tame) (fun _ maps => ?_) fun _ maps => ?_
  · rw [words, List.mem_singleton] at member
    rw [member]
    decide
  · rw [single] at maps
    cases maps
  · rw [single] at maps
    cases maps

def petReference : Schema where
  reference := some "#/definitions/Pet"

def petList : Schema where
  types := some (.one "array")
  items := some petReference

def petPageSchema : Schema where
  types := some (.one "object")
  properties := [("pets", petList)]

def petPageReference : Schema where
  reference := some "#/definitions/Page«Pet»"

def limitParameter : Parameter where
  name := "limit"
  location := .query
  types := some (.one "integer")

/-- A document with pages of pets, of which one operation returns the first. -/
def petPages : Document where
  definitions := [("Page«Pet»", petPageSchema), ("Pet", petSchema)]
  paths := [("/pets", { get := some {
    operationId := some "listPets"
    tags := ["pet"]
    parameters := [.inline limitParameter]
    responses := [("200", .inline { schema := some petPageReference })] } })]

theorem reservedNames_petPages : Definitions.reservedNames petPages.definitions = ["Page", "Pet"] := by
  decide +kernel

theorem refers_pet : NamedType.Refers (· ∈ ["Page", "Pet"]) (.plain "Pet") :=
  .leaf (.inr ⟨⟨by decide, Text.forall_of_all (by decide)⟩, .tail _ (.head _)⟩)

theorem tame_petReference {asks : Schema → Prop} :
    petReference.Tame (· ∈ ["Page", "Pet"]) asks := by
  refine .referring rfl ?_
  have name : Names.ofReference "#/definitions/Pet" = "Pet" := by decide +kernel
  have pieces : NamedType.pieces [] "Pet".toList = [.name "Pet"] := by decide +kernel
  have read : NamedType.parse? "Pet" = some (.plain "Pet") := by
    rw [NamedType.parse?, pieces]
    rfl
  rw [name, NamedType.parse_of_parse? read]
  exact refers_pet

theorem tame_petPageReference {asks : Schema → Prop} :
    petPageReference.Tame (· ∈ ["Page", "Pet"]) asks := by
  refine .referring rfl ?_
  have name : Names.ofReference "#/definitions/Page«Pet»" = "Page«Pet»" := by decide +kernel
  have pieces : NamedType.pieces [] "Page«Pet»".toList =
      [.name "Page", .opening, .name "Pet", .closing] := by
    decide +kernel
  have read : NamedType.parse? "Page«Pet»" = some ⟨"Page", [.plain "Pet"]⟩ := by
    rw [NamedType.parse?, pieces]
    rfl
  rw [name, NamedType.parse_of_parse? read]
  refine .applied ⟨by decide, Text.forall_of_all (by decide)⟩ (.head _) (by decide) ?_
  intro argument member
  rw [List.mem_singleton.mp member]
  exact refers_pet

theorem tame_petList : petList.Tame (· ∈ ["Page", "Pet"]) fun _ => True := by
  have noObject : "object" ∉ petList.typeWords := by decide
  refine .worded ⟨rfl, rfl, rfl⟩ trivial (fun word member notArray => ?_) (fun _ items found => ?_)
    (fun _ items found => ?_) (fun object => absurd object noObject)
    (fun object => absurd object noObject) fun object => absurd object noObject
  · exact absurd (List.mem_singleton.mp member) notArray
  · cases found
    exact .referring rfl
  · cases found
    exact tame_petReference

theorem tame_ownerSchema {refers : String → Prop} : ownerSchema.Tame refers fun _ => True := by
  refine tame_object ⟨rfl, rfl, rfl⟩ rfl rfl fun entry member => ?_
  rw [List.mem_singleton.mp member]
  exact tame_primitive ⟨rfl, rfl, rfl⟩ trivial rfl (by decide) rfl rfl

theorem typesTame_petPages : TypesTame {} petPages where
  definitions := by
    rw [reservedNames_petPages]
    intro entry member
    cases member with
    | head =>
        refine ⟨⟨by decide +kernel, Text.forall_of_all (by decide +kernel)⟩, ?_, ?_⟩
        · intro _ entry member
          rw [List.mem_singleton.mp member]
          exact tame_petList
        · intro _ entry member
          rw [List.mem_singleton.mp member]
          rfl
    | tail _ later =>
        rw [List.mem_singleton.mp later]
        refine ⟨⟨by decide +kernel, Text.forall_of_all (by decide +kernel)⟩, ?_, ?_⟩
        · intro _ entry member
          rw [List.mem_singleton.mp member]
          exact tame_ownerSchema
        · intro generic
          exact absurd (by decide +kernel) generic
  operations := by
    rw [reservedNames_petPages]
    intro candidate member
    cases List.mem_singleton.mp member
    constructor
    · intro schema describes
      cases describes with
      | parameter isParameter =>
          cases List.mem_singleton.mp isParameter
          refine tame_primitive ⟨rfl, rfl, rfl⟩ ⟨?_, ?_⟩ rfl (by decide) rfl rfl
          · intro object
            exact absurd object (by decide)
          · intro object
            exact absurd object (by decide)
      | body none => cases none
      | reply found isSchema =>
          cases found
          cases isSchema
          exact tame_petPageReference
    · intro schema describes
      cases describes with
      | parameter isParameter =>
          cases List.mem_singleton.mp isParameter
          refine .bare (.worded ⟨rfl, rfl, rfl⟩ (fun _ => rfl) fun array => ?_)
          exact absurd array (by decide)
      | body none => cases none
      | reply found isSchema =>
          cases found
          cases isSchema
          exact .bare (.referring rfl)
    · intro schema found
      cases found
      exact .referring rfl

/-- Pages of pets with their owners: all identifiers are known. -/
theorem types_closed_petPages :
    TypesTame {} petPages ∧ TypesClosed (ApiModel.ofDocument {} petPages).value := by
  have operations : (ApiModel.ofDocument {} petPages).value.endpoints.map (·.1) = ["listPets"] := by
    decide +kernel
  have definitions : (ApiModel.ofDocument {} petPages).value.definitions.names.map Names.base =
      ["Page", "Pet", "PetOwner"] := by
    decide +kernel
  have importable : ∀ name ∈ ["Page", "Pet", "PetOwner"], Importable name := by
    have capitals : ∀ name ∈ ["Page", "Pet", "PetOwner"], name.toList.head? = some 'P' ∧
        name.toList.all isNameChar = true := by
      decide +kernel
    have capital : Text.isUppercase 'P' = true := by decide +kernel
    intro name member
    obtain ⟨first, plain⟩ := capitals name member
    exact ⟨⟨'P', first, capital⟩, List.all_eq_true.mp plain⟩
  refine ⟨typesTame_petPages,
    types_closed {} petPages _ rfl typesTame_petPages (fun entry member => ?_) fun name member => ?_⟩
  · have isName : entry.1 ∈ ["listPets"] := operations ▸ List.mem_map_of_mem member
    rw [List.mem_singleton.mp isName]
    decide +kernel
  · exact importable _ (definitions ▸ List.mem_map_of_mem member)

/-- A map whose values are choices. -/
def statesSchema : Schema where
  types := some (.one "object")
  additional := some (.described
    { types := some (.one "string"), enumValues := [.str "new", .str "sold"] })

def statesDocument : Document where
  definitions := [("Pet", { types := some (.one "object"), properties := [("states", statesSchema)] })]

/-- The choices in a map are lost and the name that they would have stays, which nothing declares. -/
theorem map_choices_undeclared : ¬ TypesClosed (ApiModel.ofDocument {} statesDocument).value := by
  intro closed
  have names : (ApiModel.ofDocument {} statesDocument).value.definitions.names.map Names.base =
      ["Pet"] := by
    decide +kernel
  have types : ((ApiModel.ofDocument {} statesDocument).value.definitions.entries.map fun entry =>
      (entry.1, (Declaration.ofDefinition entry.1 entry.2).types)) =
      [("Pet", ["Record<string, PetStates>"])] := by
    decide +kernel
  obtain ⟨entry, single, shown⟩ := List.map_eq_singleton_iff.mp types
  obtain ⟨name, declared⟩ := Prod.mk.inj shown
  have scope := closed.definitions entry (single ▸ .head _) "Record<string, PetStates>"
    (declared ▸ .head _) "PetStates" (by decide +kernel)
  rcases scope with builtIn | known | parameter
  · exact absurd builtIn (by decide)
  · rw [names] at known
    exact absurd known (by decide)
  · rw [name] at parameter
    have none : DeclaredName.typeParameters "Pet" = [] := by decide +kernel
    rw [none] at parameter
    cases parameter

end ClientGen.TypeScript
