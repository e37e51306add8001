import ClientGen.Definitions.OfSchemas
import ClientGen.Proofs.Names.Declared
import ClientGen.Proofs.Resolve.Registry

/-!
The definitions of a document in blocks. The first key of every base makes a block: its own
definition, and behind it the inline objects that are registered while it is resolved. The other
keys make a diagnostic each. With well-formed keys nothing else is in the result.
-/

set_option autoImplicit false

namespace ClientGen

/-- Whether the definition under a schema is resolved as an object. -/
def Schema.IsObject (schema : Schema) : Prop :=
  schema.enumValues = [] ∧ ∀ types, schema.types = some types → types.has "object" = true

end ClientGen

namespace ClientGen.Definitions

open DeclaredName (declaration)
open Names (Unbracketed)
open Resolve (AskedIn Consistent Grown ParentsFirst Registered State fits_document)

/-! ## First keys -/

/-- The first of the keys that have the base of a key. -/
def firstKey (schemas : Entries Schema) (key : String) : String :=
  (schemas.keys.find? fun other => (declaration other).base = (declaration key).base).getD key

/-- The schemas under the first key of each base. -/
def documents (schemas : Entries Schema) : Entries Schema :=
  schemas.filter fun entry => firstKey schemas entry.1 = entry.1

/-- The schemas whose base an earlier key has. -/
def repeats (schemas : Entries Schema) : Entries Schema :=
  schemas.filter fun entry => firstKey schemas entry.1 ≠ entry.1

section FirstKey

variable {schemas : Entries Schema} {key other : String}

theorem firstKey_congr (member : key ∈ schemas.keys)
    (same : (declaration other).base = (declaration key).base) :
    firstKey schemas other = firstKey schemas key := by
  have found : (schemas.keys.find? fun other =>
      (declaration other).base = (declaration key).base).isSome := by
    rw [List.find?_isSome]
    exact ⟨key, member, by simp⟩
  obtain ⟨first, isFirst⟩ := Option.isSome_iff_exists.mp found
  simp [firstKey, same, isFirst]

theorem firstKey_eq_self_iff {before after : Entries Schema} {schema : Schema}
    (distinct : schemas.keys.Nodup) (split : schemas = before ++ (key, schema) :: after) :
    firstKey schemas key = key ↔
      ∀ other ∈ before.keys, (declaration other).base ≠ (declaration key).base := by
  have keys : schemas.keys = before.keys ++ key :: after.keys := by simp [split, Entries.keys]
  have fresh : key ∉ before.keys := by
    rw [keys] at distinct
    exact fun member => (List.nodup_append.mp distinct).2.2 key member key (.head _) rfl
  rw [firstKey, keys, List.find?_append]
  cases found : before.keys.find? fun other =>
      (declaration other).base = (declaration key).base with
  | none =>
      have apart := List.find?_eq_none.mp found
      simp only [Option.none_or, decide_true, List.find?_cons_of_pos, Option.getD_some, true_iff]
      intro other member same
      exact apart other member (by simpa using same)
  | some first =>
      have member := List.mem_of_find?_eq_some found
      have same : (declaration first).base = (declaration key).base := by
        simpa using List.find?_some found
      simp only [Option.some_or, Option.getD_some]
      constructor
      · rintro rfl
        exact absurd member fresh
      · intro apart
        exact absurd same (apart first member)

end FirstKey

/-! ## Blocks -/

/-- A definition of the document and the inline objects that were registered for it. -/
structure Block where
  key : String
  schema : Schema
  definition : Definition
  inline : List Registered

namespace Block

def source (block : Block) : String × Schema := (block.key, block.schema)

def base (block : Block) : String := (declaration block.key).base

def entry (block : Block) : String × Definition := ((declaration block.key).name, block.definition)

def entries (block : Block) : Entries Definition :=
  block.entry :: block.inline.map Registered.entry

/-- What a block holds after some entries: an enumeration, a record without fields in place of
something that is no object, or an object. An object's fields and its inline objects are resolved
from a state in which there are the earlier entries and one that takes the object's name. -/
inductive Built (reserved : List String) (earlier : Entries Definition) : Block → Prop where
  | enumeration {key : String} {schema : Schema} : schema.enumValues ≠ [] →
      Built reserved earlier
        ⟨key, schema, .scalar (enumeration (declaration key).name schema), []⟩
  | mismatched {key : String} {schema : Schema} {types : TypeSet} : schema.enumValues = [] →
      schema.types = some types → types.has "object" = false →
      Built reserved earlier ⟨key, schema, .record [], []⟩
  | object {key : String} {schema : Schema} {state last : State} {fields : List Field}
      {inline : List Registered} : schema.enumValues = [] →
      (∀ types, schema.types = some types → types.has "object" = true) →
      state.definitions.Indexed →
      state.definitions.entries = earlier ++ [((declaration key).name, .record [])] →
      (Resolve.object (.registering reserved) (declaration key).mappings (declaration key).base
        schema).run state = (fields, last) →
      last.definitions.entries = state.definitions.entries ++ inline.map Registered.entry →
      ParentsFirst reserved (declaration key).mappings (AskedIn (declaration key).base schema)
        inline →
      Built reserved earlier ⟨key, schema, .record fields, inline⟩

/-- Blocks each of which is built after the entries of those before it. -/
inductive AllBuilt (reserved : List String) : List Block → Prop where
  | nil : AllBuilt reserved []
  | snoc {blocks : List Block} {block : Block} : AllBuilt reserved blocks →
      block.Built reserved (blocks.flatMap entries) → AllBuilt reserved (blocks ++ [block])

end Block

/-! ## One key -/

section Add

variable {reserved : List String} {key : String} {schema : Schema} {state : State}

def collapsed (key existing : String) : Diagnostic :=
  ⟨.info, key, "collapsed into `" ++ existing ++ "`"⟩

def mismatch (key : String) (types : TypeSet) : Diagnostic :=
  ⟨.error, key, "expected an object definition, found type `" ++ types.describe ++ "`"⟩

/-- Adding under a key whose base is new. -/
def addNew (reserved : List String) (key : String) (schema : Schema) : Resolve.Step Unit :=
  if !schema.enumValues.isEmpty then
    put (declaration key).name (.scalar (enumeration (declaration key).name schema))
  else
    match schema.types.filter fun types => !types.has "object" with
    | some types => do
        note .error key ("expected an object definition, found type `" ++ types.describe ++ "`")
        put (declaration key).name (.record [])
    | none => do
        put (declaration key).name (.record [])
        let fields ← Resolve.object (.registering reserved) (declaration key).mappings
          (declaration key).base schema
        put (declaration key).name (.record fields)

theorem add_run_known {existing : String × Definition}
    (known : state.definitions.findByBase? (declaration key).base = some existing) :
    ((add reserved key schema).run state).2 = state.note [collapsed key existing.1] := by
  simp only [add, StateT.run_bind, StateT.run_get, pure_bind, known]
  rfl

variable (fresh : state.definitions.findByBase? (declaration key).base = none)

include fresh

private theorem add_run_new :
    (add reserved key schema).run state = (addNew reserved key schema).run state := by
  simp only [add, StateT.run_bind, StateT.run_get, pure_bind, fresh]
  rfl

theorem add_run_enumeration (listed : schema.enumValues ≠ []) :
    ((add reserved key schema).run state).2 = state.put (declaration key).name
      (.scalar (enumeration (declaration key).name schema)) := by
  rw [add_run_new fresh, addNew, if_pos (by simpa using listed)]
  rfl

theorem add_run_mismatched {types : TypeSet} (free : schema.enumValues = [])
    (typed : schema.types = some types) (other : types.has "object" = false) :
    ((add reserved key schema).run state).2 =
      (state.note [mismatch key types]).put (declaration key).name (.record []) := by
  have filtered : (schema.types.filter fun types => !types.has "object") = some types := by
    simp [typed, other]
  rw [add_run_new fresh, addNew, if_neg (by simp [free]), filtered]
  rfl

theorem add_run_object (free : schema.enumValues = [])
    (objects : ∀ types, schema.types = some types → types.has "object" = true) :
    ((add reserved key schema).run state).2 =
      let resolved := (Resolve.object (.registering reserved) (declaration key).mappings
        (declaration key).base schema).run (state.put (declaration key).name (.record []))
      resolved.2.put (declaration key).name (.record resolved.1) := by
  have filtered : (schema.types.filter fun types => !types.has "object") = none := by
    rw [Option.filter_eq_none_iff]
    intro types typed
    simp [objects types typed]
  rw [add_run_new fresh, addNew, if_neg (by simp [free]), filtered]
  rfl

omit fresh

/-- What adding under a key does: it makes a note if the base of the key is known, and else puts a
definition under its name. -/
inductive Added (reserved : List String) (key : String) (schema : Schema) (state : State) :
    State → Prop where
  | known {existing : String × Definition} :
      state.definitions.findByBase? (declaration key).base = some existing →
      Added reserved key schema state (state.note [collapsed key existing.1])
  | enumeration : state.definitions.findByBase? (declaration key).base = none →
      schema.enumValues ≠ [] → Added reserved key schema state (state.put (declaration key).name
        (.scalar (Definitions.enumeration (declaration key).name schema)))
  | mismatched {types : TypeSet} : state.definitions.findByBase? (declaration key).base = none →
      schema.enumValues = [] → schema.types = some types → types.has "object" = false →
      Added reserved key schema state
        ((state.note [mismatch key types]).put (declaration key).name (.record []))
  | object : state.definitions.findByBase? (declaration key).base = none → schema.IsObject →
      Added reserved key schema state
        (let resolved := (Resolve.object (.registering reserved) (declaration key).mappings
          (declaration key).base schema).run (state.put (declaration key).name (.record []))
        resolved.2.put (declaration key).name (.record resolved.1))

theorem added_add (reserved : List String) (key : String) (schema : Schema) (state : State) :
    Added reserved key schema state ((add reserved key schema).run state).2 := by
  cases known : state.definitions.findByBase? (declaration key).base with
  | some existing =>
      rw [add_run_known known]
      exact .known known
  | none =>
      by_cases free : schema.enumValues = []
      · by_cases objects : ∀ types, schema.types = some types → types.has "object" = true
        · rw [add_run_object known free objects]
          exact .object known ⟨free, objects⟩
        · push Not at objects
          obtain ⟨types, typed, other⟩ := objects
          have other : types.has "object" = false := by simpa using other
          rw [add_run_mismatched known free typed other]
          exact .mismatched known free typed other
      · rw [add_run_enumeration known free]
        exact .enumeration known free

end Add

/-! ## Key after key -/

/-- What is known once some of the schemas have been added. -/
structure Progress (schemas done : Entries Schema) (state : State) (blocks : List Block) : Prop where
  consistent : Consistent (reservedNames schemas) state.definitions
  entries : state.definitions.entries = blocks.flatMap Block.entries
  sources : blocks.map Block.source = done.filter fun entry => firstKey schemas entry.1 = entry.1
  covered : ∀ key ∈ done.keys, ∃ block ∈ blocks, block.base = (declaration key).base
  built : Block.AllBuilt (reservedNames schemas) blocks
  infos : Diagnostic.ofSeverity .info state.diagnostics =
    (done.filter fun entry => firstKey schemas entry.1 ≠ entry.1).map fun entry =>
      collapsed entry.1 (declaration (firstKey schemas entry.1)).name

theorem Block.AllBuilt.exists_built {reserved : List String} {blocks : List Block}
    (built : AllBuilt reserved blocks) {block : Block} (member : block ∈ blocks) :
    ∃ earlier, block.Built reserved earlier := by
  induction built with
  | nil => cases member
  | snoc _ last ih =>
      rcases List.mem_append.mp member with early | now
      · exact ih early
      · cases List.mem_singleton.mp now
        exact ⟨_, last⟩

theorem Block.Built.inline_names {reserved : List String} {earlier : Entries Definition}
    {block : Block} (built : block.Built reserved earlier)
    (plain : Unbracketed (declaration block.key).base) :
    ∀ object ∈ block.inline, object.name ∉ reserved ∧ Unbracketed object.name := by
  cases built with
  | enumeration listed => simp
  | mismatched free typed other => simp
  | object free objects indexed taken run entries ordered =>
      intro object member
      refine ⟨ordered.name_not_mem object member, ordered.unbracketed ?_ object member⟩
      rintro _ _ ⟨entry, -, rfl, -⟩
      exact plain.synthesized entry.1

section Progress

variable {schemas done : Entries Schema} {state : State} {blocks : List Block}

theorem mem_reservedNames {key : String} (member : key ∈ schemas.keys) :
    (declaration key).base ∈ reservedNames schemas :=
  List.mem_map_of_mem (f := fun key => (declaration key).base) member

namespace Progress

theorem source_mem (progress : Progress schemas done state blocks) {block : Block}
    (member : block ∈ blocks) :
    block.source ∈ done ∧ firstKey schemas block.key = block.key := by
  have listed : block.source ∈ blocks.map Block.source := List.mem_map_of_mem member
  rw [progress.sources, List.mem_filter] at listed
  exact ⟨listed.1, of_decide_eq_true listed.2⟩

/-- Only definitions of the document have a base that one of its keys has. -/
theorem exists_block (progress : Progress schemas done state blocks)
    (plain : ∀ key ∈ done.keys, Unbracketed (declaration key).base) {entry : String × Definition}
    (member : entry ∈ state.definitions.entries)
    (isReserved : Names.base entry.1 ∈ reservedNames schemas) :
    ∃ block ∈ blocks, entry = block.entry := by
  rw [progress.entries] at member
  obtain ⟨block, isBlock, inBlock⟩ := List.mem_flatMap.mp member
  rcases List.mem_cons.mp inBlock with same | inline
  · exact ⟨block, isBlock, same⟩
  · obtain ⟨object, isObject, rfl⟩ := List.mem_map.mp inline
    obtain ⟨earlier, built⟩ := progress.built.exists_built isBlock
    have plainKey := plain block.key (Entries.mem_keys (progress.source_mem isBlock).1)
    obtain ⟨free, inlinePlain⟩ := built.inline_names plainKey object isObject
    rw [Registered.entry, Names.base_of_unbracketed inlinePlain] at isReserved
    exact absurd isReserved free

theorem entry_mem (progress : Progress schemas done state blocks) {block : Block}
    (member : block ∈ blocks) : block.entry ∈ state.definitions.entries := by
  rw [progress.entries]
  exact List.mem_flatMap.mpr ⟨block, member, .head _⟩

theorem snoc (progress : Progress schemas done state blocks) {last : State} {key : String}
    {schema : Schema} {definition : Definition} {inline : List Registered}
    (first : firstKey schemas key = key)
    (consistent : Consistent (reservedNames schemas) last.definitions)
    (entries : last.definitions.entries = state.definitions.entries ++
      ((declaration key).name, definition) :: inline.map Registered.entry)
    (built : Block.Built (reservedNames schemas) state.definitions.entries
      ⟨key, schema, definition, inline⟩)
    (infos : Diagnostic.ofSeverity .info last.diagnostics =
      Diagnostic.ofSeverity .info state.diagnostics) :
    Progress schemas (done ++ [(key, schema)]) last
      (blocks ++ [⟨key, schema, definition, inline⟩]) := by
  constructor
  · exact consistent
  · rw [entries, progress.entries, List.flatMap_append, List.flatMap_singleton]
    rfl
  · simp [progress.sources, Block.source, first]
  · intro other member
    rw [Entries.keys, List.map_append, List.mem_append] at member
    rcases member with old | now
    · obtain ⟨block, isBlock, same⟩ := progress.covered other old
      exact ⟨block, List.mem_append_left _ isBlock, same⟩
    · cases List.mem_singleton.mp now
      exact ⟨⟨key, schema, definition, inline⟩, by simp, rfl⟩
  · exact .snoc progress.built (progress.entries ▸ built)
  · simp [infos, progress.infos, first]

end Progress

variable {key : String} {schema : Schema} {after : Entries Schema}

/-- A key whose base is known only makes a diagnostic. -/
theorem Progress.add_known (progress : Progress schemas done state blocks)
    (distinct : schemas.keys.Nodup) (split : schemas = done ++ (key, schema) :: after)
    (plain : ∀ key ∈ schemas.keys, Unbracketed (declaration key).base)
    {name : String} {definition : Definition}
    (known : state.definitions.findByBase? (declaration key).base = some (name, definition)) :
    Progress schemas (done ++ [(key, schema)]) (state.note [collapsed key name]) blocks := by
  have earlier : ∀ other ∈ done.keys, other ∈ schemas.keys := by
    intro other member
    simp only [split, Entries.keys, List.map_append]
    exact List.mem_append_left _ member
  have isKey : key ∈ schemas.keys := by simp [split, Entries.keys]
  obtain ⟨member, same⟩ := progress.consistent.indexed.findByBase?_eq_some_iff.mp known
  obtain ⟨block, isBlock, isEntry⟩ := progress.exists_block
    (fun other isDone => plain other (earlier other isDone)) member
    (same ▸ mem_reservedNames isKey)
  cases isEntry
  obtain ⟨inDone, first⟩ := progress.source_mem isBlock
  have doneKey : block.key ∈ done.keys := Entries.mem_keys inDone
  rw [DeclaredName.base_name (plain _ (earlier _ doneKey))] at same
  have repeated : firstKey schemas key = block.key := by
    rw [firstKey_congr (earlier _ doneKey) same.symm, first]
  have notFirst : firstKey schemas key ≠ key := by
    intro isFirst
    exact (firstKey_eq_self_iff distinct split).mp isFirst block.key doneKey same
  constructor
  · exact progress.consistent
  · exact progress.entries
  · simp [progress.sources, notFirst]
  · intro other isOther
    rw [Entries.keys, List.map_append, List.mem_append] at isOther
    rcases isOther with old | now
    · exact progress.covered other old
    · cases List.mem_singleton.mp now
      exact ⟨block, isBlock, same⟩
  · exact progress.built
  · have apart : block.key ≠ key := repeated ▸ notFirst
    have one : Diagnostic.ofSeverity .info [collapsed key (declaration block.key).name] =
        [collapsed key (declaration block.key).name] := rfl
    simp [progress.infos, one, apart, repeated]

section New

variable (progress : Progress schemas done state blocks) (first : firstKey schemas key = key)
  (isKey : key ∈ schemas.keys) (plain : Unbracketed (declaration key).base)
  (fresh : state.definitions.findByBase? (declaration key).base = none)

include progress isKey plain fresh

theorem Progress.insert_consistent (definition : Definition) :
    Consistent (reservedNames schemas)
      (state.definitions.insert (declaration key).name definition) := by
  have base := DeclaredName.base_name plain
  refine progress.consistent.insert_new (fits_document ?_ definition) ?_
  · rw [base]
    exact mem_reservedNames isKey
  · rw [base]
    exact fresh

omit isKey in
theorem Progress.insert_entries (definition : Definition) :
    (state.definitions.insert (declaration key).name definition).entries =
      state.definitions.entries ++ [((declaration key).name, definition)] := by
  rw [← DeclaredName.base_name plain] at fresh
  exact progress.consistent.indexed.entries_insert_new fresh definition

include first

theorem Progress.add_enumeration (listed : schema.enumValues ≠ []) :
    ∃ block, Progress schemas (done ++ [(key, schema)])
      ((add (reservedNames schemas) key schema).run state).2 (blocks ++ [block]) := by
  rw [add_run_enumeration fresh listed]
  refine ⟨_, progress.snoc first ?_ ?_ (.enumeration listed) rfl⟩
  · exact progress.insert_consistent isKey plain fresh _
  · exact progress.insert_entries plain fresh _

theorem Progress.add_mismatched {types : TypeSet} (free : schema.enumValues = [])
    (typed : schema.types = some types) (other : types.has "object" = false) :
    ∃ block, Progress schemas (done ++ [(key, schema)])
      ((add (reservedNames schemas) key schema).run state).2 (blocks ++ [block]) := by
  rw [add_run_mismatched fresh free typed other]
  refine ⟨_, progress.snoc first ?_ ?_ (.mismatched free typed other) ?_⟩
  · exact progress.insert_consistent isKey plain fresh _
  · exact progress.insert_entries plain fresh _
  · simp [Diagnostic.ofSeverity, mismatch]

theorem Progress.add_object (free : schema.enumValues = [])
    (objects : ∀ types, schema.types = some types → types.has "object" = true) :
    ∃ block, Progress schemas (done ++ [(key, schema)])
      ((add (reservedNames schemas) key schema).run state).2 (blocks ++ [block]) := by
  rw [add_run_object fresh free objects]
  let taken := state.put (declaration key).name (.record [])
  have isTaken : taken.definitions.entries =
      state.definitions.entries ++ [((declaration key).name, .record [])] :=
    progress.insert_entries plain fresh _
  have consistent : Consistent (reservedNames schemas) taken.definitions :=
    progress.insert_consistent isKey plain fresh _
  obtain ⟨inline, grown, ordered⟩ :=
    Resolve.object_grown consistent plain (declaration key).mappings schema
  generalize resolved : (Resolve.object (.registering (reservedNames schemas))
    (declaration key).mappings (declaration key).base schema).run taken = result at grown ⊢
  obtain ⟨fields, last⟩ := result
  have split : last.definitions.entries = state.definitions.entries ++
      ((declaration key).name, .record []) :: inline.map Registered.entry := by
    rw [grown.entries, isTaken, List.append_assoc]
    rfl
  refine ⟨_, progress.snoc first ?_ ?_
    (.object free objects consistent.indexed isTaken resolved grown.entries ordered) ?_⟩
  · have known : (declaration key).name ∈ last.definitions.names := by
      simp [names, Entries.keys, split]
    have isReserved : Names.base (declaration key).name ∈ reservedNames schemas := by
      rw [DeclaredName.base_name plain]
      exact mem_reservedNames isKey
    exact grown.consistent.insert_known (fits_document isReserved _) known
  · exact grown.consistent.indexed.entries_insert_known split _
  · obtain ⟨notes, isNotes, warnings⟩ := grown.notes
    have none : Diagnostic.ofSeverity .info notes = [] := by
      rw [Diagnostic.ofSeverity, List.filter_eq_nil_iff]
      intro note member
      simp [warnings note member]
    rw [State.put_diagnostics, isNotes, Diagnostic.ofSeverity_append, none, List.append_nil]
    rfl

end New

/-- One key more, whatever is under it. -/
theorem Progress.add (progress : Progress schemas done state blocks)
    (distinct : schemas.keys.Nodup) (split : schemas = done ++ (key, schema) :: after)
    (plain : ∀ key ∈ schemas.keys, Unbracketed (declaration key).base) :
    ∃ blocks, Progress schemas (done ++ [(key, schema)])
      ((add (reservedNames schemas) key schema).run state).2 blocks := by
  have isKey : key ∈ schemas.keys := by simp [split, Entries.keys]
  cases known : state.definitions.findByBase? (declaration key).base with
  | some existing =>
      obtain ⟨name, definition⟩ := existing
      rw [add_run_known known]
      exact ⟨blocks, progress.add_known distinct split plain known⟩
  | none =>
      have first : firstKey schemas key = key := by
        refine (firstKey_eq_self_iff distinct split).mpr fun other member same => ?_
        obtain ⟨block, isBlock, isBase⟩ := progress.covered other member
        have inSchemas : block.key ∈ schemas.keys := by
          have inDone := Entries.mem_keys (progress.source_mem isBlock).1
          simp only [split, Entries.keys, List.map_append]
          exact List.mem_append_left _ inDone
        have apart := progress.consistent.indexed.findByBase?_eq_none_iff.mp known
          (declaration block.key).name (Entries.mem_keys (progress.entry_mem isBlock))
        rw [DeclaredName.base_name (plain _ inSchemas)] at apart
        exact apart (isBase.trans same)
      have plainKey := plain key isKey
      by_cases free : schema.enumValues = []
      · by_cases objects : ∀ types, schema.types = some types → types.has "object" = true
        · obtain ⟨block, next⟩ := progress.add_object first isKey plainKey known free objects
          exact ⟨_, next⟩
        · push Not at objects
          obtain ⟨types, typed, other⟩ := objects
          have other : types.has "object" = false := by simpa using other
          obtain ⟨block, next⟩ :=
            progress.add_mismatched first isKey plainKey known free typed other
          exact ⟨_, next⟩
      · obtain ⟨block, next⟩ := progress.add_enumeration first isKey plainKey known free
        exact ⟨_, next⟩

theorem Progress.addAll (progress : Progress schemas done state blocks)
    (distinct : schemas.keys.Nodup) (split : schemas = done ++ after)
    (plain : ∀ key ∈ schemas.keys, Unbracketed (declaration key).base) :
    ∃ blocks, Progress schemas schemas
      ((addAll (reservedNames schemas) after).run state).2 blocks := by
  induction after generalizing done state blocks with
  | nil =>
      rw [List.append_nil] at split
      exact ⟨blocks, split ▸ progress⟩
  | cons entry rest ih =>
      obtain ⟨key, schema⟩ := entry
      obtain ⟨more, next⟩ := progress.add distinct split plain
      exact ih next (by rw [split, List.append_assoc]; rfl)

theorem Progress.start (schemas : Entries Schema) : Progress schemas [] {} [] := by
  constructor
  · exact Consistent.empty _
  · rfl
  · rfl
  · simp [Entries.keys]
  · exact .nil
  · rfl

theorem exists_progress (distinct : schemas.keys.Nodup)
    (plain : ∀ key ∈ schemas.keys, Unbracketed (declaration key).base) :
    ∃ blocks, Progress schemas schemas ((addAll (reservedNames schemas) schemas).run {}).2 blocks :=
  (Progress.start schemas).addAll distinct rfl plain

end Progress

end ClientGen.Definitions
