import ClientGen.Json.Writer
import ClientGen.Proofs.Definitions.Blocks

/-!
The result of resolving the definitions of a document with well-formed keys. No definition is lost,
and none is found under the base of another.
-/

set_option autoImplicit false

namespace ClientGen.Definitions

open DeclaredName (declaration)

/-- A result that consists of blocks, one for each base, in the order of the first keys. -/
structure Flattened (schemas : Entries Schema) (result : Reported Definitions)
    (blocks : List Block) : Prop where
  documents : blocks.map Block.source = documents schemas
  one : ∀ key ∈ schemas.keys, ∃! block, block ∈ blocks ∧ block.base = (declaration key).base
  entries : result.value.entries = blocks.flatMap Block.entries
  built : Block.AllBuilt (reservedNames schemas) blocks
  apart : ∀ block ∈ blocks, ∀ object ∈ block.inline, ∀ key ∈ schemas.keys,
    object.name ≠ (declaration key).base
  found : ∀ block ∈ blocks, result.value.findByBase? block.base = some block.entry
  infos : Diagnostic.ofSeverity .info result.diagnostics = (repeats schemas).map fun entry =>
    collapsed entry.1 (declaration (firstKey schemas entry.1)).name

theorem Progress.block_inj {schemas : Entries Schema} {state : Resolve.State} {blocks : List Block}
    (progress : Progress schemas schemas state blocks) (distinct : schemas.keys.Nodup)
    {left right : Block} (inLeft : left ∈ blocks) (inRight : right ∈ blocks)
    (same : left.base = right.base) : left = right := by
  obtain ⟨-, leftFirst⟩ := progress.source_mem inLeft
  obtain ⟨inSchemas, rightFirst⟩ := progress.source_mem inRight
  have keys : left.key = right.key := by
    rw [← leftFirst, firstKey_congr (Entries.mem_keys inSchemas) same, rightFirst]
  have sources : (blocks.map Block.source).Sublist schemas := by
    rw [progress.sources]
    exact List.filter_sublist
  have unique : (blocks.map fun block => block.key).Nodup := by
    have listed : (Entries.keys (blocks.map Block.source)).Nodup :=
      (sources.map Prod.fst).nodup distinct
    rw [Entries.keys, List.map_map] at listed
    exact listed
  exact List.inj_on_of_nodup_map unique inLeft inRight keys

/-- Every base has one block, made from its first key; every later key of the base makes one info
and nothing else; and all the rest are inline objects, in the block that they belong to. -/
theorem document_definitions_kept (schemas : Entries Schema) (distinct : schemas.keys.Nodup)
    (wellFormed : ∀ key ∈ schemas.keys, (NamedType.parse? key).isSome) :
    ∃ blocks, Flattened schemas (ofSchemas schemas) blocks := by
  have plain : ∀ key ∈ schemas.keys, Names.Unbracketed (declaration key).base :=
    fun key member => DeclaredName.unbracketed_base (wellFormed key member)
  obtain ⟨blocks, progress⟩ := exists_progress distinct plain
  refine ⟨blocks, ?_⟩
  constructor
  · exact progress.sources
  · intro key member
    obtain ⟨block, isBlock, same⟩ := progress.covered key member
    refine ⟨block, ⟨isBlock, same⟩, ?_⟩
    rintro other ⟨isOther, alike⟩
    exact progress.block_inj distinct isOther isBlock (alike.trans same.symm)
  · exact progress.entries
  · exact progress.built
  · intro block isBlock object isObject key member same
    have plainBlock := plain block.key (Entries.mem_keys (progress.source_mem isBlock).1)
    obtain ⟨earlier, built⟩ := progress.built.exists_built isBlock
    exact (built.inline_names plainBlock object isObject).1 (same ▸ mem_reservedNames member)
  · intro block isBlock
    have plainBlock := plain block.key (Entries.mem_keys (progress.source_mem isBlock).1)
    exact progress.consistent.indexed.findByBase?_eq_some_iff.mpr
      ⟨progress.entry_mem isBlock, DeclaredName.base_name plainBlock⟩
  · exact progress.infos

/-- Two pages; an owner in place, whose name is that of a later definition; and an enumeration. -/
def petSchemas : Entries Schema :=
  let name : Schema := { types := some (.one "string") }
  let owner : Schema := { properties := [("name", name)] }
  [("Page«Pet»", { properties := [("content", { reference := some "#/definitions/Pet" })] }),
    ("Pet", { properties := [("owner", owner)] }),
    ("Page«User»", {}),
    ("PetOwner", { properties := [("license", name)] }),
    ("Status", { types := some (.one "string"), enumValues := [.str "active"] })]

/-- What the entries hold: the page has a placeholder for its argument, the owner is entered under a
free name with the field that it has in place, the later definition keeps its own field, and the
second page adds nothing. -/
theorem document_definitions_kept_pets :
    petSchemas.keys.Nodup ∧ (∀ key ∈ petSchemas.keys, (NamedType.parse? key).isSome) ∧
    (∃ blocks, Flattened petSchemas (ofSchemas petSchemas) blocks) ∧
    (ofSchemas petSchemas).value.entries.map (fun entry =>
        (entry.1, entry.2.fields.map fun field =>
          (field.name, field.type, field.target, (field.properties.getD []).map Field.name))) =
      [("Page<T>", [("content", "T", "Pet", [])]), ("Pet", [("owner", "PetOwner2", "", ["name"])]),
        ("PetOwner2", [("name", "string", "", [])]), ("PetOwner", [("license", "string", "", [])]),
        ("Status", [])] ∧
    (ofSchemas petSchemas).value.entries.filterMap (fun entry =>
        entry.2.scalar?.map fun field => (field.name, field.type, field.enumOption.map Json.compact)) =
      [("Status", "string", ["\"active\""])] :=
  ⟨by decide +kernel, by decide +kernel,
    document_definitions_kept petSchemas (by decide +kernel) (by decide +kernel), by decide +kernel,
    by decide +kernel⟩

end ClientGen.Definitions
