import ClientGen.Proofs.Resolve.Registry

/-!
Runs of calls on one registry that starts empty. The first registration under a name wins: later
calls change no entry, move none, and put what is new at the end.
-/

set_option autoImplicit false

namespace ClientGen.Resolve

open Names (Unbracketed)

/-- A request to resolve a property, the fields of an object or a type. -/
inductive Call where
  | property (mappings : Entries String) (owner name : String) (required : Bool) (schema : Schema)
  | object (mappings : Entries String) (owner : String) (schema : Schema)
  | type (mappings : Entries String) (name : String) (schema : Schema)

namespace Call

/-- The state after a call, whose result is dropped. -/
def after (reserved : List String) (state : State) : Call → State
  | .property mappings owner name required schema =>
      ((Resolve.property (.registering reserved) mappings owner name required schema).run state).2
  | .object mappings owner schema =>
      ((Resolve.object (.registering reserved) mappings owner schema).run state).2
  | .type mappings name schema =>
      ((Resolve.type (.registering reserved) mappings name schema).run state).2

/-- The owner, or the name made for the type: the names of all inline objects start with it. -/
def stem : Call → String
  | .property _ owner _ _ _ => owner
  | .object _ owner _ => owner
  | .type _ name _ => name

def Plain (call : Call) : Prop := Unbracketed call.stem

instance (call : Call) : Decidable call.Plain := inferInstanceAs (Decidable (Unbracketed call.stem))

end Call

/-- The state after several calls, the first of which finds nothing registered. -/
def afterAll (reserved : List String) (calls : List Call) : State :=
  calls.foldl (Call.after reserved) {}

/-- A registry that holds nothing but inline objects. -/
structure OnlyInline (reserved : List String) (definitions : Definitions) : Prop where
  consistent : Consistent reserved definitions
  own : ∀ name ∈ definitions.names, name ∉ reserved ∧ Unbracketed name

variable {reserved : List String}

theorem OnlyInline.findByBase? {definitions : Definitions} (only : OnlyInline reserved definitions)
    {entry : String × Definition} (member : entry ∈ definitions.entries) :
    definitions.findByBase? entry.1 = some entry := by
  have plain := (only.own entry.1 (Entries.mem_keys member)).2
  exact only.consistent.indexed.findByBase?_eq_some_iff.mpr
    ⟨member, Names.base_of_unbracketed plain⟩

theorem OnlyInline.grown {first last : State} {mappings : Entries String}
    {asked : String → Schema → Prop} (only : OnlyInline reserved first.definitions)
    (visits : Visits reserved mappings asked first last)
    (plain : ∀ name schema, asked name schema → Unbracketed name) :
    ∃ added, last.definitions.entries = first.definitions.entries ++ added ∧
      OnlyInline reserved last.definitions := by
  obtain ⟨objects, grown, ordered⟩ := visits.grown only.consistent plain
  refine ⟨objects.map Registered.entry, grown.entries, grown.consistent, fun name member => ?_⟩
  rw [Definitions.names, Entries.keys, grown.entries, List.map_append, List.mem_append] at member
  rcases member with old | new
  · exact only.own name old
  · rw [List.map_map] at new
    obtain ⟨object, isObject, rfl⟩ := List.mem_map.mp new
    exact ⟨ordered.name_not_mem object isObject, ordered.unbracketed plain object isObject⟩

/-- A call leaves a registry of inline objects as it is and puts its own behind. -/
theorem OnlyInline.after {state : State} (only : OnlyInline reserved state.definitions) {call : Call}
    (plain : call.Plain) :
    ∃ added, (call.after reserved state).definitions.entries = state.definitions.entries ++ added ∧
      OnlyInline reserved (call.after reserved state).definitions := by
  cases call with
  | property mappings owner name required schema =>
      exact only.grown (type_visits reserved mappings schema _ state) fun _ _ isAsked =>
        isAsked.unbracketed (Unbracketed.synthesized plain name)
  | object mappings owner schema =>
      exact only.grown (object_visits reserved mappings owner schema state) fun _ _ isAsked =>
        isAsked.unbracketed plain
  | type mappings name schema =>
      exact only.grown (type_visits reserved mappings schema name state) fun _ _ isAsked =>
        isAsked.unbracketed plain

theorem onlyInline_afterAll (calls : List Call) (plain : ∀ call ∈ calls, call.Plain) :
    OnlyInline reserved (afterAll reserved calls).definitions := by
  have keeps (state : State) (only : OnlyInline reserved state.definitions) :
      OnlyInline reserved (calls.foldl (Call.after reserved) state).definitions := by
    induction calls generalizing state with
    | nil => exact only
    | cons call rest ih =>
        obtain ⟨-, -, next⟩ := only.after (plain call (.head _))
        exact ih (fun other member => plain other (.tail _ member)) _ next
  refine keeps {} ⟨Consistent.empty reserved, fun name member => ?_⟩
  cases member

/-- Between two registries nothing has changed or moved, and what is new is at the end. No name of
the later one is reserved, and the base that each of its names is leads to its entry. -/
structure FirstWins (reserved : List String) (first last : Definitions) : Prop where
  appended : ∃ added, last.entries = first.entries ++ added
  unreserved : ∀ name ∈ last.names, name ∉ reserved
  found : ∀ entry ∈ last.entries, last.findByBase? entry.1 = some entry

/-- A call after any others leaves what they have registered. -/
theorem first_registration_wins (reserved : List String) (calls : List Call) (call : Call)
    (plain : ∀ other ∈ calls ++ [call], other.Plain) :
    FirstWins reserved (afterAll reserved calls).definitions
      (afterAll reserved (calls ++ [call])).definitions := by
  have only : OnlyInline reserved (afterAll reserved calls).definitions :=
    onlyInline_afterAll calls fun other member => plain other (List.mem_append_left _ member)
  have last : afterAll reserved (calls ++ [call]) = call.after reserved (afterAll reserved calls) := by
    rw [afterAll, List.foldl_append]
    rfl
  obtain ⟨added, entries, next⟩ := only.after (plain call (by simp))
  rw [last]
  constructor
  · exact ⟨added, entries⟩
  · intro name member
    exact (next.own name member).1
  · intro entry member
    exact next.findByBase? member

/-- A pet with an owner in place, who lives at an address in place. -/
def petSchema : Schema :=
  let address : Schema := { properties := [("city", { types := some (.one "string") })] }
  let owner : Schema := { properties := [("address", address)] }
  { properties := [("owner", owner)] }

/-- The pet itself is an inline object of a house after it was resolved on its own. -/
def petCalls : List Call :=
  [.object [] "Pet" petSchema, .type [("T", "Pet")] "House" petSchema]

theorem first_registration_wins_pets :
    (∀ call ∈ petCalls ++ [.property [] "House" "owner" true petSchema], call.Plain) ∧
    FirstWins ["PetOwner"] (afterAll ["PetOwner"] petCalls).definitions
      (afterAll ["PetOwner"]
        (petCalls ++ [.property [] "House" "owner" true petSchema])).definitions ∧
    (afterAll ["PetOwner"] petCalls).definitions.names =
      ["PetOwner2", "PetOwner2Address", "House", "HouseOwner", "HouseOwnerAddress"] :=
  ⟨by decide +kernel, first_registration_wins _ _ _ (by decide +kernel), by decide +kernel⟩

end ClientGen.Resolve
