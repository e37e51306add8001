import ClientGen.Operation
import ClientGen.Proofs.Document.References
import ClientGen.Proofs.Prune.Tidy
import ClientGen.Proofs.Schema.RoundTrip

/-!
Parameters, bodies, responses, operations and paths are read back from what they are written as. A
value in place is never taken for a reference, because none of them is written with a path.
-/

set_option autoImplicit false

namespace ClientGen

open Json (Decoded ReadsBack RoundTrips decodeOption decodeList decodeEntries)

/-! ## Values in place and references -/

theorem Json.get?_optionalMember {Value : Type} {key name : String} (other : name ≠ key)
    (encode : Value → Json) (option : Option Value) :
    Entries.get? key (Json.optionalMember name encode option) = none := by
  cases option with
  | none => rfl
  | some value => rw [Json.optionalMember, Entries.get?_cons, if_neg other, Entries.get?_nil]

theorem Json.get?_listMember {Value : Type} {key name : String} (other : name ≠ key)
    (encode : Value → Json) (values : List Value) :
    Entries.get? key (Json.listMember name encode values) = none := by
  cases values with
  | nil => rfl
  | cons first rest =>
      rw [Json.listMember, if_neg (by simp), Entries.get?_cons, if_neg other, Entries.get?_nil]

theorem Json.get?_entriesMember {Value : Type} {key name : String} (other : name ≠ key)
    (encode : Value → Json) (entries : Entries Value) :
    Entries.get? key (Json.entriesMember name encode entries) = none := by
  cases entries with
  | nil => rfl
  | cons first rest =>
      rw [Json.entriesMember, if_neg (by simp), Entries.get?_cons, if_neg other, Entries.get?_nil]

namespace Referable

variable {Value : Type} {decodeValue : Json → Decoded Value} {encodeValue : Value → Json}

theorem roundTrips (union : String) (trips : RoundTrips decodeValue encodeValue)
    (pathless : ∀ value, (encodeValue value).member? "$ref" = none) :
    RoundTrips (decode union decodeValue) (encode encodeValue) := by
  intro json referable decoded
  cases referable with
  | reference path => exact ⟨⟨_, rfl⟩, rfl⟩
  | inline value =>
      have read : decodeValue json = .ok value := by
        rw [decode] at decoded
        split at decoded
        · cases decoded
        · split at decoded
          · next found =>
              cases decoded
              exact found
          · cases decoded
      obtain ⟨written, reads⟩ := trips json value read
      refine ⟨written, ?_⟩
      rw [encode, decode, pathless, reads]

end Referable

/-! ## Parameters -/

namespace Parameter

structure PartsReadBack (parameter : Parameter) : Prop where
  schema : ∀ schema ∈ parameter.schema, ReadsBack Schema.decode Schema.encode schema
  items : ∀ schema ∈ parameter.items, ReadsBack Schema.decode Schema.encode schema
  defaultValue : ∀ value ∈ parameter.defaultValue, value ≠ .null

theorem put_keeps {name : String} {value : Json} {before after : Parameter}
    (put : put name value before = .ok after) (parts : before.PartsReadBack) :
    after.PartsReadBack := by
  unfold Parameter.put at put
  split at put
  case h_5 =>
    obtain ⟨option, decoded, rfl⟩ := Json.eq_of_build put
    refine ⟨?_, parts.items, parts.defaultValue⟩
    exact Json.forall_of_decodeOption (fun schema _ => Schema.roundTrips value schema) decoded
  case h_8 =>
    obtain ⟨option, decoded, rfl⟩ := Json.eq_of_build put
    refine ⟨parts.schema, ?_, parts.defaultValue⟩
    exact Json.forall_of_decodeOption (fun schema _ => Schema.roundTrips value schema) decoded
  case h_10 =>
    obtain ⟨option, decoded, rfl⟩ := Json.eq_of_build put
    refine ⟨parts.schema, parts.items, ?_⟩
    refine Json.forall_of_decodeOption (fun found isValue same => ?_) decoded
    cases same
    exact isValue
  case h_11 =>
    cases put
    exact parts
  all_goals
    obtain ⟨found, -, rfl⟩ := Json.eq_of_build put
    exact ⟨parts.schema, parts.items, parts.defaultValue⟩

theorem firstMissing_eq_none {names : List String} (name : "name" ∈ names)
    (location : "in" ∈ names) : shape.firstMissing names = none := by
  simp [Json.RecordShape.firstMissing, shape, name, location]

theorem location_decode_key (location : Location) :
    Location.decode (.str location.key) = .ok location := by
  cases location <;> rfl

theorem PartsReadBack.readsBack {parameter : Parameter} (parts : parameter.PartsReadBack) :
    ReadsBack decode encode parameter := by
  refine ⟨⟨_, rfl⟩, ?_⟩
  refine Json.RecordShape.decode_of_puts (firstMissing_eq_none (.head _) (.tail _ (.head _))) ?_
  simp only [List.append_assoc]
  refine .append (.cons (.always (fun parameter (name : String) => { parameter with name })
    (fun _ => rfl) rfl) (.always (fun parameter location => { parameter with location })
      (fun _ => rfl) (location_decode_key _))) ?_
  refine .append (.optional (fun parameter description => { parameter with description }) rfl
    (fun _ => rfl) fun _ _ => rfl) ?_
  refine .append (.always (fun parameter (required : Bool) => { parameter with required })
    (fun _ => rfl) rfl) ?_
  refine .append (.optional (fun parameter schema => { parameter with schema }) rfl
    (fun _ => rfl) fun schema here => (parts.schema schema here).option) ?_
  refine .append (.optional (fun parameter types => { parameter with types }) rfl (fun _ => rfl)
    fun types _ => types.option_encode) ?_
  refine .append (.optional (fun parameter format => { parameter with format }) rfl
    (fun _ => rfl) fun _ _ => rfl) ?_
  refine .append (.optional (fun parameter items => { parameter with items }) rfl (fun _ => rfl)
    fun schema here => (parts.items schema here).option) ?_
  refine .append (.list (fun parameter enumValues => { parameter with enumValues }) rfl
    (fun _ => rfl) (Json.decodeList_map fun _ _ => rfl)) ?_
  refine .last (.optional (fun parameter defaultValue => { parameter with defaultValue }) rfl
    (fun _ => rfl) fun value here => Json.decodeOption_ok (parts.defaultValue value here)) ?_
  rfl

theorem roundTrips : RoundTrips decode encode := by
  intro json parameter decoded
  refine PartsReadBack.readsBack (Json.RecordShape.holds_of_decode decoded
    (fun _ _ _ _ _ => put_keeps) ?_)
  constructor <;> simp

theorem pathless (parameter : Parameter) : parameter.encode.member? "$ref" = none := by
  simp [encode, Json.member?, Entries.get?_append, Entries.get?_cons, Json.get?_optionalMember,
    Json.get?_listMember]

theorem referable_roundTrips : RoundTrips decodeReferable encodeReferable :=
  Referable.roundTrips _ roundTrips pathless

end Parameter

/-! ## Bodies and responses -/

namespace MediaType

def PartsReadBack (media : MediaType) : Prop :=
  ∀ schema ∈ media.schema, ReadsBack Schema.decode Schema.encode schema

theorem put_keeps {name : String} {value : Json} {before after : MediaType}
    (put : put name value before = .ok after) (parts : before.PartsReadBack) :
    after.PartsReadBack := by
  unfold MediaType.put at put
  split at put
  · obtain ⟨option, decoded, rfl⟩ := Json.eq_of_build put
    exact Json.forall_of_decodeOption (fun schema _ => Schema.roundTrips value schema) decoded
  · cases put
    exact parts

theorem roundTrips : RoundTrips decode encode := by
  intro json media decoded
  have parts : media.PartsReadBack := by
    refine Json.RecordShape.holds_of_decode decoded (fun _ _ _ _ _ => put_keeps) ?_
    simp [PartsReadBack]
  refine ⟨⟨_, rfl⟩, Json.RecordShape.decode_of_puts ?_ ?_⟩
  · rfl
  · exact .last (.optional (fun media schema => { media with schema }) rfl (fun _ => rfl)
      fun schema here => (parts schema here).option) rfl

end MediaType

namespace RequestBody

def PartsReadBack (body : RequestBody) : Prop :=
  ∀ entry ∈ body.content, ReadsBack MediaType.decode MediaType.encode entry.2

theorem put_keeps {name : String} {value : Json} {before after : RequestBody}
    (put : put name value before = .ok after) (parts : before.PartsReadBack) :
    after.PartsReadBack := by
  unfold RequestBody.put at put
  split at put
  case h_2 =>
    obtain ⟨content, decoded, rfl⟩ := Json.eq_of_build put
    exact Json.forall_of_decodeEntries (fun inner media _ => MediaType.roundTrips inner media)
      decoded
  case h_4 =>
    cases put
    exact parts
  all_goals
    obtain ⟨found, -, rfl⟩ := Json.eq_of_build put
    exact parts

theorem roundTrips : RoundTrips decode encode := by
  intro json body decoded
  have parts : body.PartsReadBack := by
    refine Json.RecordShape.holds_of_decode decoded (fun _ _ _ _ _ => put_keeps) ?_
    simp [PartsReadBack]
  refine ⟨⟨_, rfl⟩, Json.RecordShape.decode_of_puts ?_ ?_⟩
  · rfl
  · refine .append (.optional (fun body description => { body with description }) rfl
      (fun _ => rfl) fun _ _ => rfl) ?_
    refine .cons (.always (fun body content => { body with content }) (fun _ => rfl)
      (Json.decodeEntries_map fun entry here => (parts entry here).reads)) ?_
    exact .last (.always (fun body (required : Bool) => { body with required }) (fun _ => rfl)
      rfl) rfl

theorem referable_roundTrips : RoundTrips decodeReferable encodeReferable := by
  refine Referable.roundTrips _ roundTrips fun body => ?_
  simp [encode, Json.member?, Entries.get?_append, Entries.get?_cons, Json.get?_optionalMember]

end RequestBody

namespace Response

structure PartsReadBack (response : Response) : Prop where
  schema : ∀ schema ∈ response.schema, ReadsBack Schema.decode Schema.encode schema
  content : ∀ entry ∈ response.content, ReadsBack MediaType.decode MediaType.encode entry.2

theorem put_keeps {name : String} {value : Json} {before after : Response}
    (put : put name value before = .ok after) (parts : before.PartsReadBack) :
    after.PartsReadBack := by
  unfold Response.put at put
  split at put
  case h_2 =>
    obtain ⟨option, decoded, rfl⟩ := Json.eq_of_build put
    refine ⟨?_, parts.content⟩
    exact Json.forall_of_decodeOption (fun schema _ => Schema.roundTrips value schema) decoded
  case h_3 =>
    obtain ⟨content, decoded, rfl⟩ := Json.eq_of_build put
    refine ⟨parts.schema, ?_⟩
    exact Json.forall_of_decodeEntries (fun inner media _ => MediaType.roundTrips inner media)
      decoded
  case h_5 =>
    cases put
    exact parts
  all_goals
    obtain ⟨found, -, rfl⟩ := Json.eq_of_build put
    exact ⟨parts.schema, parts.content⟩

theorem roundTrips : RoundTrips decode encode := by
  intro json response decoded
  have parts : response.PartsReadBack := by
    refine Json.RecordShape.holds_of_decode decoded (fun _ _ _ _ _ => put_keeps) ?_
    constructor <;> simp
  refine ⟨⟨_, rfl⟩, Json.RecordShape.decode_of_puts ?_ ?_⟩
  · rfl
  · simp only [List.append_assoc]
    refine .append (.optional (fun response description => { response with description }) rfl
      (fun _ => rfl) fun _ _ => rfl) ?_
    refine .append (.optional (fun response schema => { response with schema }) rfl
      (fun _ => rfl) fun schema here => (parts.schema schema here).option) ?_
    refine .append (.entries (fun response content => { response with content }) rfl
      (fun _ => rfl)
      (Json.decodeEntries_map fun entry here => (parts.content entry here).reads)) ?_
    exact .last (.entries (fun response headers => { response with headers }) rfl (fun _ => rfl)
      (Json.decodeEntries_map fun _ _ => rfl)) rfl

theorem referable_roundTrips : RoundTrips decodeReferable encodeReferable := by
  refine Referable.roundTrips _ roundTrips fun response => ?_
  simp [encode, Json.member?, Entries.get?_append, Json.get?_optionalMember,
    Json.get?_entriesMember]

end Response

/-! ## Operations and paths -/

namespace Operation

structure PartsReadBack (operation : Operation) : Prop where
  parameters : ∀ parameter ∈ operation.parameters,
    ReadsBack Parameter.decodeReferable Parameter.encodeReferable parameter
  requestBody : ∀ body ∈ operation.requestBody,
    ReadsBack RequestBody.decodeReferable RequestBody.encodeReferable body
  responses : ∀ entry ∈ operation.responses,
    ReadsBack Response.decodeReferable Response.encodeReferable entry.2

theorem put_keeps {name : String} {value : Json} {before after : Operation}
    (put : put name value before = .ok after) (parts : before.PartsReadBack) :
    after.PartsReadBack := by
  unfold Operation.put at put
  split at put
  case h_5 =>
    obtain ⟨parameters, decoded, rfl⟩ := Json.eq_of_build put
    refine ⟨?_, parts.requestBody, parts.responses⟩
    exact Json.forall_of_decodeList (fun part parameter _ =>
      Parameter.referable_roundTrips part parameter) decoded
  case h_6 =>
    obtain ⟨option, decoded, rfl⟩ := Json.eq_of_build put
    refine ⟨parts.parameters, ?_, parts.responses⟩
    exact Json.forall_of_decodeOption (fun body _ =>
      RequestBody.referable_roundTrips value body) decoded
  case h_7 =>
    obtain ⟨responses, decoded, rfl⟩ := Json.eq_of_build put
    refine ⟨parts.parameters, parts.requestBody, ?_⟩
    exact Json.forall_of_decodeEntries (fun part response _ =>
      Response.referable_roundTrips part response) decoded
  case h_11 =>
    cases put
    exact parts
  all_goals
    obtain ⟨found, -, rfl⟩ := Json.eq_of_build put
    exact ⟨parts.parameters, parts.requestBody, parts.responses⟩

theorem roundTrips : RoundTrips decode encode := by
  intro json operation decoded
  have parts : operation.PartsReadBack := by
    refine Json.RecordShape.holds_of_decode decoded (fun _ _ _ _ _ => put_keeps) ?_
    constructor <;> simp
  refine ⟨⟨_, rfl⟩, Json.RecordShape.decode_of_puts ?_ ?_⟩
  · rfl
  · simp only [List.append_assoc]
    refine .append (.optional (fun operation operationId => { operation with operationId }) rfl
      (fun _ => rfl) fun _ _ => rfl) ?_
    refine .append (.optional (fun operation summary => { operation with summary }) rfl
      (fun _ => rfl) fun _ _ => rfl) ?_
    refine .append (.optional (fun operation description => { operation with description }) rfl
      (fun _ => rfl) fun _ _ => rfl) ?_
    refine .append (.list (fun operation tags => { operation with tags }) rfl (fun _ => rfl)
      (Json.decodeStrings_strings _)) ?_
    refine .append (.list (fun operation parameters => { operation with parameters }) rfl
      (fun _ => rfl)
      (Json.decodeList_map fun parameter here => (parts.parameters parameter here).reads)) ?_
    refine .append (.optional (fun operation requestBody => { operation with requestBody }) rfl
      (fun _ => rfl) fun body here => (parts.requestBody body here).option) ?_
    refine .append (.entries (fun operation responses => { operation with responses }) rfl
      (fun _ => rfl)
      (Json.decodeEntries_map fun entry here => (parts.responses entry here).reads)) ?_
    refine .append (.list (fun operation consumes => { operation with consumes }) rfl
      (fun _ => rfl) (Json.decodeStrings_strings _)) ?_
    refine .append (.list (fun operation produces => { operation with produces }) rfl
      (fun _ => rfl) (Json.decodeStrings_strings _)) ?_
    exact .last (.optional (fun operation deprecated => { operation with deprecated }) rfl
      (fun _ => rfl) fun _ _ => rfl) rfl

end Operation

namespace PathItem

structure PartsReadBack (item : PathItem) : Prop where
  parameters : ∀ parameter ∈ item.parameters,
    ReadsBack Parameter.decodeReferable Parameter.encodeReferable parameter
  operations : ∀ method, ∀ operation ∈ item.operation? method,
    ReadsBack Operation.decode Operation.encode operation

theorem putMember_key (method : Method) (value : Json) (item : PathItem) :
    putMember method.key value item = do
      return item.withOperation method (← decodeOption Operation.decode value) := by
  rw [putMember, if_neg (Prune.key_ne_parameters method), Prune.find?_key]

theorem putMember_keeps {name : String} {value : Json} {before after : PathItem}
    (put : putMember name value before = .ok after) (parts : before.PartsReadBack) :
    after.PartsReadBack := by
  unfold putMember at put
  split at put
  · obtain ⟨parameters, decoded, rfl⟩ := Json.eq_of_build put
    refine ⟨?_, fun method => ?_⟩
    · exact Json.forall_of_decodeList (fun part parameter _ =>
        Parameter.referable_roundTrips part parameter) decoded
    · have same : ({ before with parameters } : PathItem).operation? method =
          before.operation? method := by cases method <;> rfl
      rw [same]
      exact parts.operations method
  · split at put
    · next changed _ =>
        obtain ⟨option, decoded, rfl⟩ := Json.eq_of_build put
        refine ⟨?_, fun method => ?_⟩
        · rw [parameters_withOperation]
          exact parts.parameters
        · rw [operation?_withOperation]
          split
          · exact Json.forall_of_decodeOption (fun operation _ =>
              Operation.roundTrips value operation) decoded
          · exact parts.operations method
    · cases put
      exact parts

theorem withOperation_operation? (item : PathItem) (method : Method) :
    item.withOperation method (item.operation? method) = item := by
  cases method <;> rfl

/-- The operations of a path are put under their methods one after the other. -/
theorem puts_operations {item : PathItem} (parts : item.PartsReadBack) (methods : List Method)
    (distinct : methods.Nodup) (before : PathItem)
    (absent : ∀ method ∈ methods, before.operation? method = none) :
    Json.Puts putMember before
      ((methods.filterMap fun method => (item.operation? method).map fun found =>
        (method, found)).map fun entry => (entry.1.key, entry.2.encode))
      (methods.foldl (fun found method => found.withOperation method (item.operation? method))
        before) := by
  induction methods generalizing before with
  | nil => exact .nil
  | cons method rest ih =>
      obtain ⟨fresh, distinct⟩ := List.nodup_cons.mp distinct
      have later : ∀ operation, ∀ other ∈ rest,
          (before.withOperation method operation).operation? other = none := by
        intro operation other member
        have apart : method ≠ other := fun same => fresh (same ▸ member)
        rw [operation?_withOperation, if_neg apart]
        exact absent other (.tail _ member)
      rw [List.foldl_cons]
      cases found : item.operation? method with
      | none =>
          have same : before.withOperation method none = before := by
            rw [← absent method (.head _)]
            exact withOperation_operation? before method
          rw [List.filterMap_cons_none (by rw [found]; rfl), same]
          exact ih distinct before (same ▸ later none)
      | some operation =>
          rw [List.filterMap_cons_some (by rw [found]; rfl), List.map_cons]
          refine .cons (.always (fun item operation => item.withOperation method operation)
            (putMember_key method · before) (parts.operations method operation found).option) ?_
          exact ih distinct _ (later _)

theorem roundTrips : RoundTrips decode encode := by
  intro json item decoded
  have parts : item.PartsReadBack := by
    refine Json.RecordShape.holds_of_decode decoded (fun _ _ _ _ _ => putMember_keeps) ?_
    refine ⟨by simp, fun method => ?_⟩
    cases method <;> simp [operation?]
  refine ⟨⟨_, rfl⟩, Json.RecordShape.decode_of_puts ?_ ?_⟩
  · rfl
  · refine .append (.list (fun item parameters => { item with parameters }) rfl (fun _ => rfl)
      (Json.decodeList_map fun parameter here => (parts.parameters parameter here).reads)) ?_
    refine .last (puts_operations parts Method.all (by decide) _ fun method _ => ?_) ?_
    · cases method <;> rfl
    · cases item
      simp only [Method.all, List.foldl_cons, List.foldl_nil, withOperation, operation?]

end PathItem

end ClientGen
