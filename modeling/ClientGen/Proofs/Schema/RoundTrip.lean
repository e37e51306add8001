import ClientGen.Proofs.Json.ReadBack
import ClientGen.Proofs.Schema.Readable

/-!
A schema is read back from what it is written as. A default value of null cannot be told from none,
but no schema that was read has one; for the schemas inside of it the same holds by induction on the
value that it was read from.
-/

set_option autoImplicit false

namespace ClientGen

open Json (Decoded ReadsBack RoundTrips Inside decodeOption decodeString decodeBool decodeEntries
  decodeList)

theorem TypeSet.decode_encode (types : TypeSet) : decode types.encode = .ok types := by
  cases types with
  | one word => rfl
  | many words =>
      rw [encode, Json.strings, decode, Json.decodeStrings_strings]
      simp

theorem TypeSet.option_encode (types : TypeSet) :
    decodeOption decode types.encode = .ok (some types) := by
  rw [decodeOption, decode_encode]
  · rfl
  · cases types <;> simp [encode, Json.strings]

theorem Required.decode_encode (required : Required) : decode required.encode = .ok required := by
  cases required with
  | names listed =>
      rw [encode, Json.strings, decode, Json.decodeStrings_strings]
      simp
  | flag value => rfl

namespace Schema

/-! ## Schemas as records -/

def decodeAdditional (value : Json) : Decoded (Additional Schema) := (read value).additional

/-- Puts a member into a schema as into any other record. -/
def putMember (name : String) (value : Json) (schema : Schema) : Decoded Schema :=
  match name with
  | "$ref" => do return { schema with reference := ← decodeOption decodeString value }
  | "type" => do return { schema with types := ← decodeOption TypeSet.decode value }
  | "format" => do return { schema with format := ← decodeOption decodeString value }
  | "title" => do return { schema with title := ← decodeOption decodeString value }
  | "description" => do return { schema with description := ← decodeOption decodeString value }
  | "default" => do return { schema with defaultValue := ← decodeOption .ok value }
  | "nullable" => do return { schema with nullable := ← decodeOption decodeBool value }
  | "properties" => do return { schema with properties := ← decodeEntries decode value }
  | "required" => do return { schema with required := ← Required.decode value }
  | "additionalProperties" => do
      return { schema with additional := ← decodeOption decodeAdditional value }
  | "items" => do return { schema with items := ← decodeOption decode value }
  | "allOf" => do return { schema with allOf := ← decodeList decode value }
  | "enum" => do return { schema with enumValues := ← decodeList .ok value }
  | _ => .ok schema

def encodeEither : Additional Schema → Json
  | .allowed flag => .bool flag
  | .described schema => schema.encode

theorem entries_read (value : Json) : (read value).entries = decodeEntries decode value := by
  cases value with
  | obj members =>
      rw [read, readMembers_eq_map, decodeEntries]
      simp only [Json.decodeValues, List.mapM_map]
      rfl
  | _ => rfl

theorem list_read (value : Json) : (read value).list = decodeList decode value := by
  cases value with
  | arr items =>
      rw [read, readItems_eq_map, decodeList]
      simp only [List.mapM_map]
      rfl
  | _ => rfl

theorem option_read {Value : Type} (decode : Json → Decoded Value) (value : Json) :
    (read value).option (decode value) = decodeOption decode value := by
  cases value <;> rfl

theorem put_read (name : String) (value : Json) (schema : Schema) :
    put name (read value) schema = putMember name value schema := by
  have additional : (read value).option (read value).additional =
      decodeOption decodeAdditional value := option_read decodeAdditional value
  have alone : (read value).option (read value).schema = decodeOption decode value :=
    option_read decode value
  unfold put putMember
  rewrite [value_read, entries_read, list_read, additional, alone]
  rfl

theorem putAll_read (members : List (String × Json)) (schema : Schema) :
    Json.RecordShape.putAll put schema (members.map fun member => (member.1, read member.2)) =
      Json.RecordShape.putAll putMember schema members := by
  induction members generalizing schema with
  | nil => rfl
  | cons member rest ih =>
      rw [List.map_cons, Json.RecordShape.putAll, put_read, Json.RecordShape.putAll]
      exact congrArg (putMember member.1 member.2 schema >>= ·) (funext fun next => ih next)

theorem decode_eq_record (value : Json) : decode value = shape.decode {} putMember value := by
  cases value with
  | obj members =>
      change shape.ofMembers {} put (readMembers members) = shape.ofMembers {} putMember members
      rw [readMembers_eq_map, Json.RecordShape.ofMembers, putAll_read, List.map_map]
      rfl
  | arr items =>
      change shape.ofItems {} put (readItems items) = shape.ofItems {} putMember items
      have zipped : shape.names.zip (items.map read) =
          (shape.names.zip items).map fun member => (member.1, read member.2) :=
        List.zip_map_right
      rw [readItems_eq_map, Json.RecordShape.ofItems, zipped, putAll_read, List.length_map]
      rfl
  | _ => rfl

theorem encodeMembers_eq_map (properties : List (String × Schema)) :
    encodeMembers properties = properties.map fun entry => (entry.1, entry.2.encode) := by
  induction properties with
  | nil => rfl
  | cons entry rest ih => rw [encodeMembers, ih, List.map_cons]

theorem encodeList_eq_map (schemas : List Schema) : encodeList schemas = schemas.map encode := by
  induction schemas with
  | nil => rfl
  | cons schema rest ih => rw [encodeList, ih, List.map_cons]

theorem encode_eq (schema : Schema) : schema.encode =
    .obj (Json.optionalMember "$ref" .str schema.reference ++
      Json.optionalMember "type" TypeSet.encode schema.types ++
      Json.optionalMember "format" .str schema.format ++
      Json.optionalMember "title" .str schema.title ++
      Json.optionalMember "description" .str schema.description ++
      Json.optionalMember "default" id schema.defaultValue ++
      Json.optionalMember "nullable" .bool schema.nullable ++
      Json.entriesMember "properties" encode schema.properties ++
      (if schema.required.isEmpty then [] else [("required", schema.required.encode)]) ++
      Json.optionalMember "additionalProperties" encodeEither schema.additional ++
      Json.optionalMember "items" encode schema.items ++
      Json.listMember "allOf" encode schema.allOf ++
      Json.listMember "enum" id schema.enumValues) := by
  obtain ⟨reference, types, format, title, description, defaultValue, nullable, properties,
    required, additional, items, allOf, enumValues⟩ := schema
  have additionalMember : encodeAdditional additional =
      Json.optionalMember "additionalProperties" encodeEither additional := by
    rcases additional with _ | _ | _ <;> rfl
  have itemsMember : encodeItems items = Json.optionalMember "items" encode items := by
    cases items <;> rfl
  rw [encode, encodeMembers_eq_map, encodeList_eq_map, additionalMember, itemsMember]
  rfl

/-! ## Reading back -/

/-- No default value is null, and the schemas inside are read back. -/
structure PartsReadBack (schema : Schema) : Prop where
  defaultValue : ∀ value ∈ schema.defaultValue, value ≠ .null
  properties : ∀ entry ∈ schema.properties, ReadsBack decode encode entry.2
  additional : ∀ found ∈ schema.additional, ∀ inner, found = .described inner →
    ReadsBack decode encode inner
  items : ∀ inner ∈ schema.items, ReadsBack decode encode inner
  allOf : ∀ part ∈ schema.allOf, ReadsBack decode encode part

theorem partsReadBack_empty : PartsReadBack {} := by
  constructor <;> simp

theorem PartsReadBack.additional_reads {schema : Schema} (parts : schema.PartsReadBack) :
    ∀ found ∈ schema.additional,
      decodeOption decodeAdditional (encodeEither found) = .ok (some found) := by
  intro found here
  cases found with
  | allowed flag => rfl
  | described inner =>
      obtain ⟨⟨members, written⟩, reads⟩ := parts.additional _ here inner rfl
      have additional : decodeAdditional inner.encode = .ok (.described inner) := by
        rw [decode, written] at reads
        rw [decodeAdditional, Reading.additional, written, value_read, reads]
      rw [encodeEither, written] at *
      rw [decodeOption, additional]
      · rfl
      · simp

theorem puts_required {before : Schema} (absent : before.required = .names [])
    (required : Required) :
    Json.Puts putMember before (if required.isEmpty then [] else [("required", required.encode)])
      { before with required } := by
  split
  · next empty =>
      cases before
      have same : required = .names [] := by
        cases required with
        | names listed => rw [List.isEmpty_iff.mp empty]
        | flag value => cases empty
      cases absent
      rw [same]
      exact .nil
  · exact .always (fun (schema : Schema) required => { schema with required }) (fun _ => rfl)
      required.decode_encode

theorem PartsReadBack.readsBack {schema : Schema} (parts : schema.PartsReadBack) :
    ReadsBack decode encode schema := by
  refine ⟨⟨_, encode_eq schema⟩, ?_⟩
  rw [encode_eq, decode_eq_record]
  refine Json.RecordShape.decode_of_puts (firstMissing_shape _) ?_
  simp only [List.append_assoc]
  refine .append (.optional (fun schema reference => { schema with reference }) rfl
    (fun _ => rfl) fun _ _ => rfl) ?_
  refine .append (.optional (fun schema types => { schema with types }) rfl (fun _ => rfl)
    fun types _ => types.option_encode) ?_
  refine .append (.optional (fun schema format => { schema with format }) rfl (fun _ => rfl)
    fun _ _ => rfl) ?_
  refine .append (.optional (fun schema title => { schema with title }) rfl (fun _ => rfl)
    fun _ _ => rfl) ?_
  refine .append (.optional (fun schema description => { schema with description }) rfl
    (fun _ => rfl) fun _ _ => rfl) ?_
  refine .append (.optional (fun schema defaultValue => { schema with defaultValue }) rfl
    (fun _ => rfl) fun value here => Json.decodeOption_ok (parts.defaultValue value here)) ?_
  refine .append (.optional (fun schema nullable => { schema with nullable }) rfl
    (fun _ => rfl) fun _ _ => rfl) ?_
  refine .append (.entries (fun schema properties => { schema with properties }) rfl
    (fun _ => rfl)
    (Json.decodeEntries_map fun entry here => (parts.properties entry here).reads)) ?_
  refine .append (puts_required rfl _) ?_
  refine .append (.optional (fun schema additional => { schema with additional }) rfl
    (fun _ => rfl) parts.additional_reads) ?_
  refine .append (.optional (fun schema items => { schema with items }) rfl (fun _ => rfl)
    fun items here => (parts.items items here).option) ?_
  refine .append (.list (fun schema allOf => { schema with allOf }) rfl (fun _ => rfl)
    (Json.decodeList_map fun part here => (parts.allOf part here).reads)) ?_
  refine .last (.list (fun schema enumValues => { schema with enumValues }) rfl (fun _ => rfl)
    (Json.decodeList_map fun _ _ => rfl)) (by cases schema; dsimp only)

theorem decode_of_decodeAdditional {value : Json} {schema : Schema}
    (read : decodeAdditional value = .ok (.described schema)) : decode value = .ok schema := by
  rw [decodeAdditional, Reading.additional, value_read] at read
  rw [decode]
  split at read
  · cases read
  · next decoded =>
      cases read
      exact decoded
  · cases read

theorem putMember_keeps {name : String} {value : Json} {before after : Schema}
    (back : ∀ part schema, sizeOf part ≤ sizeOf value → decode part = .ok schema →
      ReadsBack decode encode schema)
    (put : putMember name value before = .ok after) (parts : before.PartsReadBack) :
    after.PartsReadBack := by
  unfold putMember at put
  split at put
  case h_6 =>
    obtain ⟨option, decoded, rfl⟩ := Json.eq_of_build put
    refine ⟨?_, parts.properties, parts.additional, parts.items, parts.allOf⟩
    refine Json.forall_of_decodeOption (fun found isValue same => ?_) decoded
    cases same
    exact isValue
  case h_8 =>
    obtain ⟨entries, decoded, rfl⟩ := Json.eq_of_build put
    refine ⟨parts.defaultValue, ?_, parts.additional, parts.items, parts.allOf⟩
    exact Json.forall_of_decodeEntries (fun part schema inside =>
      back part schema inside.sizeOf_lt.le) decoded
  case h_10 =>
    obtain ⟨option, decoded, rfl⟩ := Json.eq_of_build put
    refine ⟨parts.defaultValue, parts.properties, ?_, parts.items, parts.allOf⟩
    refine Json.forall_of_decodeOption (fun found _ read inner same => ?_) decoded
    exact back value inner le_rfl (decode_of_decodeAdditional (same ▸ read))
  case h_11 =>
    obtain ⟨option, decoded, rfl⟩ := Json.eq_of_build put
    refine ⟨parts.defaultValue, parts.properties, parts.additional, ?_, parts.allOf⟩
    exact Json.forall_of_decodeOption (fun schema _ => back value schema le_rfl) decoded
  case h_12 =>
    obtain ⟨schemas, decoded, rfl⟩ := Json.eq_of_build put
    refine ⟨parts.defaultValue, parts.properties, parts.additional, parts.items, ?_⟩
    exact Json.forall_of_decodeList (fun part schema inside =>
      back part schema inside.sizeOf_lt.le) decoded
  case h_14 =>
    cases put
    exact parts
  all_goals
    obtain ⟨found, -, rfl⟩ := Json.eq_of_build put
    exact ⟨parts.defaultValue, parts.properties, parts.additional, parts.items, parts.allOf⟩

/-- A schema is read back from what it is written as. -/
theorem roundTrips : RoundTrips decode encode := by
  intro json
  induction size : sizeOf json using Nat.strong_induction_on generalizing json with
  | h bound ih =>
      intro schema decoded
      subst size
      rw [decode_eq_record] at decoded
      refine PartsReadBack.readsBack (Json.RecordShape.holds_of_decode decoded ?_
        partsReadBack_empty)
      intro name part before after inside
      refine putMember_keeps fun inner schema small => ?_
      exact ih (sizeOf inner) (small.trans_lt inside.sizeOf_lt) inner rfl schema

end Schema

end ClientGen
