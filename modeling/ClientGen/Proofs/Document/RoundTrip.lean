import ClientGen.Document
import ClientGen.Json.Writer
import ClientGen.Proofs.Operation.RoundTrip

/-!
Whatever is read as a part of a document, or as a document of either dialect, is written as an object
and read back from it unchanged, no matter whether it was read from an object or from an array.
-/

set_option autoImplicit false

namespace ClientGen

open Json (ReadsBack RoundTrips)

namespace Info

theorem roundTrips : RoundTrips decode encode := by
  intro json info _
  refine ⟨⟨_, rfl⟩, Json.RecordShape.decode_of_puts ?_ ?_⟩
  · rfl
  · simp only [List.append_assoc]
    refine .append (.always (fun info (title : String) => { info with title }) (fun _ => rfl)
      rfl) ?_
    refine .append (.optional (fun info description => { info with description }) rfl
      (fun _ => rfl) fun _ _ => rfl) ?_
    exact Json.Puts.cons_iff.mpr ⟨_, rfl, .nil⟩

end Info

namespace SwaggerDocument

structure PartsReadBack (document : SwaggerDocument) : Prop where
  info : ReadsBack Info.decode Info.encode document.info
  paths : ∀ entry ∈ document.paths, ReadsBack PathItem.decode PathItem.encode entry.2
  definitions : ∀ entry ∈ document.definitions, ReadsBack Schema.decode Schema.encode entry.2
  parameters : ∀ entry ∈ document.parameters, ReadsBack Parameter.decode Parameter.encode entry.2
  responses : ∀ entry ∈ document.responses, ReadsBack Response.decode Response.encode entry.2

theorem firstMissing_eq_none {names : List String} (present : "swagger" ∈ names) :
    shape.firstMissing names = none := by
  simp [Json.RecordShape.firstMissing, shape, present]

theorem put_keeps {name : String} {value : Json} {before after : SwaggerDocument}
    (put : put name value before = .ok after) (parts : before.PartsReadBack) :
    after.PartsReadBack := by
  obtain ⟨info, paths, definitions, parameters, responses⟩ := parts
  unfold SwaggerDocument.put at put
  split at put
  case h_2 =>
    obtain ⟨found, decoded, rfl⟩ := Json.eq_of_build put
    exact ⟨Info.roundTrips value found decoded, paths, definitions, parameters, responses⟩
  case h_4 =>
    obtain ⟨found, decoded, rfl⟩ := Json.eq_of_build put
    exact ⟨info, Json.forall_of_decodeEntries (fun part item _ => PathItem.roundTrips part item)
      decoded, definitions, parameters, responses⟩
  case h_5 =>
    obtain ⟨found, decoded, rfl⟩ := Json.eq_of_build put
    exact ⟨info, paths, Json.forall_of_decodeEntries (fun part schema _ =>
      Schema.roundTrips part schema) decoded, parameters, responses⟩
  case h_6 =>
    obtain ⟨found, decoded, rfl⟩ := Json.eq_of_build put
    exact ⟨info, paths, definitions, Json.forall_of_decodeEntries (fun part parameter _ =>
      Parameter.roundTrips part parameter) decoded, responses⟩
  case h_7 =>
    obtain ⟨found, decoded, rfl⟩ := Json.eq_of_build put
    exact ⟨info, paths, definitions, parameters, Json.forall_of_decodeEntries
      (fun part response _ => Response.roundTrips part response) decoded⟩
  case h_10 =>
    cases put
    exact ⟨info, paths, definitions, parameters, responses⟩
  all_goals
    obtain ⟨found, -, rfl⟩ := Json.eq_of_build put
    exact ⟨info, paths, definitions, parameters, responses⟩

theorem roundTrips : RoundTrips decode encode := by
  intro json document decoded
  have parts : document.PartsReadBack := by
    refine Json.RecordShape.holds_of_decode decoded (fun _ _ _ _ _ => put_keeps) ?_
    exact ⟨⟨⟨_, rfl⟩, rfl⟩, by simp, by simp, by simp, by simp⟩
  refine ⟨⟨_, rfl⟩, Json.RecordShape.decode_of_puts ?_ ?_⟩
  · exact firstMissing_eq_none (.head _)
  · simp only [List.append_assoc]
    refine .append (.cons (.always (fun document (swagger : String) =>
      { document with swagger }) (fun _ => rfl) rfl)
      (.always (fun document info => { document with info }) (fun _ => rfl) parts.info.reads)) ?_
    refine .append (.optional (fun document basePath => { document with basePath }) rfl
      (fun _ => rfl) fun _ _ => rfl) ?_
    refine .append (.entries (fun document paths => { document with paths }) rfl (fun _ => rfl)
      (Json.decodeEntries_map fun entry here => (parts.paths entry here).reads)) ?_
    refine .append (.entries (fun document definitions => { document with definitions }) rfl
      (fun _ => rfl)
      (Json.decodeEntries_map fun entry here => (parts.definitions entry here).reads)) ?_
    refine .append (.entries (fun document parameters => { document with parameters }) rfl
      (fun _ => rfl)
      (Json.decodeEntries_map fun entry here => (parts.parameters entry here).reads)) ?_
    refine .append (.entries (fun document responses => { document with responses }) rfl
      (fun _ => rfl)
      (Json.decodeEntries_map fun entry here => (parts.responses entry here).reads)) ?_
    refine .append (.list (fun document consumes => { document with consumes }) rfl
      (fun _ => rfl) (Json.decodeStrings_strings _)) ?_
    exact .last (.list (fun document produces => { document with produces }) rfl (fun _ => rfl)
      (Json.decodeStrings_strings _)) rfl

end SwaggerDocument

namespace Components

structure PartsReadBack (components : Components) : Prop where
  schemas : ∀ entry ∈ components.schemas, ReadsBack Schema.decode Schema.encode entry.2
  parameters : ∀ entry ∈ components.parameters,
    ReadsBack Parameter.decode Parameter.encode entry.2
  requestBodies : ∀ entry ∈ components.requestBodies,
    ReadsBack RequestBody.decode RequestBody.encode entry.2
  responses : ∀ entry ∈ components.responses, ReadsBack Response.decode Response.encode entry.2

theorem put_keeps {name : String} {value : Json} {before after : Components}
    (put : put name value before = .ok after) (parts : before.PartsReadBack) :
    after.PartsReadBack := by
  obtain ⟨schemas, parameters, requestBodies, responses⟩ := parts
  unfold Components.put at put
  split at put
  · obtain ⟨found, decoded, rfl⟩ := Json.eq_of_build put
    exact ⟨Json.forall_of_decodeEntries (fun part schema _ => Schema.roundTrips part schema)
      decoded, parameters, requestBodies, responses⟩
  · obtain ⟨found, decoded, rfl⟩ := Json.eq_of_build put
    exact ⟨schemas, Json.forall_of_decodeEntries (fun part parameter _ =>
      Parameter.roundTrips part parameter) decoded, requestBodies, responses⟩
  · obtain ⟨found, decoded, rfl⟩ := Json.eq_of_build put
    exact ⟨schemas, parameters, Json.forall_of_decodeEntries (fun part body _ =>
      RequestBody.roundTrips part body) decoded, responses⟩
  · obtain ⟨found, decoded, rfl⟩ := Json.eq_of_build put
    exact ⟨schemas, parameters, requestBodies, Json.forall_of_decodeEntries
      (fun part response _ => Response.roundTrips part response) decoded⟩
  · cases put
    exact ⟨schemas, parameters, requestBodies, responses⟩

theorem roundTrips : RoundTrips decode encode := by
  intro json components decoded
  have parts : components.PartsReadBack := by
    refine Json.RecordShape.holds_of_decode decoded (fun _ _ _ _ _ => put_keeps) ?_
    constructor <;> simp
  refine ⟨⟨_, rfl⟩, Json.RecordShape.decode_of_puts ?_ ?_⟩
  · rfl
  · simp only [List.append_assoc]
    refine .append (.entries (fun components schemas => { components with schemas }) rfl
      (fun _ => rfl)
      (Json.decodeEntries_map fun entry here => (parts.schemas entry here).reads)) ?_
    refine .append (.entries (fun components parameters => { components with parameters }) rfl
      (fun _ => rfl)
      (Json.decodeEntries_map fun entry here => (parts.parameters entry here).reads)) ?_
    refine .append (.entries (fun components requestBodies =>
      { components with requestBodies }) rfl (fun _ => rfl)
      (Json.decodeEntries_map fun entry here => (parts.requestBodies entry here).reads)) ?_
    exact .last (.entries (fun components responses => { components with responses }) rfl
      (fun _ => rfl)
      (Json.decodeEntries_map fun entry here => (parts.responses entry here).reads)) rfl

end Components

namespace OpenApiDocument

structure PartsReadBack (document : OpenApiDocument) : Prop where
  info : ReadsBack Info.decode Info.encode document.info
  paths : ∀ entry ∈ document.paths, ReadsBack PathItem.decode PathItem.encode entry.2
  components : ∀ components ∈ document.components,
    ReadsBack Components.decode Components.encode components

theorem firstMissing_eq_none {names : List String} (present : "openapi" ∈ names) :
    shape.firstMissing names = none := by
  simp [Json.RecordShape.firstMissing, shape, present]

theorem put_keeps {name : String} {value : Json} {before after : OpenApiDocument}
    (put : put name value before = .ok after) (parts : before.PartsReadBack) :
    after.PartsReadBack := by
  obtain ⟨info, paths, components⟩ := parts
  unfold OpenApiDocument.put at put
  split at put
  · obtain ⟨found, -, rfl⟩ := Json.eq_of_build put
    exact ⟨info, paths, components⟩
  · obtain ⟨found, decoded, rfl⟩ := Json.eq_of_build put
    exact ⟨Info.roundTrips value found decoded, paths, components⟩
  · obtain ⟨found, decoded, rfl⟩ := Json.eq_of_build put
    exact ⟨info, Json.forall_of_decodeEntries (fun part item _ => PathItem.roundTrips part item)
      decoded, components⟩
  · obtain ⟨found, decoded, rfl⟩ := Json.eq_of_build put
    exact ⟨info, paths, Json.forall_of_decodeOption (fun components _ =>
      Components.roundTrips value components) decoded⟩
  · cases put
    exact ⟨info, paths, components⟩

theorem roundTrips : RoundTrips decode encode := by
  intro json document decoded
  have parts : document.PartsReadBack := by
    refine Json.RecordShape.holds_of_decode decoded (fun _ _ _ _ _ => put_keeps) ?_
    exact ⟨⟨⟨_, rfl⟩, rfl⟩, by simp, by simp⟩
  refine ⟨⟨_, rfl⟩, Json.RecordShape.decode_of_puts ?_ ?_⟩
  · exact firstMissing_eq_none (.head _)
  · simp only [List.append_assoc]
    refine .append (.cons (.always (fun document (openapi : String) =>
      { document with openapi }) (fun _ => rfl) rfl)
      (.always (fun document info => { document with info }) (fun _ => rfl) parts.info.reads)) ?_
    refine .append (.entries (fun document paths => { document with paths }) rfl (fun _ => rfl)
      (Json.decodeEntries_map fun entry here => (parts.paths entry here).reads)) ?_
    exact .last (.optional (fun document components => { document with components }) rfl
      (fun _ => rfl) fun components here => (parts.components components here).option) rfl

end OpenApiDocument

namespace Document

/-- Everything that a document is read as is written as an object and read back from it. -/
theorem written_parts_read_back :
    RoundTrips Schema.decode Schema.encode ∧
    RoundTrips Parameter.decode Parameter.encode ∧
    RoundTrips Parameter.decodeReferable Parameter.encodeReferable ∧
    RoundTrips RequestBody.decode RequestBody.encode ∧
    RoundTrips RequestBody.decodeReferable RequestBody.encodeReferable ∧
    RoundTrips Response.decode Response.encode ∧
    RoundTrips Response.decodeReferable Response.encodeReferable ∧
    RoundTrips Operation.decode Operation.encode ∧
    RoundTrips PathItem.decode PathItem.encode ∧
    RoundTrips Info.decode Info.encode ∧
    RoundTrips SwaggerDocument.decode SwaggerDocument.encode ∧
    RoundTrips OpenApiDocument.decode OpenApiDocument.encode :=
  ⟨Schema.roundTrips, Parameter.roundTrips, Parameter.referable_roundTrips,
    RequestBody.roundTrips, RequestBody.referable_roundTrips, Response.roundTrips,
    Response.referable_roundTrips, Operation.roundTrips, PathItem.roundTrips, Info.roundTrips,
    SwaggerDocument.roundTrips, OpenApiDocument.roundTrips⟩

/-- A schema in the form of an array is written as an object that holds what was not left out, and is
read back from it. -/
theorem written_parts_read_back_fields :
    let fields : Json := .arr [.null, .str "object", .null, .null, .null, .null, .null, .obj [],
      .arr [], .obj [("type", .strings ["string", "null"])], .null, .arr [], .arr []]
    ∃ schema, Schema.decode fields = .ok schema ∧
      (Schema.encode schema).compact = "\x7b\"type\":\"object\"," ++
        "\"additionalProperties\":\x7b\"type\":[\"string\",\"null\"]\x7d\x7d" ∧
      Schema.decode (Schema.encode schema) = .ok schema := by
  intro fields
  have written : ((Schema.decode fields).toOption.map fun schema =>
      (Schema.encode schema).compact) = some ("\x7b\"type\":\"object\"," ++
        "\"additionalProperties\":\x7b\"type\":[\"string\",\"null\"]\x7d\x7d") := by
    decide +kernel
  cases read : Schema.decode fields with
  | error refusal =>
      rw [read] at written
      cases written
  | ok schema =>
      rw [read] at written
      refine ⟨schema, rfl, Option.some.inj written, ?_⟩
      exact (written_parts_read_back.1 fields schema read).reads

end Document

end ClientGen
