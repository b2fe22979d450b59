import PipeBolt.Api.Error
import PipeBolt.Core.TelemetryFilter
import PipeBolt.Domain.Event

/-!
# Realtime messages

The filters and messages of `pipe_bolt_api::realtime`, and the `Realtime…` types of
`pipe_bolt_api::dto`: what a client subscribes to and what it is sent.

* `topicMatchesPrefix_levels`: the prefix of a topic, by levels, in this crate and in the core.
-/

namespace PipeBolt
namespace Api

open Domain Rust

/-! ## Filters -/

/-- `RealtimeFilter`, and `RealtimeFilterSnapshot`, which has the same fields. -/
structure RealtimeFilter where
  deviceId : Option String
  topic : Option String
  topicPrefix : Option String
  eventType : Option String
  routeId : Option String
  deriving DecidableEq, Repr

/-- `normalize_optional`. -/
def normalizeOptional (value : Option String) : Option String :=
  value.bind fun value =>
    let value := trim value
    if value.isEmpty then none else some value

/-- `RealtimeFilter::normalized`. -/
def RealtimeFilter.normalized (filter : RealtimeFilter) : RealtimeFilter where
  deviceId := normalizeOptional filter.deviceId
  topic := normalizeOptional filter.topic
  topicPrefix := normalizeOptional filter.topicPrefix
  eventType := normalizeOptional filter.eventType
  routeId := normalizeOptional filter.routeId

/-- `topic_matches_prefix`. -/
def topicMatchesPrefix (topic expected : String) : Bool :=
  topic == expected || (stripPrefix topic expected).any fun rest => startsWith rest "/"

/-- `RealtimeFilter::matches`. -/
def RealtimeFilter.matches (filter : RealtimeFilter) (event : NormalizedEvent) : Bool :=
  filter.deviceId.all (fun expected => event.deviceId == some expected) &&
  filter.topic.all (fun expected => event.topic.raw == expected) &&
  filter.topicPrefix.all (fun expected => topicMatchesPrefix event.topic.raw expected) &&
  filter.eventType.all (fun expected => event.eventType == expected) &&
  filter.routeId.all (fun expected => event.routeId.raw == expected)

/-- `validate_topic_like`. -/
def validateTopicLike (name value : String) : Except ApiError Unit :=
  if (trim value).isEmpty || containsChar value '+' || containsChar value '#' then
    .error (.badRequest s!"{name} must not be empty and must not contain MQTT wildcards")
  else .ok ()

/-- `validate_simple_filter_value`. -/
def validateSimpleFilterValue (name value : String) : Except ApiError Unit :=
  if (trim value).isEmpty || containsChar value '/' || containsChar value '+' ||
      containsChar value '#' then
    .error (.badRequest s!"{name} must be a non-empty single topic segment")
  else .ok ()

/-- `validate_filter`. -/
def validateFilter (filter : RealtimeFilter) : Except ApiError Unit := do
  filter.topic.forM (validateTopicLike "topic")
  filter.topicPrefix.forM (validateTopicLike "topic_prefix")
  filter.deviceId.forM (validateSimpleFilterValue "device_id")
  filter.eventType.forM (validateSimpleFilterValue "event_type")
  filter.routeId.forM (validateSimpleFilterValue "route_id")

/-- **A topic under a prefix.**  A topic is matched by a prefix when the levels of the prefix are
the first levels of the topic, in the core and in its copy. -/
theorem topicMatchesPrefix_levels (topic topicPrefix : String) :
    (Core.topicMatchesPrefix topic topicPrefix = true ↔
      split topicPrefix '/' <+: split topic '/') ∧
    topicMatchesPrefix topic topicPrefix = Core.topicMatchesPrefix topic topicPrefix :=
  ⟨Core.topicMatchesPrefix_iff, rfl⟩

/-! ## Messages of the server -/

/-- `RealtimePayloadResponse`. -/
inductive RealtimePayloadResponse where
  | json (value : Value)
  | rawBase64 (text : String)

/-- `RealtimeRawPayloadResponse`. -/
structure RealtimeRawPayloadResponse where
  byteLen : Nat
  contentType : Option String

/-- `RealtimeEventResponse`; a diagnostic is sent with the fields it has. -/
structure RealtimeEventResponse where
  id : String
  correlationId : String
  projectId : String
  brokerId : String
  routeId : String
  schemaMappingId : Option String
  topic : String
  deviceId : Option String
  eventType : String
  receivedAt : String
  payloadSizeBytes : Nat
  payload : RealtimePayloadResponse
  fields : ValueMap
  raw : Option RealtimeRawPayloadResponse
  normalizationErrors : List NormalizationDiagnostic
  metadata : BTreeMap String

/-- `field_value_to_json`. -/
def fieldValueToJson : FieldValue → Value
  | .null => .null
  | .bool value => .bool value
  | .number value => .number value
  | .string value => .string value
  | .object entries => .object entries
  | .array values => .array values

/-- `RealtimeServerMessage`. -/
inductive RealtimeServerMessage where
  | ready (transport : String) (filter : RealtimeFilter)
  | event (data : RealtimeEventResponse)
  | lagged (skipped : Nat)
  | filterUpdated (filter : RealtimeFilter)
  | error (message : String)

/-- `RealtimeClientMessage`. -/
inductive RealtimeClientMessage where
  | subscribe (filter : RealtimeFilter)
  | ping

/-- What the realtime endpoints use of other crates: the text of a time, base64, and JSON, which
`serde_json` may refuse to write or to read. -/
structure RealtimeCrates where
  displayTime : Domain.OffsetDateTime → String
  base64Encode : List UInt8 → String
  toJson : RealtimeServerMessage → Option String
  fromJson : String → Except String RealtimeClientMessage

/-- `RealtimeEventResponse::from_event`. -/
def RealtimeEventResponse.fromEvent (crates : RealtimeCrates) (event : NormalizedEvent) :
    RealtimeEventResponse where
  id := event.id.raw
  correlationId := event.correlationId
  projectId := event.projectId.raw
  brokerId := event.brokerId.raw
  routeId := event.routeId.raw
  schemaMappingId := event.schemaMappingId.map Identifier.raw
  topic := event.topic.raw
  deviceId := event.deviceId
  eventType := event.eventType
  receivedAt := crates.displayTime event.receivedAt
  payloadSizeBytes := event.payloadSizeBytes
  payload :=
    match event.payload with
    | .json value => .json value
    | .raw bytes => .rawBase64 (crates.base64Encode bytes)
  fields := event.fields.map fun (name, value) => (name, fieldValueToJson value)
  raw := event.raw.map fun raw => ⟨raw.byteLen, raw.contentType⟩
  normalizationErrors := event.normalizationErrors
  metadata := event.metadata

end Api
end PipeBolt
