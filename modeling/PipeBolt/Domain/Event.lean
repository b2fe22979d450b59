import PipeBolt.Domain.Config
import PipeBolt.Domain.Json
import PipeBolt.Rust.BTreeMap

/-!
# Events, intents and command requests

`pipe_bolt_domain::event`, `pipe_bolt_domain::action` and `pipe_bolt_domain::command`: what the
pipeline makes of a message, and what the rules ask for.
-/

namespace PipeBolt
namespace Domain

open Rust

/-! ## Topic names -/

/-- `TopicName`. -/
structure TopicName where
  raw : String
  deriving DecidableEq, Repr

/-- `TopicName::new`. -/
def TopicName.new (value : String) : Except DomainError TopicName := do
  validateText "topic" value MAX_TOPIC_BYTES
  if containsChar value '+' || containsChar value '#' then
    .error (.invalidTopicName "topic name must not contain wildcards")
  else .ok ⟨value⟩

/-- `TopicFilter::new`. -/
def TopicFilter.new (value : String) : Except DomainError TopicFilter := do
  TopicFilter.validate ⟨value⟩
  return ⟨value⟩

/-! ## Events -/

/-- `OffsetDateTime` and `SystemTime`, as a number of nanoseconds. -/
abbrev OffsetDateTime := Int

/-- `DecodedPayload`. -/
inductive DecodedPayload where
  | json (value : Value)
  | raw (bytes : List UInt8)

/-- `FieldValue`. -/
inductive FieldValue where
  | null
  | bool (value : Bool)
  | number (value : Number)
  | string (value : String)
  | object (entries : ValueMap)
  | array (values : List Value)

/-- `FieldValue::from_json`. -/
def FieldValue.fromJson : Value → FieldValue
  | .null => .null
  | .bool value => .bool value
  | .number value => .number value
  | .string value => .string value
  | .array values => .array values
  | .object entries => .object entries

/-- `RawPayloadRef`. -/
structure RawPayloadRef where
  byteLen : Nat
  contentType : Option String
  bytes : List UInt8
  deriving DecidableEq, Repr

/-- `NormalizationDiagnostic`. -/
structure NormalizationDiagnostic where
  code : String
  message : String
  field : Option String
  deriving DecidableEq, Repr

/-- `NormalizedEvent`. -/
structure NormalizedEvent where
  id : EventId
  correlationId : String
  projectId : ProjectId
  brokerId : BrokerId
  routeId : RouteId
  schemaMappingId : Option SchemaMappingId
  topic : TopicName
  deviceId : Option String
  eventType : String
  receivedAt : OffsetDateTime
  payloadSizeBytes : Nat
  payload : DecodedPayload
  fields : BTreeMap FieldValue
  raw : Option RawPayloadRef
  normalizationErrors : List NormalizationDiagnostic
  metadata : BTreeMap String

/-- `NormalizedEvent::field`. -/
def NormalizedEvent.field (event : NormalizedEvent) (name : String) : Option FieldValue :=
  event.fields.get name

/-! ## Intents -/

/-- `ActionIntent`. -/
inductive ActionIntent where
  | streamToUi (eventId : EventId)
  | forwardToSink (eventId : EventId) (sinkId : SinkId) (projection : Option ValueMap)
  | executeCommand (eventId : EventId) (commandTemplateId : CommandTemplateId) (params : ValueMap)
      (correlationId : String)
  | dropEvent (eventId : EventId) (reason : Option String)
  | addMetadata (eventId : EventId) (key value : String)

/-! ## Command requests -/

/-- `CommandSource`. -/
inductive CommandSource where
  | api
  | rule
  deriving DecidableEq, Repr

/-- `CommandExecutionRequest`. -/
structure CommandExecutionRequest where
  projectId : ProjectId
  commandExecutionId : CommandExecutionId
  commandTemplateId : CommandTemplateId
  params : ValueMap
  source : CommandSource
  actorId : Option UserId
  sourceEventId : Option EventId
  correlationId : String
  reason : Option String

end Domain
end PipeBolt
