import PipeBolt.Domain.Config

/-!
# Configuration documents

`ProjectConfigDocumentV1` of `pipe_bolt_api::dto`: the configuration a client reads and submits,
which is a `ProjectConfig` without its version, and what serde makes of it on the way to the
client and back.

A document that goes out as JSON and comes in again is not the same document: a secret is written
as a placeholder, a duration in whole seconds or milliseconds, and a default of JSON `null` is read
back as no default.  Everything else is read back as it was written.
-/

namespace PipeBolt

/-! ## What serde reads back -/

namespace Domain

open Rust

/-- `Serialize for SecretString`: the text written for a secret. -/
def SecretString.serialize (_ : SecretString) : String := "<redacted>"

/-- The derived `Deserialize`. -/
def SecretString.deserialize (text : String) : SecretString := ⟨text⟩

/-- A secret read back from its JSON. -/
def SecretString.throughJson (secret : SecretString) : SecretString :=
  .deserialize secret.serialize

/-- Credentials read back from their JSON. -/
def MqttCredentials.throughJson (credentials : MqttCredentials) : MqttCredentials :=
  { credentials with password := credentials.password.throughJson }

/-- A reconnect policy read back from its JSON. -/
def ReconnectPolicy.throughJson (policy : ReconnectPolicy) : ReconnectPolicy where
  minDelay := durationMillisDeserialize (durationMillisSerialize policy.minDelay)
  maxDelay := durationMillisDeserialize (durationMillisSerialize policy.maxDelay)

/-- A broker read back from its JSON. -/
def BrokerConnectionConfig.throughJson (broker : BrokerConnectionConfig) :
    BrokerConnectionConfig :=
  { broker with
    credentials := broker.credentials.map MqttCredentials.throughJson
    keepAlive := durationSecondsDeserialize (durationSecondsSerialize broker.keepAlive)
    reconnect := broker.reconnect.throughJson }

/-- A field mapping read back from its JSON. -/
def FieldMapping.throughJson (mapping : FieldMapping) : FieldMapping :=
  { mapping with
    default :=
      match mapping.default with
      | some .null => none
      | default => default }

/-- A schema mapping read back from its JSON. -/
def PayloadSchemaMapping.throughJson (mapping : PayloadSchemaMapping) : PayloadSchemaMapping :=
  { mapping with fields := mapping.fields.map FieldMapping.throughJson }

/-- A header template read back from its JSON. -/
def HttpHeaderTemplate.throughJson (header : HttpHeaderTemplate) : HttpHeaderTemplate :=
  { header with value := header.value.throughJson }

/-- The kind of a sink read back from its JSON. -/
def SinkKind.throughJson : SinkKind → SinkKind
  | .webhook url method headers timeout =>
    .webhook url method (headers.map HttpHeaderTemplate.throughJson)
      (durationMillisDeserialize (durationMillisSerialize timeout))
  | .database connectionRef table => .database connectionRef table

/-- A sink read back from its JSON. -/
def SinkDefinition.throughJson (sink : SinkDefinition) : SinkDefinition :=
  { sink with kind := sink.kind.throughJson }

end Domain

namespace Api

open Domain

/-! ## Documents -/

/-- `ProjectConfigDocumentV1`. -/
structure ProjectConfigDocumentV1 where
  projectId : ProjectId
  tenantId : Option TenantId
  name : String
  description : Option String
  enabled : Bool
  brokers : List BrokerConnectionConfig
  routes : List TopicRouteConfig
  schemaMappings : List PayloadSchemaMapping
  rules : List RuleDefinition
  commandTemplates : List CommandTemplate
  sinks : List SinkDefinition

namespace ProjectConfigDocumentV1

/-- `ProjectConfigDocumentV1::from_domain`. -/
def fromDomain (config : ProjectConfig) : ProjectConfigDocumentV1 where
  projectId := config.id
  tenantId := config.tenantId
  name := config.name
  description := config.description
  enabled := config.enabled
  brokers := config.brokers
  routes := config.routes
  schemaMappings := config.schemaMappings
  rules := config.rules
  commandTemplates := config.commandTemplates
  sinks := config.sinks

/-- `ProjectConfigDocumentV1::into_domain`. -/
def intoDomain (document : ProjectConfigDocumentV1) (version : UInt64) : ProjectConfig where
  id := document.projectId
  tenantId := document.tenantId
  name := document.name
  description := document.description
  enabled := document.enabled
  version := version
  brokers := document.brokers
  routes := document.routes
  schemaMappings := document.schemaMappings
  rules := document.rules
  commandTemplates := document.commandTemplates
  sinks := document.sinks

/-- A document that a client reads and submits unchanged. -/
def throughJson (document : ProjectConfigDocumentV1) : ProjectConfigDocumentV1 :=
  { document with
    brokers := document.brokers.map BrokerConnectionConfig.throughJson
    schemaMappings := document.schemaMappings.map PayloadSchemaMapping.throughJson
    sinks := document.sinks.map SinkDefinition.throughJson }

end ProjectConfigDocumentV1

end Api
end PipeBolt
