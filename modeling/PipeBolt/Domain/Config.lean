import PipeBolt.Domain.Rule
import PipeBolt.Rust.Duration

/-!
# Project configurations

`pipe_bolt_domain::config`: the configuration of a project and its validation.

The types are what serde builds: a `SecretString`, a `TopicFilter` or an identifier holds any
string until a check has seen it.  `ProjectConfig.validate` is the check both write paths run.
-/

namespace PipeBolt
namespace Domain

open Rust

def MAX_NAME_BYTES : Nat := 160
def MAX_DESCRIPTION_BYTES : Nat := 2048
def MAX_TOPIC_BYTES : Nat := 1024
def MAX_HOST_BYTES : Nat := 255

/-! ## Secrets -/

/-- `SecretString`, as the derived `Deserialize` builds it. -/
structure SecretString where
  raw : String
  deriving DecidableEq, Repr

namespace SecretString

/-- `SecretString::new`, the validating constructor. -/
def new (value : String) : Except DomainError SecretString := do
  validateText "secret" value 4096
  return ⟨value⟩

/-- `SecretString::expose_secret`. -/
def exposeSecret (secret : SecretString) : String := secret.raw

/-- The secrets the validating constructor accepts. -/
def Valid (secret : SecretString) : Prop := IsText secret.raw 4096

theorem new_eq_ok_iff {value : String} {secret : SecretString} :
    new value = .ok secret ↔ secret = ⟨value⟩ ∧ secret.Valid := by
  rw [new, Fallible.check_eq_ok_iff, validateText_eq_ok_iff]
  constructor
  · rintro ⟨hvalid, h⟩
    rw [← Except.ok.inj h]
    exact ⟨rfl, hvalid⟩
  · rintro ⟨rfl, hvalid⟩
    exact ⟨hvalid, rfl⟩

end SecretString

/-! ## Brokers -/

/-- `TlsMode`. -/
inductive TlsMode where
  | disabled
  | nativeRoots
  deriving DecidableEq, Repr

/-- `MqttCredentials`. -/
structure MqttCredentials where
  username : String
  password : SecretString
  deriving DecidableEq, Repr

/-- `MqttCredentials::validate`: the password is not looked at. -/
def MqttCredentials.validate (credentials : MqttCredentials) : Except DomainError Unit :=
  validateText "mqtt_username" credentials.username MAX_NAME_BYTES

/-- `ReconnectPolicy`. -/
structure ReconnectPolicy where
  minDelay : Duration
  maxDelay : Duration
  deriving DecidableEq, Repr

/-- `ReconnectPolicy::validate`. -/
def ReconnectPolicy.validate (policy : ReconnectPolicy) : Except DomainError Unit :=
  if policy.minDelay.isZero then .error (.emptyField "reconnect_min_delay")
  else if policy.maxDelay < policy.minDelay then
    .error (.invalidFieldPath "reconnect max_delay must be greater than or equal to min_delay")
  else .ok ()

/-- `BrokerConnectionConfig`. -/
structure BrokerConnectionConfig where
  id : BrokerId
  name : String
  host : String
  port : UInt16
  tls : TlsMode
  credentials : Option MqttCredentials
  keepAlive : Duration
  cleanSession : Bool
  clientId : String
  reconnect : ReconnectPolicy
  enabled : Bool
  deriving DecidableEq, Repr

/-- `BrokerConnectionConfig::validate`. -/
def BrokerConnectionConfig.validate (broker : BrokerConnectionConfig) :
    Except DomainError Unit := do
  validateText "broker_name" broker.name MAX_NAME_BYTES
  validateText "broker_host" broker.host MAX_HOST_BYTES
  validateText "broker_client_id" broker.clientId MAX_NAME_BYTES
  if broker.port = 0 then .error .invalidBrokerPort
  else if broker.keepAlive < .fromSecs 5 then .error .invalidKeepAlive
  else
    broker.credentials.forM MqttCredentials.validate
    broker.reconnect.validate

/-! ## Routes -/

/-- `TopicFilter`, as the derived `Deserialize` builds it. -/
structure TopicFilter where
  raw : String
  deriving DecidableEq, Repr

/-- The checks of one level in the loop of `TopicFilter::validate`. -/
def validateTopicLevel (last : Bool) (part : String) : Except DomainError Unit :=
  if containsChar part '#' && part != "#" then
    .error (.invalidTopicFilter "multi-level wildcard must occupy the whole segment")
  else if part == "#" && !last then
    .error (.invalidTopicFilter "multi-level wildcard must be the last segment")
  else if containsChar part '+' && part != "+" then
    .error (.invalidTopicFilter "single-level wildcard must occupy the whole segment")
  else .ok ()

/-- The loop of `TopicFilter::validate` over the levels of a filter. -/
def validateTopicLevels : List String → Except DomainError Unit
  | [] => .ok ()
  | part :: parts => do
    validateTopicLevel parts.isEmpty part
    validateTopicLevels parts

/-- `TopicFilter::validate`. -/
def TopicFilter.validate (filter : TopicFilter) : Except DomainError Unit := do
  validateText "topic_filter" filter.raw MAX_TOPIC_BYTES
  validateTopicLevels (split filter.raw '/')

/-- `PayloadCodecKind`. -/
inductive PayloadCodecKind where
  | json
  | raw
  deriving DecidableEq, Repr

/-- `MqttQos`. -/
inductive MqttQos where
  | atMostOnce
  | atLeastOnce
  | exactlyOnce
  deriving DecidableEq, Repr

/-- `DeviceIdExtraction`. -/
inductive DeviceIdExtraction where
  | none
  | static (value : String)
  | topicWildcardIndex (index : UInt64)
  | payloadField (path : FieldPath)
  deriving DecidableEq, Repr

/-- `BackpressurePolicy`. -/
inductive BackpressurePolicy where
  | dropNewest
  | dropOldest
  | reject
  | blockProducer
  deriving DecidableEq, Repr

/-- `TopicRouteConfig`. -/
structure TopicRouteConfig where
  id : RouteId
  brokerId : BrokerId
  name : String
  topicFilter : TopicFilter
  codec : PayloadCodecKind
  schemaMappingId : Option SchemaMappingId
  deviceId : DeviceIdExtraction
  eventType : String
  qos : MqttQos
  enabled : Bool
  backpressure : BackpressurePolicy
  deriving DecidableEq, Repr

/-- `TopicRouteConfig::validate`. -/
def TopicRouteConfig.validate (route : TopicRouteConfig) : Except DomainError Unit := do
  validateText "route_name" route.name MAX_NAME_BYTES
  validateText "event_type" route.eventType MAX_NAME_BYTES
  route.topicFilter.validate

/-! ## Schema mappings -/

/-- `FieldValueType`. -/
inductive FieldValueType where
  | string
  | number
  | boolean
  | object
  | array
  deriving DecidableEq, Repr

/-- `FieldMapping`. -/
structure FieldMapping where
  source : FieldPath
  target : String
  valueType : FieldValueType
  required : Bool
  default : Option Value

/-- `FieldMapping::validate`. -/
def FieldMapping.validate (mapping : FieldMapping) : Except DomainError Unit :=
  validateText "field_mapping_target" mapping.target MAX_NAME_BYTES

/-- `PayloadSchemaMapping`. -/
structure PayloadSchemaMapping where
  id : SchemaMappingId
  name : String
  fields : List FieldMapping

/-- `PayloadSchemaMapping::validate`. -/
def PayloadSchemaMapping.validate (mapping : PayloadSchemaMapping) : Except DomainError Unit := do
  validateText "schema_mapping_name" mapping.name MAX_NAME_BYTES
  mapping.fields.forM FieldMapping.validate

/-! ## Command templates and sinks -/

/-- `CommandTemplate`. -/
structure CommandTemplate where
  id : CommandTemplateId
  name : String
  brokerId : BrokerId
  topicTemplate : String
  payloadTemplate : Value
  qos : MqttQos
  retain : Bool
  enabled : Bool

/-- `CommandTemplate::validate`. -/
def CommandTemplate.validate (template : CommandTemplate) : Except DomainError Unit := do
  validateText "command_template_name" template.name MAX_NAME_BYTES
  validateText "command_topic_template" template.topicTemplate MAX_TOPIC_BYTES

/-- `HttpMethod`. -/
inductive HttpMethod where
  | post
  | put
  | patch
  deriving DecidableEq, Repr

/-- `HttpHeaderTemplate`. -/
structure HttpHeaderTemplate where
  name : String
  value : SecretString
  deriving DecidableEq, Repr

/-- `SinkKind`. -/
inductive SinkKind where
  | webhook (url : String) (method : HttpMethod) (headers : List HttpHeaderTemplate)
      (timeout : Duration)
  | database (connectionRef table : String)
  deriving DecidableEq, Repr

/-- `SinkDefinition`. -/
structure SinkDefinition where
  id : SinkId
  name : String
  enabled : Bool
  kind : SinkKind
  deriving DecidableEq, Repr

/-- `SinkDefinition::validate`: the kind is not looked at. -/
def SinkDefinition.validate (sink : SinkDefinition) : Except DomainError Unit :=
  validateText "sink_name" sink.name MAX_NAME_BYTES

/-! ## Projects -/

/-- `ProjectConfig`. -/
structure ProjectConfig where
  id : ProjectId
  tenantId : Option TenantId
  name : String
  description : Option String
  enabled : Bool
  version : UInt64
  brokers : List BrokerConnectionConfig
  routes : List TopicRouteConfig
  schemaMappings : List PayloadSchemaMapping
  rules : List RuleDefinition
  commandTemplates : List CommandTemplate
  sinks : List SinkDefinition

/-- `ProjectConfig::validate`. -/
def ProjectConfig.validate (config : ProjectConfig) : Except DomainError Unit := do
  validateText "project_name" config.name MAX_NAME_BYTES
  config.description.forM fun description =>
    validateText "project_description" description MAX_DESCRIPTION_BYTES
  config.brokers.forM BrokerConnectionConfig.validate
  config.routes.forM TopicRouteConfig.validate
  config.schemaMappings.forM PayloadSchemaMapping.validate
  config.rules.forM RuleDefinition.validate
  config.commandTemplates.forM CommandTemplate.validate
  config.sinks.forM SinkDefinition.validate

/-- The header templates of a sink: those of a webhook, none of a database. -/
def SinkKind.headers : SinkKind → List HttpHeaderTemplate
  | .webhook _ _ headers _ => headers
  | .database _ _ => []

/-- The secrets of a configuration: broker passwords and webhook header values. -/
def ProjectConfig.secrets (config : ProjectConfig) : List SecretString :=
  (config.brokers.filterMap fun broker => broker.credentials.map MqttCredentials.password) ++
    config.sinks.flatMap fun sink => sink.kind.headers.map HttpHeaderTemplate.value

theorem forall_secrets_iff {config : ProjectConfig} {p : SecretString → Prop} :
    (∀ secret ∈ config.secrets, p secret) ↔
      (∀ broker ∈ config.brokers, ∀ credentials ∈ broker.credentials, p credentials.password) ∧
        ∀ sink ∈ config.sinks, ∀ header ∈ sink.kind.headers, p header.value := by
  simp only [ProjectConfig.secrets, List.forall_mem_append, List.mem_filterMap, List.mem_flatMap,
    List.mem_map, Option.map_eq_some_iff]
  constructor
  · rintro ⟨hbrokers, hsinks⟩
    exact ⟨fun broker hbroker credentials hcredentials =>
        hbrokers _ ⟨broker, hbroker, credentials, hcredentials, rfl⟩,
      fun sink hsink header hheader => hsinks _ ⟨sink, hsink, header, hheader, rfl⟩⟩
  · rintro ⟨hbrokers, hsinks⟩
    constructor
    · rintro _ ⟨broker, hbroker, credentials, hcredentials, rfl⟩
      exact hbrokers broker hbroker credentials hcredentials
    · rintro _ ⟨sink, hsink, header, hheader, rfl⟩
      exact hsinks sink hsink header hheader

/-- A project with one broker, one route from it, and the given broker password, rules and sinks. -/
def plantProject (password : String) (rules : List RuleDefinition) (sinks : List SinkDefinition) :
    ProjectConfig where
  id := ⟨"plant"⟩
  tenantId := none
  name := "Plant"
  description := none
  enabled := true
  version := 1
  brokers := [{
    id := ⟨"main"⟩
    name := "Main"
    host := "broker.local"
    port := 1883
    tls := .disabled
    credentials := some { username := "gateway", password := ⟨password⟩ }
    keepAlive := .fromSecs 30
    cleanSession := true
    clientId := "gateway-1"
    reconnect := { minDelay := .fromMillis 500, maxDelay := .fromMillis 30000 }
    enabled := true }]
  routes := [{
    id := ⟨"telemetry"⟩
    brokerId := ⟨"main"⟩
    name := "Telemetry"
    topicFilter := ⟨"devices/+/telemetry"⟩
    codec := .json
    schemaMappingId := none
    deviceId := .topicWildcardIndex 0
    eventType := "telemetry"
    qos := .atLeastOnce
    enabled := true
    backpressure := .reject }]
  schemaMappings := []
  rules := rules
  commandTemplates := []
  sinks := sinks

end Domain
end PipeBolt
