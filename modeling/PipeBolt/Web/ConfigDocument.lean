import PipeBolt.Api.MergeFrame
import PipeBolt.Web.RuleJson

/-!
# Configuration documents in the browser

The generated types of a configuration document, what the browser reads of a document that the
backend writes, what the backend reads of one that the browser sends, and the functions of
`useSecretMasking.ts` on the secrets of a document.

A property that the generated types leave out is not in the model; one that they let be absent or
`null` is an option.  The default of a field mapping is `unknown`, so that for it an absent property
and `null` are two things, of which the backend writes only the second.

* `ProjectConfigDocumentV1.read_redact`: a redacted document is read as the redacted document.
-/

namespace PipeBolt
namespace Web

open Js Rust

/-! ## Documents -/

namespace Generated

/-- `PipeBoltDomainConfigMqttCredentials`. -/
structure MqttCredentials where
  password : JsString
  username : JsString
  deriving DecidableEq

/-- `PipeBoltDomainConfigReconnectPolicy`. -/
structure ReconnectPolicy where
  maxDelay : JsNumber
  minDelay : JsNumber
  deriving DecidableEq

/-- `PipeBoltDomainConfigBrokerConnectionConfig`. -/
structure BrokerConnectionConfig where
  cleanSession : Bool
  clientId : JsString
  credentials : Option MqttCredentials
  enabled : Bool
  host : JsString
  id : JsString
  keepAlive : JsNumber
  name : JsString
  port : JsNumber
  reconnect : ReconnectPolicy
  tls : Domain.TlsMode
  deriving DecidableEq

/-- `PipeBoltDomainConfigDeviceIdExtraction`. -/
inductive DeviceIdExtraction where
  | none
  | static (value : JsString)
  | topicWildcardIndex (index : JsNumber)
  | payloadField (path : JsString)
  deriving DecidableEq

/-- `PipeBoltDomainConfigTopicRouteConfig`. -/
structure TopicRouteConfig where
  backpressure : Domain.BackpressurePolicy
  brokerId : JsString
  codec : Domain.PayloadCodecKind
  deviceId : DeviceIdExtraction
  enabled : Bool
  eventType : JsString
  id : JsString
  name : JsString
  qos : Domain.MqttQos
  schemaMappingId : Option JsString
  topicFilter : JsString
  deriving DecidableEq

/-- `PipeBoltDomainConfigFieldMapping`. -/
structure FieldMapping where
  default : Option JsValue
  required : Bool
  source : JsString
  target : JsString
  valueType : Domain.FieldValueType

/-- `PipeBoltDomainConfigPayloadSchemaMapping`. -/
structure PayloadSchemaMapping where
  fields : List FieldMapping
  id : JsString
  name : JsString

/-- `PipeBoltDomainConfigCommandTemplate`. -/
structure CommandTemplate where
  brokerId : JsString
  enabled : Bool
  id : JsString
  name : JsString
  payloadTemplate : JsValue
  qos : Domain.MqttQos
  retain : Bool
  topicTemplate : JsString

/-- `PipeBoltDomainConfigHttpHeaderTemplate`. -/
structure HttpHeaderTemplate where
  name : JsString
  value : JsString
  deriving DecidableEq

/-- `PipeBoltDomainConfigSinkKind`. -/
inductive SinkKind where
  | webhook (headers : List HttpHeaderTemplate) (method : Domain.HttpMethod) (timeout : JsNumber)
      (url : JsString)
  | database (connectionRef table : JsString)
  deriving DecidableEq

/-- `PipeBoltDomainConfigSinkDefinition`. -/
structure SinkDefinition where
  enabled : Bool
  id : JsString
  kind : SinkKind
  name : JsString
  deriving DecidableEq

/-- `PipeBoltApiDtoProjectConfigDocumentV1`. -/
structure ProjectConfigDocumentV1 where
  brokers : List BrokerConnectionConfig
  commandTemplates : List CommandTemplate
  description : Option JsString
  enabled : Bool
  name : JsString
  projectId : JsString
  routes : List TopicRouteConfig
  rules : List RuleDefinition
  schemaMappings : List PayloadSchemaMapping
  sinks : List SinkDefinition
  tenantId : Option JsString

/-! ## What the browser reads -/

/-- A number that the backend writes as an integer. -/
def integerOfBackend (value : UInt64) : JsNumber := .ofDecimal false value.toNat 0

/-- The password is written as `Serialize for SecretString` does. -/
def MqttCredentials.ofBackend (credentials : Domain.MqttCredentials) : MqttCredentials where
  password := ofString credentials.password.serialize
  username := ofString credentials.username

def ReconnectPolicy.ofBackend (policy : Domain.ReconnectPolicy) : ReconnectPolicy where
  maxDelay := integerOfBackend (durationMillisSerialize policy.maxDelay)
  minDelay := integerOfBackend (durationMillisSerialize policy.minDelay)

def BrokerConnectionConfig.ofBackend (broker : Domain.BrokerConnectionConfig) :
    BrokerConnectionConfig where
  cleanSession := broker.cleanSession
  clientId := ofString broker.clientId
  credentials := broker.credentials.map .ofBackend
  enabled := broker.enabled
  host := ofString broker.host
  id := ofString broker.id.raw
  keepAlive := integerOfBackend (durationSecondsSerialize broker.keepAlive)
  name := ofString broker.name
  port := integerOfBackend broker.port.toUInt64
  reconnect := .ofBackend broker.reconnect
  tls := broker.tls

def DeviceIdExtraction.ofBackend : Domain.DeviceIdExtraction → DeviceIdExtraction
  | .none => .none
  | .static value => .static (ofString value)
  | .topicWildcardIndex index => .topicWildcardIndex (integerOfBackend index)
  | .payloadField path => .payloadField (ofString path.raw)

def TopicRouteConfig.ofBackend (route : Domain.TopicRouteConfig) : TopicRouteConfig where
  backpressure := route.backpressure
  brokerId := ofString route.brokerId.raw
  codec := route.codec
  deviceId := .ofBackend route.deviceId
  enabled := route.enabled
  eventType := ofString route.eventType
  id := ofString route.id.raw
  name := ofString route.name
  qos := route.qos
  schemaMappingId := route.schemaMappingId.map fun id => ofString id.raw
  topicFilter := ofString route.topicFilter.raw

/-- The backend writes `null` for a field without a default. -/
def FieldMapping.ofBackend (mapping : Domain.FieldMapping) : FieldMapping where
  default := some ((mapping.default.map ofValue).getD .null)
  required := mapping.required
  source := ofString mapping.source.raw
  target := ofString mapping.target
  valueType := mapping.valueType

def PayloadSchemaMapping.ofBackend (mapping : Domain.PayloadSchemaMapping) :
    PayloadSchemaMapping where
  fields := mapping.fields.map .ofBackend
  id := ofString mapping.id.raw
  name := ofString mapping.name

def CommandTemplate.ofBackend (template : Domain.CommandTemplate) : CommandTemplate where
  brokerId := ofString template.brokerId.raw
  enabled := template.enabled
  id := ofString template.id.raw
  name := ofString template.name
  payloadTemplate := ofValue template.payloadTemplate
  qos := template.qos
  retain := template.retain
  topicTemplate := ofString template.topicTemplate

def HttpHeaderTemplate.ofBackend (header : Domain.HttpHeaderTemplate) : HttpHeaderTemplate where
  name := ofString header.name
  value := ofString header.value.serialize

def SinkKind.ofBackend : Domain.SinkKind → SinkKind
  | .webhook url method headers timeout =>
    .webhook (headers.map .ofBackend) method
      (integerOfBackend (durationMillisSerialize timeout)) (ofString url)
  | .database connectionRef table => .database (ofString connectionRef) (ofString table)

def SinkDefinition.ofBackend (sink : Domain.SinkDefinition) : SinkDefinition where
  enabled := sink.enabled
  id := ofString sink.id.raw
  kind := .ofBackend sink.kind
  name := ofString sink.name

/-- The document that the browser reads from what the backend writes, with every secret redacted. -/
def ProjectConfigDocumentV1.ofBackend (document : Api.ProjectConfigDocumentV1) :
    ProjectConfigDocumentV1 where
  brokers := document.brokers.map .ofBackend
  commandTemplates := document.commandTemplates.map .ofBackend
  description := document.description.map ofString
  enabled := document.enabled
  name := ofString document.name
  projectId := ofString document.projectId.raw
  routes := document.routes.map .ofBackend
  rules := document.rules.map .ofBackend
  schemaMappings := document.schemaMappings.map .ofBackend
  sinks := document.sinks.map .ofBackend
  tenantId := document.tenantId.map fun id => ofString id.raw

end Generated

/-! ## What the backend reads -/

section Read

variable (reader : SerdeReader)

/-- A `u64`. -/
def readU64 (value : JsNumber) : Option UInt64 :=
  if value.isFinite then
    match reader.number value with
    | .posInt value => some value
    | .negInt _ | .float _ => none
  else none

/-- A `u16`. -/
def readU16 (value : JsNumber) : Option UInt16 := do
  let value ← readU64 reader value
  if value.toNat < 2 ^ 16 then some value.toUInt16 else none

namespace Generated

def MqttCredentials.read (credentials : MqttCredentials) : Option Domain.MqttCredentials := do
  let password ← readString credentials.password
  let username ← readString credentials.username
  return { username, password := .deserialize password }

def ReconnectPolicy.read (policy : ReconnectPolicy) : Option Domain.ReconnectPolicy := do
  let maxDelay ← readU64 reader policy.maxDelay
  let minDelay ← readU64 reader policy.minDelay
  return {
    minDelay := durationMillisDeserialize minDelay
    maxDelay := durationMillisDeserialize maxDelay }

def BrokerConnectionConfig.read (broker : BrokerConnectionConfig) :
    Option Domain.BrokerConnectionConfig := do
  let clientId ← readString broker.clientId
  let credentials ← broker.credentials.mapM MqttCredentials.read
  let host ← readString broker.host
  let id ← readString broker.id
  let keepAlive ← readU64 reader broker.keepAlive
  let name ← readString broker.name
  let port ← readU16 reader broker.port
  let reconnect ← broker.reconnect.read reader
  return {
    id := ⟨id⟩
    name
    host
    port
    tls := broker.tls
    credentials
    keepAlive := durationSecondsDeserialize keepAlive
    cleanSession := broker.cleanSession
    clientId
    reconnect
    enabled := broker.enabled }

def DeviceIdExtraction.read : DeviceIdExtraction → Option Domain.DeviceIdExtraction
  | .none => some .none
  | .static value => (readString value).map .static
  | .topicWildcardIndex index => (readU64 reader index).map .topicWildcardIndex
  | .payloadField path => (readString path).map fun path => .payloadField ⟨path⟩

def TopicRouteConfig.read (route : TopicRouteConfig) : Option Domain.TopicRouteConfig := do
  let brokerId ← readString route.brokerId
  let deviceId ← route.deviceId.read reader
  let eventType ← readString route.eventType
  let id ← readString route.id
  let name ← readString route.name
  let schemaMappingId ← route.schemaMappingId.mapM readString
  let topicFilter ← readString route.topicFilter
  return {
    id := ⟨id⟩
    brokerId := ⟨brokerId⟩
    name
    topicFilter := ⟨topicFilter⟩
    codec := route.codec
    schemaMappingId := schemaMappingId.map .mk
    deviceId
    eventType
    qos := route.qos
    enabled := route.enabled
    backpressure := route.backpressure }

/-- A default that is absent is none, and so is one that is `null`. -/
def FieldMapping.readDefault : Option JsValue → Option (Option Domain.Value)
  | none => some none
  | some value => do
    let value ← reader.fromStr (MAX_NESTING - 6) value
    return match value with
      | .null => none
      | value => some value

def FieldMapping.read (mapping : FieldMapping) : Option Domain.FieldMapping := do
  let default ← readDefault reader mapping.default
  let source ← readString mapping.source
  let target ← readString mapping.target
  return { source := ⟨source⟩, target, valueType := mapping.valueType,
           required := mapping.required, default }

def PayloadSchemaMapping.read (mapping : PayloadSchemaMapping) :
    Option Domain.PayloadSchemaMapping := do
  let fields ← mapping.fields.mapM (FieldMapping.read reader)
  let id ← readString mapping.id
  let name ← readString mapping.name
  return { id := ⟨id⟩, name, fields }

def CommandTemplate.read (template : CommandTemplate) : Option Domain.CommandTemplate := do
  let brokerId ← readString template.brokerId
  let id ← readString template.id
  let name ← readString template.name
  let payloadTemplate ← reader.fromStr (MAX_NESTING - 4) template.payloadTemplate
  let topicTemplate ← readString template.topicTemplate
  return {
    id := ⟨id⟩
    name
    brokerId := ⟨brokerId⟩
    topicTemplate
    payloadTemplate
    qos := template.qos
    retain := template.retain
    enabled := template.enabled }

def HttpHeaderTemplate.read (header : HttpHeaderTemplate) : Option Domain.HttpHeaderTemplate := do
  let name ← readString header.name
  let value ← readString header.value
  return { name, value := .deserialize value }

def SinkKind.read : SinkKind → Option Domain.SinkKind
  | .webhook headers method timeout url => do
    let headers ← headers.mapM HttpHeaderTemplate.read
    let timeout ← readU64 reader timeout
    let url ← readString url
    return .webhook url method headers (durationMillisDeserialize timeout)
  | .database connectionRef table => do
    let connectionRef ← readString connectionRef
    let table ← readString table
    return .database connectionRef table

def SinkDefinition.read (sink : SinkDefinition) : Option Domain.SinkDefinition := do
  let id ← readString sink.id
  let kind ← sink.kind.read reader
  let name ← readString sink.name
  return { id := ⟨id⟩, name, enabled := sink.enabled, kind }

def RuleDefinition.read (rule : RuleDefinition) : Option Domain.RuleDefinition := do
  let value ← reader.fromStr (MAX_NESTING - 3) rule.toJs
  Domain.RuleDefinition.deserialize value

/-- The document that serde reads, in the body of a request, from what `JSON.stringify` writes. -/
def ProjectConfigDocumentV1.read (document : ProjectConfigDocumentV1) :
    Option Api.ProjectConfigDocumentV1 := do
  let brokers ← document.brokers.mapM (BrokerConnectionConfig.read reader)
  let commandTemplates ← document.commandTemplates.mapM (CommandTemplate.read reader)
  let description ← document.description.mapM readString
  let name ← readString document.name
  let projectId ← readString document.projectId
  let routes ← document.routes.mapM (TopicRouteConfig.read reader)
  let rules ← document.rules.mapM (RuleDefinition.read reader)
  let schemaMappings ← document.schemaMappings.mapM (PayloadSchemaMapping.read reader)
  let sinks ← document.sinks.mapM (SinkDefinition.read reader)
  let tenantId ← document.tenantId.mapM readString
  return {
    projectId := ⟨projectId⟩
    tenantId := tenantId.map .mk
    name
    description
    enabled := document.enabled
    brokers
    routes
    schemaMappings
    rules
    commandTemplates
    sinks }

end Generated

end Read

/-! ## Secrets -/

def REDACTED_SECRET : JsString := ofString "<redacted>"
def MASKED_SECRET : JsString := ofString "••••••••"

namespace Generated

/-- The round of `mapSecrets` at a broker. -/
def BrokerConnectionConfig.mapSecrets (mapValue : JsString → JsString)
    (broker : BrokerConnectionConfig) : BrokerConnectionConfig :=
  { broker with
    credentials := broker.credentials.map fun credentials =>
      { credentials with password := mapValue credentials.password } }

/-- The round of `mapSecrets` at a sink. -/
def SinkDefinition.mapSecrets (mapValue : JsString → JsString) (sink : SinkDefinition) :
    SinkDefinition :=
  match sink.kind with
  | .webhook headers method timeout url =>
    { sink with
      kind := .webhook (headers.map fun header => { header with value := mapValue header.value })
        method timeout url }
  | .database _ _ => sink

/-- `mapSecrets`. -/
def ProjectConfigDocumentV1.mapSecrets (config : ProjectConfigDocumentV1)
    (mapValue : JsString → JsString) : ProjectConfigDocumentV1 :=
  { config with
    brokers := config.brokers.map (BrokerConnectionConfig.mapSecrets mapValue)
    sinks := config.sinks.map (SinkDefinition.mapSecrets mapValue) }

end Generated

/-- `redactConfigSecrets`. -/
def redactConfigSecrets (config : Generated.ProjectConfigDocumentV1) :
    Generated.ProjectConfigDocumentV1 :=
  config.mapSecrets fun _ => REDACTED_SECRET

section Redact

variable {reader : SerdeReader}

@[simp]
theorem readString_ofString (text : String) : readString (ofString text) = some text := by
  rw [readString, if_pos (isWellFormed_ofString text), toText_ofString]

/-- A redacted password is read as the placeholder. -/
theorem Generated.MqttCredentials.read_redact {credentials : Generated.MqttCredentials}
    {read : Domain.MqttCredentials} (h : credentials.read = some read) :
    ({ credentials with password := REDACTED_SECRET } : MqttCredentials).read =
      some read.throughJson := by
  obtain ⟨password, -, h⟩ := Option.bind_eq_some_iff.mp h
  obtain ⟨username, husername, h⟩ := Option.bind_eq_some_iff.mp h
  rw [← Option.some.inj h]
  simp [MqttCredentials.read, REDACTED_SECRET, husername, Domain.MqttCredentials.throughJson,
    Domain.SecretString.throughJson, Domain.SecretString.serialize]

/-- A redacted broker is read as the redacted broker. -/
theorem Generated.BrokerConnectionConfig.read_redact {broker : Generated.BrokerConnectionConfig}
    {read : Domain.BrokerConnectionConfig} (h : broker.read reader = some read) :
    (broker.mapSecrets fun _ => REDACTED_SECRET).read reader = some (Api.redactBroker read) := by
  simp only [BrokerConnectionConfig.read, Option.bind_eq_bind, Option.bind_eq_some_iff,
    Option.pure_def, Option.some_inj] at h
  obtain ⟨clientId, hclientId, credentials, hcredentials, host, hhost, id, hid, keepAlive,
    hkeepAlive, name, hname, port, hport, reconnect, hreconnect, rfl⟩ := h
  have hredacted : (broker.credentials.map fun credentials =>
      { credentials with password := REDACTED_SECRET }).mapM MqttCredentials.read =
        some (credentials.map Domain.MqttCredentials.throughJson) := by
    cases hbroker : broker.credentials with
    | none =>
      rw [hbroker] at hcredentials
      rw [← Option.some.inj hcredentials]
      rfl
    | some old =>
      rw [hbroker, Option.mapM_some, Option.map_eq_map, Option.map_eq_some_iff] at hcredentials
      obtain ⟨read, hread, rfl⟩ := hcredentials
      rw [Option.map_some, Option.mapM_some, MqttCredentials.read_redact hread]
      rfl
  simp [BrokerConnectionConfig.mapSecrets, BrokerConnectionConfig.read, hredacted, hclientId, hhost,
    hid, hkeepAlive, hname, hport, hreconnect, Api.redactBroker]

/-- A redacted header is read with the placeholder. -/
theorem Generated.HttpHeaderTemplate.read_redact {header : Generated.HttpHeaderTemplate}
    {read : Domain.HttpHeaderTemplate} (h : header.read = some read) :
    ({ header with value := REDACTED_SECRET } : HttpHeaderTemplate).read =
      some read.throughJson := by
  obtain ⟨name, hname, h⟩ := Option.bind_eq_some_iff.mp h
  obtain ⟨value, -, h⟩ := Option.bind_eq_some_iff.mp h
  rw [← Option.some.inj h]
  simp [HttpHeaderTemplate.read, REDACTED_SECRET, hname, Domain.HttpHeaderTemplate.throughJson,
    Domain.SecretString.throughJson, Domain.SecretString.serialize]

/-- A redacted sink is read as the redacted sink. -/
theorem Generated.SinkDefinition.read_redact {sink : Generated.SinkDefinition}
    {read : Domain.SinkDefinition} (h : sink.read reader = some read) :
    (sink.mapSecrets fun _ => REDACTED_SECRET).read reader = some (Api.redactSink read) := by
  simp only [SinkDefinition.read, Option.bind_eq_bind, Option.bind_eq_some_iff, Option.pure_def,
    Option.some_inj] at h
  obtain ⟨id, hid, kind, hkind, name, hname, rfl⟩ := h
  cases hsink : sink.kind with
  | database connectionRef table =>
    rw [hsink] at hkind
    obtain ⟨readRef, -, h⟩ := Option.bind_eq_some_iff.mp hkind
    obtain ⟨readTable, -, h⟩ := Option.bind_eq_some_iff.mp h
    obtain rfl := Option.some.inj h
    simp [SinkDefinition.mapSecrets, hsink, SinkDefinition.read, hid, hkind, hname, Api.redactSink]
  | webhook headers method timeout url =>
    rw [hsink] at hkind
    obtain ⟨readHeaders, hheaders, h⟩ := Option.bind_eq_some_iff.mp hkind
    obtain ⟨readTimeout, htimeout, h⟩ := Option.bind_eq_some_iff.mp h
    obtain ⟨readUrl, hurl, h⟩ := Option.bind_eq_some_iff.mp h
    obtain rfl := Option.some.inj h
    have hredacted := Fallible.mapM_map_eq_some (g := fun header : HttpHeaderTemplate =>
      { header with value := REDACTED_SECRET }) hheaders
      fun _ _ hread => HttpHeaderTemplate.read_redact hread
    simp [SinkDefinition.mapSecrets, hsink, SinkDefinition.read, SinkKind.read, hid, hname,
      hredacted, htimeout, hurl, Api.redactSink]

/-- A redacted document is read as the redacted document. -/
theorem Generated.ProjectConfigDocumentV1.read_redact {config : Generated.ProjectConfigDocumentV1}
    {read : Api.ProjectConfigDocumentV1} (h : config.read reader = some read) :
    (redactConfigSecrets config).read reader = some (Api.redactSecrets read) := by
  simp only [ProjectConfigDocumentV1.read, Option.bind_eq_bind, Option.bind_eq_some_iff,
    Option.pure_def, Option.some_inj] at h
  obtain ⟨brokers, hbrokers, templates, htemplates, description, hdescription, name, hname,
    projectId, hprojectId, routes, hroutes, rules, hrules, mappings, hmappings, sinks, hsinks,
    tenantId, htenantId, rfl⟩ := h
  have hbrokers' := Fallible.mapM_map_eq_some hbrokers
    fun _ _ hread => BrokerConnectionConfig.read_redact hread
  have hsinks' := Fallible.mapM_map_eq_some hsinks
    fun _ _ hread => SinkDefinition.read_redact hread
  simp [redactConfigSecrets, ProjectConfigDocumentV1.mapSecrets, ProjectConfigDocumentV1.read,
    hbrokers', hsinks', htemplates, hdescription, hname, hprojectId, hroutes, hrules, hmappings,
    htenantId, Api.redactSecrets]

end Redact

section Restore

-- `String.prototype.toLowerCase`.
variable (toLowerCase : JsString → JsString)

/-- The round of `restoreConfigSecrets` at a broker: the password of the first broker of `source`
with the identifier takes the place of the mask, if it is not empty. -/
def restoreBroker (source : Option Generated.ProjectConfigDocumentV1)
    (broker : Generated.BrokerConnectionConfig) :
    Except JsString Generated.BrokerConnectionConfig :=
  match broker.credentials with
  | none => .ok broker
  | some credentials =>
    if credentials.password ≠ MASKED_SECRET then .ok broker
    else
      let sourcePassword := do
        let source ← source
        let item ← source.brokers.find? fun item => item.id == broker.id
        let credentials ← item.credentials
        return credentials.password
      match sourcePassword with
      | none | some [] =>
        .error (ofString "Masked password has no existing secret for broker " ++ broker.id ++
          ofString ".")
      | some password =>
        .ok { broker with credentials := some { credentials with password } }

/-- The round of `restoreConfigSecrets` at a header of a sink. -/
def restoreHeader (sourceSink : Option Generated.SinkDefinition) (sinkId : JsString)
    (header : Generated.HttpHeaderTemplate) : Except JsString Generated.HttpHeaderTemplate :=
  if header.value ≠ MASKED_SECRET then .ok header
  else
    let sourceValue := do
      let sourceSink ← sourceSink
      match sourceSink.kind with
      | .webhook headers _ _ _ =>
        let item ← headers.find? fun item => toLowerCase item.name == toLowerCase header.name
        return item.value
      | .database _ _ => none
    match sourceValue with
    | none | some [] =>
      .error (ofString "Masked header has no existing secret for sink " ++ sinkId ++
        ofString " and header " ++ header.name ++ ofString ".")
    | some value => .ok { header with value }

/-- The round of `restoreConfigSecrets` at a sink. -/
def restoreSink (source : Option Generated.ProjectConfigDocumentV1)
    (sink : Generated.SinkDefinition) : Except JsString Generated.SinkDefinition :=
  match sink.kind with
  | .webhook headers method timeout url => do
    let sourceSink := source.bind fun source => source.sinks.find? fun item => item.id == sink.id
    let headers ← headers.mapM (restoreHeader toLowerCase sourceSink sink.id)
    return { sink with kind := .webhook headers method timeout url }
  | .database _ _ => .ok sink

/-- `restoreConfigSecrets`; the text of the error that it throws. -/
def restoreConfigSecrets (config : Generated.ProjectConfigDocumentV1)
    (source : Option Generated.ProjectConfigDocumentV1) :
    Except JsString Generated.ProjectConfigDocumentV1 := do
  let brokers ← config.brokers.mapM (restoreBroker source)
  let sinks ← config.sinks.mapM (restoreSink toLowerCase source)
  return { config with brokers, sinks }

variable {toLowerCase}

/-- Only secrets are restored. -/
theorem restoreConfigSecrets_projectId {config restored : Generated.ProjectConfigDocumentV1}
    {source : Option Generated.ProjectConfigDocumentV1}
    (h : restoreConfigSecrets toLowerCase config source = .ok restored) :
    restored.projectId = config.projectId := by
  obtain ⟨brokers, -, h⟩ := Fallible.bind_eq_ok_iff.mp h
  obtain ⟨sinks, -, h⟩ := Fallible.bind_eq_ok_iff.mp h
  rw [← Except.ok.inj h]

end Restore

end Web
end PipeBolt
