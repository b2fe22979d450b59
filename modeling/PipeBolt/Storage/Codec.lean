import PipeBolt.Domain.Config
import PipeBolt.Storage.Aad

/-!
# The project configuration codec

`pipe_bolt_storage::project_config_codec`: a configuration is stored with its secrets encrypted,
each under the associated data of its slot.

The decoder opens each ciphertext, runs `SecretString::new` on the plaintext and validates the
configuration as a whole.  `SecretOpener` is the first two of these steps, so that `reveal` (open
the ciphertexts and check nothing) runs through the same code as `decode`.

* `reveal_encode`: what is encoded is revealed again.
* `decode_eq_ok_iff`: decoding is revealing, then checking every secret and the configuration.
* `decode_encode_iff`: a validated configuration survives the codec exactly when every secret in
  it is one that `SecretString::new` accepts.
-/

namespace PipeBolt
namespace Storage

open Domain Rust Fallible

/-! ## The stored types -/

/-- `StoredMqttCredentials`. -/
structure StoredMqttCredentials where
  username : String
  password : EncryptedSecret
  deriving DecidableEq, Repr

/-- `StoredBrokerConnectionConfig`. -/
structure StoredBrokerConnectionConfig where
  id : BrokerId
  name : String
  host : String
  port : UInt16
  tls : TlsMode
  credentials : Option StoredMqttCredentials
  keepAlive : Duration
  cleanSession : Bool
  clientId : String
  reconnect : ReconnectPolicy
  enabled : Bool
  deriving DecidableEq, Repr

/-- `StoredHttpHeaderTemplate`. -/
structure StoredHttpHeaderTemplate where
  name : String
  value : EncryptedSecret
  deriving DecidableEq, Repr

/-- `StoredSinkKind`. -/
inductive StoredSinkKind where
  | webhook (url : String) (method : HttpMethod) (headers : List StoredHttpHeaderTemplate)
      (timeout : Duration)
  | database (connectionRef table : String)
  deriving DecidableEq, Repr

/-- `StoredSinkDefinition`. -/
structure StoredSinkDefinition where
  id : SinkId
  name : String
  enabled : Bool
  kind : StoredSinkKind
  deriving DecidableEq, Repr

/-- `StoredProjectConfig`. -/
structure StoredProjectConfig where
  id : ProjectId
  tenantId : Option TenantId
  name : String
  description : Option String
  enabled : Bool
  version : UInt64
  brokers : List StoredBrokerConnectionConfig
  routes : List TopicRouteConfig
  schemaMappings : List PayloadSchemaMapping
  rules : List RuleDefinition
  commandTemplates : List CommandTemplate
  sinks : List StoredSinkDefinition

/-! ## Encoding -/

section Encode

variable {ρ : Type} (cipher : SecretCipher ρ)

/-- `StoredMqttCredentials::from_domain`. -/
def StoredMqttCredentials.fromDomain (projectId : ProjectId) (brokerId : BrokerId)
    (credentials : MqttCredentials) : StateT ρ (Except StorageError) StoredMqttCredentials := do
  let aad := brokerPasswordAad projectId brokerId
  let password ← cipher.encrypt credentials.password.exposeSecret aad.toUTF8
  return { username := credentials.username, password := password }

/-- `StoredBrokerConnectionConfig::from_domain`. -/
def StoredBrokerConnectionConfig.fromDomain (projectId : ProjectId)
    (broker : BrokerConnectionConfig) :
    StateT ρ (Except StorageError) StoredBrokerConnectionConfig := do
  let credentials ←
    broker.credentials.mapM (StoredMqttCredentials.fromDomain cipher projectId broker.id)
  return {
    id := broker.id
    name := broker.name
    host := broker.host
    port := broker.port
    tls := broker.tls
    credentials := credentials
    keepAlive := broker.keepAlive
    cleanSession := broker.cleanSession
    clientId := broker.clientId
    reconnect := broker.reconnect
    enabled := broker.enabled }

/-- `StoredHttpHeaderTemplate::from_domain`. -/
def StoredHttpHeaderTemplate.fromDomain (projectId : ProjectId) (sinkId : SinkId)
    (header : HttpHeaderTemplate) : StateT ρ (Except StorageError) StoredHttpHeaderTemplate := do
  let aad := sinkHeaderAad projectId sinkId header.name
  let value ← cipher.encrypt header.value.exposeSecret aad.toUTF8
  return { name := header.name, value := value }

/-- `StoredSinkKind::from_domain`. -/
def StoredSinkKind.fromDomain (projectId : ProjectId) (sinkId : SinkId) :
    SinkKind → StateT ρ (Except StorageError) StoredSinkKind
  | .webhook url method headers timeout => do
    let headers ← headers.mapM (StoredHttpHeaderTemplate.fromDomain cipher projectId sinkId)
    return .webhook url method headers timeout
  | .database connectionRef table => return .database connectionRef table

/-- `StoredSinkDefinition::from_domain`. -/
def StoredSinkDefinition.fromDomain (projectId : ProjectId) (sink : SinkDefinition) :
    StateT ρ (Except StorageError) StoredSinkDefinition := do
  let kind ← StoredSinkKind.fromDomain cipher projectId sink.id sink.kind
  return { id := sink.id, name := sink.name, enabled := sink.enabled, kind := kind }

/-- `StoredProjectConfig::from_domain`. -/
def StoredProjectConfig.fromDomain (config : ProjectConfig) :
    StateT ρ (Except StorageError) StoredProjectConfig := do
  let brokers ← config.brokers.mapM (StoredBrokerConnectionConfig.fromDomain cipher config.id)
  let sinks ← config.sinks.mapM (StoredSinkDefinition.fromDomain cipher config.id)
  return {
    id := config.id
    tenantId := config.tenantId
    name := config.name
    description := config.description
    enabled := config.enabled
    version := config.version
    brokers := brokers
    routes := config.routes
    schemaMappings := config.schemaMappings
    rules := config.rules
    commandTemplates := config.commandTemplates
    sinks := sinks }

/-- `ProjectConfigCodec::encode`. -/
def encode (config : ProjectConfig) : StateT ρ (Except StorageError) StoredProjectConfig :=
  StoredProjectConfig.fromDomain cipher config

end Encode

/-! ## Decoding -/

/-- How one ciphertext becomes a secret under its associated data. -/
abbrev SecretOpener := EncryptedSecret → ByteArray → Except StorageError SecretString

/-- The steps of `into_domain` at a secret: decrypt, then `SecretString::new`. -/
def SecretCipher.opener {ρ : Type} (cipher : SecretCipher ρ) : SecretOpener :=
  fun encrypted aad => do
    let value ← cipher.decrypt encrypted aad
    (SecretString.new value).mapError .domain

/-- Decryption alone. -/
def SecretCipher.revealer {ρ : Type} (cipher : SecretCipher ρ) : SecretOpener :=
  fun encrypted aad => SecretString.mk <$> cipher.decrypt encrypted aad

section Decode

variable (opener : SecretOpener)

/-- `StoredMqttCredentials::into_domain`. -/
def StoredMqttCredentials.intoDomain (projectId : ProjectId) (brokerId : BrokerId)
    (stored : StoredMqttCredentials) : Except StorageError MqttCredentials := do
  let aad := brokerPasswordAad projectId brokerId
  let password ← opener stored.password aad.toUTF8
  return { username := stored.username, password := password }

/-- `StoredBrokerConnectionConfig::into_domain`. -/
def StoredBrokerConnectionConfig.intoDomain (projectId : ProjectId)
    (stored : StoredBrokerConnectionConfig) : Except StorageError BrokerConnectionConfig := do
  let credentials ←
    stored.credentials.mapM (StoredMqttCredentials.intoDomain opener projectId stored.id)
  return {
    id := stored.id
    name := stored.name
    host := stored.host
    port := stored.port
    tls := stored.tls
    credentials := credentials
    keepAlive := stored.keepAlive
    cleanSession := stored.cleanSession
    clientId := stored.clientId
    reconnect := stored.reconnect
    enabled := stored.enabled }

/-- `StoredHttpHeaderTemplate::into_domain`. -/
def StoredHttpHeaderTemplate.intoDomain (projectId : ProjectId) (sinkId : SinkId)
    (stored : StoredHttpHeaderTemplate) : Except StorageError HttpHeaderTemplate := do
  let aad := sinkHeaderAad projectId sinkId stored.name
  let value ← opener stored.value aad.toUTF8
  return { name := stored.name, value := value }

/-- `StoredSinkKind::into_domain`. -/
def StoredSinkKind.intoDomain (projectId : ProjectId) (sinkId : SinkId) :
    StoredSinkKind → Except StorageError SinkKind
  | .webhook url method headers timeout => do
    let headers ← headers.mapM (StoredHttpHeaderTemplate.intoDomain opener projectId sinkId)
    return .webhook url method headers timeout
  | .database connectionRef table => return .database connectionRef table

/-- `StoredSinkDefinition::into_domain`. -/
def StoredSinkDefinition.intoDomain (projectId : ProjectId) (stored : StoredSinkDefinition) :
    Except StorageError SinkDefinition := do
  let kind ← StoredSinkKind.intoDomain opener projectId stored.id stored.kind
  return { id := stored.id, name := stored.name, enabled := stored.enabled, kind := kind }

/-- `StoredProjectConfig::into_domain` up to the validation at its end. -/
def StoredProjectConfig.openWith (stored : StoredProjectConfig) :
    Except StorageError ProjectConfig := do
  let brokers ← stored.brokers.mapM (StoredBrokerConnectionConfig.intoDomain opener stored.id)
  let sinks ← stored.sinks.mapM (StoredSinkDefinition.intoDomain opener stored.id)
  return {
    id := stored.id
    tenantId := stored.tenantId
    name := stored.name
    description := stored.description
    enabled := stored.enabled
    version := stored.version
    brokers := brokers
    routes := stored.routes
    schemaMappings := stored.schemaMappings
    rules := stored.rules
    commandTemplates := stored.commandTemplates
    sinks := sinks }

end Decode

/-- `StoredProjectConfig::into_domain`. -/
def StoredProjectConfig.intoDomain {ρ : Type} (cipher : SecretCipher ρ)
    (stored : StoredProjectConfig) : Except StorageError ProjectConfig := do
  let config ← stored.openWith cipher.opener
  config.validate.mapError StorageError.domain
  return config

/-- `ProjectConfigCodec::decode`. -/
def decode {ρ : Type} (cipher : SecretCipher ρ) (stored : StoredProjectConfig) :
    Except StorageError ProjectConfig :=
  stored.intoDomain cipher

/-- The configuration under the ciphertexts, whether or not its secrets pass their check. -/
def reveal {ρ : Type} (cipher : SecretCipher ρ) (stored : StoredProjectConfig) :
    Except StorageError ProjectConfig :=
  stored.openWith cipher.revealer

/-! ## What was encoded is revealed -/

section RoundTrip

variable {ρ : Type} {cipher reader : SecretCipher ρ}

/-- A ciphertext made under some associated data is revealed under it. -/
theorem revealer_encrypt (h : cipher.ReadBy reader) {secret : SecretString} {aad : ByteArray}
    {encrypted : EncryptedSecret}
    (hyield : Yields (cipher.encrypt secret.exposeSecret aad) encrypted) :
    reader.revealer encrypted aad = .ok secret := by
  rw [SecretCipher.revealer, map_eq_ok_iff]
  exact ⟨secret.raw, h _ _ _ hyield, rfl⟩

theorem credentials_reveal (h : cipher.ReadBy reader) (projectId : ProjectId) (brokerId : BrokerId)
    (credentials : MqttCredentials) (stored : StoredMqttCredentials)
    (hyield :
      Yields (StoredMqttCredentials.fromDomain cipher projectId brokerId credentials) stored) :
    stored.intoDomain reader.revealer projectId brokerId = .ok credentials := by
  obtain ⟨password, hpassword, hyield⟩ := yields_bind hyield
  rw [yields_pure hyield, StoredMqttCredentials.intoDomain, bind_eq_ok_iff]
  exact ⟨credentials.password, revealer_encrypt h hpassword, rfl⟩

theorem broker_reveal (h : cipher.ReadBy reader) (projectId : ProjectId)
    (broker : BrokerConnectionConfig) (stored : StoredBrokerConnectionConfig)
    (hyield : Yields (StoredBrokerConnectionConfig.fromDomain cipher projectId broker) stored) :
    stored.intoDomain reader.revealer projectId = .ok broker := by
  obtain ⟨credentials, hcredentials, hyield⟩ := yields_bind hyield
  rw [yields_pure hyield, StoredBrokerConnectionConfig.intoDomain, bind_eq_ok_iff]
  exact ⟨broker.credentials,
    option_mapM_eq_ok_of_yields (credentials_reveal h projectId broker.id) hcredentials, rfl⟩

theorem header_reveal (h : cipher.ReadBy reader) (projectId : ProjectId) (sinkId : SinkId)
    (header : HttpHeaderTemplate) (stored : StoredHttpHeaderTemplate)
    (hyield : Yields (StoredHttpHeaderTemplate.fromDomain cipher projectId sinkId header) stored) :
    stored.intoDomain reader.revealer projectId sinkId = .ok header := by
  obtain ⟨value, hvalue, hyield⟩ := yields_bind hyield
  rw [yields_pure hyield, StoredHttpHeaderTemplate.intoDomain, bind_eq_ok_iff]
  exact ⟨header.value, revealer_encrypt h hvalue, rfl⟩

theorem sinkKind_reveal (h : cipher.ReadBy reader) (projectId : ProjectId) (sinkId : SinkId)
    (kind : SinkKind) (stored : StoredSinkKind)
    (hyield : Yields (StoredSinkKind.fromDomain cipher projectId sinkId kind) stored) :
    stored.intoDomain reader.revealer projectId sinkId = .ok kind := by
  cases kind with
  | webhook url method headers timeout =>
    obtain ⟨storedHeaders, hheaders, hyield⟩ := yields_bind hyield
    rw [yields_pure hyield, StoredSinkKind.intoDomain, bind_eq_ok_iff]
    exact ⟨headers, mapM_eq_ok_of_yields (header_reveal h projectId sinkId) hheaders, rfl⟩
  | database connectionRef table =>
    rw [yields_pure hyield]
    rfl

theorem sink_reveal (h : cipher.ReadBy reader) (projectId : ProjectId) (sink : SinkDefinition)
    (stored : StoredSinkDefinition)
    (hyield : Yields (StoredSinkDefinition.fromDomain cipher projectId sink) stored) :
    stored.intoDomain reader.revealer projectId = .ok sink := by
  obtain ⟨kind, hkind, hyield⟩ := yields_bind hyield
  rw [yields_pure hyield, StoredSinkDefinition.intoDomain, bind_eq_ok_iff]
  exact ⟨sink.kind, sinkKind_reveal h projectId sink.id sink.kind kind hkind, rfl⟩

/-- What is encoded is revealed by every cipher that opens its secrets. -/
theorem reveal_encode_of_readBy (h : cipher.ReadBy reader) {config : ProjectConfig}
    {stored : StoredProjectConfig} (hyield : Yields (encode cipher config) stored) :
    reveal reader stored = .ok config := by
  obtain ⟨brokers, hbrokers, hyield⟩ := yields_bind hyield
  obtain ⟨sinks, hsinks, hyield⟩ := yields_bind hyield
  rw [yields_pure hyield, reveal, StoredProjectConfig.openWith, bind_eq_ok_iff]
  refine ⟨config.brokers, mapM_eq_ok_of_yields (broker_reveal h config.id) hbrokers, ?_⟩
  rw [bind_eq_ok_iff]
  exact ⟨config.sinks, mapM_eq_ok_of_yields (sink_reveal h config.id) hsinks, rfl⟩

/-- What is encoded is revealed again. -/
theorem reveal_encode (h : cipher.Lawful) {config : ProjectConfig} {stored : StoredProjectConfig}
    (hyield : Yields (encode cipher config) stored) : reveal cipher stored = .ok config :=
  reveal_encode_of_readBy h.decrypt_encrypt hyield

/-- Encoding succeeds. -/
theorem encode_total (h : cipher.Lawful) (config : ProjectConfig) :
    Total (encode cipher config) := by
  have hcredentials : ∀ brokerId credentials,
      Total (StoredMqttCredentials.fromDomain cipher config.id brokerId credentials) :=
    fun _ _ => total_bind (h.total _ _) fun _ => total_pure _
  have hbroker : ∀ broker,
      Total (StoredBrokerConnectionConfig.fromDomain cipher config.id broker) :=
    fun broker => total_bind (total_option_mapM (hcredentials broker.id) _) fun _ => total_pure _
  have hheader : ∀ sinkId header,
      Total (StoredHttpHeaderTemplate.fromDomain cipher config.id sinkId header) :=
    fun _ _ => total_bind (h.total _ _) fun _ => total_pure _
  have hkind : ∀ sinkId kind, Total (StoredSinkKind.fromDomain cipher config.id sinkId kind) := by
    intro sinkId kind
    cases kind with
    | webhook url method headers timeout =>
      exact total_bind (total_mapM (hheader sinkId) headers) fun _ => total_pure _
    | database connectionRef table => exact total_pure _
  have hsink : ∀ sink, Total (StoredSinkDefinition.fromDomain cipher config.id sink) :=
    fun _ => total_bind (hkind _ _) fun _ => total_pure _
  exact total_bind (total_mapM hbroker _) fun _ => total_bind (total_mapM hsink _) fun _ =>
    total_pure _

end RoundTrip

/-! ## What the decoder checks -/

section Decode

variable {ρ : Type} {cipher : SecretCipher ρ}

theorem opener_eq_ok_iff {encrypted : EncryptedSecret} {aad : ByteArray} {secret : SecretString} :
    cipher.opener encrypted aad = .ok secret ↔
      cipher.revealer encrypted aad = .ok secret ∧ secret.Valid := by
  rw [SecretCipher.opener, SecretCipher.revealer, bind_eq_ok_iff, map_eq_ok_iff]
  constructor
  · rintro ⟨value, hdecrypt, hnew⟩
    obtain ⟨rfl, hvalid⟩ := SecretString.new_eq_ok_iff.mp (mapError_eq_ok_iff.mp hnew)
    exact ⟨⟨value, hdecrypt, rfl⟩, hvalid⟩
  · rintro ⟨⟨value, hdecrypt, rfl⟩, hvalid⟩
    exact ⟨value, hdecrypt, mapError_eq_ok_iff.mpr (SecretString.new_eq_ok_iff.mpr ⟨rfl, hvalid⟩)⟩

theorem credentials_open_iff (projectId : ProjectId) (brokerId : BrokerId)
    (stored : StoredMqttCredentials) (credentials : MqttCredentials) :
    stored.intoDomain cipher.opener projectId brokerId = .ok credentials ↔
      stored.intoDomain cipher.revealer projectId brokerId = .ok credentials ∧
        credentials.password.Valid :=
  bind_eq_ok_and_iff (fun _ => opener_eq_ok_iff) fun password h => by rw [← Except.ok.inj h]

theorem broker_open_iff (projectId : ProjectId) (stored : StoredBrokerConnectionConfig)
    (broker : BrokerConnectionConfig) :
    stored.intoDomain cipher.opener projectId = .ok broker ↔
      stored.intoDomain cipher.revealer projectId = .ok broker ∧
        ∀ credentials ∈ broker.credentials, credentials.password.Valid :=
  bind_eq_ok_and_iff (fun _ => option_mapM_eq_ok_and_iff (credentials_open_iff projectId stored.id))
    fun credentials h => by rw [← Except.ok.inj h]

theorem header_open_iff (projectId : ProjectId) (sinkId : SinkId)
    (stored : StoredHttpHeaderTemplate) (header : HttpHeaderTemplate) :
    stored.intoDomain cipher.opener projectId sinkId = .ok header ↔
      stored.intoDomain cipher.revealer projectId sinkId = .ok header ∧ header.value.Valid :=
  bind_eq_ok_and_iff (fun _ => opener_eq_ok_iff) fun value h => by rw [← Except.ok.inj h]

theorem sinkKind_open_iff (projectId : ProjectId) (sinkId : SinkId) (stored : StoredSinkKind)
    (kind : SinkKind) :
    stored.intoDomain cipher.opener projectId sinkId = .ok kind ↔
      stored.intoDomain cipher.revealer projectId sinkId = .ok kind ∧
        ∀ header ∈ kind.headers, header.value.Valid := by
  cases stored with
  | webhook url method headers timeout =>
    exact bind_eq_ok_and_iff (fun _ => mapM_eq_ok_and_iff (header_open_iff projectId sinkId))
      fun headers h => by rw [← Except.ok.inj h]; rfl
  | database connectionRef table =>
    rw [StoredSinkKind.intoDomain, StoredSinkKind.intoDomain]
    constructor
    · intro h
      refine ⟨h, ?_⟩
      rw [← Except.ok.inj h]
      exact fun _ hheader => (nomatch hheader)
    · exact fun h => h.1

theorem sink_open_iff (projectId : ProjectId) (stored : StoredSinkDefinition)
    (sink : SinkDefinition) :
    stored.intoDomain cipher.opener projectId = .ok sink ↔
      stored.intoDomain cipher.revealer projectId = .ok sink ∧
        ∀ header ∈ sink.kind.headers, header.value.Valid :=
  bind_eq_ok_and_iff (fun _ => sinkKind_open_iff projectId stored.id stored.kind _)
    fun kind h => by rw [← Except.ok.inj h]

theorem openWith_opener_eq_ok_iff {stored : StoredProjectConfig} {config : ProjectConfig} :
    stored.openWith cipher.opener = .ok config ↔
      reveal cipher stored = .ok config ∧ ∀ secret ∈ config.secrets, secret.Valid := by
  constructor
  · intro h
    obtain ⟨brokers, hbrokers, h⟩ := bind_eq_ok_iff.mp h
    obtain ⟨sinks, hsinks, h⟩ := bind_eq_ok_iff.mp h
    obtain ⟨hbrokers, hpasswords⟩ := (mapM_eq_ok_and_iff (broker_open_iff stored.id)).mp hbrokers
    obtain ⟨hsinks, hheaders⟩ := (mapM_eq_ok_and_iff (sink_open_iff stored.id)).mp hsinks
    refine ⟨bind_eq_ok_iff.mpr ⟨brokers, hbrokers, bind_eq_ok_iff.mpr ⟨sinks, hsinks, h⟩⟩, ?_⟩
    rw [← Except.ok.inj h]
    exact forall_secrets_iff.mpr ⟨hpasswords, hheaders⟩
  · rintro ⟨h, hsecrets⟩
    obtain ⟨brokers, hbrokers, h⟩ := bind_eq_ok_iff.mp h
    obtain ⟨sinks, hsinks, h⟩ := bind_eq_ok_iff.mp h
    rw [← Except.ok.inj h] at hsecrets
    obtain ⟨hpasswords, hheaders⟩ := forall_secrets_iff.mp hsecrets
    have hbrokers := (mapM_eq_ok_and_iff (broker_open_iff stored.id)).mpr ⟨hbrokers, hpasswords⟩
    have hsinks := (mapM_eq_ok_and_iff (sink_open_iff stored.id)).mpr ⟨hsinks, hheaders⟩
    exact bind_eq_ok_iff.mpr ⟨brokers, hbrokers, bind_eq_ok_iff.mpr ⟨sinks, hsinks, h⟩⟩

/-- A revealed configuration has the version it was stored with. -/
theorem reveal_version {stored : StoredProjectConfig} {config : ProjectConfig}
    (h : reveal cipher stored = .ok config) : config.version = stored.version := by
  obtain ⟨_, -, h⟩ := bind_eq_ok_iff.mp h
  obtain ⟨_, -, h⟩ := bind_eq_ok_iff.mp h
  rw [← Except.ok.inj h]

/-- Decoding is revealing, then checking every secret and the configuration. -/
theorem decode_eq_ok_iff {stored : StoredProjectConfig} {config : ProjectConfig} :
    decode cipher stored = .ok config ↔
      reveal cipher stored = .ok config ∧ (∀ secret ∈ config.secrets, secret.Valid) ∧
        config.validate = .ok () := by
  rw [decode, StoredProjectConfig.intoDomain, bind_eq_ok_iff]
  constructor
  · rintro ⟨revealed, hopen, h⟩
    obtain ⟨hvalidate, h⟩ := check_eq_ok_iff.mp h
    rw [← Except.ok.inj h]
    obtain ⟨hreveal, hsecrets⟩ := openWith_opener_eq_ok_iff.mp hopen
    exact ⟨hreveal, hsecrets, mapError_eq_ok_iff.mp hvalidate⟩
  · rintro ⟨hreveal, hsecrets, hvalidate⟩
    exact ⟨config, openWith_opener_eq_ok_iff.mpr ⟨hreveal, hsecrets⟩,
      check_eq_ok_iff.mpr ⟨mapError_eq_ok_iff.mpr hvalidate, rfl⟩⟩

end Decode

/-! ## The round trip -/

/-- A run of the encoder returns a configuration that the decoder turns back into `config`. -/
def RoundTrips {ρ : Type} (cipher : SecretCipher ρ) (config : ProjectConfig) (random : ρ) : Prop :=
  ∃ stored random', encode cipher config random = .ok (stored, random') ∧
    decode cipher stored = .ok config

/-- A validated configuration survives the codec exactly when every secret in it is one that
`SecretString::new` accepts. -/
theorem decode_encode_iff {ρ : Type} (cipher : SecretCipher ρ) (hcipher : cipher.Lawful)
    (config : ProjectConfig) (hvalidate : config.validate = .ok ()) (random : ρ) :
    RoundTrips cipher config random ↔ ∀ secret ∈ config.secrets, secret.Valid := by
  constructor
  · rintro ⟨stored, random', -, hdecode⟩
    exact (decode_eq_ok_iff.mp hdecode).2.1
  · intro hsecrets
    obtain ⟨stored, random', hencode⟩ := encode_total hcipher config random
    have hreveal := reveal_encode hcipher ⟨random, random', hencode⟩
    exact ⟨stored, random', hencode, decode_eq_ok_iff.mpr ⟨hreveal, hsecrets, hvalidate⟩⟩

theorem decode_encode_iff_plantProject :
    RoundTrips tagCipher (plantProject "s3cret" [] []) () ↔
      ∀ secret ∈ (plantProject "s3cret" [] []).secrets, secret.Valid :=
  decode_encode_iff tagCipher tagCipher_lawful (plantProject "s3cret" [] []) (by decide +kernel) ()

/-- A broker with the empty password is accepted, stored and then refused by the decoder. -/
theorem decode_encode_emptyPassword :
    tagCipher.Lawful ∧ (plantProject "" [] []).validate = .ok () ∧
      ¬ RoundTrips tagCipher (plantProject "" [] []) () := by
  refine ⟨tagCipher_lawful, by decide +kernel, ?_⟩
  rintro ⟨stored, random', -, hdecode⟩
  have hvalid := (decode_eq_ok_iff.mp hdecode).2.1 ⟨""⟩ (List.mem_singleton.mpr rfl)
  exact absurd hvalid.nonblank (by decide)

end Storage
end PipeBolt
