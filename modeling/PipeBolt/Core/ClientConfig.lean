import PipeBolt.Core.Router

/-!
# The configuration of the MQTT client

`pipe_bolt_core::config`: the settings of a client with the check that is run before it connects.

* `MqttClientConfig.validate_eq_ok_iff`: what the check accepts.
-/

namespace PipeBolt
namespace Core

open Rust Fallible

/-- `MqttTlsMode`. -/
inductive MqttTlsMode where
  | disabled
  | enabledWithNativeRoot
  deriving DecidableEq, Repr

/-- `MqttSubscription`. -/
structure MqttSubscription where
  topic : String
  qos : QoS
  deriving DecidableEq, Repr

/-- `MqttReconnectConfig`. -/
structure MqttReconnectConfig where
  minDelay : Duration
  maxDelay : Duration
  deriving DecidableEq, Repr

/-- `MqttReconnectConfig::default`. -/
def MqttReconnectConfig.default : MqttReconnectConfig where
  minDelay := .fromMillis 500
  maxDelay := .fromSecs 30

/-- `MqttReconnectConfig::validate`. -/
def MqttReconnectConfig.validate (config : MqttReconnectConfig) : Except MqttEngineError Unit :=
  if config.minDelay.isZero then
    .error (.invalidConfig "reconnect min_delay must be greater than zero")
  else if config.maxDelay < config.minDelay then
    .error (.invalidConfig "Reconnect max_delay must be greater than or equal to min_delay")
  else .ok ()

/-- `MqttClientConfig`. -/
structure MqttClientConfig where
  clientId : String
  host : String
  port : UInt16
  username : Option String
  password : Option String
  keepAlive : Duration
  cleanSession : Bool
  tlsMode : MqttTlsMode
  requestChannelCapacity : Nat
  subscriptions : List MqttSubscription
  reconnect : MqttReconnectConfig
  deriving DecidableEq, Repr

namespace MqttClientConfig

/-- `MqttClientConfig::new`. -/
def new (clientId host : String) (port : UInt16) : MqttClientConfig where
  clientId := clientId
  host := host
  port := port
  username := none
  password := none
  keepAlive := .fromSecs 30
  cleanSession := false
  tlsMode := .disabled
  requestChannelCapacity := 64
  subscriptions := []
  reconnect := .default

/-- `MqttClientConfig::with_credentials`. -/
def withCredentials (config : MqttClientConfig) (username password : String) : MqttClientConfig :=
  { config with username := some username, password := some password }

/-- `MqttClientConfig::with_tls`. -/
def withTls (config : MqttClientConfig) (tlsMode : MqttTlsMode) : MqttClientConfig :=
  { config with tlsMode }

/-- `MqttClientConfig::with_keep_alive`. -/
def withKeepAlive (config : MqttClientConfig) (keepAlive : Duration) : MqttClientConfig :=
  { config with keepAlive }

/-- `MqttClientConfig::with_clean_session`. -/
def withCleanSession (config : MqttClientConfig) (cleanSession : Bool) : MqttClientConfig :=
  { config with cleanSession }

/-- `MqttClientConfig::with_reconnect`. -/
def withReconnect (config : MqttClientConfig) (reconnect : MqttReconnectConfig) :
    MqttClientConfig :=
  { config with reconnect }

/-- `MqttClientConfig::with_subscription`. -/
def withSubscription (config : MqttClientConfig) (topic : String) (qos : QoS) : MqttClientConfig :=
  { config with subscriptions := config.subscriptions ++ [⟨topic, qos⟩] }

/-- The loop of `MqttClientConfig::validate` over the subscriptions. -/
def validateSubscriptions (subscriptions : List MqttSubscription) : Except MqttEngineError Unit :=
  subscriptions.forM fun subscription =>
    (Router.validateMqttTopicFilter subscription.topic).mapError fun _ =>
      .invalidConfig "subscription topic invalid"

/-- `MqttClientConfig::validate`. -/
def validate (config : MqttClientConfig) : Except MqttEngineError Unit :=
  if (trim config.clientId).isEmpty then .error (.invalidConfig "client_id must not be empty")
  else if (trim config.host).isEmpty then .error (.invalidConfig "host must not be empty")
  else if config.port = 0 then .error (.invalidConfig "port must not be zero")
  else if config.keepAlive < .fromSecs 5 then
    .error (.invalidConfig "keep_alive must be greater than or equal to 5 seconds")
  else if config.requestChannelCapacity = 0 then
    .error (.invalidConfig "request_channel_capacity must be greater than zero")
  else if config.username.isSome ≠ config.password.isSome then
    .error (.invalidConfig "username and password must be configured together")
  else do
    validateSubscriptions config.subscriptions
    config.reconnect.validate

/-- What `MqttClientConfig::validate` accepts. -/
structure Valid (config : MqttClientConfig) : Prop where
  clientId : (trim config.clientId).isEmpty = false
  host : (trim config.host).isEmpty = false
  port : config.port ≠ 0
  keepAlive : ¬ config.keepAlive < .fromSecs 5
  capacity : config.requestChannelCapacity ≠ 0
  credentials : config.username.isSome = config.password.isSome
  subscriptions : ∀ subscription ∈ config.subscriptions,
    Router.validateMqttTopicFilter subscription.topic = .ok ()
  reconnect : config.reconnect.validate = .ok ()

theorem validate_eq_ok_iff {config : MqttClientConfig} :
    config.validate = .ok () ↔ config.Valid := by
  have hsubscriptions : validateSubscriptions config.subscriptions = .ok () ↔
      ∀ subscription ∈ config.subscriptions,
        Router.validateMqttTopicFilter subscription.topic = .ok () := by
    rw [validateSubscriptions, forM_eq_ok_iff]
    simp only [mapError_eq_ok_iff]
  rw [validate, guard_eq_ok_iff, guard_eq_ok_iff, guard_eq_ok_iff, guard_eq_ok_iff,
    guard_eq_ok_iff, guard_eq_ok_iff, check_eq_ok_iff, hsubscriptions, Bool.not_eq_true,
    Bool.not_eq_true, not_not]
  constructor
  · rintro ⟨hclient, hhost, hport, hkeep, hcapacity, hcredentials, hsubs, hreconnect⟩
    exact ⟨hclient, hhost, hport, hkeep, hcapacity, hcredentials, hsubs, hreconnect⟩
  · intro h
    exact ⟨h.clientId, h.host, h.port, h.keepAlive, h.capacity, h.credentials, h.subscriptions,
      h.reconnect⟩

end MqttClientConfig

end Core
end PipeBolt
