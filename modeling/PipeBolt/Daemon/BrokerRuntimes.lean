import PipeBolt.Core.ClientConfig
import PipeBolt.Daemon.Pipeline
import PipeBolt.Daemon.PipelineRouter
import PipeBolt.Daemon.References
import PipeBolt.Rust.BTreeMap

/-!
# The broker runtimes of a configuration

`build_pending_broker_runtimes` of `pipe_bolt_daemon::runtime`: for every enabled broker a client
configuration, a route matcher and a router, each with a check of its own on what
`validate_runtime_config` has checked before.

* `clientConfig_valid`: a broker and routes that the domain accepts pass the check of the client.
* `buildPendingBrokerRuntimes_eq_ok`: a configuration that `validate_runtime_config` accepts has
  exactly one broker runtime, whose routes are the enabled routes.
-/

namespace PipeBolt
namespace Daemon

open Domain PipeBolt.Core Pipeline Rust Fallible Keyed

/-! ## The client configuration -/

/-- `map_tls_mode`. -/
def mapTlsMode : TlsMode → MqttTlsMode
  | .disabled => .disabled
  | .nativeRoots => .enabledWithNativeRoot

/-- `map_qos`. -/
def mapQos : MqttQos → QoS
  | .atMostOnce => .atMostOnce
  | .atLeastOnce => .atLeastOnce
  | .exactlyOnce => .exactlyOnce

/-- `qos_rank`. -/
def qosRank : QoS → Nat
  | .atMostOnce => 0
  | .atLeastOnce => 1
  | .exactlyOnce => 2

/-- `max_qos`. -/
def maxQos (left right : QoS) : QoS :=
  if qosRank left < qosRank right then right else left

/-- One round of the loop of `merged_subscriptions`. -/
def mergeSubscription (subscriptions : BTreeMap QoS) (route : TopicRouteConfig) : BTreeMap QoS :=
  let topic := route.topicFilter.raw
  let qos := mapQos route.qos
  match subscriptions.get topic with
  | some existing => subscriptions.insert topic (maxQos existing qos)
  | none => subscriptions.insert topic qos

/-- `merged_subscriptions`. -/
def mergedSubscriptions (routes : List TopicRouteConfig) : BTreeMap QoS :=
  routes.foldl mergeSubscription []

/-- `build_mqtt_client_config` before its check. -/
def mqttClientConfig (broker : BrokerConnectionConfig) (routes : List TopicRouteConfig) :
    MqttClientConfig :=
  let config := ((((MqttClientConfig.new broker.clientId broker.host broker.port).withKeepAlive
    broker.keepAlive).withCleanSession broker.cleanSession).withTls
    (mapTlsMode broker.tls)).withReconnect ⟨broker.reconnect.minDelay, broker.reconnect.maxDelay⟩
  let config := match broker.credentials with
    | some credentials =>
      config.withCredentials credentials.username credentials.password.exposeSecret
    | none => config
  (mergedSubscriptions routes).foldl (fun config entry => config.withSubscription entry.1 entry.2)
    config

/-- `build_mqtt_client_config`. -/
def buildMqttClientConfig (broker : BrokerConnectionConfig) (routes : List TopicRouteConfig) :
    Except MqttEngineError MqttClientConfig := do
  (mqttClientConfig broker routes).validate
  return mqttClientConfig broker routes

/-! ## What the client accepts -/

section Client

variable {broker : BrokerConnectionConfig} {routes : List TopicRouteConfig}

/-- The subscriptions are those to the filters of the routes. -/
theorem mem_mergedSubscriptions {topic : String} :
    topic ∈ (mergedSubscriptions routes).map Prod.fst ↔
      ∃ route ∈ routes, route.topicFilter.raw = topic := by
  have hround : ∀ (subscriptions : BTreeMap QoS) (route : TopicRouteConfig),
      topic ∈ (mergeSubscription subscriptions route).map Prod.fst ↔
        topic = route.topicFilter.raw ∨ topic ∈ subscriptions.map Prod.fst := by
    intro subscriptions route
    simp only [mergeSubscription]
    split
    · exact BTreeMap.mem_keys_insert
    · exact BTreeMap.mem_keys_insert
  have hloop : ∀ subscriptions : BTreeMap QoS,
      topic ∈ (routes.foldl mergeSubscription subscriptions).map Prod.fst ↔
        (∃ route ∈ routes, route.topicFilter.raw = topic) ∨
          topic ∈ subscriptions.map Prod.fst := by
    induction routes with
    | nil => simp
    | cons route routes ih =>
        intro subscriptions
        rw [List.foldl_cons, ih, hround, List.exists_mem_cons_iff, eq_comm, or_left_comm, or_assoc]
  rw [mergedSubscriptions, hloop]
  simp

/-- The subscriptions are added to those there are, and change nothing else. -/
theorem foldl_withSubscription (entries : BTreeMap QoS) (config : MqttClientConfig) :
    entries.foldl (fun config entry => config.withSubscription entry.1 entry.2) config =
      { config with
        subscriptions := config.subscriptions ++ entries.map fun entry => ⟨entry.1, entry.2⟩ } := by
  induction entries generalizing config with
  | nil => rw [List.foldl_nil, List.map_nil, List.append_nil]
  | cons entry entries ih =>
      rw [List.foldl_cons, ih, MqttClientConfig.withSubscription, List.map_cons, List.append_assoc]
      rfl

theorem subscriptions_mqttClientConfig :
    (mqttClientConfig broker routes).subscriptions.map MqttSubscription.topic =
      (mergedSubscriptions routes).map Prod.fst := by
  have htopics : ((mergedSubscriptions routes).map fun entry =>
      (⟨entry.1, entry.2⟩ : MqttSubscription)).map MqttSubscription.topic =
        (mergedSubscriptions routes).map Prod.fst := List.map_map
  rw [mqttClientConfig, foldl_withSubscription]
  cases broker.credentials with
  | none => exact htopics
  | some credentials => exact htopics

/-- A broker and routes that the domain accepts make a client configuration that passes the check
of the client. -/
theorem clientConfig_valid (hbroker : broker.validate = .ok ())
    (hroutes : ∀ route ∈ routes, route.topicFilter.validate = .ok ()) :
    (mqttClientConfig broker routes).Valid := by
  rw [BrokerConnectionConfig.validate, check_eq_ok_iff, check_eq_ok_iff, check_eq_ok_iff,
    guard_eq_ok_iff, guard_eq_ok_iff, check_eq_ok_iff] at hbroker
  obtain ⟨-, hhost, hclient, hport, hkeep, -, hreconnect⟩ := hbroker
  have hhost := validateText_eq_ok_iff.mp hhost
  have hclient := validateText_eq_ok_iff.mp hclient
  have hdelays : MqttReconnectConfig.validate
      ⟨broker.reconnect.minDelay, broker.reconnect.maxDelay⟩ = .ok () := by
    rw [ReconnectPolicy.validate, guard_eq_ok_iff, guard_eq_ok_iff] at hreconnect
    rw [MqttReconnectConfig.validate, guard_eq_ok_iff, guard_eq_ok_iff]
    exact ⟨hreconnect.1, hreconnect.2.1, rfl⟩
  have htopics : ∀ subscription ∈ (mqttClientConfig broker routes).subscriptions,
      Router.validateMqttTopicFilter subscription.topic = .ok () := by
    intro subscription hsubscription
    have htopic := List.mem_map_of_mem (f := MqttSubscription.topic) hsubscription
    rw [subscriptions_mqttClientConfig, mem_mergedSubscriptions] at htopic
    obtain ⟨route, hroute, heq⟩ := htopic
    exact heq ▸ Router.validateMqttTopicFilter_of_validate (hroutes route hroute)
  rw [mqttClientConfig, foldl_withSubscription] at htopics ⊢
  generalize broker.credentials = credentials at htopics ⊢
  cases credentials with
  | none =>
      exact ⟨hclient.nonblank, hhost.nonblank, hport, hkeep, Nat.succ_ne_zero 63, rfl, htopics,
        hdelays⟩
  | some credentials =>
      exact ⟨hclient.nonblank, hhost.nonblank, hport, hkeep, Nat.succ_ne_zero 63, rfl, htopics,
        hdelays⟩

end Client

/-! ## The runtimes -/

/-- `PendingBrokerRuntime`, where a handler of the router is what its closure has captured. -/
structure PendingBrokerRuntime (σ : Type) where
  brokerId : BrokerId
  config : MqttClientConfig
  router : Router.MqttRouter (PipelineParts σ)

/-- The errors of the construction: those of the daemon and those of the core. -/
inductive PendingRuntimeError where
  | runtime (error : RuntimeError)
  | mqtt (error : MqttEngineError)
  deriving DecidableEq, Repr

section Build

variable {σ : Type}

/-- What every broker runtime is given: the limits, the mappings, the rules and the dispatcher. -/
structure BrokerRuntimeParts (σ : Type) where
  normalizerLimits : NormalizerLimits
  schemaMappings : List PayloadSchemaMapping
  ruleEngine : RuleEngine
  boundary : Boundary σ
  dispatchLimits : DispatchLimits

/-- What the handlers of a router capture. -/
def pipelineParts (parts : BrokerRuntimeParts σ) (matcher : ConfigRouteMatcher) :
    PipelineParts σ where
  matcher := matcher
  normalizer := ⟨parts.normalizerLimits⟩
  schemaMappings := parts.schemaMappings
  ruleEngine := parts.ruleEngine
  boundary := parts.boundary
  dispatchLimits := parts.dispatchLimits

/-- One round of the loop of `build_pending_broker_runtimes`. -/
def buildPendingBrokerRuntime (config : ProjectConfig) (parts : BrokerRuntimeParts σ)
    (broker : BrokerConnectionConfig) : Except PendingRuntimeError (PendingBrokerRuntime σ) :=
  let routes := enabledRoutesForBroker config broker.id
  if routes.isEmpty then .error (.runtime (.noEnabledRoutesForBroker broker.id.raw))
  else do
    let mqttConfig ← (buildMqttClientConfig broker routes).mapError .mqtt
    let matcher ← (ConfigRouteMatcher.new config.id routes).mapError .mqtt
    let router ← (buildPipelineRouter routes (pipelineParts parts matcher)).mapError .mqtt
    return { brokerId := broker.id, config := mqttConfig, router := router }

/-- `build_pending_broker_runtimes`. -/
def buildPendingBrokerRuntimes (config : ProjectConfig) (parts : BrokerRuntimeParts σ) :
    Except PendingRuntimeError (List (PendingBrokerRuntime σ)) :=
  (config.brokers.filter (·.enabled)).mapM (buildPendingBrokerRuntime config parts)

end Build

/-! ## What the check of the configuration promises -/

section Promises

variable {config : ProjectConfig}

/-- Every broker and every route passes the validation of the domain. -/
theorem ValidRuntime.parts_valid (h : ValidRuntime config) :
    (∀ broker ∈ config.brokers, broker.validate = .ok ()) ∧
      ∀ route ∈ config.routes, route.validate = .ok () := by
  have hdomain := h.domain
  rw [ProjectConfig.validate, check_eq_ok_iff, check_eq_ok_iff, check_eq_ok_iff,
    check_eq_ok_iff] at hdomain
  obtain ⟨-, -, hbrokers, hroutes, -⟩ := hdomain
  exact ⟨forM_eq_ok_iff.mp hbrokers, forM_eq_ok_iff.mp hroutes⟩

/-- And so does every schema mapping. -/
theorem ValidRuntime.mappings_valid (h : ValidRuntime config) :
    ∀ mapping ∈ config.schemaMappings, mapping.validate = .ok () := by
  have hdomain := h.domain
  rw [ProjectConfig.validate, check_eq_ok_iff, check_eq_ok_iff, check_eq_ok_iff,
    check_eq_ok_iff, check_eq_ok_iff] at hdomain
  obtain ⟨-, -, -, -, hmappings, -⟩ := hdomain
  exact forM_eq_ok_iff.mp hmappings

/-- The identifiers of routes are distinct. -/
theorem ValidRuntime.routeIds_nodup (h : ValidRuntime config) :
    (config.routes.map TopicRouteConfig.id).Nodup := by
  have hunique := h.unique
  rw [validateUniqueIds, check_eq_ok_iff, check_eq_ok_iff, insertUniqueIds_eq_ok_iff,
    insertUniqueIds_eq_ok_iff] at hunique
  exact hunique.2.1.2.1

/-- One broker is enabled. -/
theorem ValidRuntime.exists_broker (h : ValidRuntime config) :
    ∃ broker, config.brokers.filter (·.enabled) = [broker] := by
  have hbroker := h.broker
  unfold validateSingleEnabledBroker at hbroker
  split at hbroker
  · exact nomatch hbroker
  · next hone => exact List.length_eq_one_iff.mp hone
  · exact nomatch hbroker

/-- A route is enabled, and all enabled routes are those of the enabled broker. -/
theorem ValidRuntime.enabledRoutes (h : ValidRuntime config) {broker : BrokerConnectionConfig}
    (hbroker : config.brokers.filter (·.enabled) = [broker]) :
    config.routes.filter (·.enabled) ≠ [] ∧
      enabledRoutesForBroker config broker.id = config.routes.filter (·.enabled) := by
  have hroutes := h.routes
  rw [validateRoutes, check_eq_ok_iff, guard_eq_ok_iff] at hroutes
  obtain ⟨hchecked, hsome, -⟩ := hroutes
  refine ⟨fun hnone => hsome (List.length_eq_zero_iff.mpr hnone), ?_⟩
  refine List.filter_congr fun route hroute => ?_
  cases henabled : route.enabled with
  | false => rfl
  | true =>
      have hmem : route ∈ config.routes.filter (·.enabled) :=
        List.mem_filter.mpr ⟨hroute, henabled⟩
      have hcheck := forM_eq_ok_iff.mp hchecked route hmem
      rw [validateRoute, guard_eq_ok_iff, Bool.not_eq_true', Bool.not_eq_false,
        enabledBrokerIds, hbroker, List.contains_iff_mem] at hcheck
      have hid : route.brokerId = broker.id := List.mem_singleton.mp hcheck.1
      rw [Bool.true_and]
      exact beq_iff_eq.mpr hid

end Promises

/-! ## The runtimes of an accepted configuration -/

section Runtimes

variable {σ : Type}

/-- A broker runtime receives the messages of a list of routes: it subscribes to their filters, has
a handler for each, and every handler looks the route up in these routes, in their order. -/
structure HasRoutes (runtime : PendingBrokerRuntime σ) (parts : BrokerRuntimeParts σ)
    (projectId : ProjectId) (routes : List TopicRouteConfig) : Prop where
  subscribes : ∀ topic, topic ∈ runtime.config.subscriptions.map MqttSubscription.topic ↔
    ∃ route ∈ routes, route.topicFilter.raw = topic
  filters : runtime.router.routes.map (fun route => route.filter.raw) =
    firsts [] (routes.map fun route => route.topicFilter.raw)
  handlers : ∀ route ∈ runtime.router.routes, ∃ matcher : ConfigRouteMatcher,
    route.handler = pipelineParts parts matcher ∧ matcher.projectId = projectId ∧
      matcher.routes.map CompiledConfigRoute.config = routes

/-- A broker and enabled routes of it, all of them valid, make a runtime with these routes. -/
theorem buildPendingBrokerRuntime_eq_ok {config : ProjectConfig} {broker : BrokerConnectionConfig}
    {routes : List TopicRouteConfig} (parts : BrokerRuntimeParts σ)
    (hroutes : enabledRoutesForBroker config broker.id = routes) (hsome : routes ≠ [])
    (hbroker : broker.validate = .ok ()) (hvalid : ∀ route ∈ routes, route.validate = .ok ())
    (henabled : ∀ route ∈ routes, route.enabled = true)
    (hids : (routes.map TopicRouteConfig.id).Nodup) :
    ∃ runtime, buildPendingBrokerRuntime config parts broker = .ok runtime ∧
      runtime.brokerId = broker.id ∧ HasRoutes runtime parts config.id routes := by
  have hfilters : ∀ route ∈ routes, route.topicFilter.validate = .ok () := by
    intro route hroute
    obtain ⟨-, hrest⟩ := check_eq_ok_iff.mp (hvalid route hroute)
    exact (check_eq_ok_iff.mp hrest).2
  have hclient : buildMqttClientConfig broker routes = .ok (mqttClientConfig broker routes) :=
    check_eq_ok_iff.mpr
      ⟨MqttClientConfig.validate_eq_ok_iff.mpr (clientConfig_valid hbroker hfilters), rfl⟩
  have hkeep : routes.filter (·.enabled) = routes := List.filter_eq_self.mpr henabled
  obtain ⟨matcher, hmatcher⟩ : ∃ matcher, ConfigRouteMatcher.new config.id routes = .ok matcher :=
    ⟨_, ConfigRouteMatcher.new_eq_ok_iff.mpr ⟨hids, fun route hroute _ => hvalid route hroute, rfl⟩⟩
  obtain ⟨-, -, hcompiled⟩ := ConfigRouteMatcher.new_eq_ok_iff.mp hmatcher
  rw [hkeep] at hcompiled
  obtain ⟨router, hrouter, hfilterRoutes⟩ : ∃ router,
      buildPipelineRouter routes (pipelineParts parts matcher) = .ok router ∧
        router.routes = (firsts [] (routes.map fun route => route.topicFilter.raw)).map
          (filterRoute (pipelineParts parts matcher)) :=
    ⟨_, buildPipelineRouter_eq_ok hfilters, rfl⟩
  have hbuild : buildPendingBrokerRuntime config parts broker =
      .ok ⟨broker.id, mqttClientConfig broker routes, router⟩ := by
    rw [buildPendingBrokerRuntime, hroutes, guard_eq_ok_iff, List.isEmpty_iff]
    refine ⟨hsome, bind_eq_ok_iff.mpr ⟨_, mapError_eq_ok_iff.mpr hclient, ?_⟩⟩
    refine bind_eq_ok_iff.mpr ⟨matcher, mapError_eq_ok_iff.mpr hmatcher, ?_⟩
    exact bind_eq_ok_iff.mpr ⟨router, mapError_eq_ok_iff.mpr hrouter, rfl⟩
  refine ⟨_, hbuild, rfl, ?_, ?_, ?_⟩
  · intro topic
    rw [subscriptions_mqttClientConfig]
    exact mem_mergedSubscriptions
  · rw [hfilterRoutes, List.map_map]
    exact List.map_id _
  · intro route hroute
    rw [hfilterRoutes] at hroute
    obtain ⟨filter, -, rfl⟩ := List.mem_map.mp hroute
    refine ⟨matcher, rfl, ?_, ?_⟩
    · rw [hcompiled]
    · rw [hcompiled, List.map_map]
      exact List.map_id _

/-- **A configuration that `validate_runtime_config` accepts** has exactly one broker runtime, of
its enabled broker and with its enabled routes in their order; none of the three checks on the way
fails. -/
theorem buildPendingBrokerRuntimes_eq_ok {config : ProjectConfig}
    (h : validateRuntimeConfig config = .ok ()) (parts : BrokerRuntimeParts σ) :
    ∃ runtime, buildPendingBrokerRuntimes config parts = .ok [runtime] ∧
      (config.brokers.filter (·.enabled)).map BrokerConnectionConfig.id = [runtime.brokerId] ∧
      HasRoutes runtime parts config.id (config.routes.filter (·.enabled)) := by
  have hruntime := validateRuntimeConfig_eq_ok_iff.mp h
  obtain ⟨broker, hbroker⟩ := hruntime.exists_broker
  obtain ⟨hsome, hroutes⟩ := hruntime.enabledRoutes hbroker
  obtain ⟨hbrokers, hvalid⟩ := hruntime.parts_valid
  have hmem : broker ∈ config.brokers.filter (·.enabled) := hbroker ▸ List.mem_singleton_self _
  have hids : ((config.routes.filter (·.enabled)).map TopicRouteConfig.id).Nodup :=
    (List.filter_sublist.map _).nodup hruntime.routeIds_nodup
  obtain ⟨runtime, hbuild, hid, hhas⟩ := buildPendingBrokerRuntime_eq_ok parts hroutes hsome
    (hbrokers broker (List.mem_filter.mp hmem).1)
    (fun route hroute => hvalid route (List.mem_filter.mp hroute).1)
    (fun route hroute => (List.mem_filter.mp hroute).2) hids
  refine ⟨runtime, ?_, ?_, hhas⟩
  · rw [buildPendingBrokerRuntimes, hbroker]
    exact mapM_cons_eq_ok_iff.mpr ⟨runtime, [], hbuild, rfl, rfl⟩
  · rw [hbroker, List.map_singleton, hid]

/-- The parts of a runtime without rules. -/
def plantParts : BrokerRuntimeParts Unit where
  normalizerLimits := .default
  schemaMappings := []
  ruleEngine := ⟨[]⟩
  boundary := openBoundary
  dispatchLimits := .default

theorem buildPendingBrokerRuntimes_plant :
    ∃ runtime, buildPendingBrokerRuntimes (plantProject "s3cret" [] []) plantParts =
        .ok [runtime] ∧
      ((plantProject "s3cret" [] []).brokers.filter (·.enabled)).map BrokerConnectionConfig.id =
        [runtime.brokerId] ∧
      HasRoutes runtime plantParts (plantProject "s3cret" [] []).id
        ((plantProject "s3cret" [] []).routes.filter (·.enabled)) :=
  buildPendingBrokerRuntimes_eq_ok (by decide +kernel) plantParts

end Runtimes

end Daemon
end PipeBolt
