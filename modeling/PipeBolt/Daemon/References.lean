import PipeBolt.Daemon.CommandProcessor
import PipeBolt.Daemon.Pipeline
import PipeBolt.Daemon.Startup

/-!
# References of a configuration

A configuration refers from routes to schema mappings, from rules to sinks and command templates,
and from command templates to brokers.  Each part of a runtime looks its references up again, in
its own data.

* `ValidRuntime.sink_found`, `ValidRuntime.template_found`, `ValidRuntime.mapping_found`: a
  validated configuration has what its enabled rules and routes refer to.
* `references_resolve`: in a runtime built from a validated configuration every lookup that a
  message leads to succeeds.
-/

namespace PipeBolt
namespace Daemon

open Domain PipeBolt.Core Pipeline Fallible Rust

/-! ## The parts of a runtime -/

/-- `enabled_routes_for_broker`. -/
def enabledRoutesForBroker (config : ProjectConfig) (brokerId : BrokerId) :
    List TopicRouteConfig :=
  config.routes.filter fun route => route.enabled && route.brokerId == brokerId

/-- The settings of `RuntimeSettings` that the parts below are built with. -/
structure RuntimeSettings where
  forwardLimits : ForwardLimits
  egressPolicy : EgressPolicy
  ruleLimits : RuleEngineLimits
  normalizerLimits : NormalizerLimits

/-- The parts of a runtime that the messages of one broker meet. -/
structure RuntimeParts (σ : Type) where
  registry : SinkRegistry
  ruleEngine : RuleEngine
  matcher : ConfigRouteMatcher
  normalizer : EventNormalizer
  schemaMappings : List PayloadSchemaMapping
  processor : CommandProcessor σ

section Start

variable {σ : Type}

/-- `build_command_processor`, where the runtime has one MQTT engine for each enabled broker;
`enqueue` is the `try_enqueue_rendered` of each of them. -/
def buildCommandProcessor (config : ProjectConfig)
    (enqueue : BrokerId → RenderedCommand → σ → Except MqttEngineError Unit × σ)
    (storage : Option (CommandStorage σ)) : CommandProcessor σ where
  projectId := config.id
  templates := config.commandTemplates
  brokers := (enabledBrokerIds config).map fun brokerId => ⟨brokerId, enqueue brokerId⟩
  renderer := .default
  storage

/-- The parts that `ProjectRuntime::start` builds, for the messages of one broker. -/
def startParts (urls : UrlCrate) (http : HttpCrate) (client : Bool) (settings : RuntimeSettings)
    (config : ProjectConfig) (brokerId : BrokerId)
    (enqueue : BrokerId → RenderedCommand → σ → Except MqttEngineError Unit × σ)
    (storage : Option (CommandStorage σ)) : Except StartError (RuntimeParts σ) := do
  let registry ← (tryChannelWithPolicy urls http settings.forwardLimits settings.egressPolicy client
    config.sinks).mapError .dispatch
  let ruleEngine ← (RuleEngine.withLimits config.rules settings.ruleLimits).mapError .mqtt
  let matcher ← (ConfigRouteMatcher.new config.id
    (enabledRoutesForBroker config brokerId)).mapError .mqtt
  return {
    registry
    ruleEngine
    matcher
    normalizer := ⟨settings.normalizerLimits⟩
    schemaMappings := config.schemaMappings
    processor := buildCommandProcessor config enqueue storage }

end Start

/-! ## What a validated configuration refers to -/

section Valid

variable {config : ProjectConfig}

/-- The sink of a forwarding action is an enabled webhook. -/
theorem ValidRuntime.sink_found (h : ValidRuntime config) {rule : RuleDefinition}
    (hrule : rule ∈ config.rules) (henabled : rule.enabled = true) {sinkId : SinkId}
    (haction : .forwardToSink sinkId ∈ rule.actions) :
    ∃ sink url method headers timeout, config.sinks.find? (·.id == sinkId) = some sink ∧
      sink.enabled = true ∧ sink.kind = .webhook url method headers timeout := by
  have hchecks := forM_eq_ok_iff.mp h.sinks rule (List.mem_filter.mpr ⟨hrule, henabled⟩)
  have hcheck := forM_eq_ok_iff.mp hchecks _ haction
  unfold validateSinkReference at hcheck
  cases hfind : config.sinks.find? (·.id == sinkId) with
  | none =>
    simp only [hfind] at hcheck
    cases hcheck
  | some sink =>
    simp only [hfind] at hcheck
    obtain ⟨hsink, hkind⟩ := guard_eq_ok_iff.mp hcheck
    cases hwebhook : sink.kind with
    | webhook url method headers timeout =>
      exact ⟨sink, url, method, headers, timeout, rfl, by simpa using hsink, hwebhook⟩
    | database connectionRef table =>
      rw [hwebhook] at hkind
      cases hkind

/-- The template of a command action is enabled, and its broker is too. -/
theorem ValidRuntime.template_found (h : ValidRuntime config) {rule : RuleDefinition}
    (hrule : rule ∈ config.rules) (henabled : rule.enabled = true)
    {templateId : CommandTemplateId} {params : ValueMap}
    (haction : .executeCommand templateId params ∈ rule.actions) :
    ∃ template, config.commandTemplates.find? (·.id == templateId) = some template ∧
      template.enabled = true ∧ template.brokerId ∈ enabledBrokerIds config := by
  have hchecks := forM_eq_ok_iff.mp h.commands rule (List.mem_filter.mpr ⟨hrule, henabled⟩)
  have hcheck := forM_eq_ok_iff.mp hchecks _ haction
  unfold validateCommandReference at hcheck
  cases hfind : config.commandTemplates.find? (·.id == templateId) with
  | none =>
    simp only [hfind] at hcheck
    cases hcheck
  | some template =>
    simp only [hfind] at hcheck
    obtain ⟨hdisabled, -⟩ := guard_eq_ok_iff.mp hcheck
    have htemplate : template.enabled = true := by simpa using hdisabled
    have hbroker := forM_eq_ok_iff.mp h.templates template
      (List.mem_filter.mpr ⟨List.mem_of_find?_eq_some hfind, htemplate⟩)
    obtain ⟨hbroker, -⟩ := guard_eq_ok_iff.mp hbroker
    exact ⟨template, rfl, htemplate, List.contains_iff_mem.mp (by simpa using hbroker)⟩

/-- The mapping that an enabled route names is found. -/
theorem ValidRuntime.mapping_found (h : ValidRuntime config) {route : TopicRouteConfig}
    (hroute : route ∈ config.routes) (henabled : route.enabled = true) :
    (findSchemaMapping config.schemaMappings route).map PayloadSchemaMapping.id =
      route.schemaMappingId := by
  obtain ⟨hchecks, -⟩ := check_eq_ok_iff.mp h.routes
  have hcheck := forM_eq_ok_iff.mp hchecks route (List.mem_filter.mpr ⟨hroute, henabled⟩)
  obtain ⟨-, hcheck⟩ := guard_eq_ok_iff.mp hcheck
  unfold findSchemaMapping
  cases hid : route.schemaMappingId with
  | none => rfl
  | some schemaMappingId =>
    rw [hid] at hcheck
    have hknown : schemaMappingId ∈ config.schemaMappings.map PayloadSchemaMapping.id := by
      by_contra hunknown
      rw [Option.filter_some, if_pos (by simpa using hunknown)] at hcheck
      cases hcheck
    obtain ⟨mapping, hmapping, hname⟩ := List.mem_map.mp hknown
    have hfound : (config.schemaMappings.find? fun mapping =>
        mapping.id == schemaMappingId).isSome = true :=
      List.find?_isSome.mpr ⟨mapping, hmapping, beq_iff_eq.mpr hname⟩
    obtain ⟨first, hfirst⟩ := Option.isSome_iff_exists.mp hfound
    have hsame := List.find?_some hfirst
    rw [Option.bind_some, hfirst, Option.map_some, eq_of_beq hsame]

end Valid

/-! ## What a message leads to -/

section Resolve

variable {σ : Type} {urls : UrlCrate} {http : HttpCrate} {client : Bool} {settings : RuntimeSettings}
  {config : ProjectConfig} {brokerId : BrokerId}
  {enqueue : BrokerId → RenderedCommand → σ → Except MqttEngineError Unit × σ}
  {storage : Option (CommandStorage σ)} {parts : RuntimeParts σ}

/-- The mapping applied to a message is the one that its route names. -/
def AppliesNamedMapping (parts : RuntimeParts σ) (config : ProjectConfig)
    (message : MqttMessage) (event : NormalizedEvent) : Prop :=
  ∃ found applied, parts.matcher.matchMessage message = some found ∧
    found.route ∈ config.routes ∧ event.routeId = found.route.id ∧
    applied.map PayloadSchemaMapping.id = found.route.schemaMappingId ∧
    (∀ mapping ∈ applied, mapping ∈ config.schemaMappings) ∧
    event.schemaMappingId = found.route.schemaMappingId ∧
    extractFields applied event.payload parts.normalizer.limits.maxExtractedFields =
      .ok event.fields

/-- The parts that were built, one by one. -/
theorem startParts_eq_ok
    (h : startParts urls http client settings config brokerId enqueue storage = .ok parts) :
    SinkRegistry.compile urls http settings.forwardLimits settings.egressPolicy config.sinks =
        .ok parts.registry ∧
      RuleEngine.withLimits config.rules settings.ruleLimits = .ok parts.ruleEngine ∧
      ConfigRouteMatcher.new config.id (enabledRoutesForBroker config brokerId) =
        .ok parts.matcher ∧
      parts.schemaMappings = config.schemaMappings ∧
      parts.processor = buildCommandProcessor config enqueue storage := by
  obtain ⟨registry, hregistry, h⟩ := bind_eq_ok_iff.mp h
  obtain ⟨ruleEngine, hengine, h⟩ := bind_eq_ok_iff.mp h
  obtain ⟨matcher, hmatcher, h⟩ := bind_eq_ok_iff.mp h
  rw [← Except.ok.inj h]
  exact ⟨tryChannelWithPolicy_eq_ok (mapError_eq_ok_iff.mp hregistry),
    mapError_eq_ok_iff.mp hengine, mapError_eq_ok_iff.mp hmatcher, rfl, rfl⟩

/-- The intents of an evaluation come from actions of enabled rules of the configuration. -/
theorem mem_intents_of_start
    (h : startParts urls http client settings config brokerId enqueue storage = .ok parts)
    {event : NormalizedEvent} {evaluation : RuleEvaluation}
    (hevaluation : parts.ruleEngine.evaluate event = .ok evaluation) {intent : ActionIntent}
    (hmem : intent ∈ evaluation.intents) :
    ∃ rule ∈ config.rules, rule.enabled = true ∧ ∃ action ∈ rule.actions,
      actionToIntent rule action event = .ok intent := by
  obtain ⟨-, hengine, -⟩ := startParts_eq_ok h
  obtain ⟨rule, hrule, action, haction, hintent⟩ := RuleEngine.mem_intents hevaluation hmem
  rw [(RuleEngine.withLimits_eq_ok_iff.mp hengine).2] at hrule
  obtain ⟨hin, henabled⟩ := List.mem_filter.mp hrule
  exact ⟨rule, hin, henabled, action, haction, hintent⟩

/-- The event of a message belongs to the project, under the mapping that its route names. -/
theorem event_of_start (hvalid : ValidRuntime config)
    (h : startParts urls http client settings config brokerId enqueue storage = .ok parts)
    {json : SerdeJson} {uuid : String} {message : MqttMessage} {event : NormalizedEvent}
    (hevent : normalizeRoutedMessage json uuid parts.matcher parts.normalizer parts.schemaMappings
      message = .ok (some event)) :
    event.projectId = config.id ∧ AppliesNamedMapping parts config message event := by
  obtain ⟨-, -, hmatcher, hmappings, -⟩ := startParts_eq_ok h
  obtain ⟨found, hfound, hnormal⟩ := normalizeRoutedMessage_eq_some hevent
  obtain ⟨hfrom, hfields⟩ := EventNormalizer.normalize_eq_ok hnormal
  obtain ⟨hproject, before, after, hsplit, -, -⟩ :=
    (ConfigRouteMatcher.matchMessage_eq_some_iff hmatcher).mp hfound
  have hmem : found.route ∈ (enabledRoutesForBroker config brokerId).filter (·.enabled) :=
    hsplit ▸ List.mem_append_right before List.mem_cons_self
  obtain ⟨hbroker, henabled⟩ := List.mem_filter.mp hmem
  have hroute : found.route ∈ config.routes := (List.mem_filter.mp hbroker).1
  have hnamed := hvalid.mapping_found hroute henabled
  rw [hmappings] at hfrom hfields
  refine ⟨hfrom.projectId.trans hproject, found, _, hfound, hroute, hfrom.routeId, hnamed, ?_,
    hfrom.schemaMappingId.trans hnamed, hfields⟩
  intro mapping hmapping
  obtain ⟨schemaMappingId, -, hlookup⟩ := Option.bind_eq_some_iff.mp hmapping
  exact List.mem_of_find?_eq_some hlookup

/-- A request for a template that is enabled with its broker passes the checks of the processor. -/
theorem passesChecks_of_template {request : CommandExecutionRequest} {template : CommandTemplate}
    (hproject : request.projectId = config.id)
    (hfind : config.commandTemplates.find? (·.id == request.commandTemplateId) = some template)
    (henabled : template.enabled = true) (hbroker : template.brokerId ∈ enabledBrokerIds config) :
    PassesChecks (buildCommandProcessor config enqueue storage) request := by
  refine ⟨hproject, template, hfind, henabled, ?_⟩
  rw [← Option.isSome_iff_exists, List.find?_isSome]
  exact ⟨_, List.mem_map_of_mem hbroker, beq_self_eq_true template.brokerId⟩

/-- **Every reference resolves.**  In a runtime that was built from a validated configuration, a
message that becomes an event does so in its project and under the mapping that its route names;
every sink that the rules forward the event to has a target; and every command that they request
passes the checks of the processor, so that it fails at most where it is rendered, recorded or
handed on. -/
theorem references_resolve (hvalid : validateRuntimeConfig config = .ok ())
    (hstart : startParts urls http client settings config brokerId enqueue storage = .ok parts)
    {json : SerdeJson} {uuid : String} {message : MqttMessage} {event : NormalizedEvent}
    (hevent : normalizeRoutedMessage json uuid parts.matcher parts.normalizer parts.schemaMappings
      message = .ok (some event)) :
    event.projectId = config.id ∧ AppliesNamedMapping parts config message event ∧
      ∀ evaluation, parts.ruleEngine.evaluate event = .ok evaluation →
        (∀ eventId sinkId projection,
          .forwardToSink eventId sinkId projection ∈ evaluation.intents →
            ∃ target, parts.registry.target sinkId = .ok target) ∧
        ∀ eventId commandTemplateId params correlationId,
          .executeCommand eventId commandTemplateId params correlationId ∈ evaluation.intents →
            ∀ requestUuid request, commandRequestFromIntent requestUuid event commandTemplateId
                params correlationId = .ok request →
              PassesChecks parts.processor request ∧
                ∀ world after error, processCommandRequest json parts.processor request world =
                    (.error error, after) →
                  (∃ source, error = .render source) ∨ (∃ source, error = .auditRecord source) ∨
                    error = .auditUnavailable ∨
                    ∃ brokerId source, error = .publishEnqueue brokerId source := by
  have hruntime := validateRuntimeConfig_eq_ok_iff.mp hvalid
  obtain ⟨hproject, hmapping⟩ := event_of_start hruntime hstart hevent
  refine ⟨hproject, hmapping, ?_⟩
  intro evaluation hevaluation
  obtain ⟨hregistry, -, -, -, hprocessor⟩ := startParts_eq_ok hstart
  constructor
  · intro eventId sinkId projection hintent
    obtain ⟨rule, hrule, henabled, action, haction, heq⟩ :=
      mem_intents_of_start hstart hevaluation hintent
    cases action with
    | forwardToSink actionSinkId =>
      have hintent := Except.ok.inj heq
      injection hintent with _ hsink _
      subst hsink
      obtain ⟨sink, url, method, headers, timeout, hfind, hsink, hkind⟩ :=
        hruntime.sink_found hrule henabled haction
      exact SinkRegistry.target_isOk hregistry hfind hsink hkind
    | streamToUi => cases heq
    | executeCommand actionTemplateId actionParams => cases heq
    | dropEvent => cases heq
    | addMetadata key value => cases heq
  · intro eventId commandTemplateId params correlationId hintent requestUuid request hrequest
    have hchecks : PassesChecks parts.processor request := by
      obtain ⟨rule, hrule, henabled, action, haction, heq⟩ :=
        mem_intents_of_start hstart hevaluation hintent
      obtain ⟨executionId, -, hrequest⟩ := bind_eq_ok_iff.mp hrequest
      rw [← Except.ok.inj hrequest, hprocessor]
      cases action with
      | executeCommand actionTemplateId actionParams =>
        have hintent := Except.ok.inj heq
        injection hintent with _ htemplate _ _
        subst htemplate
        obtain ⟨template, hfind, htemplate, hbroker⟩ :=
          hruntime.template_found hrule henabled haction
        exact passesChecks_of_template hproject hfind htemplate hbroker
      | streamToUi => cases heq
      | forwardToSink actionSinkId => cases heq
      | dropEvent => cases heq
      | addMetadata key value => cases heq
    exact ⟨hchecks, fun world after error herror => hchecks.process_error herror⟩

end Resolve

section Boiler

/-- A mapping of an optional temperature. -/
def boilerMapping : PayloadSchemaMapping where
  id := ⟨"boiler"⟩
  name := "Boiler"
  fields := [{
    source := ⟨"temperature"⟩
    target := "temperature"
    valueType := .number
    required := false
    default := none }]

/-- A template that restarts a device. -/
def restartTemplate : CommandTemplate where
  id := ⟨"restart"⟩
  name := "Restart"
  brokerId := ⟨"main"⟩
  topicTemplate := "devices/boiler/restart"
  payloadTemplate := .null
  qos := .atLeastOnce
  retain := false
  enabled := true

/-- A rule that forwards every event and restarts the device. -/
def boilerRule : RuleDefinition where
  id := ⟨"boiler"⟩
  name := "Boiler"
  enabled := true
  trigger := .eventReceived
  condition := none
  actions := [.forwardToSink ⟨"hook"⟩, .executeCommand ⟨"restart"⟩ []]

/-- A project with a reference of every kind. -/
def boilerProject : ProjectConfig :=
  let plant := plantProject "s3cret" [boilerRule] [hookSink]
  { plant with
    routes := plant.routes.map fun route => { route with schemaMappingId := some ⟨"boiler"⟩ }
    schemaMappings := [boilerMapping]
    commandTemplates := [restartTemplate] }

/-- The reading of the empty object, and the writing of null. -/
def emptyJson : SerdeJson where
  fromSlice bytes := if bytes = [123, 125] then .ok (.object []) else .error "expected value"
  toVec value := if value.eq .null then .ok [110, 117, 108, 108] else .ok [123, 125]
  numberToString _ := "0"

/-- A message with the empty object. -/
def boilerMessage : MqttMessage where
  topic := "devices/boiler/telemetry"
  qos := .atLeastOnce
  retain := false
  payload := [123, 125]
  receivedAt := 0
  topic_valid := by decide +kernel

def boilerSettings : RuntimeSettings := ⟨.default, .default, .default, .default⟩

/-- The runtime of the project, with a queue that takes every command and no storage. -/
def boilerParts : Except StartError (RuntimeParts Unit) :=
  startParts hookUrls asciiHttp true boilerSettings boilerProject ⟨"main"⟩
    (fun _ _ world => (.ok (), world)) none

/-- The message becomes an event in the runtime, on which both actions are asked for. -/
theorem boiler_runs :
    (boilerParts.toOption.bind fun parts =>
        (normalizeRoutedMessage emptyJson "0" parts.matcher parts.normalizer parts.schemaMappings
          boilerMessage).toOption.join.bind fun event =>
            (parts.ruleEngine.evaluate event).toOption.map fun evaluation =>
              evaluation.intents.map actionType) =
      some ["forward_to_sink", "execute_command"] := by
  decide +kernel

theorem references_resolve_boiler :
    ∃ parts event evaluation, boilerParts = .ok parts ∧
      normalizeRoutedMessage emptyJson "0" parts.matcher parts.normalizer parts.schemaMappings
        boilerMessage = .ok (some event) ∧
      parts.ruleEngine.evaluate event = .ok evaluation ∧
      evaluation.intents.map actionType = ["forward_to_sink", "execute_command"] ∧
      event.projectId = boilerProject.id ∧
      AppliesNamedMapping parts boilerProject boilerMessage event ∧
      (∀ eventId sinkId projection, .forwardToSink eventId sinkId projection ∈ evaluation.intents →
        ∃ target, parts.registry.target sinkId = .ok target) ∧
      ∀ eventId commandTemplateId params correlationId,
        .executeCommand eventId commandTemplateId params correlationId ∈ evaluation.intents →
          ∀ requestUuid request, commandRequestFromIntent requestUuid event commandTemplateId
              params correlationId = .ok request →
            PassesChecks parts.processor request ∧
              ∀ world after error, processCommandRequest emptyJson parts.processor request world =
                  (.error error, after) →
                (∃ source, error = .render source) ∨ (∃ source, error = .auditRecord source) ∨
                  error = .auditUnavailable ∨
                  ∃ brokerId source, error = .publishEnqueue brokerId source := by
  obtain ⟨parts, hparts, hrun⟩ := Option.bind_eq_some_iff.mp boiler_runs
  obtain ⟨event, hevent, hrules⟩ := Option.bind_eq_some_iff.mp hrun
  obtain ⟨evaluation, hevaluation, hintents⟩ := Option.map_eq_some_iff.mp hrules
  have hstart := toOption_eq_some_iff.mp hparts
  have hnormal := toOption_eq_some_iff.mp (Option.join_eq_some_iff.mp hevent)
  have hevaluates := toOption_eq_some_iff.mp hevaluation
  obtain ⟨hproject, hmapping, hresolved⟩ :=
    references_resolve (by decide +kernel) hstart hnormal
  exact ⟨parts, event, evaluation, hstart, hnormal, hevaluates, hintents, hproject, hmapping,
    hresolved evaluation hevaluates⟩

end Boiler

end Daemon
end PipeBolt
