import PipeBolt.Domain.Config

/-!
# Runtime configurations

`validate_runtime_config` of `pipe_bolt_daemon::runtime`: the check run before a candidate
configuration is stored and before a reload stops the old runtime.

* `validateRuntimeConfig_eq_ok_iff`: what the check accepts, part by part.
* `ValidRuntime.sinkIds_nodup`: the identifiers of each collection are distinct.
-/

namespace PipeBolt
namespace Daemon

open Domain Fallible

/-- The part of `RuntimeError` that configuration checks return. -/
inductive RuntimeError where
  | projectDisabled
  | duplicateId (collection id : String)
  | noEnabledBroker
  | multipleEnabledBrokersUnsupported (count : Nat)
  | noEnabledRoutesForBroker (brokerId : String)
  | routeReferencesUnavailableBroker (routeId brokerId : String)
  | routeReferencesUnknownSchemaMapping (routeId schemaMappingId : String)
  | unsupportedBackpressurePolicy (routeId policy : String)
  | commandTemplateReferencesUnavailableBroker (templateId brokerId : String)
  | ruleReferencesUnknownSink (ruleId sinkId : String)
  | ruleReferencesDisabledSink (ruleId sinkId : String)
  | ruleReferencesUnsupportedSink (ruleId sinkId : String)
  | ruleReferencesUnknownCommandTemplate (ruleId templateId : String)
  | ruleReferencesDisabledCommandTemplate (ruleId templateId : String)
  | domain (error : DomainError)
  deriving DecidableEq, Repr

/-- The text of a `RuntimeError`. -/
def RuntimeError.display : RuntimeError → String
  | .projectDisabled => "project is disabled"
  | .duplicateId collection id => s!"duplicate {collection} id '{id}'"
  | .noEnabledBroker => "no enabled broker configured"
  | .multipleEnabledBrokersUnsupported count =>
    s!"multiple enabled brokers are not supported by this runtime slice: {count} enabled brokers"
  | .noEnabledRoutesForBroker brokerId => s!"broker '{brokerId}' has no enabled route"
  | .routeReferencesUnavailableBroker routeId brokerId =>
    s!"enabled route '{routeId}' references an unknown or disabled broker '{brokerId}'"
  | .routeReferencesUnknownSchemaMapping routeId schemaMappingId =>
    s!"enabled route '{routeId}' references unknown schema mapping '{schemaMappingId}'"
  | .unsupportedBackpressurePolicy routeId policy =>
    s!"route '{routeId}' uses unsupported backpressure policy '{policy}'"
  | .commandTemplateReferencesUnavailableBroker templateId brokerId =>
    s!"enabled command template '{templateId}' references an unknown or disabled broker '{brokerId}'"
  | .ruleReferencesUnknownSink ruleId sinkId =>
    s!"enabled rule '{ruleId}' references unknown sink '{sinkId}'"
  | .ruleReferencesDisabledSink ruleId sinkId =>
    s!"enabled rule '{ruleId}' references disabled sink '{sinkId}'"
  | .ruleReferencesUnsupportedSink ruleId sinkId =>
    s!"enabled rule '{ruleId}' references unsupported sink '{sinkId}'"
  | .ruleReferencesUnknownCommandTemplate ruleId templateId =>
    s!"enabled rule '{ruleId}' references unknown command template '{templateId}'"
  | .ruleReferencesDisabledCommandTemplate ruleId templateId =>
    s!"enabled rule '{ruleId}' references disabled command template '{templateId}'"
  | .domain error => s!"domain config error: {error.display}"

/-! ## Unique identifiers -/

/-- The loop of `validate_unique_ids` over one collection, with the identifiers seen so far:
`insert_unique_id` at every element, after a check of the element. -/
def insertUniqueIds {α : Type} {field : String} (collection : String)
    (check : α → Except RuntimeError Unit) (id : α → Identifier field) :
    List (Identifier field) → List α → Except RuntimeError Unit
  | _, [] => .ok ()
  | seen, x :: xs => do
    check x
    if seen.contains (id x) then .error (.duplicateId collection (id x).raw)
    else insertUniqueIds collection check id (id x :: seen) xs

/-- `validate_unique_ids`. -/
def validateUniqueIds (config : ProjectConfig) : Except RuntimeError Unit := do
  insertUniqueIds "broker" (fun _ => .ok ()) BrokerConnectionConfig.id [] config.brokers
  insertUniqueIds "route" (fun _ => .ok ()) TopicRouteConfig.id [] config.routes
  insertUniqueIds "schema_mapping" (fun _ => .ok ()) PayloadSchemaMapping.id []
    config.schemaMappings
  insertUniqueIds "rule" (fun rule => rule.validate.mapError .domain) RuleDefinition.id []
    config.rules
  insertUniqueIds "command_template" (fun _ => .ok ()) CommandTemplate.id []
    config.commandTemplates
  insertUniqueIds "sink" (fun _ => .ok ()) SinkDefinition.id [] config.sinks

/-- The loop over one collection succeeds when every element passes its check and the identifiers
are new and distinct. -/
theorem insertUniqueIds_eq_ok_iff {α : Type} {field collection : String}
    {check : α → Except RuntimeError Unit} {id : α → Identifier field}
    {seen : List (Identifier field)} {xs : List α} :
    insertUniqueIds collection check id seen xs = .ok () ↔
      (∀ x ∈ xs, check x = .ok ()) ∧ (xs.map id).Nodup ∧ ∀ x ∈ xs, id x ∉ seen := by
  induction xs generalizing seen with
  | nil => simp [insertUniqueIds]
  | cons x xs ih =>
    rw [insertUniqueIds, check_eq_ok_iff, guard_eq_ok_iff, ih, List.contains_iff_mem,
      List.forall_mem_cons, List.forall_mem_cons, List.map_cons, List.nodup_cons]
    simp only [List.mem_map, List.mem_cons, not_or]
    constructor
    · rintro ⟨hx, hseen, hxs, hnodup, hnew⟩
      refine ⟨⟨hx, hxs⟩, ⟨?_, hnodup⟩, hseen, fun y hy => (hnew y hy).2⟩
      rintro ⟨y, hy, hid⟩
      exact (hnew y hy).1 hid
    · rintro ⟨⟨hx, hxs⟩, ⟨hfresh, hnodup⟩, hseen, hnew⟩
      exact ⟨hx, hseen, hxs, hnodup, fun y hy => ⟨fun h => hfresh ⟨y, hy, h⟩, hnew y hy⟩⟩

/-! ## References between the parts -/

/-- `validate_single_enabled_broker`. -/
def validateSingleEnabledBroker (config : ProjectConfig) : Except RuntimeError Unit :=
  match (config.brokers.filter (·.enabled)).length with
  | 0 => .error .noEnabledBroker
  | 1 => .ok ()
  | count + 2 => .error (.multipleEnabledBrokersUnsupported (count + 2))

/-- `backpressure_policy_name`. -/
def backpressurePolicyName : BackpressurePolicy → String
  | .dropNewest => "drop_newest"
  | .dropOldest => "drop_oldest"
  | .reject => "reject"
  | .blockProducer => "block_producer"

/-- The identifiers of the enabled brokers. -/
def enabledBrokerIds (config : ProjectConfig) : List BrokerId :=
  (config.brokers.filter (·.enabled)).map BrokerConnectionConfig.id

/-- One round of the loop of `validate_routes`. -/
def validateRoute (config : ProjectConfig) (route : TopicRouteConfig) :
    Except RuntimeError Unit :=
  if !(enabledBrokerIds config).contains route.brokerId then
    .error (.routeReferencesUnavailableBroker route.id.raw route.brokerId.raw)
  else
    match route.schemaMappingId.filter fun schemaMappingId =>
        !(config.schemaMappings.map PayloadSchemaMapping.id).contains schemaMappingId with
    | some schemaMappingId =>
      .error (.routeReferencesUnknownSchemaMapping route.id.raw schemaMappingId.raw)
    | none =>
      if route.backpressure ≠ .reject then
        .error (.unsupportedBackpressurePolicy route.id.raw
          (backpressurePolicyName route.backpressure))
      else .ok ()

/-- `validate_routes`. -/
def validateRoutes (config : ProjectConfig) : Except RuntimeError Unit := do
  let enabled := config.routes.filter (·.enabled)
  enabled.forM (validateRoute config)
  if enabled.length = 0 then
    let brokerId := (config.brokers.find? (·.enabled)).elim "<none>" fun broker => broker.id.raw
    .error (.noEnabledRoutesForBroker brokerId)
  else .ok ()

/-- `validate_command_templates`. -/
def validateCommandTemplates (config : ProjectConfig) : Except RuntimeError Unit :=
  (config.commandTemplates.filter (·.enabled)).forM fun template =>
    if !(enabledBrokerIds config).contains template.brokerId then
      .error (.commandTemplateReferencesUnavailableBroker template.id.raw template.brokerId.raw)
    else .ok ()

/-- The check of `validate_rule_sink_references` on one action of an enabled rule. -/
def validateSinkReference (config : ProjectConfig) (rule : RuleDefinition) :
    ActionIntentTemplate → Except RuntimeError Unit
  | .forwardToSink sinkId =>
    match config.sinks.find? (·.id == sinkId) with
    | none => .error (.ruleReferencesUnknownSink rule.id.raw sinkId.raw)
    | some sink =>
      if !sink.enabled then .error (.ruleReferencesDisabledSink rule.id.raw sinkId.raw)
      else
        match sink.kind with
        | .webhook _ _ _ _ => .ok ()
        | .database _ _ => .error (.ruleReferencesUnsupportedSink rule.id.raw sinkId.raw)
  | .streamToUi | .executeCommand _ _ | .dropEvent | .addMetadata _ _ => .ok ()

/-- `validate_rule_sink_references`. -/
def validateRuleSinkReferences (config : ProjectConfig) : Except RuntimeError Unit :=
  (config.rules.filter (·.enabled)).forM fun rule =>
    rule.actions.forM (validateSinkReference config rule)

/-- The check of `validate_rule_command_references` on one action of an enabled rule. -/
def validateCommandReference (config : ProjectConfig) (rule : RuleDefinition) :
    ActionIntentTemplate → Except RuntimeError Unit
  | .executeCommand templateId _ =>
    match config.commandTemplates.find? (·.id == templateId) with
    | none => .error (.ruleReferencesUnknownCommandTemplate rule.id.raw templateId.raw)
    | some template =>
      if !template.enabled then
        .error (.ruleReferencesDisabledCommandTemplate rule.id.raw templateId.raw)
      else .ok ()
  | .streamToUi | .forwardToSink _ | .dropEvent | .addMetadata _ _ => .ok ()

/-- `validate_rule_command_references`. -/
def validateRuleCommandReferences (config : ProjectConfig) : Except RuntimeError Unit :=
  (config.rules.filter (·.enabled)).forM fun rule =>
    rule.actions.forM (validateCommandReference config rule)

/-- `validate_runtime_config`. -/
def validateRuntimeConfig (config : ProjectConfig) : Except RuntimeError Unit := do
  config.validate.mapError RuntimeError.domain
  if !config.enabled then .error .projectDisabled
  else
    validateUniqueIds config
    validateSingleEnabledBroker config
    validateRoutes config
    validateCommandTemplates config
    validateRuleSinkReferences config
    validateRuleCommandReferences config

/-! ## What the check accepts -/

/-- The parts of `validate_runtime_config`. -/
structure ValidRuntime (config : ProjectConfig) : Prop where
  domain : config.validate = .ok ()
  enabled : config.enabled = true
  unique : validateUniqueIds config = .ok ()
  broker : validateSingleEnabledBroker config = .ok ()
  routes : validateRoutes config = .ok ()
  templates : validateCommandTemplates config = .ok ()
  sinks : validateRuleSinkReferences config = .ok ()
  commands : validateRuleCommandReferences config = .ok ()

theorem validateRuntimeConfig_eq_ok_iff {config : ProjectConfig} :
    validateRuntimeConfig config = .ok () ↔ ValidRuntime config := by
  rw [validateRuntimeConfig, check_eq_ok_iff, mapError_eq_ok_iff, guard_eq_ok_iff,
    check_eq_ok_iff, check_eq_ok_iff, check_eq_ok_iff, check_eq_ok_iff, check_eq_ok_iff,
    Bool.not_eq_true', Bool.not_eq_false]
  constructor
  · rintro ⟨hdomain, henabled, hunique, hbroker, hroutes, htemplates, hsinks, hcommands⟩
    exact ⟨hdomain, henabled, hunique, hbroker, hroutes, htemplates, hsinks, hcommands⟩
  · intro h
    exact ⟨h.domain, h.enabled, h.unique, h.broker, h.routes, h.templates, h.sinks, h.commands⟩

/-- The identifiers of brokers and of sinks are distinct. -/
theorem ValidRuntime.ids_nodup {config : ProjectConfig} (h : ValidRuntime config) :
    (config.brokers.map BrokerConnectionConfig.id).Nodup ∧
      (config.sinks.map SinkDefinition.id).Nodup := by
  have hunique := h.unique
  rw [validateUniqueIds, check_eq_ok_iff, check_eq_ok_iff, check_eq_ok_iff, check_eq_ok_iff,
    check_eq_ok_iff, insertUniqueIds_eq_ok_iff, insertUniqueIds_eq_ok_iff] at hunique
  obtain ⟨⟨-, hbrokers, -⟩, -, -, -, -, hsinks⟩ := hunique
  exact ⟨hbrokers, (insertUniqueIds_eq_ok_iff.mp hsinks).2.1⟩

/-- Every rule passes the validation of the domain. -/
theorem ValidRuntime.rules_valid {config : ProjectConfig} (h : ValidRuntime config) :
    ∀ rule ∈ config.rules, rule.validate = .ok () := by
  have hdomain := h.domain
  rw [ProjectConfig.validate, check_eq_ok_iff, check_eq_ok_iff, check_eq_ok_iff, check_eq_ok_iff,
    check_eq_ok_iff, check_eq_ok_iff] at hdomain
  exact forM_eq_ok_iff.mp hdomain.2.2.2.2.2.1

end Daemon
end PipeBolt
