import PipeBolt.Domain.Config

/-!
# Configurations built through the constructors

The identifier types and `FieldPath` are built by `new`, which `FromStr` and `TryFrom<String>` call,
or by their derived `Deserialize`, which takes any string.

* `definedIds`, `references`, `fieldPaths`: where such a value stands in a configuration.
* `ProjectConfig.throughNew`: a configuration whose values are built by `new` from the same strings.
* `throughNew_eq_ok_iff`: it is the configuration, and is there where every check passes.
-/

namespace PipeBolt
namespace Domain

open Fallible

/-! ## Where identifiers and paths stand -/

/-- The text of an identifier, with the field name that its check reports. -/
def namedId {field : String} (id : Identifier field) : String × String := (field, id.raw)

/-- The identifiers that a configuration gives to its parts. -/
def definedIds (config : ProjectConfig) : List (String × String) :=
  config.brokers.map (fun broker => namedId broker.id) ++
    (config.routes.map (fun route => namedId route.id) ++
      (config.schemaMappings.map (fun mapping => namedId mapping.id) ++
        (config.rules.map (fun rule => namedId rule.id) ++
          (config.commandTemplates.map (fun template => namedId template.id) ++
            config.sinks.map fun sink => namedId sink.id))))

/-- The identifiers that a route refers to. -/
def routeReferences (route : TopicRouteConfig) : List (String × String) :=
  namedId route.brokerId :: (route.schemaMappingId.map namedId).toList

/-- The identifiers that a trigger refers to. -/
def triggerReferences : RuleTrigger → List (String × String)
  | .eventReceived => []
  | .routeMatched routeId => [namedId routeId]
  | .commandRequested templateId => [namedId templateId]

/-- The identifiers that an action refers to. -/
def actionReferences : ActionIntentTemplate → List (String × String)
  | .forwardToSink sinkId => [namedId sinkId]
  | .executeCommand commandTemplateId _ => [namedId commandTemplateId]
  | .streamToUi | .dropEvent | .addMetadata _ _ => []

/-- The identifiers that a configuration refers to. -/
def references (config : ProjectConfig) : List (String × String) :=
  config.routes.flatMap routeReferences ++
    (config.rules.flatMap (fun rule => triggerReferences rule.trigger) ++
      (config.rules.flatMap (fun rule => rule.actions.flatMap actionReferences) ++
        config.commandTemplates.map fun template => namedId template.brokerId))

/-- The paths of a field reference. -/
def fieldRefPaths : FieldRef → List FieldPath
  | .event path | .payload path => [path]
  | .extracted _ | .deviceId | .eventType | .topic => []

/-- The paths of a value. -/
def valueExprPaths : ValueExpr → List FieldPath
  | .field field => fieldRefPaths field
  | .literal _ => []

mutual

/-- The paths of a condition, at every depth. -/
def conditionPaths : ConditionExpr → List FieldPath
  | .exists field => fieldRefPaths field
  | .equals left right | .notEquals left right | .greaterThan left right
  | .greaterThanOrEqual left right | .lessThan left right | .lessThanOrEqual left right
  | .contains left right => valueExprPaths left ++ valueExprPaths right
  | .and conditions | .or conditions => conditionsPaths conditions
  | .not condition => conditionPaths condition

/-- The paths of the members of a group. -/
def conditionsPaths : List ConditionExpr → List FieldPath
  | [] => []
  | condition :: conditions => conditionPaths condition ++ conditionsPaths conditions

end

/-- The path of a device-id extraction. -/
def deviceIdPaths : DeviceIdExtraction → List FieldPath
  | .payloadField path => [path]
  | .none | .static _ | .topicWildcardIndex _ => []

/-- The field paths of a configuration. -/
def fieldPaths (config : ProjectConfig) : List FieldPath :=
  config.schemaMappings.flatMap (fun mapping => mapping.fields.map FieldMapping.source) ++
    (config.routes.flatMap (fun route => deviceIdPaths route.deviceId) ++
      config.rules.flatMap fun rule => rule.condition.toList.flatMap conditionPaths)

/-- An identifier that `validate_identifier` accepts. -/
def ValidId (id : String × String) : Prop := validateIdentifier id.1 id.2 = .ok ()

/-- A path that `validate_field_path` accepts. -/
def ValidPath (path : FieldPath) : Prop := validateFieldPath path.raw = .ok ()

instance (id : String × String) : Decidable (ValidId id) :=
  inferInstanceAs (Decidable (validateIdentifier id.1 id.2 = .ok ()))

instance (path : FieldPath) : Decidable (ValidPath path) :=
  inferInstanceAs (Decidable (validateFieldPath path.raw = .ok ()))

/-- All identifiers and all paths of a configuration are valid. -/
structure IdentifiersValid (config : ProjectConfig) : Prop where
  ids : ∀ id ∈ definedIds config ++ references config, ValidId id
  paths : ∀ path ∈ fieldPaths config, ValidPath path

/-! ## Values built by `new` -/

/-- An identifier built by `new` from the same string. -/
def Identifier.throughNew {field : String} (id : Identifier field) :
    Except DomainError (Identifier field) := Identifier.new id.raw

/-- `FieldPath::new`. -/
def FieldPath.new (path : String) : Except DomainError FieldPath := do
  validateFieldPath path
  return ⟨path⟩

/-- A path built by `new` from the same string. -/
def FieldPath.throughNew (path : FieldPath) : Except DomainError FieldPath := FieldPath.new path.raw

def FieldRef.throughNew : FieldRef → Except DomainError FieldRef
  | .event path => return .event (← path.throughNew)
  | .payload path => return .payload (← path.throughNew)
  | .extracted name => return .extracted name
  | .deviceId => return .deviceId
  | .eventType => return .eventType
  | .topic => return .topic

def ValueExpr.throughNew : ValueExpr → Except DomainError ValueExpr
  | .field reference => return .field (← reference.throughNew)
  | .literal value => return .literal value

/-- The operands of a comparison. -/
def comparisonThroughNew (comparison : ValueExpr → ValueExpr → ConditionExpr)
    (left right : ValueExpr) : Except DomainError ConditionExpr := do
  let left ← left.throughNew
  let right ← right.throughNew
  return comparison left right

mutual

def ConditionExpr.throughNew : ConditionExpr → Except DomainError ConditionExpr
  | .exists field => return .exists (← field.throughNew)
  | .equals left right => comparisonThroughNew .equals left right
  | .notEquals left right => comparisonThroughNew .notEquals left right
  | .greaterThan left right => comparisonThroughNew .greaterThan left right
  | .greaterThanOrEqual left right => comparisonThroughNew .greaterThanOrEqual left right
  | .lessThan left right => comparisonThroughNew .lessThan left right
  | .lessThanOrEqual left right => comparisonThroughNew .lessThanOrEqual left right
  | .contains left right => comparisonThroughNew .contains left right
  | .and conditions => return .and (← conditionsThroughNew conditions)
  | .or conditions => return .or (← conditionsThroughNew conditions)
  | .not condition => return .not (← condition.throughNew)

/-- The members of a group. -/
def conditionsThroughNew : List ConditionExpr → Except DomainError (List ConditionExpr)
  | [] => return []
  | condition :: conditions => do
    let condition ← condition.throughNew
    let conditions ← conditionsThroughNew conditions
    return condition :: conditions

end

def DeviceIdExtraction.throughNew : DeviceIdExtraction → Except DomainError DeviceIdExtraction
  | .none => return .none
  | .static value => return .static value
  | .topicWildcardIndex index => return .topicWildcardIndex index
  | .payloadField path => return .payloadField (← path.throughNew)

def BrokerConnectionConfig.throughNew (broker : BrokerConnectionConfig) :
    Except DomainError BrokerConnectionConfig := do
  let id ← broker.id.throughNew
  return { broker with id }

def TopicRouteConfig.throughNew (route : TopicRouteConfig) :
    Except DomainError TopicRouteConfig := do
  let id ← route.id.throughNew
  let brokerId ← route.brokerId.throughNew
  let schemaMappingId ← route.schemaMappingId.mapM Identifier.throughNew
  let deviceId ← route.deviceId.throughNew
  return { route with id, brokerId, schemaMappingId, deviceId }

def FieldMapping.throughNew (mapping : FieldMapping) : Except DomainError FieldMapping := do
  let source ← mapping.source.throughNew
  return { mapping with source }

def PayloadSchemaMapping.throughNew (mapping : PayloadSchemaMapping) :
    Except DomainError PayloadSchemaMapping := do
  let id ← mapping.id.throughNew
  let fields ← mapping.fields.mapM FieldMapping.throughNew
  return { mapping with id, fields }

def RuleTrigger.throughNew : RuleTrigger → Except DomainError RuleTrigger
  | .eventReceived => return .eventReceived
  | .routeMatched routeId => return .routeMatched (← routeId.throughNew)
  | .commandRequested templateId => return .commandRequested (← templateId.throughNew)

def ActionIntentTemplate.throughNew :
    ActionIntentTemplate → Except DomainError ActionIntentTemplate
  | .streamToUi => return .streamToUi
  | .forwardToSink sinkId => return .forwardToSink (← sinkId.throughNew)
  | .executeCommand commandTemplateId params =>
    return .executeCommand (← commandTemplateId.throughNew) params
  | .dropEvent => return .dropEvent
  | .addMetadata key value => return .addMetadata key value

def RuleDefinition.throughNew (rule : RuleDefinition) : Except DomainError RuleDefinition := do
  let id ← rule.id.throughNew
  let trigger ← rule.trigger.throughNew
  let condition ← rule.condition.mapM ConditionExpr.throughNew
  let actions ← rule.actions.mapM ActionIntentTemplate.throughNew
  return { rule with id, trigger, condition, actions }

def CommandTemplate.throughNew (template : CommandTemplate) :
    Except DomainError CommandTemplate := do
  let id ← template.id.throughNew
  let brokerId ← template.brokerId.throughNew
  return { template with id, brokerId }

def SinkDefinition.throughNew (sink : SinkDefinition) : Except DomainError SinkDefinition := do
  let id ← sink.id.throughNew
  return { sink with id }

/-- A configuration whose identifiers and paths are built by `new`, but for those of its project and
its tenant. -/
def ProjectConfig.throughNew (config : ProjectConfig) : Except DomainError ProjectConfig := do
  let brokers ← config.brokers.mapM BrokerConnectionConfig.throughNew
  let routes ← config.routes.mapM TopicRouteConfig.throughNew
  let schemaMappings ← config.schemaMappings.mapM PayloadSchemaMapping.throughNew
  let rules ← config.rules.mapM RuleDefinition.throughNew
  let commandTemplates ← config.commandTemplates.mapM CommandTemplate.throughNew
  let sinks ← config.sinks.mapM SinkDefinition.throughNew
  return { config with brokers, routes, schemaMappings, rules, commandTemplates, sinks }

/-! ## What is built -/

theorem Identifier.throughNew_confirms {field : String} :
    Confirms (@Identifier.throughNew field) fun id => ValidId (namedId id) := by
  intro id id'
  rw [Identifier.throughNew, Identifier.new, check_eq_ok_iff]
  constructor
  · rintro ⟨hvalid, hid⟩
    exact ⟨Except.ok.inj hid, hvalid⟩
  · rintro ⟨rfl, hvalid⟩
    exact ⟨hvalid, rfl⟩

theorem FieldPath.throughNew_confirms :
    Confirms FieldPath.throughNew fun path => ValidPath path := by
  intro path path'
  rw [FieldPath.throughNew, FieldPath.new, check_eq_ok_iff]
  constructor
  · rintro ⟨hvalid, hpath⟩
    exact ⟨Except.ok.inj hpath, hvalid⟩
  · rintro ⟨rfl, hvalid⟩
    exact ⟨hvalid, rfl⟩

theorem FieldRef.throughNew_confirms :
    Confirms FieldRef.throughNew fun reference =>
      ∀ path ∈ fieldRefPaths reference, ValidPath path := by
  intro reference reference'
  cases reference with
  | event path =>
    rw [FieldRef.throughNew, FieldPath.throughNew_confirms.bind_eq_ok_iff]
    simp [fieldRefPaths, pure, Except.pure, and_comm]
  | payload path =>
    rw [FieldRef.throughNew, FieldPath.throughNew_confirms.bind_eq_ok_iff]
    simp [fieldRefPaths, pure, Except.pure, and_comm]
  | extracted name => simp [FieldRef.throughNew, fieldRefPaths, pure, Except.pure]
  | deviceId => simp [FieldRef.throughNew, fieldRefPaths, pure, Except.pure]
  | eventType => simp [FieldRef.throughNew, fieldRefPaths, pure, Except.pure]
  | topic => simp [FieldRef.throughNew, fieldRefPaths, pure, Except.pure]

theorem ValueExpr.throughNew_confirms :
    Confirms ValueExpr.throughNew fun value =>
      ∀ path ∈ valueExprPaths value, ValidPath path := by
  intro value value'
  cases value with
  | field reference =>
    rw [ValueExpr.throughNew, FieldRef.throughNew_confirms.bind_eq_ok_iff]
    simp [valueExprPaths, pure, Except.pure, and_comm]
  | literal literal => simp [ValueExpr.throughNew, valueExprPaths, pure, Except.pure]

theorem comparisonThroughNew_eq_ok_iff {comparison : ValueExpr → ValueExpr → ConditionExpr}
    {left right : ValueExpr} {condition : ConditionExpr} :
    comparisonThroughNew comparison left right = .ok condition ↔
      comparison left right = condition ∧
        ∀ path ∈ valueExprPaths left ++ valueExprPaths right,
          ValidPath path := by
  rw [comparisonThroughNew, ValueExpr.throughNew_confirms.bind_eq_ok_iff,
    ValueExpr.throughNew_confirms.bind_eq_ok_iff, List.forall_mem_append, ← and_assoc, and_comm]
  simp [pure, Except.pure]

mutual

theorem ConditionExpr.throughNew_eq_ok_iff (condition condition' : ConditionExpr) :
    condition.throughNew = .ok condition' ↔
      condition = condition' ∧
        ∀ path ∈ conditionPaths condition, ValidPath path := by
  cases condition with
  | «exists» reference =>
    rw [ConditionExpr.throughNew, FieldRef.throughNew_confirms.bind_eq_ok_iff, conditionPaths]
    simp [pure, Except.pure, and_comm]
  | equals left right => exact comparisonThroughNew_eq_ok_iff
  | notEquals left right => exact comparisonThroughNew_eq_ok_iff
  | greaterThan left right => exact comparisonThroughNew_eq_ok_iff
  | greaterThanOrEqual left right => exact comparisonThroughNew_eq_ok_iff
  | lessThan left right => exact comparisonThroughNew_eq_ok_iff
  | lessThanOrEqual left right => exact comparisonThroughNew_eq_ok_iff
  | contains left right => exact comparisonThroughNew_eq_ok_iff
  | and conditions =>
    have hconditions := conditionsThroughNew_eq_ok_iff conditions
    rw [ConditionExpr.throughNew, bind_returns_iff hconditions, conditionPaths]
    simp [pure, Except.pure, and_comm]
  | or conditions =>
    have hconditions := conditionsThroughNew_eq_ok_iff conditions
    rw [ConditionExpr.throughNew, bind_returns_iff hconditions, conditionPaths]
    simp [pure, Except.pure, and_comm]
  | not inner =>
    have hinner := ConditionExpr.throughNew_eq_ok_iff inner
    rw [ConditionExpr.throughNew, bind_returns_iff hinner, conditionPaths]
    simp [pure, Except.pure, and_comm]

theorem conditionsThroughNew_eq_ok_iff (conditions conditions' : List ConditionExpr) :
    conditionsThroughNew conditions = .ok conditions' ↔
      conditions = conditions' ∧
        ∀ path ∈ conditionsPaths conditions, ValidPath path := by
  cases conditions with
  | nil => simp [conditionsThroughNew, conditionsPaths, pure, Except.pure]
  | cons condition conditions =>
    have hhead := ConditionExpr.throughNew_eq_ok_iff condition
    have htail := conditionsThroughNew_eq_ok_iff conditions
    rw [conditionsThroughNew, bind_returns_iff hhead, bind_returns_iff htail, conditionsPaths,
      List.forall_mem_append, ← and_assoc, and_comm]
    simp [pure, Except.pure]

end

theorem ConditionExpr.throughNew_confirms :
    Confirms ConditionExpr.throughNew fun condition =>
      ∀ path ∈ conditionPaths condition, ValidPath path :=
  ConditionExpr.throughNew_eq_ok_iff

theorem DeviceIdExtraction.throughNew_confirms :
    Confirms DeviceIdExtraction.throughNew fun deviceId =>
      ∀ path ∈ deviceIdPaths deviceId, ValidPath path := by
  intro deviceId deviceId'
  cases deviceId with
  | none => simp [DeviceIdExtraction.throughNew, deviceIdPaths, pure, Except.pure]
  | static value => simp [DeviceIdExtraction.throughNew, deviceIdPaths, pure, Except.pure]
  | topicWildcardIndex index =>
    simp [DeviceIdExtraction.throughNew, deviceIdPaths, pure, Except.pure]
  | payloadField path =>
    rw [DeviceIdExtraction.throughNew, FieldPath.throughNew_confirms.bind_eq_ok_iff]
    simp [deviceIdPaths, pure, Except.pure, and_comm]

theorem BrokerConnectionConfig.throughNew_confirms :
    Confirms BrokerConnectionConfig.throughNew fun broker => ValidId (namedId broker.id) := by
  intro broker broker'
  rw [BrokerConnectionConfig.throughNew, Identifier.throughNew_confirms.bind_eq_ok_iff, and_comm]
  simp [pure, Except.pure]

theorem TopicRouteConfig.throughNew_confirms :
    Confirms TopicRouteConfig.throughNew fun route =>
      ValidId (namedId route.id) ∧ (∀ id ∈ routeReferences route, ValidId id) ∧
        ∀ path ∈ deviceIdPaths route.deviceId, ValidPath path := by
  intro route route'
  have hmapping : (∀ id ∈ (route.schemaMappingId.map namedId).toList, ValidId id) ↔
      ∀ id ∈ route.schemaMappingId, ValidId (namedId id) := by
    cases route.schemaMappingId <;> simp
  have hreferences : (∀ id ∈ routeReferences route, ValidId id) ↔
      ValidId (namedId route.brokerId) ∧ ∀ id ∈ route.schemaMappingId, ValidId (namedId id) :=
    List.forall_mem_cons.trans (and_congr_right fun _ => hmapping)
  rw [TopicRouteConfig.throughNew, Identifier.throughNew_confirms.bind_eq_ok_iff,
    Identifier.throughNew_confirms.bind_eq_ok_iff,
    Identifier.throughNew_confirms.option_mapM.bind_eq_ok_iff,
    DeviceIdExtraction.throughNew_confirms.bind_eq_ok_iff]
  constructor
  · rintro ⟨hid, hbroker, hmapping, hdevice, heq⟩
    exact ⟨Except.ok.inj heq, hid, hreferences.mpr ⟨hbroker, hmapping⟩, hdevice⟩
  · rintro ⟨rfl, hid, hreferenced, hdevice⟩
    obtain ⟨hbroker, hmapping⟩ := hreferences.mp hreferenced
    exact ⟨hid, hbroker, hmapping, hdevice, rfl⟩

theorem FieldMapping.throughNew_confirms :
    Confirms FieldMapping.throughNew fun mapping => ValidPath mapping.source := by
  intro mapping mapping'
  rw [FieldMapping.throughNew, FieldPath.throughNew_confirms.bind_eq_ok_iff, and_comm]
  simp [pure, Except.pure]

theorem PayloadSchemaMapping.throughNew_confirms :
    Confirms PayloadSchemaMapping.throughNew fun mapping =>
      ValidId (namedId mapping.id) ∧ ∀ field ∈ mapping.fields, ValidPath field.source := by
  intro mapping mapping'
  rw [PayloadSchemaMapping.throughNew, Identifier.throughNew_confirms.bind_eq_ok_iff,
    FieldMapping.throughNew_confirms.mapM.bind_eq_ok_iff, ← and_assoc, and_comm]
  simp [pure, Except.pure]

theorem RuleTrigger.throughNew_confirms :
    Confirms RuleTrigger.throughNew fun trigger =>
      ∀ id ∈ triggerReferences trigger, ValidId id := by
  intro trigger trigger'
  cases trigger with
  | eventReceived => simp [RuleTrigger.throughNew, triggerReferences, pure, Except.pure]
  | routeMatched routeId =>
    rw [RuleTrigger.throughNew, Identifier.throughNew_confirms.bind_eq_ok_iff]
    simp [triggerReferences, pure, Except.pure, and_comm]
  | commandRequested templateId =>
    rw [RuleTrigger.throughNew, Identifier.throughNew_confirms.bind_eq_ok_iff]
    simp [triggerReferences, pure, Except.pure, and_comm]

theorem ActionIntentTemplate.throughNew_confirms :
    Confirms ActionIntentTemplate.throughNew fun action =>
      ∀ id ∈ actionReferences action, ValidId id := by
  intro action action'
  cases action with
  | streamToUi => simp [ActionIntentTemplate.throughNew, actionReferences, pure, Except.pure]
  | forwardToSink sinkId =>
    rw [ActionIntentTemplate.throughNew, Identifier.throughNew_confirms.bind_eq_ok_iff]
    simp [actionReferences, pure, Except.pure, and_comm]
  | executeCommand commandTemplateId params =>
    rw [ActionIntentTemplate.throughNew, Identifier.throughNew_confirms.bind_eq_ok_iff]
    simp [actionReferences, pure, Except.pure, and_comm]
  | dropEvent => simp [ActionIntentTemplate.throughNew, actionReferences, pure, Except.pure]
  | addMetadata key value =>
    simp [ActionIntentTemplate.throughNew, actionReferences, pure, Except.pure]

theorem RuleDefinition.throughNew_confirms :
    Confirms RuleDefinition.throughNew fun rule =>
      ValidId (namedId rule.id) ∧ (∀ id ∈ triggerReferences rule.trigger, ValidId id) ∧
        (∀ condition ∈ rule.condition, ∀ path ∈ conditionPaths condition, ValidPath path) ∧
        ∀ action ∈ rule.actions, ∀ id ∈ actionReferences action, ValidId id := by
  intro rule rule'
  rw [RuleDefinition.throughNew, Identifier.throughNew_confirms.bind_eq_ok_iff,
    RuleTrigger.throughNew_confirms.bind_eq_ok_iff,
    ConditionExpr.throughNew_confirms.option_mapM.bind_eq_ok_iff,
    ActionIntentTemplate.throughNew_confirms.mapM.bind_eq_ok_iff]
  constructor
  · rintro ⟨hid, htrigger, hcondition, hactions, heq⟩
    exact ⟨Except.ok.inj heq, hid, htrigger, hcondition, hactions⟩
  · rintro ⟨rfl, hid, htrigger, hcondition, hactions⟩
    exact ⟨hid, htrigger, hcondition, hactions, rfl⟩

theorem CommandTemplate.throughNew_confirms :
    Confirms CommandTemplate.throughNew fun template =>
      ValidId (namedId template.id) ∧ ValidId (namedId template.brokerId) := by
  intro template template'
  rw [CommandTemplate.throughNew, Identifier.throughNew_confirms.bind_eq_ok_iff,
    Identifier.throughNew_confirms.bind_eq_ok_iff, ← and_assoc, and_comm]
  simp [pure, Except.pure]

theorem SinkDefinition.throughNew_confirms :
    Confirms SinkDefinition.throughNew fun sink => ValidId (namedId sink.id) := by
  intro sink sink'
  rw [SinkDefinition.throughNew, Identifier.throughNew_confirms.bind_eq_ok_iff, and_comm]
  simp [pure, Except.pure]

/-- The identifiers and the paths of a configuration are those of its parts. -/
theorem identifiersValid_iff {config : ProjectConfig} :
    IdentifiersValid config ↔
      (∀ broker ∈ config.brokers, ValidId (namedId broker.id)) ∧
      (∀ route ∈ config.routes, ValidId (namedId route.id) ∧
        (∀ id ∈ routeReferences route, ValidId id) ∧
        ∀ path ∈ deviceIdPaths route.deviceId, ValidPath path) ∧
      (∀ mapping ∈ config.schemaMappings, ValidId (namedId mapping.id) ∧
        ∀ field ∈ mapping.fields, ValidPath field.source) ∧
      (∀ rule ∈ config.rules, ValidId (namedId rule.id) ∧
        (∀ id ∈ triggerReferences rule.trigger, ValidId id) ∧
        (∀ condition ∈ rule.condition, ∀ path ∈ conditionPaths condition, ValidPath path) ∧
        ∀ action ∈ rule.actions, ∀ id ∈ actionReferences action, ValidId id) ∧
      (∀ template ∈ config.commandTemplates,
        ValidId (namedId template.id) ∧ ValidId (namedId template.brokerId)) ∧
      ∀ sink ∈ config.sinks, ValidId (namedId sink.id) := by
  constructor
  · rintro ⟨hids, hpaths⟩
    simp only [definedIds, references, List.forall_mem_append, List.forall_mem_map,
      List.forall_mem_flatMap] at hids
    simp only [fieldPaths, List.forall_mem_append, List.forall_mem_map, List.forall_mem_flatMap,
      Option.mem_toList] at hpaths
    obtain ⟨⟨hbrokers, hroutes, hmappings, hrules, htemplates, hsinks⟩, hreferences, htriggers,
      hactions, hbrokerIds⟩ := hids
    obtain ⟨hfields, hdevices, hconditions⟩ := hpaths
    exact ⟨hbrokers,
      fun route h => ⟨hroutes route h, hreferences route h, hdevices route h⟩,
      fun mapping h => ⟨hmappings mapping h, hfields mapping h⟩,
      fun rule h => ⟨hrules rule h, htriggers rule h, hconditions rule h, hactions rule h⟩,
      fun template h => ⟨htemplates template h, hbrokerIds template h⟩, hsinks⟩
  · rintro ⟨hbrokers, hroutes, hmappings, hrules, htemplates, hsinks⟩
    constructor
    · simp only [definedIds, references, List.forall_mem_append, List.forall_mem_map,
        List.forall_mem_flatMap]
      exact ⟨⟨hbrokers, fun route h => (hroutes route h).1,
          fun mapping h => (hmappings mapping h).1, fun rule h => (hrules rule h).1,
          fun template h => (htemplates template h).1, hsinks⟩,
        fun route h => (hroutes route h).2.1, fun rule h => (hrules rule h).2.1,
        fun rule h => (hrules rule h).2.2.2, fun template h => (htemplates template h).2⟩
    · simp only [fieldPaths, List.forall_mem_append, List.forall_mem_map, List.forall_mem_flatMap,
        Option.mem_toList]
      exact ⟨fun mapping h => (hmappings mapping h).2, fun route h => (hroutes route h).2.2,
        fun rule h => (hrules rule h).2.2.1⟩

/-- A configuration built by `new` is the one it was built from, and is there when all its
identifiers and paths are valid. -/
theorem ProjectConfig.throughNew_confirms : Confirms ProjectConfig.throughNew IdentifiersValid := by
  intro config config'
  rw [ProjectConfig.throughNew, BrokerConnectionConfig.throughNew_confirms.mapM.bind_eq_ok_iff,
    TopicRouteConfig.throughNew_confirms.mapM.bind_eq_ok_iff,
    PayloadSchemaMapping.throughNew_confirms.mapM.bind_eq_ok_iff,
    RuleDefinition.throughNew_confirms.mapM.bind_eq_ok_iff,
    CommandTemplate.throughNew_confirms.mapM.bind_eq_ok_iff,
    SinkDefinition.throughNew_confirms.mapM.bind_eq_ok_iff, identifiersValid_iff]
  constructor
  · rintro ⟨hbrokers, hroutes, hmappings, hrules, htemplates, hsinks, heq⟩
    exact ⟨Except.ok.inj heq, hbrokers, hroutes, hmappings, hrules, htemplates, hsinks⟩
  · rintro ⟨rfl, hbrokers, hroutes, hmappings, hrules, htemplates, hsinks⟩
    exact ⟨hbrokers, hroutes, hmappings, hrules, htemplates, hsinks, rfl⟩

end Domain
end PipeBolt
