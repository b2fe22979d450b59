import PipeBolt.Core.Error
import PipeBolt.Domain.Config

/-!
# The rule engine

`pipe_bolt_core::rule::rules` and `pipe_bolt_core::action_metadata`: the construction of a rule
engine from rule definitions, with the checks that each enabled rule must pass.

* `RuleFits`: what the engine asks of a rule beyond the validation of the domain.
* `validateConditionGroups_of_validate`: the domain already refuses empty condition groups.
* `RuleEngine.withLimits_isOk_iff`: an engine is built from validated rules exactly when every
  enabled rule fits.
-/

namespace PipeBolt
namespace Core

open Domain Rust Fallible

/-! ## Metadata of actions -/

/-- `RESERVED_METADATA_PREFIXES`. -/
def RESERVED_METADATA_PREFIXES : List String := ["pipe_bolt.", "_pipe_bolt."]

/-- `ActionMetadataLimits`. -/
structure ActionMetadataLimits where
  maxKeyBytes : Nat
  maxValueBytes : Nat
  deriving DecidableEq, Repr

/-- `MetadataValidationError`. -/
inductive MetadataValidationError where
  | invalidKey (reason : String)
  | valueTooLarge (actual max : Nat)
  deriving DecidableEq, Repr

/-- A key under a prefix that the program keeps for itself. -/
def usesReservedPrefix (key : String) : Bool := RESERVED_METADATA_PREFIXES.any (startsWith key)

/-- `validate_action_metadata`. -/
def validateActionMetadata (key value : String) (limits : ActionMetadataLimits) :
    Except MetadataValidationError Unit :=
  if key.isEmpty then .error (.invalidKey "key must not be empty")
  else if limits.maxKeyBytes < len key then .error (.invalidKey "key exceeds maximum length")
  else if key.toList.any isAsciiControl then
    .error (.invalidKey "key must not contain control characters")
  else if usesReservedPrefix key then .error (.invalidKey "key uses reserved prefix")
  else if limits.maxValueBytes < len value then
    .error (.valueTooLarge (len value) limits.maxValueBytes)
  else .ok ()

/-- A key and a value that the domain accepts pass the check of the engine, whose limits are no
smaller, unless the key is reserved. -/
theorem validateActionMetadata_eq_ok_iff {key value : String} {limits : ActionMetadataLimits}
    (hkey : IsText key limits.maxKeyBytes) (hvalue : IsText value limits.maxValueBytes) :
    validateActionMetadata key value limits = .ok () ↔ usesReservedPrefix key = false := by
  have hnonempty : ¬ key.isEmpty = true := by
    intro hempty
    have hblank := hkey.nonblank
    rw [String.isEmpty_iff.mp hempty] at hblank
    exact absurd hblank (by decide)
  have hcontrol : ¬ key.toList.any isAsciiControl = true := by
    intro hany
    obtain ⟨c, hc, hascii⟩ := List.any_eq_true.mp hany
    have hctl := isControl_of_isAsciiControl hascii
    rw [hkey.printable c hc] at hctl
    exact Bool.false_ne_true hctl
  have hkeyLen := Nat.not_lt.mpr hkey.short
  have hvalueLen := Nat.not_lt.mpr hvalue.short
  rw [validateActionMetadata, if_neg hnonempty, if_neg hkeyLen, if_neg hcontrol, guard_eq_ok_iff,
    if_neg hvalueLen, Bool.not_eq_true]
  exact and_iff_left rfl

/-! ## Limits -/

/-- `RuleEngineLimits`. -/
structure RuleEngineLimits where
  maxConditionDepth : Nat
  maxConditionNodes : Nat
  maxActionsPerRule : Nat
  maxMetadataKeyBytes : Nat
  maxMetadataValueBytes : Nat
  deriving DecidableEq, Repr

/-- `RuleEngineLimits::default`. -/
def RuleEngineLimits.default : RuleEngineLimits where
  maxConditionDepth := 16
  maxConditionNodes := 256
  maxActionsPerRule := 16
  maxMetadataKeyBytes := 128
  maxMetadataValueBytes := 1024

/-- `RuleEngineLimits::metadata_limits`. -/
def RuleEngineLimits.metadataLimits (limits : RuleEngineLimits) : ActionMetadataLimits :=
  ⟨limits.maxMetadataKeyBytes, limits.maxMetadataValueBytes⟩

/-! ## Conditions -/

mutual

/-- `condition_depth`. -/
def conditionDepth : ConditionExpr → Nat
  | .and conditions | .or conditions => conditionsDepth conditions + 1
  | .not condition => conditionDepth condition + 1
  | .exists _ | .equals _ _ | .notEquals _ _ | .greaterThan _ _ | .greaterThanOrEqual _ _
  | .lessThan _ _ | .lessThanOrEqual _ _ | .contains _ _ => 1

/-- The depth of the deepest condition of a group, or zero. -/
def conditionsDepth : List ConditionExpr → Nat
  | [] => 0
  | condition :: conditions => max (conditionDepth condition) (conditionsDepth conditions)

end

mutual

/-- `condition_nodes`. -/
def conditionNodes : ConditionExpr → Nat
  | .and conditions | .or conditions => conditionsNodes conditions + 1
  | .not condition => conditionNodes condition + 1
  | .exists _ | .equals _ _ | .notEquals _ _ | .greaterThan _ _ | .greaterThanOrEqual _ _
  | .lessThan _ _ | .lessThanOrEqual _ _ | .contains _ _ => 1

/-- The nodes of all conditions of a group. -/
def conditionsNodes : List ConditionExpr → Nat
  | [] => 0
  | condition :: conditions => conditionNodes condition + conditionsNodes conditions

end

mutual

/-- `validate_condition_groups`. -/
def validateConditionGroups (rule : RuleDefinition) :
    ConditionExpr → Except MqttEngineError Unit
  | .and conditions =>
    if conditions.isEmpty then .error (.rule (.emptyConditionGroup rule.id.raw "and"))
    else validateConditionGroupsList rule conditions
  | .or conditions =>
    if conditions.isEmpty then .error (.rule (.emptyConditionGroup rule.id.raw "or"))
    else validateConditionGroupsList rule conditions
  | .not condition => validateConditionGroups rule condition
  | .exists _ | .equals _ _ | .notEquals _ _ | .greaterThan _ _ | .greaterThanOrEqual _ _
  | .lessThan _ _ | .lessThanOrEqual _ _ | .contains _ _ => .ok ()

/-- The loop of `validate_condition_groups` over the members of a group. -/
def validateConditionGroupsList (rule : RuleDefinition) :
    List ConditionExpr → Except MqttEngineError Unit
  | [] => .ok ()
  | condition :: conditions => do
    validateConditionGroups rule condition
    validateConditionGroupsList rule conditions

end

mutual

/-- The domain already refuses empty condition groups. -/
theorem validateConditionGroups_of_validate (rule : RuleDefinition) :
    ∀ condition, validateCondition condition = .ok () →
      validateConditionGroups rule condition = .ok ()
  | .and conditions, h => by
    rw [validateCondition, guard_eq_ok_iff] at h
    rw [validateConditionGroups, guard_eq_ok_iff]
    exact ⟨h.1, validateConditionGroupsList_of_validate rule conditions h.2⟩
  | .or conditions, h => by
    rw [validateCondition, guard_eq_ok_iff] at h
    rw [validateConditionGroups, guard_eq_ok_iff]
    exact ⟨h.1, validateConditionGroupsList_of_validate rule conditions h.2⟩
  | .not condition, h => by
    rw [validateCondition] at h
    rw [validateConditionGroups]
    exact validateConditionGroups_of_validate rule condition h
  | .exists _, _ | .equals _ _, _ | .notEquals _ _, _ | .greaterThan _ _, _
  | .greaterThanOrEqual _ _, _ | .lessThan _ _, _ | .lessThanOrEqual _ _, _ | .contains _ _, _ => by
    rw [validateConditionGroups]

theorem validateConditionGroupsList_of_validate (rule : RuleDefinition) :
    ∀ conditions, validateConditions conditions = .ok () →
      validateConditionGroupsList rule conditions = .ok ()
  | [], _ => by rw [validateConditionGroupsList]
  | condition :: conditions, h => by
    rw [validateConditions, check_eq_ok_iff] at h
    rw [validateConditionGroupsList, check_eq_ok_iff]
    exact ⟨validateConditionGroups_of_validate rule condition h.1,
      validateConditionGroupsList_of_validate rule conditions h.2⟩

end

/-! ## Rules -/

/-- `validate_metadata_action`. -/
def validateMetadataAction (rule : RuleDefinition) (key value : String)
    (limits : RuleEngineLimits) : Except MqttEngineError Unit :=
  (validateActionMetadata key value limits.metadataLimits).mapError fun
    | .invalidKey reason => .rule (.invalidMetadataKey rule.id.raw reason)
    | .valueTooLarge actual max => .rule (.metadataValueTooLarge rule.id.raw actual max)

/-- `validate_action`. -/
def validateAction (rule : RuleDefinition) (action : ActionIntentTemplate)
    (limits : RuleEngineLimits) : Except MqttEngineError Unit :=
  match action with
  | .streamToUi | .dropEvent | .executeCommand _ _ | .forwardToSink _ => .ok ()
  | .addMetadata key value => validateMetadataAction rule key value limits

/-- The checks of `validate_rule` on the condition of a rule. -/
def validateRuleCondition (rule : RuleDefinition) (limits : RuleEngineLimits)
    (condition : ConditionExpr) : Except MqttEngineError Unit := do
  validateConditionGroups rule condition
  if limits.maxConditionDepth < conditionDepth condition then
    .error (.rule (.conditionTooDeep rule.id.raw (conditionDepth condition)
      limits.maxConditionDepth))
  else if limits.maxConditionNodes < conditionNodes condition then
    .error (.rule (.conditionTooLarge rule.id.raw (conditionNodes condition)
      limits.maxConditionNodes))
  else .ok ()

/-- `matches!(trigger, RuleTrigger::CommandRequested { .. })`. -/
def isCommandRequested : RuleTrigger → Bool
  | .commandRequested _ => true
  | .eventReceived | .routeMatched _ => false

/-- `validate_rule`. -/
def validateRule (rule : RuleDefinition) (limits : RuleEngineLimits) :
    Except MqttEngineError Unit :=
  if isCommandRequested rule.trigger then
    .error (.rule (.unsupportedTrigger rule.id.raw "command_requested"))
  else if rule.actions.isEmpty then
    .error (.rule (.invalidRule rule.id.raw "rule must define at least one action"))
  else if limits.maxActionsPerRule < rule.actions.length then
    .error (.rule (.tooManyActions rule.id.raw rule.actions.length limits.maxActionsPerRule))
  else do
    rule.actions.forM fun action => validateAction rule action limits
    rule.condition.forM (validateRuleCondition rule limits)
    rule.validate.mapError fun error => .domain error.display

/-- `RuleEngine`: the rules it was built from. -/
structure RuleEngine where
  rules : List RuleDefinition

/-- One round of the loop of `RuleEngine::with_limits`. -/
def RuleEngine.insert (limits : RuleEngineLimits) (engine : RuleEngine) (rule : RuleDefinition) :
    Except MqttEngineError RuleEngine :=
  if !rule.enabled then .ok engine
  else do
    validateRule rule limits
    return ⟨engine.rules ++ [rule]⟩

/-- `RuleEngine::with_limits`. -/
def RuleEngine.withLimits (rules : List RuleDefinition) (limits : RuleEngineLimits) :
    Except MqttEngineError RuleEngine :=
  rules.foldlM (RuleEngine.insert limits) ⟨[]⟩

/-! ## What the engine asks beyond the domain -/

/-- What the engine asks of a rule beyond the validation of the domain. -/
structure RuleFits (limits : RuleEngineLimits) (rule : RuleDefinition) : Prop where
  trigger_supported : isCommandRequested rule.trigger = false
  few_actions : rule.actions.length ≤ limits.maxActionsPerRule
  keys_free : ∀ key value, .addMetadata key value ∈ rule.actions → usesReservedPrefix key = false
  shallow : ∀ condition ∈ rule.condition, conditionDepth condition ≤ limits.maxConditionDepth
  small : ∀ condition ∈ rule.condition, conditionNodes condition ≤ limits.maxConditionNodes

section Fits

variable {limits : RuleEngineLimits}

/-- What the domain accepts as metadata is within the limits. -/
def RuleEngineLimits.CoverDomain (limits : RuleEngineLimits) : Prop :=
  128 ≤ limits.maxMetadataKeyBytes ∧ 1024 ≤ limits.maxMetadataValueBytes

theorem validateAction_eq_ok_iff {rule : RuleDefinition} {action : ActionIntentTemplate}
    (hlimits : limits.CoverDomain) (hvalid : validateActionTemplate action = .ok ()) :
    validateAction rule action limits = .ok () ↔
      ∀ key value, action = .addMetadata key value → usesReservedPrefix key = false := by
  cases action with
  | addMetadata key value =>
    obtain ⟨hkey, hvalue⟩ := check_eq_ok_iff.mp hvalid
    have hkey := validateText_eq_ok_iff.mp hkey
    have hvalue := validateText_eq_ok_iff.mp hvalue
    have hkey' : IsText key limits.metadataLimits.maxKeyBytes :=
      ⟨hkey.nonblank, Nat.le_trans hkey.short hlimits.1, hkey.printable⟩
    have hvalue' : IsText value limits.metadataLimits.maxValueBytes :=
      ⟨hvalue.nonblank, Nat.le_trans hvalue.short hlimits.2, hvalue.printable⟩
    rw [validateAction, validateMetadataAction, mapError_eq_ok_iff,
      validateActionMetadata_eq_ok_iff hkey' hvalue']
    simp
  | streamToUi => simp [validateAction]
  | forwardToSink sinkId => simp [validateAction]
  | executeCommand commandTemplateId params => simp [validateAction]
  | dropEvent => simp [validateAction]

theorem validateRuleCondition_eq_ok_iff {rule : RuleDefinition} {condition : ConditionExpr}
    (hvalid : validateCondition condition = .ok ()) :
    validateRuleCondition rule limits condition = .ok () ↔
      conditionDepth condition ≤ limits.maxConditionDepth ∧
        conditionNodes condition ≤ limits.maxConditionNodes := by
  have hgroups := validateConditionGroups_of_validate rule condition hvalid
  rw [validateRuleCondition, check_eq_ok_iff, guard_eq_ok_iff, guard_eq_ok_iff, Nat.not_lt,
    Nat.not_lt]
  exact ⟨fun h => ⟨h.2.1, h.2.2.1⟩, fun h => ⟨hgroups, h.1, h.2, rfl⟩⟩

/-- A rule the domain accepts passes the engine's check exactly when it fits. -/
theorem validateRule_eq_ok_iff {rule : RuleDefinition} (hlimits : limits.CoverDomain)
    (hvalid : rule.validate = .ok ()) :
    validateRule rule limits = .ok () ↔ RuleFits limits rule := by
  obtain ⟨-, hrest⟩ := check_eq_ok_iff.mp hvalid
  obtain ⟨hsome, hrest⟩ := guard_eq_ok_iff.mp hrest
  obtain ⟨hcondition, hactions⟩ := check_eq_ok_iff.mp hrest
  have hcondition := option_forM_eq_ok_iff.mp hcondition
  have hactions := forM_eq_ok_iff.mp hactions
  have hbody : (∀ action ∈ rule.actions, validateAction rule action limits = .ok ()) ↔
      ∀ key value, .addMetadata key value ∈ rule.actions → usesReservedPrefix key = false := by
    constructor
    · intro h key value hmem
      exact (validateAction_eq_ok_iff hlimits (hactions _ hmem)).mp (h _ hmem) key value rfl
    · intro h action hmem
      refine (validateAction_eq_ok_iff hlimits (hactions action hmem)).mpr
        fun key value haction => ?_
      exact h key value (haction ▸ hmem)
  have hdepth : (∀ condition ∈ rule.condition,
      validateRuleCondition rule limits condition = .ok ()) ↔
        ∀ condition ∈ rule.condition, conditionDepth condition ≤ limits.maxConditionDepth ∧
          conditionNodes condition ≤ limits.maxConditionNodes :=
    forall₂_congr fun condition hmem =>
      validateRuleCondition_eq_ok_iff (hcondition condition hmem)
  have htail : (rule.validate.mapError fun error => MqttEngineError.domain error.display) =
      .ok () := mapError_eq_ok_iff.mpr hvalid
  rw [validateRule, guard_eq_ok_iff, guard_eq_ok_iff, guard_eq_ok_iff, check_eq_ok_iff,
    check_eq_ok_iff, forM_eq_ok_iff, option_forM_eq_ok_iff, hbody, hdepth, htail, Nat.not_lt,
    Bool.not_eq_true]
  constructor
  · rintro ⟨htrigger, -, hfew, hkeys, hshape, -⟩
    exact ⟨htrigger, hfew, hkeys, fun c hc => (hshape c hc).1, fun c hc => (hshape c hc).2⟩
  · intro h
    exact ⟨h.trigger_supported, hsome, h.few_actions, h.keys_free,
      fun c hc => ⟨h.shallow c hc, h.small c hc⟩, rfl⟩

/-- An engine is built from validated rules exactly when every enabled rule fits. -/
theorem RuleEngine.withLimits_isOk_iff {rules : List RuleDefinition} (hlimits : limits.CoverDomain)
    (hvalid : ∀ rule ∈ rules, rule.validate = .ok ()) :
    (∃ engine, RuleEngine.withLimits rules limits = .ok engine) ↔
      ∀ rule ∈ rules, rule.enabled = true → RuleFits limits rule := by
  have hround : ∀ (engine : RuleEngine) (rule : RuleDefinition),
      (∃ next, RuleEngine.insert limits engine rule = .ok next) ↔
        (rule.enabled = true → validateRule rule limits = .ok ()) := by
    intro engine rule
    rw [RuleEngine.insert]
    cases rule.enabled with
    | false => simp
    | true => simp [check_eq_ok_iff, pure, Except.pure]
  rw [RuleEngine.withLimits, foldlM_isOk_iff hround]
  exact forall₂_congr fun rule hrule =>
    imp_congr_right fun _ => validateRule_eq_ok_iff hlimits (hvalid rule hrule)

end Fits

end Core
end PipeBolt
