import PipeBolt.Domain.Id

/-!
# Rule definitions

`pipe_bolt_domain::rule` and `pipe_bolt_domain::action`: the condition language of the rules, the
actions, and the validation a rule definition must pass.

Conditions nest through lists, so each function on them comes with its companion on lists.
-/

namespace PipeBolt
namespace Domain

/-! ## JSON values -/

/-- `serde_json::Number`.  A float is its IEEE bits. -/
inductive Number where
  | posInt (value : UInt64)
  | negInt (value : Int64)
  | float (bits : UInt64)
  deriving DecidableEq, Repr

/-- `serde_json::Value`.  An object lists its entries in key order. -/
inductive Value where
  | null
  | bool (value : Bool)
  | number (value : Number)
  | string (value : String)
  | array (values : List Value)
  | object (entries : List (String × Value))
  deriving Repr

/-- `BTreeMap<String, serde_json::Value>`: the entries in key order. -/
abbrev ValueMap := List (String × Value)

/-! ## Conditions -/

/-- `FieldRef`. -/
inductive FieldRef where
  | event (path : FieldPath)
  | payload (path : FieldPath)
  | extracted (name : String)
  | deviceId
  | eventType
  | topic
  deriving DecidableEq, Repr

/-- `ValueExpr`. -/
inductive ValueExpr where
  | field (field : FieldRef)
  | literal (value : Value)
  deriving Repr

/-- `ConditionExpr`. -/
inductive ConditionExpr where
  | exists (field : FieldRef)
  | equals (left right : ValueExpr)
  | notEquals (left right : ValueExpr)
  | greaterThan (left right : ValueExpr)
  | greaterThanOrEqual (left right : ValueExpr)
  | lessThan (left right : ValueExpr)
  | lessThanOrEqual (left right : ValueExpr)
  | contains (left right : ValueExpr)
  | and (conditions : List ConditionExpr)
  | or (conditions : List ConditionExpr)
  | not (condition : ConditionExpr)

/-- `RuleTrigger`. -/
inductive RuleTrigger where
  | eventReceived
  | routeMatched (routeId : RouteId)
  | commandRequested (templateId : CommandTemplateId)
  deriving DecidableEq, Repr

/-- `ActionIntentTemplate`. -/
inductive ActionIntentTemplate where
  | streamToUi
  | forwardToSink (sinkId : SinkId)
  | executeCommand (commandTemplateId : CommandTemplateId) (params : ValueMap)
  | dropEvent
  | addMetadata (key value : String)
  deriving Repr

/-- `RuleDefinition`. -/
structure RuleDefinition where
  id : RuleId
  name : String
  enabled : Bool
  trigger : RuleTrigger
  condition : Option ConditionExpr
  actions : List ActionIntentTemplate

/-! ## Validation -/

/-- `validate_field_ref`. -/
def validateFieldRef : FieldRef → Except DomainError Unit
  | .extracted name => validateText "extracted_field_name" name 160
  | .event _ | .payload _ | .deviceId | .eventType | .topic => .ok ()

/-- `validate_value_expr`. -/
def validateValueExpr : ValueExpr → Except DomainError Unit
  | .field field => validateFieldRef field
  | .literal _ => .ok ()

mutual

/-- `validate_condition`. -/
def validateCondition : ConditionExpr → Except DomainError Unit
  | .and conditions | .or conditions =>
    if conditions.isEmpty then .error (.invalidFieldPath "condition group must not be empty")
    else validateConditions conditions
  | .not condition => validateCondition condition
  | .exists field => validateFieldRef field
  | .equals left right | .notEquals left right | .greaterThan left right
  | .greaterThanOrEqual left right | .lessThan left right | .lessThanOrEqual left right
  | .contains left right => do
    validateValueExpr left
    validateValueExpr right

/-- The loop of `validate_condition` over the members of a group. -/
def validateConditions : List ConditionExpr → Except DomainError Unit
  | [] => .ok ()
  | condition :: conditions => do
    validateCondition condition
    validateConditions conditions

end

/-- `validate_action_template`. -/
def validateActionTemplate : ActionIntentTemplate → Except DomainError Unit
  | .addMetadata key value => do
    validateText "metadata_key" key 128
    validateText "metadata_value" value 1024
  | .executeCommand _ params =>
    params.forM fun entry => validateText "command_param_name" entry.1 160
  | .streamToUi | .forwardToSink _ | .dropEvent => .ok ()

/-- `RuleDefinition::validate`. -/
def RuleDefinition.validate (rule : RuleDefinition) : Except DomainError Unit := do
  validateText "rule_name" rule.name 160
  if rule.actions.isEmpty then .error (.invalidFieldPath "rule must define at least one action")
  else
    rule.condition.forM validateCondition
    rule.actions.forM validateActionTemplate

end Domain
end PipeBolt
