import PipeBolt.Domain.Rule
import PipeBolt.Js.Json

/-!
# The mapper of the rule builder

`rules.types.ts` and `rules.mapper.ts` of the web application: a rule as the API has it becomes the
draft that a form edits, and the draft becomes a rule again.

The types of the API are generated, and the mapper does not check them, so an action that the
backend has and the types do not have is an object like any other.
-/

namespace PipeBolt
namespace Web

open Js

/-! ## Rules of the API -/

namespace Generated

/-- `PipeBoltDomainRuleFieldRef`. -/
inductive FieldRef where
  | event (path : JsString)
  | payload (path : JsString)
  | extracted (name : JsString)
  | deviceId
  | eventType
  | topic

/-- `PipeBoltDomainRuleValueExpr`. -/
inductive ValueExpr where
  | field (field : FieldRef)
  | literal (value : JsValue)

/-- The values of `op` with two operands. -/
inductive Comparison where
  | equals
  | notEquals
  | greaterThan
  | greaterThanOrEqual
  | lessThan
  | lessThanOrEqual
  | contains
  deriving DecidableEq, Repr

/-- The values of `op` with a list of conditions. -/
inductive Group where
  | and
  | or
  deriving DecidableEq, Repr

/-- `PipeBoltDomainRuleConditionExpr`. -/
inductive ConditionExpr where
  | exists (field : FieldRef)
  | comparison (op : Comparison) (left right : ValueExpr)
  | group (op : Group) (conditions : List ConditionExpr)
  | not (condition : ConditionExpr)

/-- `PipeBoltDomainRuleRuleTrigger`. -/
inductive RuleTrigger where
  | eventReceived
  | routeMatched (routeId : JsString)
  | commandRequested (templateId : JsString)
  deriving DecidableEq, Repr

/-- `PipeBoltDomainActionActionIntentTemplate`, and the `execute_command` of the backend, of whose
object some fields may be missing. -/
inductive ActionIntentTemplate where
  | streamToUi
  | forwardToSink (sinkId : JsString)
  | publishCommand (templateId : JsString)
  | dropEvent
  | addMetadata (key value : JsString)
  | executeCommand (commandTemplateId : Option JsString) (params : Option Properties)

/-- `PipeBoltDomainRuleRuleDefinition`. -/
structure RuleDefinition where
  actions : List ActionIntentTemplate
  condition : Option ConditionExpr
  enabled : Bool
  id : JsString
  name : JsString
  trigger : RuleTrigger

end Generated

/-! ## Rules of the backend -/

/-- `JSON.parse` on the text that `serde_json` writes of a number: the nearest number.  A float that
is not finite would be written as `null`. -/
def ofNumber : Domain.Number → JsValue
  | .posInt value => .number (.ofDecimal false value.toNat 0)
  | .negInt value => .number (.ofDecimal (value.toInt < 0) value.toInt.natAbs 0)
  | .float bits =>
    let exponent := bits.toNat / 2 ^ 52 % 2 ^ 11
    let fraction := bits.toNat % 2 ^ 52
    if exponent = 2047 then .null
    else
      .number (.ofUnits (bits.toNat / 2 ^ 63 == 1)
        (Binary64.roundRatio
          (if exponent = 0 then fraction else (2 ^ 52 + fraction) * 2 ^ (exponent - 1)) 1)
        (Binary64.representable_roundRatio _ _))

mutual

/-- `JSON.parse` on the text that `serde_json` writes of a value. -/
def ofValue : Domain.Value → JsValue
  | .null => .null
  | .bool value => .bool value
  | .number value => ofNumber value
  | .string value => .string (ofString value)
  | .array values => .array (ofValues values)
  | .object entries => .object (setProperties (ofEntries entries))

/-- The elements of an array. -/
def ofValues : List Domain.Value → List JsValue
  | [] => []
  | value :: values => ofValue value :: ofValues values

/-- The entries of an object, in the order of the text. -/
def ofEntries : List (String × Domain.Value) → Properties
  | [] => []
  | (key, value) :: entries => (ofString key, ofValue value) :: ofEntries entries

end

namespace Generated

def FieldRef.ofBackend : Domain.FieldRef → FieldRef
  | .event path => .event (ofString path.raw)
  | .payload path => .payload (ofString path.raw)
  | .extracted name => .extracted (ofString name)
  | .deviceId => .deviceId
  | .eventType => .eventType
  | .topic => .topic

def ValueExpr.ofBackend : Domain.ValueExpr → ValueExpr
  | .field ref => .field (.ofBackend ref)
  | .literal value => .literal (ofValue value)

mutual

def ConditionExpr.ofBackend : Domain.ConditionExpr → ConditionExpr
  | .exists field => .exists (.ofBackend field)
  | .equals left right => .comparison .equals (.ofBackend left) (.ofBackend right)
  | .notEquals left right => .comparison .notEquals (.ofBackend left) (.ofBackend right)
  | .greaterThan left right => .comparison .greaterThan (.ofBackend left) (.ofBackend right)
  | .greaterThanOrEqual left right =>
    .comparison .greaterThanOrEqual (.ofBackend left) (.ofBackend right)
  | .lessThan left right => .comparison .lessThan (.ofBackend left) (.ofBackend right)
  | .lessThanOrEqual left right => .comparison .lessThanOrEqual (.ofBackend left) (.ofBackend right)
  | .contains left right => .comparison .contains (.ofBackend left) (.ofBackend right)
  | .and conditions => .group .and (ofBackends conditions)
  | .or conditions => .group .or (ofBackends conditions)
  | .not condition => .not (.ofBackend condition)

/-- The conditions of a group. -/
def ConditionExpr.ofBackends : List Domain.ConditionExpr → List ConditionExpr
  | [] => []
  | condition :: conditions => .ofBackend condition :: ofBackends conditions

end

def RuleTrigger.ofBackend : Domain.RuleTrigger → RuleTrigger
  | .eventReceived => .eventReceived
  | .routeMatched routeId => .routeMatched (ofString routeId.raw)
  | .commandRequested templateId => .commandRequested (ofString templateId.raw)

def ActionIntentTemplate.ofBackend : Domain.ActionIntentTemplate → ActionIntentTemplate
  | .streamToUi => .streamToUi
  | .forwardToSink sinkId => .forwardToSink (ofString sinkId.raw)
  | .executeCommand commandTemplateId params =>
    .executeCommand (some (ofString commandTemplateId.raw)) (some (setProperties (ofEntries params)))
  | .dropEvent => .dropEvent
  | .addMetadata key value => .addMetadata (ofString key) (ofString value)

/-- The rule that the browser reads from what the backend writes. -/
def RuleDefinition.ofBackend (rule : Domain.RuleDefinition) : RuleDefinition where
  actions := rule.actions.map .ofBackend
  condition := rule.condition.map .ofBackend
  enabled := rule.enabled
  id := ofString rule.id.raw
  name := ofString rule.name
  trigger := .ofBackend rule.trigger

end Generated

/-! ## Drafts -/

/-- `RuleTriggerType`. -/
inductive RuleTriggerType where
  | eventReceived
  | routeMatched
  | commandRequested
  deriving DecidableEq, Repr

/-- `RuleActionType`, and the type of the action that it does not have. -/
inductive RuleActionType where
  | streamToUi
  | forwardToSink
  | publishCommand
  | dropEvent
  | addMetadata
  | executeCommand
  deriving DecidableEq, Repr

/-- `RuleConditionOperator`. -/
inductive RuleConditionOperator where
  | exists
  | comparison (op : Generated.Comparison)
  | group (op : Generated.Group)
  | not
  deriving DecidableEq, Repr

/-- `RuleFieldSource`. -/
inductive RuleFieldSource where
  | event
  | payload
  | extracted
  | deviceId
  | eventType
  | topic
  deriving DecidableEq, Repr

/-- `RuleLiteralKind`. -/
inductive RuleLiteralKind where
  | string
  | number
  | boolean
  | null
  | json
  deriving DecidableEq, Repr

/-- The `type` of a `RuleValueDraft`. -/
inductive RuleValueType where
  | field
  | literal
  deriving DecidableEq, Repr

/-- `RuleFieldDraft`. -/
structure RuleFieldDraft where
  source : RuleFieldSource
  value : JsString
  deriving DecidableEq, Repr

/-- `RuleValueDraft`. -/
structure RuleValueDraft where
  field : RuleFieldDraft
  literalKind : RuleLiteralKind
  literalValue : JsString
  type : RuleValueType
  deriving DecidableEq, Repr

/-- `RuleConditionDraft`, without the key that a list of the page shows it under. -/
structure RuleConditionDraft where
  children : List RuleConditionDraft
  field : RuleFieldDraft
  left : RuleValueDraft
  op : RuleConditionOperator
  right : RuleValueDraft

/-- `RuleActionDraft`, without its key. -/
structure RuleActionDraft where
  metadataKey : JsString
  metadataValue : JsString
  targetId : JsString
  type : RuleActionType
  deriving DecidableEq, Repr

/-- `RuleFormDraft`. -/
structure RuleFormDraft where
  actions : List RuleActionDraft
  condition : RuleConditionDraft
  conditionEnabled : Bool
  enabled : Bool
  id : JsString
  name : JsString
  triggerTargetId : JsString
  triggerType : RuleTriggerType

/-- The message of an issue: a text of the application, or the one that the engine gives to a
failure of `JSON.parse`. -/
inductive IssueMessage where
  | text (message : String)
  | syntaxError (json : JsString)
  deriving DecidableEq, Repr

/-- `RuleValidationIssue`. -/
structure RuleValidationIssue where
  message : IssueMessage
  path : String
  deriving DecidableEq, Repr

def MAX_IMPORTED_CONDITION_DEPTH : Nat := 16
def MAX_IMPORTED_CONDITION_NODES : Nat := 256
def MAX_IMPORTED_ACTIONS : Nat := 16
def MAX_IMPORTED_JSON_LITERAL_BYTES : Nat := 8192

/-- `createFieldDraft`. -/
def createFieldDraft : RuleFieldDraft := ⟨.extracted, []⟩

/-- `createValueDraft`. -/
def createValueDraft : RuleValueDraft := ⟨createFieldDraft, .string, [], .field⟩

/-- The draft that `createConditionDraft` makes of an operator and children. -/
def emptyConditionDraft (op : RuleConditionOperator) (children : List RuleConditionDraft) :
    RuleConditionDraft where
  children
  field := createFieldDraft
  left := createValueDraft
  op
  right := { createValueDraft with type := .literal }

/-- `createConditionDraft`. -/
def createConditionDraft (op : RuleConditionOperator) : RuleConditionDraft :=
  emptyConditionDraft op
    (if op = .not then [emptyConditionDraft (.comparison .equals) []] else [])

/-- `createActionDraft`. -/
def createActionDraft (type : RuleActionType) : RuleActionDraft := ⟨[], [], [], type⟩

/-! ## From rules to drafts -/

/-- `fieldToDraft`. -/
def fieldToDraft : Generated.FieldRef → RuleFieldDraft
  | .event path => ⟨.event, path⟩
  | .payload path => ⟨.payload, path⟩
  | .extracted name => ⟨.extracted, name⟩
  | .deviceId => ⟨.deviceId, []⟩
  | .eventType => ⟨.eventType, []⟩
  | .topic => ⟨.topic, []⟩

/-- `literalToDraft`. -/
def literalToDraft (value : JsValue) : Except String (RuleLiteralKind × JsString) :=
  match value with
  | .null => .ok (.null, [])
  | .string value => .ok (.string, value)
  | .number value => .ok (.number, value.toText)
  | .bool value => .ok (.boolean, if value then ofString "true" else ofString "false")
  | .array _ | .object _ =>
    let literalValue := stringifyJson value
    if MAX_IMPORTED_JSON_LITERAL_BYTES < byteLength literalValue then
      .error "Stored JSON literal exceeds the 8192-byte UI limit."
    else .ok (.json, literalValue)

/-- `valueToDraft`. -/
def valueToDraft : Generated.ValueExpr → Except String RuleValueDraft
  | .field field => .ok { createValueDraft with field := fieldToDraft field }
  | .literal value => do
    let (literalKind, literalValue) ← literalToDraft value
    return { createValueDraft with literalKind, literalValue, type := .literal }

mutual

/-- `conditionToDraft`, with the count of the nodes. -/
def conditionToDraft (condition : Generated.ConditionExpr) (depth nodeCount : Nat) :
    Except String (RuleConditionDraft × Nat) :=
  if MAX_IMPORTED_CONDITION_DEPTH < depth ∨ MAX_IMPORTED_CONDITION_NODES < nodeCount + 1 then
    .error "Stored condition exceeds supported rule-engine limits."
  else
    match condition with
    | .exists field =>
      .ok ({ createConditionDraft .exists with field := fieldToDraft field }, nodeCount + 1)
    | .group op conditions => do
      let (children, nodeCount) ← conditionsToDraft conditions (depth + 1) (nodeCount + 1)
      return ({ createConditionDraft (.group op) with children }, nodeCount)
    | .not condition => do
      let (child, nodeCount) ← conditionToDraft condition (depth + 1) (nodeCount + 1)
      return ({ createConditionDraft .not with children := [child] }, nodeCount)
    | .comparison op left right => do
      let left ← valueToDraft left
      let right ← valueToDraft right
      return ({ createConditionDraft (.comparison op) with left, right }, nodeCount + 1)

/-- `condition.conditions.map`. -/
def conditionsToDraft (conditions : List Generated.ConditionExpr) (depth nodeCount : Nat) :
    Except String (List RuleConditionDraft × Nat) :=
  match conditions with
  | [] => .ok ([], nodeCount)
  | condition :: conditions => do
    let (child, nodeCount) ← conditionToDraft condition depth nodeCount
    let (children, nodeCount) ← conditionsToDraft conditions depth nodeCount
    return (child :: children, nodeCount)

end

/-- `actionToDraft`. -/
def actionToDraft : Generated.ActionIntentTemplate → RuleActionDraft
  | .streamToUi => createActionDraft .streamToUi
  | .forwardToSink sinkId => { createActionDraft .forwardToSink with targetId := sinkId }
  | .publishCommand templateId => { createActionDraft .publishCommand with targetId := templateId }
  | .dropEvent => createActionDraft .dropEvent
  | .addMetadata key value =>
    { createActionDraft .addMetadata with metadataKey := key, metadataValue := value }
  -- The `switch` has no case for it.
  | .executeCommand _ _ => createActionDraft .executeCommand

/-- The `triggerTargetId` of `ruleToDraft`. -/
def triggerTargetId : Generated.RuleTrigger → JsString
  | .eventReceived => []
  | .routeMatched routeId => routeId
  | .commandRequested templateId => templateId

/-- `rule.trigger.type`. -/
def triggerType : Generated.RuleTrigger → RuleTriggerType
  | .eventReceived => .eventReceived
  | .routeMatched _ => .routeMatched
  | .commandRequested _ => .commandRequested

/-- `ruleToDraft`. -/
def ruleToDraft (rule : Generated.RuleDefinition) : Except String RuleFormDraft :=
  if MAX_IMPORTED_ACTIONS < rule.actions.length then
    .error s!"Stored rule exceeds the {MAX_IMPORTED_ACTIONS}-action runtime limit."
  else do
    let condition ←
      match rule.condition with
      | some condition => (conditionToDraft condition 1 0).map Prod.fst
      | none => .ok (createConditionDraft (.comparison .equals))
    return {
      actions := rule.actions.map actionToDraft
      condition
      conditionEnabled := rule.condition.isSome
      enabled := rule.enabled
      id := rule.id
      name := rule.name
      triggerTargetId := triggerTargetId rule.trigger
      triggerType := triggerType rule.trigger }

/-! ## From drafts to rules -/

/-- `fieldFromDraft`. -/
def fieldFromDraft (field : RuleFieldDraft) : Generated.FieldRef :=
  match field.source with
  | .event => .event (trim field.value)
  | .payload => .payload (trim field.value)
  | .extracted => .extracted (trim field.value)
  | .deviceId => .deviceId
  | .eventType => .eventType
  | .topic => .topic

/-- `literalFromDraft`. -/
def literalFromDraft (value : RuleValueDraft) : Except IssueMessage JsValue :=
  match value.literalKind with
  | .number =>
    let parsed := toNumber value.literalValue
    if trim value.literalValue = [] ∨ parsed.isFinite = false then
      .error (.text "Literal number must be finite.")
    else .ok (.number parsed)
  | .boolean => .ok (.bool (value.literalValue == ofString "true"))
  | .null => .ok .null
  | .json =>
    match parseJson value.literalValue with
    | some parsed => .ok parsed
    | none => .error (.syntaxError value.literalValue)
  | .string => .ok (.string value.literalValue)

/-- `valueFromDraft`. -/
def valueFromDraft (value : RuleValueDraft) : Except IssueMessage Generated.ValueExpr :=
  match value.type with
  | .field => .ok (.field (fieldFromDraft value.field))
  | .literal => (literalFromDraft value).map .literal

mutual

/-- `conditionFromDraft`. -/
def conditionFromDraft : RuleConditionDraft → Except IssueMessage Generated.ConditionExpr
  | ⟨children, field, left, op, right⟩ =>
    match op with
    | .exists => .ok (.exists (fieldFromDraft field))
    | .group op => (conditionsFromDraft children).map (.group op)
    | .not =>
      match children with
      | [] => .error (.text "Not condition requires one child.")
      | child :: _ => (conditionFromDraft child).map .not
    | .comparison op => do
      let left ← valueFromDraft left
      let right ← valueFromDraft right
      return .comparison op left right

/-- `condition.children.map(conditionFromDraft)`. -/
def conditionsFromDraft : List RuleConditionDraft →
    Except IssueMessage (List Generated.ConditionExpr)
  | [] => .ok []
  | child :: children => do
    let condition ← conditionFromDraft child
    let conditions ← conditionsFromDraft children
    return condition :: conditions

end

/-- `actionFromDraft`. -/
def actionFromDraft (action : RuleActionDraft) : Generated.ActionIntentTemplate :=
  match action.type with
  | .forwardToSink => .forwardToSink action.targetId
  | .publishCommand => .publishCommand action.targetId
  | .addMetadata => .addMetadata action.metadataKey action.metadataValue
  -- The object of the default case has its type and no other field.
  | .streamToUi => .streamToUi
  | .dropEvent => .dropEvent
  | .executeCommand => .executeCommand none none

/-- The trigger of `mapRuleDraft`. -/
def triggerFromDraft (draft : RuleFormDraft) : Generated.RuleTrigger :=
  match draft.triggerType with
  | .routeMatched => .routeMatched draft.triggerTargetId
  | .commandRequested => .commandRequested draft.triggerTargetId
  | .eventReceived => .eventReceived

/-- `mapRuleDraft`. -/
def mapRuleDraft (draft : RuleFormDraft) : Except RuleValidationIssue Generated.RuleDefinition :=
  let condition :=
    if draft.conditionEnabled then (conditionFromDraft draft.condition).map some else .ok none
  match condition with
  | .ok condition =>
    .ok {
      actions := draft.actions.map actionFromDraft
      condition
      enabled := draft.enabled
      id := trim draft.id
      name := trim draft.name
      trigger := triggerFromDraft draft }
  | .error message => .error ⟨message, "condition"⟩

end Web
end PipeBolt
