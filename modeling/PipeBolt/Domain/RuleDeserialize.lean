import PipeBolt.Domain.Json
import PipeBolt.Rust.BTreeMap

/-!
# Rules from JSON

The derived `Deserialize` of the types of `pipe_bolt_domain::rule` and `pipe_bolt_domain::action`,
on objects: an enumeration is told by its tag, a field by its name, and a field that is missing, of
another type or of an unknown variant is refused.

Serde reads these types from arrays as well, which nothing writes.

* `conditionOf_object`: a condition is read from the fields of its object.
-/

namespace PipeBolt
namespace Domain

open Rust

/-! ## Fields -/

/-- A field that holds a text. -/
def Value.textAt (value : Value) (key : String) : Option String :=
  match value.get key with
  | some (.string text) => some text
  | _ => none

/-- A field that holds a truth value. -/
def Value.boolAt (value : Value) (key : String) : Option Bool :=
  match value.get key with
  | some (.bool value) => some value
  | _ => none

/-! ## Conditions -/

/-- `FieldRef`, tagged by `source`. -/
def FieldRef.deserialize (value : Value) : Option FieldRef :=
  match value.textAt "source" with
  | some "event" => (value.textAt "path").map fun path => .event ⟨path⟩
  | some "payload" => (value.textAt "path").map fun path => .payload ⟨path⟩
  | some "extracted" => (value.textAt "name").map .extracted
  | some "device_id" => some .deviceId
  | some "event_type" => some .eventType
  | some "topic" => some .topic
  | _ => none

/-- `ValueExpr`, tagged by `type`. -/
def ValueExpr.deserialize (value : Value) : Option ValueExpr :=
  match value.textAt "type" with
  | some "field" => do return .field (← FieldRef.deserialize (← value.get "field"))
  | some "literal" => (value.get "value").map .literal
  | _ => none

/-- The operands of a comparison. -/
def comparisonOf (value : Value) (comparison : ValueExpr → ValueExpr → ConditionExpr) :
    Option ConditionExpr := do
  let left ← ValueExpr.deserialize (← value.get "left")
  let right ← ValueExpr.deserialize (← value.get "right")
  return comparison left right

/-- `ConditionExpr`, tagged by `op`, from an object and what its fields are read as. -/
def conditionOfFields (value : Value) (condition : Option (Option ConditionExpr))
    (conditions : Option (Option (List ConditionExpr))) : Option ConditionExpr :=
  match value.textAt "op" with
  | some "exists" => do return .exists (← FieldRef.deserialize (← value.get "field"))
  | some "equals" => comparisonOf value .equals
  | some "not_equals" => comparisonOf value .notEquals
  | some "greater_than" => comparisonOf value .greaterThan
  | some "greater_than_or_equal" => comparisonOf value .greaterThanOrEqual
  | some "less_than" => comparisonOf value .lessThan
  | some "less_than_or_equal" => comparisonOf value .lessThanOrEqual
  | some "contains" => comparisonOf value .contains
  | some "and" => (conditions.join).map .and
  | some "or" => (conditions.join).map .or
  | some "not" => (condition.join).map .not
  | _ => none

mutual

/-- `ConditionExpr`. -/
def conditionOf : Value → Option ConditionExpr
  | .object entries =>
    conditionOfFields (.object entries) ((conditionEntries entries).lookup "condition")
      ((conditionsEntries entries).lookup "conditions")
  | .null | .bool _ | .number _ | .string _ | .array _ => none

/-- `Vec<ConditionExpr>`. -/
def conditionsOf : Value → Option (List ConditionExpr)
  | .array values => conditionList values
  | .null | .bool _ | .number _ | .string _ | .object _ => none

/-- The elements of an array as conditions. -/
def conditionList : List Value → Option (List ConditionExpr)
  | [] => some []
  | value :: values => do
    let condition ← conditionOf value
    let conditions ← conditionList values
    return condition :: conditions

/-- The entries of an object as conditions. -/
def conditionEntries : List (String × Value) → List (String × Option ConditionExpr)
  | [] => []
  | (key, value) :: entries => (key, conditionOf value) :: conditionEntries entries

/-- The entries of an object as lists of conditions. -/
def conditionsEntries : List (String × Value) → List (String × Option (List ConditionExpr))
  | [] => []
  | (key, value) :: entries => (key, conditionsOf value) :: conditionsEntries entries

end

theorem lookup_conditionEntries (entries : List (String × Value)) (key : String) :
    (conditionEntries entries).lookup key = ((Value.object entries).get key).map conditionOf := by
  induction entries with
  | nil => rfl
  | cons entry entries ih =>
    obtain ⟨k, value⟩ := entry
    rw [Value.get] at ih ⊢
    by_cases hkey : k = key
    · simp [conditionEntries, hkey]
    · simp [conditionEntries, List.lookup_cons, hkey, beq_eq_false_iff_ne.mpr (Ne.symm hkey), ih]

theorem lookup_conditionsEntries (entries : List (String × Value)) (key : String) :
    (conditionsEntries entries).lookup key =
      ((Value.object entries).get key).map conditionsOf := by
  induction entries with
  | nil => rfl
  | cons entry entries ih =>
    obtain ⟨k, value⟩ := entry
    rw [Value.get] at ih ⊢
    by_cases hkey : k = key
    · simp [conditionsEntries, hkey]
    · simp [conditionsEntries, List.lookup_cons, hkey, beq_eq_false_iff_ne.mpr (Ne.symm hkey), ih]

/-- A condition is read from the fields of its object. -/
theorem conditionOf_object (entries : List (String × Value)) :
    conditionOf (.object entries) =
      conditionOfFields (.object entries)
        (((Value.object entries).get "condition").map conditionOf)
        (((Value.object entries).get "conditions").map conditionsOf) := by
  rw [conditionOf, lookup_conditionEntries, lookup_conditionsEntries]

/-! ## Rules -/

/-- `RuleTrigger`, tagged by `type`. -/
def RuleTrigger.deserialize (value : Value) : Option RuleTrigger :=
  match value.textAt "type" with
  | some "event_received" => some .eventReceived
  | some "route_matched" => (value.textAt "route_id").map fun id => .routeMatched ⟨id⟩
  | some "command_requested" => (value.textAt "template_id").map fun id => .commandRequested ⟨id⟩
  | _ => none

/-- `#[serde(default)] params` of an `execute_command`. -/
def paramsOf (value : Value) : Option ValueMap :=
  match value.get "params" with
  | none => some []
  | some (.object entries) => some entries
  | some _ => none

/-- `ActionIntentTemplate`, tagged by `type`. -/
def ActionIntentTemplate.deserialize (value : Value) : Option ActionIntentTemplate :=
  match value.textAt "type" with
  | some "stream_to_ui" => some .streamToUi
  | some "forward_to_sink" => (value.textAt "sink_id").map fun id => .forwardToSink ⟨id⟩
  | some "execute_command" => do
    let id ← value.textAt "command_template_id"
    let params ← paramsOf value
    return .executeCommand ⟨id⟩ params
  | some "drop_event" => some .dropEvent
  | some "add_metadata" => do
    let key ← value.textAt "key"
    let text ← value.textAt "value"
    return .addMetadata key text
  | _ => none

/-- `Option<ConditionExpr>`: `null` and a missing field are no condition. -/
def optionalConditionOf : Option Value → Option (Option ConditionExpr)
  | none | some .null => some none
  | some value => (conditionOf value).map some

/-- `Vec<ActionIntentTemplate>`. -/
def actionsOf : Value → Option (List ActionIntentTemplate)
  | .array values => values.mapM ActionIntentTemplate.deserialize
  | .null | .bool _ | .number _ | .string _ | .object _ => none

/-- `RuleDefinition`. -/
def RuleDefinition.deserialize (value : Value) : Option RuleDefinition := do
  let id ← value.textAt "id"
  let name ← value.textAt "name"
  let enabled ← value.boolAt "enabled"
  let trigger ← RuleTrigger.deserialize (← value.get "trigger")
  let condition ← optionalConditionOf (value.get "condition")
  let actions ← actionsOf (← value.get "actions")
  return { id := ⟨id⟩, name, enabled, trigger, condition, actions }

end Domain
end PipeBolt
