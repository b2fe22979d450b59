import PipeBolt.Domain.RuleDeserialize
import PipeBolt.Js.Utf16
import PipeBolt.Web.RuleMapper

/-!
# The JSON of a rule

The rule of the builder is sent as the text that `JSON.stringify` makes of it, and the backend
reads that text with `serde_json`.

`serde_json` is a parameter with a law: it refuses a string with a lone surrogate, which
`JSON.stringify` writes as an escape, and a text in which more than 127 arrays and objects are
nested.  How it reads a number is left open: it reads every number that `JSON.stringify` writes.

* `SerdeReader`: a reader with this law, and `SerdeReader.ofNumber`: there is one for every reading
  of numbers.
* `RuleDefinition.deserialize_toJs`: the fields that the builder writes are those that the backend
  reads, except for the actions that it does not have.
-/

namespace PipeBolt
namespace Web

open Js Rust

/-! ## Reading -/

/-- The arrays and objects that `serde_json` reads inside of each other: it stops at its recursion
limit of 128. -/
def MAX_NESTING : Nat := 127

/-- A string between quotes. -/
def readString (value : JsString) : Option String :=
  if isWellFormed value then some (toText value) else none

section Read

variable (number : JsNumber → Domain.Number)

mutual

/-- A value read by its structure, with the arrays and objects that may still be nested. -/
def readJson (depth : Nat) : JsValue → Option Domain.Value
  | .null => some .null
  | .bool value => some (.bool value)
  -- `JSON.stringify` writes `null` for a number that is not finite.
  | .number value => some (if value.isFinite then .number (number value) else .null)
  | .string value => (readString value).map .string
  | .array values =>
    match depth with
    | 0 => none
    | depth + 1 => (readItems depth values).map .array
  | .object properties =>
    match depth with
    | 0 => none
    | depth + 1 =>
      (readProperties depth properties).map fun entries => .object (BTreeMap.extend [] entries)

/-- The elements of an array. -/
def readItems (depth : Nat) : List JsValue → Option (List Domain.Value)
  | [] => some []
  | value :: values => do
    let value ← readJson depth value
    let values ← readItems depth values
    return value :: values

/-- The properties of an object. -/
def readProperties (depth : Nat) : List (JsString × JsValue) → Option (List (String × Domain.Value))
  | [] => some []
  | (key, value) :: properties => do
    let key ← readString key
    let value ← readJson depth value
    let entries ← readProperties depth properties
    return (key, value) :: entries

end

mutual

/-- The value that is read, if one is. -/
def toValue : JsValue → Domain.Value
  | .null => .null
  | .bool value => .bool value
  | .number value => if value.isFinite then .number (number value) else .null
  | .string value => .string (toText value)
  | .array values => .array (toValues values)
  | .object properties => .object (BTreeMap.extend [] (toEntries properties))

/-- The elements of an array. -/
def toValues : List JsValue → List Domain.Value
  | [] => []
  | value :: values => toValue value :: toValues values

/-- The entries of an object, in the order of the text. -/
def toEntries : List (JsString × JsValue) → List (String × Domain.Value)
  | [] => []
  | (key, value) :: properties => (toText key, toValue value) :: toEntries properties

end

end Read

mutual

/-- The strings of a value, with the keys of its objects. -/
def jsonStrings : JsValue → List JsString
  | .null | .bool _ | .number _ => []
  | .string value => [value]
  | .array values => itemStrings values
  | .object properties => propertyStrings properties

/-- The strings of the elements of an array. -/
def itemStrings : List JsValue → List JsString
  | [] => []
  | value :: values => jsonStrings value ++ itemStrings values

/-- The keys of an object, with the strings of its values. -/
def propertyStrings : List (JsString × JsValue) → List JsString
  | [] => []
  | (key, value) :: properties => key :: jsonStrings value ++ propertyStrings properties

end

mutual

/-- The arrays and objects that are nested in a value. -/
def jsonNesting : JsValue → Nat
  | .null | .bool _ | .number _ | .string _ => 0
  | .array values => itemNesting values + 1
  | .object properties => propertyNesting properties + 1

/-- Of the elements of an array, the deepest nesting. -/
def itemNesting : List JsValue → Nat
  | [] => 0
  | value :: values => max (jsonNesting value) (itemNesting values)

/-- Of the values of an object, the deepest nesting. -/
def propertyNesting : List (JsString × JsValue) → Nat
  | [] => 0
  | (_, value) :: properties => max (jsonNesting value) (propertyNesting properties)

end

/-- Every text has no lone surrogate. -/
def AllWellFormed (texts : List JsString) : Prop := ∀ text ∈ texts, isWellFormed text = true

@[simp]
theorem allWellFormed_nil : AllWellFormed [] := fun _ h => absurd h List.not_mem_nil

@[simp]
theorem allWellFormed_append {texts texts' : List JsString} :
    AllWellFormed (texts ++ texts') ↔ AllWellFormed texts ∧ AllWellFormed texts' := by
  simp [AllWellFormed, or_imp, forall_and]

@[simp]
theorem allWellFormed_cons {text : JsString} {texts : List JsString} :
    AllWellFormed (text :: texts) ↔ isWellFormed text = true ∧ AllWellFormed texts := by
  simp [AllWellFormed]

section Read

variable {number : JsNumber → Domain.Number}

theorem readString_eq_some_iff {value : JsString} {text : String} :
    readString value = some text ↔ isWellFormed value = true ∧ text = toText value := by
  rw [readString, Option.ite_none_right_eq_some, Option.some_inj, eq_comm (a := toText value)]

mutual

/-- A value is read exactly when no string has a lone surrogate and it does not nest too deep. -/
theorem readJson_eq_some_iff : ∀ {value : JsValue} {depth : Nat} {read : Domain.Value},
    readJson number depth value = some read ↔
      AllWellFormed (jsonStrings value) ∧ jsonNesting value ≤ depth ∧ read = toValue number value
  | .null, depth, read => by
    simp [readJson, jsonStrings, jsonNesting, toValue, eq_comm (b := read)]
  | .bool value, depth, read => by
    simp [readJson, jsonStrings, jsonNesting, toValue, eq_comm (b := read)]
  | .number value, depth, read => by
    simp [readJson, jsonStrings, jsonNesting, toValue, eq_comm (b := read)]
  | .string value, depth, read => by
    simp [readJson, jsonStrings, jsonNesting, toValue, readString_eq_some_iff,
      eq_comm (b := read)]
  | .array values, 0, read => by
    simp [readJson, jsonNesting]
  | .array values, depth + 1, read => by
    rw [readJson, Option.map_eq_some_iff, jsonStrings, jsonNesting, Nat.add_le_add_iff_right,
      toValue]
    constructor
    · rintro ⟨items, hitems, rfl⟩
      obtain ⟨hwell, hdepth, rfl⟩ := readItems_eq_some_iff.mp hitems
      exact ⟨hwell, hdepth, rfl⟩
    · rintro ⟨hwell, hdepth, rfl⟩
      exact ⟨_, readItems_eq_some_iff.mpr ⟨hwell, hdepth, rfl⟩, rfl⟩
  | .object properties, 0, read => by
    simp [readJson, jsonNesting]
  | .object properties, depth + 1, read => by
    rw [readJson, Option.map_eq_some_iff, jsonStrings, jsonNesting, Nat.add_le_add_iff_right,
      toValue]
    constructor
    · rintro ⟨entries, hentries, rfl⟩
      obtain ⟨hwell, hdepth, rfl⟩ := readProperties_eq_some_iff.mp hentries
      exact ⟨hwell, hdepth, rfl⟩
    · rintro ⟨hwell, hdepth, rfl⟩
      exact ⟨_, readProperties_eq_some_iff.mpr ⟨hwell, hdepth, rfl⟩, rfl⟩

theorem readItems_eq_some_iff : ∀ {values : List JsValue} {depth : Nat} {read : List Domain.Value},
    readItems number depth values = some read ↔
      AllWellFormed (itemStrings values) ∧ itemNesting values ≤ depth ∧
        read = toValues number values
  | [], depth, read => by
    simp [readItems, itemStrings, itemNesting, toValues, eq_comm (b := read)]
  | value :: values, depth, read => by
    rw [readItems, Option.bind_eq_bind, Option.bind_eq_some_iff, itemStrings, allWellFormed_append,
      itemNesting, Nat.max_le, toValues]
    constructor
    · rintro ⟨first, hfirst, h⟩
      obtain ⟨rest, hrest, h⟩ := Option.bind_eq_some_iff.mp h
      obtain ⟨hwell, hdepth, rfl⟩ := readJson_eq_some_iff.mp hfirst
      obtain ⟨hwells, hdepths, rfl⟩ := readItems_eq_some_iff.mp hrest
      exact ⟨⟨hwell, hwells⟩, ⟨hdepth, hdepths⟩, (Option.some.inj h).symm⟩
    · rintro ⟨⟨hwell, hwells⟩, ⟨hdepth, hdepths⟩, rfl⟩
      refine ⟨_, readJson_eq_some_iff.mpr ⟨hwell, hdepth, rfl⟩, ?_⟩
      exact Option.bind_eq_some_iff.mpr
        ⟨_, readItems_eq_some_iff.mpr ⟨hwells, hdepths, rfl⟩, rfl⟩

theorem readProperties_eq_some_iff : ∀ {properties : List (JsString × JsValue)} {depth : Nat}
    {read : List (String × Domain.Value)},
    readProperties number depth properties = some read ↔
      AllWellFormed (propertyStrings properties) ∧ propertyNesting properties ≤ depth ∧
        read = toEntries number properties
  | [], depth, read => by
    simp [readProperties, propertyStrings, propertyNesting, toEntries,
      eq_comm (b := read)]
  | (key, value) :: properties, depth, read => by
    rw [readProperties, Option.bind_eq_bind, Option.bind_eq_some_iff, propertyStrings,
      List.cons_append, allWellFormed_cons, allWellFormed_append, propertyNesting, Nat.max_le,
      toEntries]
    constructor
    · rintro ⟨text, htext, h⟩
      obtain ⟨first, hfirst, h⟩ := Option.bind_eq_some_iff.mp h
      obtain ⟨rest, hrest, h⟩ := Option.bind_eq_some_iff.mp h
      obtain ⟨hkey, rfl⟩ := readString_eq_some_iff.mp htext
      obtain ⟨hwell, hdepth, rfl⟩ := readJson_eq_some_iff.mp hfirst
      obtain ⟨hwells, hdepths, rfl⟩ := readProperties_eq_some_iff.mp hrest
      exact ⟨⟨hkey, hwell, hwells⟩, ⟨hdepth, hdepths⟩, (Option.some.inj h).symm⟩
    · rintro ⟨⟨hkey, hwell, hwells⟩, ⟨hdepth, hdepths⟩, rfl⟩
      refine ⟨_, readString_eq_some_iff.mpr ⟨hkey, rfl⟩, ?_⟩
      refine Option.bind_eq_some_iff.mpr ⟨_, readJson_eq_some_iff.mpr ⟨hwell, hdepth, rfl⟩, ?_⟩
      exact Option.bind_eq_some_iff.mpr
        ⟨_, readProperties_eq_some_iff.mpr ⟨hwells, hdepths, rfl⟩, rfl⟩

end

end Read

/-- `serde_json` on the texts that `JSON.stringify` writes: how it reads their numbers, and a value
with the arrays and objects that may still be nested. -/
structure SerdeReader where
  number : JsNumber → Domain.Number
  fromStr : Nat → JsValue → Option Domain.Value
  /-- It refuses a lone surrogate and what nests too deep, and nothing else. -/
  fromStr_eq_some_iff : ∀ {value : JsValue} {depth : Nat} {read : Domain.Value},
    fromStr depth value = some read ↔
      AllWellFormed (jsonStrings value) ∧ jsonNesting value ≤ depth ∧ read = toValue number value

/-- The reader that goes through the value. -/
def SerdeReader.ofNumber (number : JsNumber → Domain.Number) : SerdeReader :=
  ⟨number, readJson number, readJson_eq_some_iff⟩

/-! ## Writing -/

/-- A text of the application. -/
def jsonText (text : String) : JsValue := .string (ofString text)

/-- An object literal. -/
def jsonObject (fields : List (String × JsValue)) : JsValue :=
  .object (fields.map fun field => (ofString field.1, field.2))

namespace Generated

/-- The object of a field reference. -/
def FieldRef.toJs : FieldRef → JsValue
  | .event path => jsonObject [("path", .string path), ("source", jsonText "event")]
  | .payload path => jsonObject [("path", .string path), ("source", jsonText "payload")]
  | .extracted name => jsonObject [("name", .string name), ("source", jsonText "extracted")]
  | .deviceId => jsonObject [("source", jsonText "device_id")]
  | .eventType => jsonObject [("source", jsonText "event_type")]
  | .topic => jsonObject [("source", jsonText "topic")]

/-- The object of an operand. -/
def ValueExpr.toJs : ValueExpr → JsValue
  | .field ref => jsonObject [("field", ref.toJs), ("type", jsonText "field")]
  | .literal value => jsonObject [("type", jsonText "literal"), ("value", value)]

/-- The `op` of a comparison. -/
def Comparison.text : Comparison → String
  | .equals => "equals"
  | .notEquals => "not_equals"
  | .greaterThan => "greater_than"
  | .greaterThanOrEqual => "greater_than_or_equal"
  | .lessThan => "less_than"
  | .lessThanOrEqual => "less_than_or_equal"
  | .contains => "contains"

/-- The `op` of a group. -/
def Group.text : Group → String
  | .and => "and"
  | .or => "or"

mutual

/-- The object of a condition. -/
def ConditionExpr.toJs : ConditionExpr → JsValue
  | .exists field => jsonObject [("field", field.toJs), ("op", jsonText "exists")]
  | .comparison op left right =>
    jsonObject [("left", left.toJs), ("op", jsonText op.text), ("right", right.toJs)]
  | .group op conditions =>
    jsonObject [("conditions", .array (conditionsToJs conditions)), ("op", jsonText op.text)]
  | .not condition => jsonObject [("condition", condition.toJs), ("op", jsonText "not")]

/-- The conditions of a group. -/
def ConditionExpr.conditionsToJs : List ConditionExpr → List JsValue
  | [] => []
  | condition :: conditions => condition.toJs :: conditionsToJs conditions

end

/-- The object of a trigger. -/
def RuleTrigger.toJs : RuleTrigger → JsValue
  | .eventReceived => jsonObject [("type", jsonText "event_received")]
  | .routeMatched routeId =>
    jsonObject [("route_id", .string routeId), ("type", jsonText "route_matched")]
  | .commandRequested templateId =>
    jsonObject [("template_id", .string templateId), ("type", jsonText "command_requested")]

/-- The object of an action. -/
def ActionIntentTemplate.toJs : ActionIntentTemplate → JsValue
  | .streamToUi => jsonObject [("type", jsonText "stream_to_ui")]
  | .forwardToSink sinkId =>
    jsonObject [("sink_id", .string sinkId), ("type", jsonText "forward_to_sink")]
  | .publishCommand templateId =>
    jsonObject [("template_id", .string templateId), ("type", jsonText "publish_command")]
  | .dropEvent => jsonObject [("type", jsonText "drop_event")]
  | .addMetadata key value =>
    jsonObject [("key", .string key), ("type", jsonText "add_metadata"), ("value", .string value)]
  | .executeCommand commandTemplateId params =>
    jsonObject <| [("type", jsonText "execute_command")] ++
      (commandTemplateId.toList.map fun id => ("command_template_id", .string id)) ++
      params.toList.map fun params => ("params", .object params)

/-- The object of a rule. -/
def RuleDefinition.toJs (rule : RuleDefinition) : JsValue :=
  jsonObject [
    ("actions", .array (rule.actions.map ActionIntentTemplate.toJs)),
    ("condition", (rule.condition.map ConditionExpr.toJs).getD .null),
    ("enabled", .bool rule.enabled),
    ("id", .string rule.id),
    ("name", .string rule.name),
    ("trigger", rule.trigger.toJs)]

/-! ## What the backend makes of it -/

section Backend

variable (number : JsNumber → Domain.Number)

/-- The field reference that is read. -/
def FieldRef.toBackend : FieldRef → Domain.FieldRef
  | .event path => .event ⟨toText path⟩
  | .payload path => .payload ⟨toText path⟩
  | .extracted name => .extracted (toText name)
  | .deviceId => .deviceId
  | .eventType => .eventType
  | .topic => .topic

/-- The operand that is read. -/
def ValueExpr.toBackend : ValueExpr → Domain.ValueExpr
  | .field ref => .field ref.toBackend
  | .literal value => .literal (toValue number value)

/-- The comparison of the backend. -/
def Comparison.toBackend : Comparison → Domain.ValueExpr → Domain.ValueExpr → Domain.ConditionExpr
  | .equals => .equals
  | .notEquals => .notEquals
  | .greaterThan => .greaterThan
  | .greaterThanOrEqual => .greaterThanOrEqual
  | .lessThan => .lessThan
  | .lessThanOrEqual => .lessThanOrEqual
  | .contains => .contains

/-- The group of the backend. -/
def Group.toBackend : Group → List Domain.ConditionExpr → Domain.ConditionExpr
  | .and => .and
  | .or => .or

mutual

/-- The condition that is read. -/
def ConditionExpr.toBackend : ConditionExpr → Domain.ConditionExpr
  | .exists field => .exists field.toBackend
  | .comparison op left right => op.toBackend (left.toBackend number) (right.toBackend number)
  | .group op conditions => op.toBackend (conditionsToBackend conditions)
  | .not condition => .not condition.toBackend

/-- The conditions of a group. -/
def ConditionExpr.conditionsToBackend : List ConditionExpr → List Domain.ConditionExpr
  | [] => []
  | condition :: conditions => condition.toBackend :: conditionsToBackend conditions

end

/-- The trigger that is read. -/
def RuleTrigger.toBackend : RuleTrigger → Domain.RuleTrigger
  | .eventReceived => .eventReceived
  | .routeMatched routeId => .routeMatched ⟨toText routeId⟩
  | .commandRequested templateId => .commandRequested ⟨toText templateId⟩

/-- The action that is read; the backend has no `publish_command`, and its `execute_command` needs
a template. -/
def ActionIntentTemplate.toBackend : ActionIntentTemplate → Option Domain.ActionIntentTemplate
  | .streamToUi => some .streamToUi
  | .forwardToSink sinkId => some (.forwardToSink ⟨toText sinkId⟩)
  | .publishCommand _ => none
  | .dropEvent => some .dropEvent
  | .addMetadata key value => some (.addMetadata (toText key) (toText value))
  | .executeCommand none _ => none
  | .executeCommand (some commandTemplateId) params =>
    some (.executeCommand ⟨toText commandTemplateId⟩
      ((params.map fun params => BTreeMap.extend [] (toEntries number params)).getD []))

/-- The rule that is read. -/
def RuleDefinition.toBackend (rule : RuleDefinition) : Option Domain.RuleDefinition := do
  let actions ← rule.actions.mapM (ActionIntentTemplate.toBackend number)
  return {
    id := ⟨toText rule.id⟩
    name := toText rule.name
    enabled := rule.enabled
    trigger := rule.trigger.toBackend
    condition := rule.condition.map (ConditionExpr.toBackend number)
    actions }

end Backend

end Generated

section Fields

variable {number : JsNumber → Domain.Number}

/-- A field of an object literal is read under its name. -/
@[simp]
theorem get_jsonObject (fields : List (String × JsValue)) (key : String) :
    (toValue number (jsonObject fields)).get key =
      (fields.reverse.lookup key).map (toValue number) := by
  have hentries : ∀ fields : List (String × JsValue),
      toEntries number (fields.map fun field => (ofString field.1, field.2)) =
        fields.map fun field => (field.1, toValue number field.2) := by
    intro fields
    induction fields with
    | nil => rfl
    | cons field fields ih =>
      rw [List.map_cons, toEntries, ih, toText_ofString, List.map_cons]
  have hlookup : ∀ fields : List (String × JsValue),
      (fields.map fun field => (field.1, toValue number field.2)).lookup key =
        (fields.lookup key).map (toValue number) := by
    intro fields
    induction fields with
    | nil => rfl
    | cons field fields ih =>
      rw [List.map_cons, List.lookup_cons, List.lookup_cons, ih]
      split <;> rfl
  rw [jsonObject, toValue, hentries]
  refine (BTreeMap.get_foldl_insert _ [] key).trans ?_
  rw [← List.map_reverse, hlookup]
  exact Option.or_none

@[simp]
theorem toValue_jsonText (text : String) : toValue number (jsonText text) = .string text := by
  rw [jsonText, toValue, toText_ofString]

namespace Generated

open Domain (Value.textAt)

theorem FieldRef.deserialize_toJs (field : FieldRef) :
    Domain.FieldRef.deserialize (toValue number field.toJs) = some field.toBackend := by
  cases field <;>
    simp [FieldRef.toJs, Domain.FieldRef.deserialize, Domain.Value.textAt, List.lookup_cons,
      FieldRef.toBackend, toValue]

theorem ValueExpr.deserialize_toJs (value : ValueExpr) :
    Domain.ValueExpr.deserialize (toValue number value.toJs) = some (value.toBackend number) := by
  cases value <;>
    simp [ValueExpr.toJs, Domain.ValueExpr.deserialize, Domain.Value.textAt, List.lookup_cons,
      ValueExpr.toBackend, FieldRef.deserialize_toJs]

theorem RuleTrigger.deserialize_toJs (trigger : RuleTrigger) :
    Domain.RuleTrigger.deserialize (toValue number trigger.toJs) = some trigger.toBackend := by
  cases trigger <;>
    simp [RuleTrigger.toJs, Domain.RuleTrigger.deserialize, Domain.Value.textAt, List.lookup_cons,
      RuleTrigger.toBackend, toValue]

theorem conditionOf_jsonObject (fields : List (String × JsValue)) :
    Domain.conditionOf (toValue number (jsonObject fields)) =
      Domain.conditionOfFields (toValue number (jsonObject fields))
        (((fields.reverse.lookup "condition").map (toValue number)).map Domain.conditionOf)
        (((fields.reverse.lookup "conditions").map (toValue number)).map Domain.conditionsOf) := by
  rw [← get_jsonObject, ← get_jsonObject]
  exact Domain.conditionOf_object _

mutual

theorem ConditionExpr.deserialize_toJs : ∀ condition : ConditionExpr,
    Domain.conditionOf (toValue number condition.toJs) = some (condition.toBackend number)
  | .exists field => by
    rw [ConditionExpr.toJs, conditionOf_jsonObject]
    simp [Domain.conditionOfFields, Domain.Value.textAt, List.lookup_cons, ConditionExpr.toBackend,
      FieldRef.deserialize_toJs]
  | .comparison op left right => by
    rw [ConditionExpr.toJs, conditionOf_jsonObject]
    cases op <;>
      simp [Domain.conditionOfFields, Domain.comparisonOf, Domain.Value.textAt, List.lookup_cons,
        ConditionExpr.toBackend, Comparison.text, Comparison.toBackend,
        ValueExpr.deserialize_toJs]
  | .group op conditions => by
    have hmembers := ConditionExpr.conditionList_toJs conditions
    rw [ConditionExpr.toJs, conditionOf_jsonObject]
    cases op <;>
      simp [Domain.conditionOfFields, Domain.Value.textAt, List.lookup_cons,
        ConditionExpr.toBackend, Group.text, Group.toBackend, toValue, Domain.conditionsOf,
        hmembers]
  | .not condition => by
    have hmember := ConditionExpr.deserialize_toJs condition
    rw [ConditionExpr.toJs, conditionOf_jsonObject]
    simp [Domain.conditionOfFields, Domain.Value.textAt, List.lookup_cons, ConditionExpr.toBackend,
      hmember]

theorem ConditionExpr.conditionList_toJs : ∀ conditions : List ConditionExpr,
    Domain.conditionList (toValues number (conditionsToJs conditions)) =
      some (conditionsToBackend number conditions)
  | [] => by rw [conditionsToJs, toValues, Domain.conditionList, conditionsToBackend]
  | condition :: conditions => by
    rw [conditionsToJs, toValues, Domain.conditionList,
      ConditionExpr.deserialize_toJs condition, ConditionExpr.conditionList_toJs conditions,
      conditionsToBackend]
    rfl

end

theorem optionalConditionOf_toJs (condition : ConditionExpr) :
    Domain.optionalConditionOf (some (toValue number condition.toJs)) =
      some (some (condition.toBackend number)) := by
  obtain ⟨fields, hfields⟩ : ∃ fields, condition.toJs = jsonObject fields := by
    cases condition with
    | _ => exact ⟨_, by rw [ConditionExpr.toJs]⟩
  have hread : Domain.conditionOf (toValue number condition.toJs) =
      some (condition.toBackend number) := ConditionExpr.deserialize_toJs condition
  rw [hfields] at hread ⊢
  exact congrArg (Option.map some) hread

theorem ActionIntentTemplate.deserialize_toJs (action : ActionIntentTemplate) :
    Domain.ActionIntentTemplate.deserialize (toValue number action.toJs) =
      action.toBackend number := by
  cases action with
  | executeCommand commandTemplateId params =>
    cases commandTemplateId <;> cases params <;>
      simp [ActionIntentTemplate.toJs, Domain.ActionIntentTemplate.deserialize,
        Domain.Value.textAt, Domain.paramsOf, List.lookup_cons, ActionIntentTemplate.toBackend,
        toValue]
  | _ =>
    simp [ActionIntentTemplate.toJs, Domain.ActionIntentTemplate.deserialize,
      Domain.Value.textAt, List.lookup_cons, ActionIntentTemplate.toBackend, toValue]

theorem actionsOf_toJs (actions : List ActionIntentTemplate) :
    Domain.actionsOf (.array (toValues number (actions.map ActionIntentTemplate.toJs))) =
      actions.mapM (ActionIntentTemplate.toBackend number) := by
  rw [Domain.actionsOf]
  induction actions with
  | nil => rfl
  | cons action actions ih =>
    rw [List.map_cons, toValues, List.mapM_cons, List.mapM_cons, ih,
      ActionIntentTemplate.deserialize_toJs]

/-- The fields that the builder writes are those that the backend reads. -/
theorem RuleDefinition.deserialize_toJs (rule : RuleDefinition) :
    Domain.RuleDefinition.deserialize (toValue number rule.toJs) = rule.toBackend number := by
  have hcondition : Domain.optionalConditionOf
      (some (toValue number ((rule.condition.map ConditionExpr.toJs).getD .null))) =
        some (rule.condition.map (ConditionExpr.toBackend number)) := by
    cases rule.condition with
    | none => rfl
    | some condition => exact optionalConditionOf_toJs condition
  simp [RuleDefinition.toJs, Domain.RuleDefinition.deserialize, Domain.Value.textAt,
    Domain.Value.boolAt, List.lookup_cons, RuleDefinition.toBackend, toValue,
    RuleTrigger.deserialize_toJs, hcondition, actionsOf_toJs]

end Generated

end Fields

end Web
end PipeBolt
