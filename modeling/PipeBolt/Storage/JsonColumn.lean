import PipeBolt.Storage.Versions

/-!
# The JSON values of a configuration

`serde_json` writes a stored configuration, a `jsonb` column keeps it, and `serde_json` reads it
back.  The fields that the domain types itself come back as they were, since the same crate reads
and writes their types.  A field that is a JSON value comes back as whatever the writer, the column
and the reader make of it: PostgreSQL keeps a number as a decimal without exponent and without the
sign of zero, and the reader of `serde_json` does not round every decimal correctly.  So what
becomes of a value is a function `column : Value → Value` here.

* `mapValues`: a rule, a command template, a schema mapping or a configuration after the column.
* `ProjectConfig.mapValues_eq_self_iff`: it is as it was exactly when each of its values is.
* `decode_mapValues_eq_ok_iff`: what the decoder makes of an encoded configuration after the column.
-/

namespace PipeBolt
namespace Domain

section Values

variable (column : Value → Value)

/-! ## Values of the parts -/

def ValueExpr.values : ValueExpr → List Value
  | .field _ => []
  | .literal value => [value]

def ValueExpr.mapValues : ValueExpr → ValueExpr
  | .field ref => .field ref
  | .literal value => .literal (column value)

mutual

def ConditionExpr.values : ConditionExpr → List Value
  | .exists _ => []
  | .equals left right | .notEquals left right | .greaterThan left right
  | .greaterThanOrEqual left right | .lessThan left right | .lessThanOrEqual left right
  | .contains left right => left.values ++ right.values
  | .and conditions | .or conditions => ConditionExpr.valuesList conditions
  | .not condition => condition.values

def ConditionExpr.valuesList : List ConditionExpr → List Value
  | [] => []
  | condition :: conditions => condition.values ++ ConditionExpr.valuesList conditions

end

mutual

def ConditionExpr.mapValues : ConditionExpr → ConditionExpr
  | .exists field => .exists field
  | .equals left right => .equals (left.mapValues column) (right.mapValues column)
  | .notEquals left right => .notEquals (left.mapValues column) (right.mapValues column)
  | .greaterThan left right => .greaterThan (left.mapValues column) (right.mapValues column)
  | .greaterThanOrEqual left right =>
    .greaterThanOrEqual (left.mapValues column) (right.mapValues column)
  | .lessThan left right => .lessThan (left.mapValues column) (right.mapValues column)
  | .lessThanOrEqual left right => .lessThanOrEqual (left.mapValues column) (right.mapValues column)
  | .contains left right => .contains (left.mapValues column) (right.mapValues column)
  | .and conditions => .and (ConditionExpr.mapValuesList conditions)
  | .or conditions => .or (ConditionExpr.mapValuesList conditions)
  | .not condition => .not (condition.mapValues)

def ConditionExpr.mapValuesList : List ConditionExpr → List ConditionExpr
  | [] => []
  | condition :: conditions => condition.mapValues :: ConditionExpr.mapValuesList conditions

end

def ActionIntentTemplate.values : ActionIntentTemplate → List Value
  | .executeCommand _ params => params.map Prod.snd
  | .streamToUi | .forwardToSink _ | .dropEvent | .addMetadata _ _ => []

def ActionIntentTemplate.mapValues : ActionIntentTemplate → ActionIntentTemplate
  | .executeCommand templateId params =>
    .executeCommand templateId (params.map fun entry => (entry.1, column entry.2))
  | .streamToUi => .streamToUi
  | .forwardToSink sinkId => .forwardToSink sinkId
  | .dropEvent => .dropEvent
  | .addMetadata key value => .addMetadata key value

def RuleDefinition.values (rule : RuleDefinition) : List Value :=
  (rule.condition.elim [] ConditionExpr.values) ++ rule.actions.flatMap ActionIntentTemplate.values

def RuleDefinition.mapValues (rule : RuleDefinition) : RuleDefinition :=
  { rule with
    condition := rule.condition.map (ConditionExpr.mapValues column)
    actions := rule.actions.map (ActionIntentTemplate.mapValues column) }

def FieldMapping.mapValues (mapping : FieldMapping) : FieldMapping :=
  { mapping with default := mapping.default.map column }

def PayloadSchemaMapping.values (mapping : PayloadSchemaMapping) : List Value :=
  mapping.fields.flatMap fun field => field.default.toList

def PayloadSchemaMapping.mapValues (mapping : PayloadSchemaMapping) : PayloadSchemaMapping :=
  { mapping with fields := mapping.fields.map (FieldMapping.mapValues column) }

def CommandTemplate.mapValues (template : CommandTemplate) : CommandTemplate :=
  { template with payloadTemplate := column template.payloadTemplate }

/-! ## Values of a configuration -/

/-- The JSON values of a configuration: the defaults of its mappings, the literals and the command
parameters of its rules, and its payload templates. -/
def ProjectConfig.values (config : ProjectConfig) : List Value :=
  config.schemaMappings.flatMap PayloadSchemaMapping.values ++
    config.rules.flatMap RuleDefinition.values ++
      config.commandTemplates.map CommandTemplate.payloadTemplate

def ProjectConfig.mapValues (config : ProjectConfig) : ProjectConfig :=
  { config with
    schemaMappings := config.schemaMappings.map (PayloadSchemaMapping.mapValues column)
    rules := config.rules.map (RuleDefinition.mapValues column)
    commandTemplates := config.commandTemplates.map (CommandTemplate.mapValues column) }

/-! ## What the column leaves as it was -/

variable {column}

/-- A list is left as it was when its members are. -/
theorem map_eq_self_iff_of {α : Type} {values : α → List Value} {f : α → α}
    (h : ∀ a, f a = a ↔ ∀ value ∈ values a, column value = value) (xs : List α) :
    xs.map f = xs ↔ ∀ value ∈ xs.flatMap values, column value = value := by
  induction xs with
  | nil => simp
  | cons x xs ih => rw [List.map_cons, List.cons.injEq, List.flatMap_cons, List.forall_mem_append,
      h, ih]

theorem ValueExpr.mapValues_eq_self_iff (expr : ValueExpr) :
    expr.mapValues column = expr ↔ ∀ value ∈ expr.values, column value = value := by
  cases expr with
  | field field => simp [ValueExpr.mapValues, ValueExpr.values]
  | literal value => simp [ValueExpr.mapValues, ValueExpr.values]

mutual

theorem ConditionExpr.mapValues_eq_self_iff : ∀ condition : ConditionExpr,
    condition.mapValues column = condition ↔
      ∀ value ∈ condition.values, column value = value
  | .exists _ => by simp [ConditionExpr.mapValues, ConditionExpr.values]
  | .equals left right | .notEquals left right | .greaterThan left right
  | .greaterThanOrEqual left right | .lessThan left right | .lessThanOrEqual left right
  | .contains left right => by
    simp only [ConditionExpr.mapValues, ConditionExpr.values, List.forall_mem_append,
      ConditionExpr.equals.injEq, ConditionExpr.notEquals.injEq, ConditionExpr.greaterThan.injEq,
      ConditionExpr.greaterThanOrEqual.injEq, ConditionExpr.lessThan.injEq,
      ConditionExpr.lessThanOrEqual.injEq, ConditionExpr.contains.injEq,
      ValueExpr.mapValues_eq_self_iff]
  | .and conditions | .or conditions => by
    simp only [ConditionExpr.mapValues, ConditionExpr.values, ConditionExpr.and.injEq,
      ConditionExpr.or.injEq, ConditionExpr.mapValuesList_eq_self_iff conditions]
  | .not condition => by
    simp only [ConditionExpr.mapValues, ConditionExpr.values, ConditionExpr.not.injEq,
      ConditionExpr.mapValues_eq_self_iff condition]

theorem ConditionExpr.mapValuesList_eq_self_iff : ∀ conditions : List ConditionExpr,
    ConditionExpr.mapValuesList column conditions = conditions ↔
      ∀ value ∈ ConditionExpr.valuesList conditions, column value = value
  | [] => by simp [ConditionExpr.mapValuesList, ConditionExpr.valuesList]
  | condition :: conditions => by
    rw [ConditionExpr.mapValuesList, ConditionExpr.valuesList, List.cons.injEq,
      List.forall_mem_append, ConditionExpr.mapValues_eq_self_iff condition,
      ConditionExpr.mapValuesList_eq_self_iff conditions]

end

theorem ActionIntentTemplate.mapValues_eq_self_iff (action : ActionIntentTemplate) :
    action.mapValues column = action ↔ ∀ value ∈ action.values, column value = value := by
  cases action with
  | executeCommand templateId params =>
    have hentry : ∀ entry : String × Value, (entry.1, column entry.2) = entry ↔
        ∀ value ∈ [entry.2], column value = value := by
      rintro ⟨key, value⟩
      simp
    have hparams := map_eq_self_iff_of hentry params
    rw [← List.map_eq_flatMap] at hparams
    rw [ActionIntentTemplate.mapValues, ActionIntentTemplate.executeCommand.injEq, hparams]
    exact and_iff_right rfl
  | _ => simp [ActionIntentTemplate.mapValues, ActionIntentTemplate.values]

theorem RuleDefinition.mapValues_eq_self_iff (rule : RuleDefinition) :
    rule.mapValues column = rule ↔ ∀ value ∈ rule.values, column value = value := by
  have hcondition : rule.condition.map (ConditionExpr.mapValues column) = rule.condition ↔
      ∀ value ∈ rule.condition.elim [] ConditionExpr.values, column value = value := by
    cases rule.condition with
    | none => simp
    | some condition =>
      rw [Option.map_some, Option.some.injEq]
      exact condition.mapValues_eq_self_iff
  rw [RuleDefinition.values, List.forall_mem_append, ← hcondition,
    ← map_eq_self_iff_of ActionIntentTemplate.mapValues_eq_self_iff]
  cases rule
  simp [RuleDefinition.mapValues]

theorem PayloadSchemaMapping.mapValues_eq_self_iff (mapping : PayloadSchemaMapping) :
    mapping.mapValues column = mapping ↔ ∀ value ∈ mapping.values, column value = value := by
  have hfield : ∀ field : FieldMapping, field.mapValues column = field ↔
      ∀ value ∈ field.default.toList, column value = value := by
    rintro ⟨source, target, valueType, required, value⟩
    cases value <;> simp [FieldMapping.mapValues]
  rw [PayloadSchemaMapping.values, ← map_eq_self_iff_of hfield]
  cases mapping
  simp [PayloadSchemaMapping.mapValues]

theorem CommandTemplate.mapValues_eq_self_iff (template : CommandTemplate) :
    template.mapValues column = template ↔
      column template.payloadTemplate = template.payloadTemplate := by
  cases template
  simp [CommandTemplate.mapValues]

/-- A configuration is as it was exactly when each of its values is. -/
theorem ProjectConfig.mapValues_eq_self_iff (config : ProjectConfig) :
    config.mapValues column = config ↔ ∀ value ∈ config.values, column value = value := by
  have htemplate : ∀ template : CommandTemplate, template.mapValues column = template ↔
      ∀ value ∈ [template.payloadTemplate], column value = value := by
    intro template
    rw [template.mapValues_eq_self_iff, List.forall_mem_singleton]
  have htemplates := map_eq_self_iff_of htemplate config.commandTemplates
  rw [← List.map_eq_flatMap] at htemplates
  rw [ProjectConfig.values, List.forall_mem_append, List.forall_mem_append, ← htemplates,
    ← map_eq_self_iff_of RuleDefinition.mapValues_eq_self_iff,
    ← map_eq_self_iff_of PayloadSchemaMapping.mapValues_eq_self_iff]
  cases config
  simp [ProjectConfig.mapValues, and_assoc]

end Values

end Domain

namespace Storage

open Domain Fallible

/-! ## Stored configurations -/

section Stored

variable (column : Value → Value)

/-- A stored configuration after the column. -/
def StoredProjectConfig.mapValues (stored : StoredProjectConfig) : StoredProjectConfig :=
  { stored with
    schemaMappings := stored.schemaMappings.map (PayloadSchemaMapping.mapValues column)
    rules := stored.rules.map (RuleDefinition.mapValues column)
    commandTemplates := stored.commandTemplates.map (CommandTemplate.mapValues column) }

variable {column} {ρ : Type} {cipher : SecretCipher ρ}

/-- The column does not touch what is encrypted. -/
theorem reveal_mapValues {stored : StoredProjectConfig} {config : ProjectConfig}
    (h : reveal cipher stored = .ok config) :
    reveal cipher (stored.mapValues column) = .ok (config.mapValues column) := by
  obtain ⟨brokers, hbrokers, h⟩ := bind_eq_ok_iff.mp h
  obtain ⟨sinks, hsinks, h⟩ := bind_eq_ok_iff.mp h
  rw [← Except.ok.inj h]
  exact bind_eq_ok_iff.mpr ⟨brokers, hbrokers, bind_eq_ok_iff.mpr ⟨sinks, hsinks, rfl⟩⟩

/-- An encoded configuration is decoded as it was, after the column, exactly when its values come
back as they were and the decoder accepts its secrets. -/
theorem decode_mapValues_eq_ok_iff (hcipher : cipher.Lawful) {config : ProjectConfig}
    {stored : StoredProjectConfig} (hstored : Yields (encode cipher config) stored)
    (hvalid : config.validate = .ok ()) :
    decode cipher (stored.mapValues column) = .ok config ↔
      (∀ secret ∈ config.secrets, secret.Valid) ∧ ∀ value ∈ config.values, column value = value := by
  have hreveal : reveal cipher (stored.mapValues column) = .ok (config.mapValues column) :=
    reveal_mapValues (reveal_encode hcipher hstored)
  rw [decode_eq_ok_iff, hreveal, Except.ok.injEq, config.mapValues_eq_self_iff]
  constructor
  · rintro ⟨hvalues, hsecrets, -⟩
    exact ⟨hsecrets, hvalues⟩
  · rintro ⟨hsecrets, hvalues⟩
    exact ⟨hvalues, hsecrets, hvalid⟩

end Stored

end Storage
end PipeBolt
