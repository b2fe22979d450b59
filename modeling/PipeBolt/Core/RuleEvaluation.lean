import PipeBolt.Core.RuleEngine
import PipeBolt.Domain.Event

/-!
# The evaluation of rules

`RuleEngine::evaluate` of `pipe_bolt_core::rule::rules`: the conditions of the rules on an event,
and the intents of the rules that match.

* `RuleEngine.withLimits_eq_ok_iff`: an engine holds the enabled rules.
* `RuleEngine.evaluate_eq`: an evaluation is the sum of those of the rules.
* `evaluateCondition_error`: a condition fails only at a comparison of numbers.
* `evaluate_by_rules`: what an engine yields, from what each rule yields by itself.
-/

namespace PipeBolt
namespace Core

open Domain Rust Fallible

/-! ## The values of an event -/

/-- `trigger_matches`. -/
def triggerMatches (trigger : RuleTrigger) (event : NormalizedEvent) : Bool :=
  match trigger with
  | .eventReceived => true
  | .routeMatched routeId => routeId == event.routeId
  | .commandRequested _ => false

/-- `field_value_to_json`. -/
def fieldValueToJson : FieldValue → Value
  | .null => .null
  | .bool value => .bool value
  | .number value => .number value
  | .string value => .string value
  | .object entries => .object entries
  | .array values => .array values

/-- `resolve_event_path`. -/
def resolveEventPath (event : NormalizedEvent) : List String → Option Value
  | ["id"] => some (.string event.id.raw)
  | ["correlation_id"] => some (.string event.correlationId)
  | ["project_id"] => some (.string event.projectId.raw)
  | ["broker_id"] => some (.string event.brokerId.raw)
  | ["route_id"] => some (.string event.routeId.raw)
  | ["schema_mapping_id"] => event.schemaMappingId.map fun id => .string id.raw
  | ["topic"] => some (.string event.topic.raw)
  | ["device_id"] => event.deviceId.map .string
  | ["event_type"] => some (.string event.eventType)
  | ["payload_size_bytes"] => some (.number (.posInt event.payloadSizeBytes.toUInt64))
  | ["metadata", key] => (event.metadata.get key).map .string
  | ["fields", key] => (event.field key).map fieldValueToJson
  | _ => none

/-- `resolve_field`. -/
def resolveField (field : FieldRef) (event : NormalizedEvent) : Option Value :=
  match field with
  | .extracted name => (event.field name).map fieldValueToJson
  | .deviceId => event.deviceId.map .string
  | .eventType => some (.string event.eventType)
  | .topic => some (.string event.topic.raw)
  | .payload path =>
    match event.payload with
    | .json value => getJsonPath value path.segments
    | .raw _ => none
  | .event path => resolveEventPath event path.segments

/-- `resolve_optional_value`. -/
def resolveOptionalValue (value : ValueExpr) (event : NormalizedEvent) : Option Value :=
  match value with
  | .literal value => some value
  | .field field => resolveField field event

/-- `resolve_value`. -/
def resolveValue (value : ValueExpr) (event : NormalizedEvent) : Value :=
  (resolveOptionalValue value event).getD .null

/-- `value_contains`. -/
def valueContains : Value → Value → Bool
  | .string left, .string right => containsStr left right
  | .array left, right => left.any fun value => value.eq right
  | _, _ => false

/-! ## Conditions -/

/-- `compare_numbers`. -/
def compareNumbers (rule : RuleDefinition) (left right : ValueExpr) (event : NormalizedEvent)
    (compare : F64 → F64 → Bool) : Except MqttEngineError Bool :=
  match resolveOptionalValue left event, resolveOptionalValue right event with
  | some left, some right =>
    match left.asF64 with
    | none => .error (.rule (.nonNumericComparison rule.id.raw))
    | some left =>
      match right.asF64 with
      | none => .error (.rule (.nonNumericComparison rule.id.raw))
      | some right => .ok (compare left right)
  | _, _ => .ok false

mutual

/-- `evaluate_condition`. -/
def evaluateCondition (rule : RuleDefinition) (event : NormalizedEvent) :
    ConditionExpr → Except MqttEngineError Bool
  | .exists field => .ok (resolveField field event).isSome
  | .equals left right => .ok ((resolveValue left event).eq (resolveValue right event))
  | .notEquals left right => .ok (!(resolveValue left event).eq (resolveValue right event))
  | .greaterThan left right => compareNumbers rule left right event fun left right => left > right
  | .greaterThanOrEqual left right =>
    compareNumbers rule left right event fun left right => left ≥ right
  | .lessThan left right => compareNumbers rule left right event fun left right => left < right
  | .lessThanOrEqual left right =>
    compareNumbers rule left right event fun left right => left ≤ right
  | .contains left right => .ok (valueContains (resolveValue left event) (resolveValue right event))
  | .and conditions => evaluateAnd rule event conditions
  | .or conditions => evaluateOr rule event conditions
  | .not condition => do return !(← evaluateCondition rule event condition)

/-- The loop of `evaluate_condition` over the members of an `and`. -/
def evaluateAnd (rule : RuleDefinition) (event : NormalizedEvent) :
    List ConditionExpr → Except MqttEngineError Bool
  | [] => .ok true
  | condition :: conditions => do
    if !(← evaluateCondition rule event condition) then return false
    else evaluateAnd rule event conditions

/-- The loop of `evaluate_condition` over the members of an `or`. -/
def evaluateOr (rule : RuleDefinition) (event : NormalizedEvent) :
    List ConditionExpr → Except MqttEngineError Bool
  | [] => .ok false
  | condition :: conditions => do
    if ← evaluateCondition rule event condition then return true
    else evaluateOr rule event conditions

end

/-! ## Evaluation -/

/-- `action_to_intent`: every action has an intent. -/
def actionToIntent (rule : RuleDefinition) (action : ActionIntentTemplate)
    (event : NormalizedEvent) : Except MqttEngineError ActionIntent :=
  match action with
  | .streamToUi => .ok (.streamToUi event.id)
  | .dropEvent => .ok (.dropEvent event.id (some s!"matched rule {rule.id.raw}"))
  | .addMetadata key value => .ok (.addMetadata event.id key value)
  | .forwardToSink sinkId => .ok (.forwardToSink event.id sinkId none)
  | .executeCommand commandTemplateId params =>
    .ok (.executeCommand event.id commandTemplateId params event.correlationId)

/-- `RuleEvaluation`. -/
structure RuleEvaluation where
  matchedRules : List RuleId
  intents : List ActionIntent

/-- The evaluation before the first round: nothing matched, no intents. -/
def RuleEvaluation.empty : RuleEvaluation := ⟨[], []⟩

/-- The condition of a rule, or true. -/
def ruleMatches (rule : RuleDefinition) (event : NormalizedEvent) : Except MqttEngineError Bool :=
  match rule.condition with
  | some condition => evaluateCondition rule event condition
  | none => .ok true

/-- One round of the loop of `RuleEngine::evaluate`. -/
def RuleEvaluation.round (event : NormalizedEvent) (evaluation : RuleEvaluation)
    (rule : RuleDefinition) : Except MqttEngineError RuleEvaluation :=
  if !triggerMatches rule.trigger event then .ok evaluation
  else do
    if !(← ruleMatches rule event) then return evaluation
    else
      let intents ← rule.actions.mapM fun action => actionToIntent rule action event
      return ⟨evaluation.matchedRules ++ [rule.id], evaluation.intents ++ intents⟩

/-- `RuleEngine::evaluate`. -/
def RuleEngine.evaluate (engine : RuleEngine) (event : NormalizedEvent) :
    Except MqttEngineError RuleEvaluation :=
  engine.rules.foldlM (RuleEvaluation.round event) .empty

/-! ## What an engine holds -/

/-- An engine holds the enabled rules, in the order given, and each passed its check. -/
theorem RuleEngine.withLimits_eq_ok_iff {rules : List RuleDefinition} {limits : RuleEngineLimits}
    {engine : RuleEngine} :
    RuleEngine.withLimits rules limits = .ok engine ↔
      (∀ rule ∈ rules, rule.enabled = true → validateRule rule limits = .ok ()) ∧
        engine.rules = rules.filter fun rule => rule.enabled := by
  have hloop : ∀ (rules : List RuleDefinition) (before : RuleEngine),
      rules.foldlM (RuleEngine.insert limits) before = .ok engine ↔
        (∀ rule ∈ rules, rule.enabled = true → validateRule rule limits = .ok ()) ∧
          engine.rules = before.rules ++ rules.filter fun rule => rule.enabled := by
    intro rules
    induction rules with
    | nil =>
      intro before
      rw [List.filter_nil, List.append_nil]
      constructor
      · intro h
        exact ⟨fun _ hmem => (nomatch hmem), congrArg _ (Except.ok.inj h).symm⟩
      · rintro ⟨-, h⟩
        show Except.ok before = Except.ok engine
        cases engine
        cases before
        exact congrArg _ (congrArg _ h.symm)
    | cons rule rules ih =>
      intro before
      rw [List.foldlM_cons, List.forall_mem_cons, RuleEngine.insert]
      cases henabled : rule.enabled with
      | false =>
        have hnext := ih before
        simp only [List.filter_cons, henabled, Bool.false_eq_true, if_false, false_implies, true_and]
        exact hnext
      | true =>
        have hnext := ih ⟨before.rules ++ [rule]⟩
        rw [bind_eq_ok_iff]
        constructor
        · rintro ⟨next, hround, h⟩
          obtain ⟨hvalid, hpure⟩ := check_eq_ok_iff.mp hround
          rw [← Except.ok.inj hpure] at h
          obtain ⟨hrest, hrules⟩ := hnext.mp h
          refine ⟨⟨fun _ => hvalid, hrest⟩, ?_⟩
          rw [hrules, List.filter_cons, if_pos henabled, List.append_assoc, List.singleton_append]
        · rintro ⟨⟨hvalid, hrest⟩, hrules⟩
          refine ⟨⟨before.rules ++ [rule]⟩, check_eq_ok_iff.mpr ⟨hvalid rfl, rfl⟩, hnext.mpr ?_⟩
          refine ⟨hrest, ?_⟩
          rw [hrules, List.filter_cons, if_pos henabled, List.append_assoc, List.singleton_append]
  exact hloop rules ⟨[]⟩

/-! ## An evaluation as a sum -/

/-- One evaluation after another. -/
def RuleEvaluation.append (left right : RuleEvaluation) : RuleEvaluation :=
  ⟨left.matchedRules ++ right.matchedRules, left.intents ++ right.intents⟩

/-- Evaluations one after another. -/
def RuleEvaluation.concat (evaluations : List RuleEvaluation) : RuleEvaluation :=
  ⟨evaluations.flatMap (·.matchedRules), evaluations.flatMap (·.intents)⟩

@[simp]
theorem RuleEvaluation.append_empty (evaluation : RuleEvaluation) :
    evaluation.append .empty = evaluation := by
  simp [append, empty]

@[simp]
theorem RuleEvaluation.empty_append (evaluation : RuleEvaluation) :
    RuleEvaluation.empty.append evaluation = evaluation := rfl

theorem RuleEvaluation.foldl_append (evaluations : List RuleEvaluation) (before : RuleEvaluation) :
    evaluations.foldl append before = before.append (concat evaluations) := by
  induction evaluations generalizing before with
  | nil => simp [append, concat]
  | cons evaluation evaluations ih =>
    rw [List.foldl_cons, ih]
    simp [append, concat, List.append_assoc]

/-- A round adds what the rule yields by itself. -/
theorem RuleEvaluation.round_eq (event : NormalizedEvent) (evaluation : RuleEvaluation)
    (rule : RuleDefinition) :
    evaluation.round event rule = evaluation.append <$> RuleEvaluation.empty.round event rule := by
  have hnothing : evaluation = evaluation.append .empty := evaluation.append_empty.symm
  unfold round
  cases triggerMatches rule.trigger event with
  | false => exact congrArg Except.ok hnothing
  | true =>
    cases ruleMatches rule event with
    | error error => rfl
    | ok matched =>
      cases matched with
      | false => exact congrArg Except.ok hnothing
      | true =>
        simp only [Bool.not_true, Bool.false_eq_true, if_false]
        show (do
          let intents ← rule.actions.mapM fun action => actionToIntent rule action event
          pure (⟨evaluation.matchedRules ++ [rule.id], evaluation.intents ++ intents⟩ :
            RuleEvaluation)) = evaluation.append <$> (do
          let intents ← rule.actions.mapM fun action => actionToIntent rule action event
          pure (⟨[] ++ [rule.id], [] ++ intents⟩ : RuleEvaluation))
        cases rule.actions.mapM fun action => actionToIntent rule action event with
        | error error => rfl
        | ok intents => rfl

/-- An evaluation is the sum of those of the rules. -/
theorem RuleEngine.evaluate_eq (engine : RuleEngine) (event : NormalizedEvent) :
    engine.evaluate event =
      RuleEvaluation.concat <$> engine.rules.mapM (RuleEvaluation.empty.round event) := by
  rw [RuleEngine.evaluate, foldlM_eq_mapM (RuleEvaluation.round_eq event)]
  cases engine.rules.mapM (RuleEvaluation.empty.round event) with
  | error error => rfl
  | ok evaluations =>
    have hsum := RuleEvaluation.foldl_append evaluations .empty
    exact congrArg Except.ok hsum

/-- An intent of a round comes from an action of its rule. -/
theorem RuleEvaluation.mem_round_intents {event : NormalizedEvent} {rule : RuleDefinition}
    {evaluation : RuleEvaluation} {intent : ActionIntent}
    (h : RuleEvaluation.empty.round event rule = .ok evaluation) (hmem : intent ∈ evaluation.intents) :
    ∃ action ∈ rule.actions, actionToIntent rule action event = .ok intent := by
  unfold round at h
  cases htrigger : triggerMatches rule.trigger event with
  | false =>
    rw [htrigger] at h
    rw [← Except.ok.inj h] at hmem
    cases hmem
  | true =>
    rw [htrigger] at h
    obtain ⟨matched, -, h⟩ := bind_eq_ok_iff.mp h
    cases matched with
    | false =>
      rw [← Except.ok.inj h] at hmem
      cases hmem
    | true =>
      obtain ⟨intents, hintents, h⟩ := bind_eq_ok_iff.mp h
      rw [← Except.ok.inj h] at hmem
      exact mem_mapM hintents hmem

/-- An intent of an evaluation comes from an action of a rule of the engine. -/
theorem RuleEngine.mem_intents {engine : RuleEngine} {event : NormalizedEvent}
    {evaluation : RuleEvaluation} {intent : ActionIntent}
    (h : engine.evaluate event = .ok evaluation) (hmem : intent ∈ evaluation.intents) :
    ∃ rule ∈ engine.rules, ∃ action ∈ rule.actions,
      actionToIntent rule action event = .ok intent := by
  rw [evaluate_eq, map_eq_ok_iff] at h
  obtain ⟨evaluations, hevaluations, rfl⟩ := h
  obtain ⟨each, heach, hmem⟩ := List.mem_flatMap.mp hmem
  obtain ⟨rule, hrule, hround⟩ := mem_mapM hevaluations heach
  exact ⟨rule, hrule, RuleEvaluation.mem_round_intents hround hmem⟩

/-! ## Where an evaluation fails -/

theorem actionToIntent_isOk (rule : RuleDefinition) (action : ActionIntentTemplate)
    (event : NormalizedEvent) : ∃ intent, actionToIntent rule action event = .ok intent := by
  cases action with
  | streamToUi => exact ⟨_, rfl⟩
  | forwardToSink sinkId => exact ⟨_, rfl⟩
  | executeCommand commandTemplateId params => exact ⟨_, rfl⟩
  | dropEvent => exact ⟨_, rfl⟩
  | addMetadata key value => exact ⟨_, rfl⟩

theorem compareNumbers_error {rule : RuleDefinition} {left right : ValueExpr}
    {event : NormalizedEvent} {compare : F64 → F64 → Bool} {error : MqttEngineError}
    (h : compareNumbers rule left right event compare = .error error) :
    error = .rule (.nonNumericComparison rule.id.raw) := by
  unfold compareNumbers at h
  split at h
  · split at h
    · exact (Except.error.inj h).symm
    · split at h
      · exact (Except.error.inj h).symm
      · cases h
  · cases h

mutual

/-- A condition fails only at a comparison of numbers, and the error names the rule. -/
theorem evaluateCondition_error {rule : RuleDefinition} {event : NormalizedEvent}
    {error : MqttEngineError} :
    ∀ condition, evaluateCondition rule event condition = .error error →
      error = .rule (.nonNumericComparison rule.id.raw)
  | .and conditions, h => evaluateAnd_error conditions (by rwa [evaluateCondition] at h)
  | .or conditions, h => evaluateOr_error conditions (by rwa [evaluateCondition] at h)
  | .not condition, h => by
    rw [evaluateCondition] at h
    rcases bind_eq_error_iff.mp h with hfails | ⟨matched, -, hpure⟩
    · exact evaluateCondition_error condition hfails
    · cases hpure
  | .greaterThan _ _, h | .greaterThanOrEqual _ _, h | .lessThan _ _, h
  | .lessThanOrEqual _ _, h => by
    rw [evaluateCondition] at h
    exact compareNumbers_error h
  | .exists _, h | .equals _ _, h | .notEquals _ _, h | .contains _ _, h => by
    rw [evaluateCondition] at h
    cases h

theorem evaluateAnd_error {rule : RuleDefinition} {event : NormalizedEvent}
    {error : MqttEngineError} :
    ∀ conditions, evaluateAnd rule event conditions = .error error →
      error = .rule (.nonNumericComparison rule.id.raw)
  | [], h => by
    rw [evaluateAnd] at h
    cases h
  | condition :: conditions, h => by
    rw [evaluateAnd] at h
    rcases bind_eq_error_iff.mp h with hfails | ⟨matched, -, hrest⟩
    · exact evaluateCondition_error condition hfails
    · cases matched with
      | false => cases hrest
      | true => exact evaluateAnd_error conditions hrest

theorem evaluateOr_error {rule : RuleDefinition} {event : NormalizedEvent}
    {error : MqttEngineError} :
    ∀ conditions, evaluateOr rule event conditions = .error error →
      error = .rule (.nonNumericComparison rule.id.raw)
  | [], h => by
    rw [evaluateOr] at h
    cases h
  | condition :: conditions, h => by
    rw [evaluateOr] at h
    rcases bind_eq_error_iff.mp h with hfails | ⟨matched, -, hrest⟩
    · exact evaluateCondition_error condition hfails
    · cases matched with
      | true => cases hrest
      | false => exact evaluateOr_error conditions hrest

end

/-- A round fails only at the condition of its rule. -/
theorem RuleEvaluation.round_error {event : NormalizedEvent} {evaluation : RuleEvaluation}
    {rule : RuleDefinition} {error : MqttEngineError}
    (h : evaluation.round event rule = .error error) :
    error = .rule (.nonNumericComparison rule.id.raw) := by
  unfold round at h
  cases htrigger : triggerMatches rule.trigger event with
  | false => simp [htrigger] at h
  | true =>
    simp only [htrigger, Bool.not_true, Bool.false_eq_true, if_false] at h
    rcases bind_eq_error_iff.mp h with hfails | ⟨matched, -, hrest⟩
    · unfold ruleMatches at hfails
      split at hfails
      · exact evaluateCondition_error _ hfails
      · cases hfails
    · cases matched with
      | false => cases hrest
      | true =>
        rcases bind_eq_error_iff.mp hrest with hactions | ⟨intents, -, hpure⟩
        · obtain ⟨intents, hintents⟩ :=
            mapM_isOk fun action (_ : action ∈ rule.actions) => actionToIntent_isOk rule action event
          rw [hintents] at hactions
          cases hactions
        · cases hpure

/-! ## Rules by themselves -/

/-- What a rule yields when it is the only rule of an engine. -/
def evaluateAlone (limits : RuleEngineLimits) (event : NormalizedEvent) (rule : RuleDefinition) :
    Except MqttEngineError RuleEvaluation := do
  let engine ← RuleEngine.withLimits [rule] limits
  engine.evaluate event

section Alone

variable {limits : RuleEngineLimits} {event : NormalizedEvent} {rule : RuleDefinition}

/-- A disabled rule yields nothing. -/
theorem evaluateAlone_disabled (h : rule.enabled = false) :
    evaluateAlone limits event rule = .ok .empty := by
  have hengine : RuleEngine.withLimits [rule] limits = .ok ⟨[]⟩ := by
    rw [RuleEngine.withLimits_eq_ok_iff]
    simp [h]
  rw [evaluateAlone, hengine]
  rfl

/-- An enabled rule that passes its check yields what its round adds to nothing. -/
theorem evaluateAlone_enabled (henabled : rule.enabled = true)
    (hvalid : validateRule rule limits = .ok ()) :
    evaluateAlone limits event rule = RuleEvaluation.empty.round event rule := by
  have hengine : RuleEngine.withLimits [rule] limits = .ok ⟨[rule]⟩ := by
    rw [RuleEngine.withLimits_eq_ok_iff]
    simp [henabled, hvalid]
  rw [evaluateAlone, hengine]
  show RuleEngine.evaluate ⟨[rule]⟩ event = _
  rw [RuleEngine.evaluate, List.foldlM_cons]
  cases RuleEvaluation.empty.round event rule with
  | error error => rfl
  | ok evaluation => rfl

/-- An engine yields the sum of what its rules yield by themselves, when each does. -/
theorem RuleEngine.evaluate_eq_alone {rules : List RuleDefinition} {engine : RuleEngine}
    (h : RuleEngine.withLimits rules limits = .ok engine) (event : NormalizedEvent) :
    engine.evaluate event =
      RuleEvaluation.concat <$> rules.mapM (evaluateAlone limits event) := by
  obtain ⟨hvalid, hrules⟩ := RuleEngine.withLimits_eq_ok_iff.mp h
  have hround : ∀ rule ∈ rules, ∀ evaluation : RuleEvaluation,
      (if rule.enabled = true then evaluation.round event rule else pure evaluation) =
        evaluation.append <$> evaluateAlone limits event rule := by
    intro rule hmem evaluation
    cases henabled : rule.enabled with
    | false =>
      rw [if_neg Bool.false_ne_true, evaluateAlone_disabled henabled]
      exact congrArg Except.ok evaluation.append_empty.symm
    | true =>
      rw [if_pos rfl, evaluateAlone_enabled henabled (hvalid rule hmem henabled)]
      exact evaluation.round_eq event rule
  rw [RuleEngine.evaluate, hrules, List.foldlM_filter, foldlM_congr hround,
    foldlM_eq_mapM fun _ _ => rfl]
  simp only [RuleEvaluation.foldl_append, RuleEvaluation.empty_append]

/-- In an engine that was built, a rule by itself fails only at a comparison of numbers. -/
theorem evaluateAlone_error {rules : List RuleDefinition} {engine : RuleEngine}
    {error : MqttEngineError} (h : RuleEngine.withLimits rules limits = .ok engine)
    (hmem : rule ∈ rules) (hfails : evaluateAlone limits event rule = .error error) :
    error = .rule (.nonNumericComparison rule.id.raw) := by
  obtain ⟨hvalid, -⟩ := RuleEngine.withLimits_eq_ok_iff.mp h
  cases henabled : rule.enabled with
  | false =>
    rw [evaluateAlone_disabled henabled] at hfails
    cases hfails
  | true =>
    rw [evaluateAlone_enabled henabled (hvalid rule hmem henabled)] at hfails
    exact RuleEvaluation.round_error hfails

end Alone

/-- **What an engine yields, from what its rules yield by themselves.**  When every rule yields an
evaluation, the engine yields them all, in the order of the rules.  When one fails, the engine
fails as the first rule that does, at its comparison of a value that is no number. -/
theorem evaluate_by_rules {rules : List RuleDefinition} {limits : RuleEngineLimits}
    {engine : RuleEngine} (h : RuleEngine.withLimits rules limits = .ok engine)
    (event : NormalizedEvent) :
    (∀ evaluations,
        List.Forall₂ (fun rule evaluation => evaluateAlone limits event rule = .ok evaluation)
          rules evaluations →
        engine.evaluate event = .ok (.concat evaluations)) ∧
      ∀ before rule after error, rules = before ++ rule :: after →
        (∀ earlier ∈ before, ∃ evaluation, evaluateAlone limits event earlier = .ok evaluation) →
        evaluateAlone limits event rule = .error error →
        engine.evaluate event = .error error ∧
          error = .rule (.nonNumericComparison rule.id.raw) := by
  rw [RuleEngine.evaluate_eq_alone h]
  constructor
  · intro evaluations hall
    rw [mapM_eq_ok_iff_forall₂.mpr hall]
    rfl
  · intro before rule after error hsplit hbefore hfails
    have hmem : rule ∈ rules := hsplit ▸ List.mem_append_right before List.mem_cons_self
    refine ⟨?_, evaluateAlone_error h hmem hfails⟩
    rw [hsplit, mapM_eq_error hbefore hfails]
    rfl

section Hot

/-- A rule that compares the temperature of an event with a number. -/
def hotRule : RuleDefinition where
  id := ⟨"hot"⟩
  name := "Hot"
  enabled := true
  trigger := .eventReceived
  condition := some (.greaterThan (.field (.extracted "temperature"))
    (.literal (.number (.posInt 40))))
  actions := [.dropEvent]

/-- A rule that streams every event. -/
def streamRule : RuleDefinition where
  id := ⟨"stream"⟩
  name := "Stream"
  enabled := true
  trigger := .eventReceived
  condition := none
  actions := [.streamToUi]

/-- An event whose temperature is a text. -/
def hotEvent : NormalizedEvent where
  id := ⟨"event"⟩
  correlationId := "correlation"
  projectId := ⟨"plant"⟩
  brokerId := ⟨"broker"⟩
  routeId := ⟨"route"⟩
  schemaMappingId := none
  topic := ⟨"plant/boiler"⟩
  deviceId := none
  eventType := "telemetry"
  receivedAt := 0
  payloadSizeBytes := 21
  payload := .json (.object [("temperature", .string "hot")])
  fields := [("temperature", .string "hot")]
  raw := none
  normalizationErrors := []
  metadata := []

theorem hotRules_accepted :
    RuleEngine.withLimits [streamRule, hotRule] .default = .ok ⟨[streamRule, hotRule]⟩ := by
  rw [RuleEngine.withLimits_eq_ok_iff]
  refine ⟨?_, rfl⟩
  intro rule hmem _
  simp only [List.mem_cons, List.not_mem_nil, or_false] at hmem
  rcases hmem with rfl | rfl
  · decide +kernel
  · decide +kernel

theorem hotRule_fails :
    evaluateAlone .default hotEvent hotRule = .error (.rule (.nonNumericComparison "hot")) := by
  rw [evaluateAlone_enabled rfl (by decide +kernel)]
  rfl

theorem streamRule_streams :
    evaluateAlone .default hotEvent streamRule =
      .ok ⟨[⟨"stream"⟩], [.streamToUi ⟨"event"⟩]⟩ := by
  rw [evaluateAlone_enabled rfl (by decide +kernel)]
  rfl

/-- The engine of both rules fails on the event. -/
theorem evaluate_by_rules_hot :
    RuleEngine.evaluate ⟨[streamRule, hotRule]⟩ hotEvent =
        .error (.rule (.nonNumericComparison "hot")) ∧
      (MqttEngineError.rule (.nonNumericComparison "hot") =
        .rule (.nonNumericComparison hotRule.id.raw)) :=
  (evaluate_by_rules hotRules_accepted hotEvent).2 [streamRule] hotRule [] _ rfl
    (fun _ hmem => ⟨_, List.mem_singleton.mp hmem ▸ streamRule_streams⟩) hotRule_fails

/-- A rule that fails takes the intents of the others with it: an engine does not always yield what
its rules yield by themselves, a failing rule nothing. -/
theorem evaluate_not_isolated :
    ¬ ∀ (rules : List RuleDefinition) (limits : RuleEngineLimits) (engine : RuleEngine)
      (event : NormalizedEvent), RuleEngine.withLimits rules limits = .ok engine →
        engine.evaluate event =
          .ok (.concat (rules.map fun rule =>
            (evaluateAlone limits event rule).toOption.getD .empty)) := by
  intro h
  have hyields := h _ _ _ hotEvent hotRules_accepted
  have hfails : RuleEngine.evaluate ⟨[streamRule, hotRule]⟩ hotEvent =
      .error (.rule (.nonNumericComparison "hot")) := rfl
  rw [hfails] at hyields
  cases hyields

end Hot

end Core
end PipeBolt
