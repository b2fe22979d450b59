import PipeBolt.Core.Dispatcher
import PipeBolt.Core.Normalizer
import PipeBolt.Daemon.RuntimeConfig

/-!
# The handling of a message

`handle_pipeline_message` of `pipe_bolt_daemon::runtime`: a message becomes an event, the rules are
evaluated on it, and their intents are dispatched.

* `dispatch_evaluated_iff`: when the intents of an evaluation are dispatched.
-/

namespace PipeBolt
namespace Daemon

open Domain PipeBolt.Core Pipeline Fallible

/-! ## Statistics -/

/-- The counters of `RuntimeStats` that the handling of a message adds to. -/
structure PipelineStats where
  normalizedTotal : UInt64
  matchedRuleTotal : UInt64
  actionIntentTotal : UInt64
  dispatchFailedTotal : UInt64
  deriving DecidableEq, Repr

/-- `saturating_usize_to_u64`. -/
def saturatingUsizeToU64 (value : Nat) : UInt64 :=
  if value < UInt64.size then value.toUInt64 else UInt64.ofNat (UInt64.size - 1)

/-- `RuntimeStats::record_normalized`. -/
def PipelineStats.recordNormalized (stats : PipelineStats) : PipelineStats :=
  { stats with normalizedTotal := stats.normalizedTotal + 1 }

/-- `RuntimeStats::record_rule_evaluation`. -/
def PipelineStats.recordRuleEvaluation (stats : PipelineStats) (matchedRules actionIntents : Nat) :
    PipelineStats :=
  { stats with
    matchedRuleTotal := stats.matchedRuleTotal + saturatingUsizeToU64 matchedRules
    actionIntentTotal := stats.actionIntentTotal + saturatingUsizeToU64 actionIntents }

/-- `RuntimeStats::record_dispatch_failures`. -/
def PipelineStats.recordDispatchFailures (stats : PipelineStats) (failures : Nat) : PipelineStats :=
  { stats with dispatchFailedTotal := stats.dispatchFailedTotal + saturatingUsizeToU64 failures }

/-! ## The handler -/

section Handler

variable {σ : Type}

/-- What `handle_pipeline_message` is given by the router: the parts of a runtime. -/
structure PipelineParts (σ : Type) where
  matcher : ConfigRouteMatcher
  normalizer : EventNormalizer
  schemaMappings : List PayloadSchemaMapping
  ruleEngine : RuleEngine
  boundary : Boundary σ
  dispatchLimits : DispatchLimits

/-- `handle_pipeline_message` after the event was made. -/
def handleEvent (parts : PipelineParts σ) (event : NormalizedEvent) (stats : PipelineStats)
    (world : σ) : Except MqttEngineError Unit × PipelineStats × σ :=
  match parts.ruleEngine.evaluate event with
  | .error error => (.error error, stats, world)
  | .ok evaluation =>
    let stats := stats.recordRuleEvaluation evaluation.matchedRules.length evaluation.intents.length
    match dispatch parts.boundary parts.dispatchLimits event evaluation.intents world with
    | (.error error, world) => (.error (.dispatch error), stats, world)
    | (.ok outcome, world) => (.ok (), stats.recordDispatchFailures outcome.failed.length, world)

/-- `handle_pipeline_message`. -/
def handlePipelineMessage (json : SerdeJson) (uuid : String) (parts : PipelineParts σ)
    (message : MqttMessage) (stats : PipelineStats) (world : σ) :
    Except MqttEngineError Unit × PipelineStats × σ :=
  match normalizeRoutedMessage json uuid parts.matcher parts.normalizer parts.schemaMappings
      message with
  | .error error => (.error error, stats, world)
  | .ok none => (.ok (), stats, world)
  | .ok (some event) => handleEvent parts event stats.recordNormalized world

end Handler

/-! ## The limits of the engine and of the dispatcher -/

/-- **When the intents of an evaluation are dispatched**, under the default limits: exactly when the
rules that match have at most 128 actions together, so always when at most eight rules match.
Otherwise the dispatch is refused before anything is done. -/
theorem dispatch_evaluated_iff {σ : Type} {rules : List RuleDefinition} {engine : RuleEngine}
    {event : NormalizedEvent} {evaluation : RuleEvaluation}
    (hengine : RuleEngine.withLimits rules .default = .ok engine)
    (hevaluation : engine.evaluate event = .ok evaluation) (boundary : Boundary σ) (world : σ) :
    ((∃ outcome after, dispatch boundary .default event evaluation.intents world =
        (.ok outcome, after)) ↔ actionCount (engine.matching event) ≤ 128) ∧
      (evaluation.matchedRules.length ≤ 8 →
        ∃ outcome after, dispatch boundary .default event evaluation.intents world =
          (.ok outcome, after)) ∧
      (128 < actionCount (engine.matching event) →
        dispatch boundary .default event evaluation.intents world =
          (.error (.tooManyIntents (actionCount (engine.matching event)) 128), world)) := by
  obtain ⟨hids, hintents⟩ := RuleEngine.evaluate_matching hevaluation
  have hmany : 128 < actionCount (engine.matching event) →
      dispatch boundary .default event evaluation.intents world =
        (.error (.tooManyIntents (actionCount (engine.matching event)) 128), world) := by
    intro h
    rw [← hintents] at h ⊢
    exact dispatch_of_many boundary .default event h world
  have hfew : actionCount (engine.matching event) ≤ 128 →
      ∃ outcome after, dispatch boundary .default event evaluation.intents world =
        (.ok outcome, after) := by
    intro h
    rw [← hintents] at h
    exact dispatch_of_few boundary .default event h world
  refine ⟨⟨?_, hfew⟩, ?_, hmany⟩
  · rintro ⟨outcome, after, hok⟩
    by_contra h
    rw [hmany (Nat.not_le.mp h)] at hok
    cases hok
  · intro height
    have hbound := RuleEngine.actionCount_matching_le hengine event
    have hdefault : RuleEngineLimits.default.maxActionsPerRule = 16 := rfl
    rw [hdefault, ← hids] at hbound
    exact hfew (by omega)

section Crowded

/-- A rule that streams every event to the UI as often as the engine allows. -/
def crowdedRule (id : String) : RuleDefinition where
  id := ⟨id⟩
  name := "Crowded"
  enabled := true
  trigger := .eventReceived
  condition := none
  actions := List.replicate 16 .streamToUi

/-- Nine such rules. -/
def crowdedRules : List RuleDefinition :=
  ["r1", "r2", "r3", "r4", "r5", "r6", "r7", "r8", "r9"].map crowdedRule

/-- A dispatcher behind which every queue accepts. -/
def openBoundary : Boundary Unit where
  tryPublish _ world := (.ok ⟨true⟩, world)
  tryForward request world := (.ok ⟨request.sinkId, true⟩, world)
  tryEnqueueCommand request world :=
    (.ok ⟨request.commandExecutionId, request.commandTemplateId, true⟩, world)
  nowV7 world := ("018f2f9e-0000-7000-8000-000000000000", world)

theorem crowdedRules_valid : ∀ rule ∈ crowdedRules, validateRule rule .default = .ok () := by
  decide +kernel

theorem crowdedRules_accepted :
    RuleEngine.withLimits crowdedRules .default = .ok ⟨crowdedRules⟩ :=
  RuleEngine.withLimits_eq_ok_iff.mpr ⟨fun rule hmem _ => crowdedRules_valid rule hmem, rfl⟩

/-- What the nine rules yield: each of them its sixteen intents. -/
def crowdedEvaluation : RuleEvaluation where
  matchedRules := crowdedRules.map RuleDefinition.id
  intents := List.replicate 144 (.streamToUi hotEvent.id)

theorem crowdedRules_evaluate :
    RuleEngine.evaluate ⟨crowdedRules⟩ hotEvent = .ok crowdedEvaluation := by
  rfl

theorem dispatch_evaluated_iff_crowded :
    ((∃ outcome after, dispatch openBoundary .default hotEvent crowdedEvaluation.intents () =
        (.ok outcome, after)) ↔
      actionCount (RuleEngine.matching ⟨crowdedRules⟩ hotEvent) ≤ 128) ∧
      (crowdedEvaluation.matchedRules.length ≤ 8 →
        ∃ outcome after, dispatch openBoundary .default hotEvent crowdedEvaluation.intents () =
          (.ok outcome, after)) ∧
      (128 < actionCount (RuleEngine.matching ⟨crowdedRules⟩ hotEvent) →
        dispatch openBoundary .default hotEvent crowdedEvaluation.intents () =
          (.error (.tooManyIntents
            (actionCount (RuleEngine.matching ⟨crowdedRules⟩ hotEvent)) 128), ())) :=
  dispatch_evaluated_iff crowdedRules_accepted crowdedRules_evaluate openBoundary ()

/-- The limits of the engine do not keep the dispatcher within its own: nine rules of an accepted
configuration together ask for more than it does for one event. -/
theorem dispatch_refuses_crowded :
    ¬ ∀ (config : ProjectConfig) (engine : RuleEngine) (event : NormalizedEvent)
      (evaluation : RuleEvaluation), validateRuntimeConfig config = .ok () →
        RuleEngine.withLimits config.rules .default = .ok engine →
        engine.evaluate event = .ok evaluation →
        ∀ (σ : Type) (boundary : Boundary σ) (world : σ),
          ∃ outcome after, dispatch boundary .default event evaluation.intents world =
            (.ok outcome, after) := by
  intro h
  have hvalid : validateRuntimeConfig (plantProject "s3cret" crowdedRules []) = .ok () := by
    decide +kernel
  obtain ⟨outcome, after, hok⟩ := h _ _ hotEvent _ hvalid crowdedRules_accepted
    crowdedRules_evaluate Unit openBoundary ()
  rw [dispatch_of_many openBoundary .default hotEvent (by decide +kernel)] at hok
  cases hok

end Crowded

end Daemon
end PipeBolt
