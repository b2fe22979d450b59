import Mathlib.Algebra.GroupWithZero.Nat
import Mathlib.Algebra.Order.BigOperators.Group.List
import PipeBolt.Core.RuleEvaluation

/-!
# The dispatcher of intents

`pipe_bolt_core::dispatcher::action`: what is done with the intents of one event.

The queues behind the dispatcher are the operations of a `Boundary` over a state, so that what a
dispatch does to them is the change of that state.

* `dispatch_of_few`, `dispatch_of_many`: a dispatch succeeds unless there are too many intents,
  and then it does nothing.
* `dispatch_accounts`: every intent is executed, skipped or failed.
* `RuleEngine.evaluate_matching`: the intents of an evaluation are the actions of the rules that
  match.
* `RuleEngine.actionCount_matching_le`: the limit on the actions of each rule bounds them together.
-/

namespace PipeBolt
namespace Core

open Domain Rust Fallible

/-! ## Limits and requests -/

/-- `DispatchLimits`. -/
structure DispatchLimits where
  maxIntentsPerEvent : Nat
  maxMetadataEntriesPerEvent : Nat
  maxMetadataKeyBytes : Nat
  maxMetadataValueBytes : Nat
  deriving DecidableEq, Repr

/-- `DispatchLimits::default`. -/
def DispatchLimits.default : DispatchLimits where
  maxIntentsPerEvent := 128
  maxMetadataEntriesPerEvent := 32
  maxMetadataKeyBytes := 128
  maxMetadataValueBytes := 1024

/-- `DispatchLimits::metadata_limits`. -/
def DispatchLimits.metadataLimits (limits : DispatchLimits) : ActionMetadataLimits :=
  ⟨limits.maxMetadataKeyBytes, limits.maxMetadataValueBytes⟩

/-- `ForwardRequest`. -/
structure ForwardRequest where
  event : NormalizedEvent
  sinkId : SinkId
  projection : Option ValueMap

/-- `ForwardReceipt`. -/
structure ForwardReceipt where
  sinkId : SinkId
  accepted : Bool
  deriving DecidableEq, Repr

/-- `RealtimePublishReceipt`. -/
structure RealtimePublishReceipt where
  accepted : Bool
  deriving DecidableEq, Repr

/-- `CommandRequestReceipt`. -/
structure CommandRequestReceipt where
  commandExecutionId : CommandExecutionId
  commandTemplateId : CommandTemplateId
  accepted : Bool
  deriving DecidableEq, Repr

/-- What the dispatcher calls: `RealtimeEventSink::try_publish`, `EventForwarder::try_forward`,
`CommandRequestQueue::try_enqueue_command` and `Uuid::now_v7`.  Each gives its result and the state
it leaves. -/
structure Boundary (σ : Type) where
  tryPublish : NormalizedEvent → σ → Except DispatchError RealtimePublishReceipt × σ
  tryForward : ForwardRequest → σ → Except DispatchError ForwardReceipt × σ
  tryEnqueueCommand : CommandExecutionRequest → σ → Except DispatchError CommandRequestReceipt × σ
  nowV7 : σ → String × σ

/-! ## Outcomes -/

/-- `ExecutedAction`. -/
inductive ExecutedAction where
  | streamToUi (receipt : RealtimePublishReceipt)
  | forwardToSink (receipt : ForwardReceipt)
  | executeCommand (receipt : CommandRequestReceipt)
  | addMetadata (key : String)
  | dropEvent
  deriving DecidableEq, Repr

/-- `SkippedAction`. -/
inductive SkippedAction where
  | afterDrop (actionType : String)
  | eventMismatch (actionType : String) (actionEventId : EventId)
  | unsupported (actionType : String)
  deriving DecidableEq, Repr

/-- `FailedAction`. -/
structure FailedAction where
  actionType : String
  error : DispatchError
  deriving DecidableEq, Repr

/-- `DispatchOutcome`. -/
structure DispatchOutcome where
  eventId : EventId
  executed : List ExecutedAction
  skipped : List SkippedAction
  failed : List FailedAction
  dropped : Bool
  metadataOverlay : BTreeMap String
  deriving DecidableEq, Repr

/-- `DispatchOutcome::new`. -/
def DispatchOutcome.new (eventId : EventId) : DispatchOutcome := ⟨eventId, [], [], [], false, []⟩

/-- `outcome.executed.push`. -/
def DispatchOutcome.pushExecuted (outcome : DispatchOutcome) (action : ExecutedAction) :
    DispatchOutcome :=
  { outcome with executed := outcome.executed ++ [action] }

/-- `outcome.skipped.push`. -/
def DispatchOutcome.pushSkipped (outcome : DispatchOutcome) (action : SkippedAction) :
    DispatchOutcome :=
  { outcome with skipped := outcome.skipped ++ [action] }

/-- `outcome.failed.push`. -/
def DispatchOutcome.pushFailed (outcome : DispatchOutcome) (action : FailedAction) :
    DispatchOutcome :=
  { outcome with failed := outcome.failed ++ [action] }

/-- The outcome of an attempt: executed, or failed with its error. -/
def DispatchOutcome.record {α : Type} (outcome : DispatchOutcome) (actionType : String)
    (result : Except DispatchError α) (executed : α → ExecutedAction) : DispatchOutcome :=
  match result with
  | .ok receipt => outcome.pushExecuted (executed receipt)
  | .error error => outcome.pushFailed ⟨actionType, error⟩

/-! ## Metadata -/

/-- `validate_metadata`. -/
def validateMetadata (key value : String) (limits : DispatchLimits) : Except DispatchError Unit :=
  (validateActionMetadata key value limits.metadataLimits).mapError fun
    | .invalidKey reason => .invalidMetadataKey reason
    | .valueTooLarge actual max => .metadataValueTooLarge actual max

/-- `EventDispatchContext::insert_metadata`. -/
def insertMetadata (overlay : BTreeMap String) (key value : String) (limits : DispatchLimits) :
    Except DispatchError (BTreeMap String) := do
  validateMetadata key value limits
  if !overlay.containsKey key && limits.maxMetadataEntriesPerEvent ≤ overlay.length then
    .error (.tooManyMetadataEntries (overlay.length + 1) limits.maxMetadataEntriesPerEvent)
  else return overlay.insert key value

/-- `EventDispatchContext::enriched_event` and `DispatchOutcome::enriched_event`. -/
def enrichedEvent (original : NormalizedEvent) (overlay : BTreeMap String) : NormalizedEvent :=
  if overlay.isEmpty then original
  else { original with metadata := original.metadata.extend overlay }

/-! ## Intents -/

/-- `intent_event_id`. -/
def intentEventId : ActionIntent → Option EventId
  | .streamToUi eventId | .forwardToSink eventId _ _ | .dropEvent eventId _
  | .addMetadata eventId _ _ | .executeCommand eventId _ _ _ => some eventId

/-- `action_type`. -/
def actionType : ActionIntent → String
  | .streamToUi _ => "stream_to_ui"
  | .forwardToSink _ _ _ => "forward_to_sink"
  | .executeCommand _ _ _ _ => "execute_command"
  | .dropEvent _ _ => "drop_event"
  | .addMetadata _ _ _ => "add_metadata"

-- Irreducible, so that no proof evaluates the check of the text that is built here.
/-- The identifier of a command that a rule asks for. -/
@[irreducible]
def generatedExecutionId (uuid : String) : Except DispatchError CommandExecutionId :=
  (Identifier.new s!"command_exec_{uuid}").mapError fun _ =>
    .commandRequestBuild "generated command execution id is invalid"

/-- `command_request_from_intent`, with the text that `Uuid::now_v7` gave. -/
def commandRequestFromIntent (uuid : String) (event : NormalizedEvent)
    (commandTemplateId : CommandTemplateId) (params : ValueMap) (correlationId : String) :
    Except DispatchError CommandExecutionRequest := do
  let commandExecutionId ← generatedExecutionId uuid
  return {
    projectId := event.projectId
    commandExecutionId
    commandTemplateId
    params
    source := .rule
    actorId := none
    sourceEventId := some event.id
    correlationId
    reason := some s!"matched event {event.id.raw}" }

/-! ## Dispatch -/

/-- The variables of the loop of `ActionDispatcher::dispatch`. -/
structure DispatchRun (σ : Type) where
  outcome : DispatchOutcome
  metadataOverlay : BTreeMap String
  world : σ

section Dispatch

variable {σ : Type} (boundary : Boundary σ) (limits : DispatchLimits) (event : NormalizedEvent)

/-- The branch of `ActionDispatcher::dispatch` for `ExecuteCommand`. -/
def DispatchRun.executeCommand (run : DispatchRun σ) (commandTemplateId : CommandTemplateId)
    (params : ValueMap) (correlationId : String) : DispatchRun σ :=
  let named := boundary.nowV7 run.world
  match commandRequestFromIntent named.1 event commandTemplateId params correlationId with
  | .ok request =>
    let queued := boundary.tryEnqueueCommand request named.2
    { run with
      outcome := run.outcome.record "execute_command" queued.1 .executeCommand
      world := queued.2 }
  | .error error =>
    { run with outcome := run.outcome.pushFailed ⟨"execute_command", error⟩, world := named.2 }

/-- The branch of `ActionDispatcher::dispatch` for `AddMetadata`. -/
def DispatchRun.addMetadata (run : DispatchRun σ) (key value : String) : DispatchRun σ :=
  match insertMetadata run.metadataOverlay key value limits with
  | .ok metadataOverlay =>
    { run with outcome := run.outcome.pushExecuted (.addMetadata key), metadataOverlay }
  | .error error => { run with outcome := run.outcome.pushFailed ⟨"add_metadata", error⟩ }

/-- The `match intent` of the loop of `ActionDispatcher::dispatch`. -/
def DispatchRun.attempt (run : DispatchRun σ) (intent : ActionIntent) : DispatchRun σ :=
  match intent with
  | .streamToUi _ =>
    let published := boundary.tryPublish (enrichedEvent event run.metadataOverlay) run.world
    { run with
      outcome := run.outcome.record (actionType intent) published.1 .streamToUi
      world := published.2 }
  | .forwardToSink _ sinkId projection =>
    let forwarded := boundary.tryForward ⟨enrichedEvent event run.metadataOverlay, sinkId,
      projection⟩ run.world
    { run with
      outcome := run.outcome.record (actionType intent) forwarded.1 .forwardToSink
      world := forwarded.2 }
  | .dropEvent _ _ =>
    { run with outcome := { run.outcome with dropped := true }.pushExecuted .dropEvent }
  | .addMetadata _ key value => run.addMetadata limits key value
  | .executeCommand _ commandTemplateId params correlationId =>
    run.executeCommand boundary event commandTemplateId params correlationId

/-- One round of the loop of `ActionDispatcher::dispatch`. -/
def DispatchRun.round (run : DispatchRun σ) (intent : ActionIntent) : DispatchRun σ :=
  if run.outcome.dropped then
    { run with outcome := run.outcome.pushSkipped (.afterDrop (actionType intent)) }
  else
    match (intentEventId intent).filter (· ≠ event.id) with
    | some actionEventId =>
      { run with
        outcome := run.outcome.pushSkipped (.eventMismatch (actionType intent) actionEventId) }
    | none => run.attempt boundary limits event intent

/-- `ActionDispatcher::dispatch`. -/
def dispatch (intents : List ActionIntent) (world : σ) : Except DispatchError DispatchOutcome × σ :=
  if limits.maxIntentsPerEvent < intents.length then
    (.error (.tooManyIntents intents.length limits.maxIntentsPerEvent), world)
  else
    let run := intents.foldl (DispatchRun.round boundary limits event) ⟨.new event.id, [], world⟩
    (.ok { run.outcome with metadataOverlay := run.metadataOverlay }, run.world)

/-- Intents within the limit are dispatched. -/
theorem dispatch_of_few {intents : List ActionIntent}
    (h : intents.length ≤ limits.maxIntentsPerEvent) (world : σ) :
    ∃ outcome after, dispatch boundary limits event intents world = (.ok outcome, after) := by
  rw [dispatch, if_neg (Nat.not_lt.mpr h)]
  exact ⟨_, _, rfl⟩

/-- Too many intents are refused together, before anything is done. -/
theorem dispatch_of_many {intents : List ActionIntent}
    (h : limits.maxIntentsPerEvent < intents.length) (world : σ) :
    dispatch boundary limits event intents world =
      (.error (.tooManyIntents intents.length limits.maxIntentsPerEvent), world) :=
  if_pos h

/-- The number of intents that an outcome accounts for. -/
def DispatchOutcome.accounted (outcome : DispatchOutcome) : Nat :=
  outcome.executed.length + outcome.skipped.length + outcome.failed.length

section Accounted

variable (outcome : DispatchOutcome)

@[simp]
theorem DispatchOutcome.accounted_pushExecuted (action : ExecutedAction) :
    (outcome.pushExecuted action).accounted = outcome.accounted + 1 := by
  simp only [pushExecuted, accounted, List.length_append, List.length_singleton]
  omega

@[simp]
theorem DispatchOutcome.accounted_pushSkipped (action : SkippedAction) :
    (outcome.pushSkipped action).accounted = outcome.accounted + 1 := by
  simp only [pushSkipped, accounted, List.length_append, List.length_singleton]
  omega

@[simp]
theorem DispatchOutcome.accounted_pushFailed (action : FailedAction) :
    (outcome.pushFailed action).accounted = outcome.accounted + 1 := by
  simp only [pushFailed, accounted, List.length_append, List.length_singleton]
  omega

@[simp]
theorem DispatchOutcome.accounted_record {α : Type} (actionType : String)
    (result : Except DispatchError α) (executed : α → ExecutedAction) :
    (outcome.record actionType result executed).accounted = outcome.accounted + 1 := by
  cases result with
  | ok receipt => exact outcome.accounted_pushExecuted _
  | error error => exact outcome.accounted_pushFailed _

end Accounted

/-- A round accounts for its intent. -/
theorem DispatchRun.accounted_round (run : DispatchRun σ) (intent : ActionIntent) :
    (run.round boundary limits event intent).outcome.accounted = run.outcome.accounted + 1 := by
  unfold round
  split
  · exact run.outcome.accounted_pushSkipped _
  · split
    · exact run.outcome.accounted_pushSkipped _
    · cases intent with
      | streamToUi eventId => simp [attempt]
      | forwardToSink eventId sinkId projection => simp [attempt]
      | dropEvent eventId reason =>
        rw [attempt, DispatchOutcome.accounted_pushExecuted]
        rfl
      | addMetadata eventId key value =>
        rw [attempt, addMetadata]
        cases insertMetadata run.metadataOverlay key value limits with
        | ok overlay => simp
        | error error => simp
      | executeCommand eventId commandTemplateId params correlationId =>
        rw [attempt, executeCommand]
        cases commandRequestFromIntent (boundary.nowV7 run.world).1 event commandTemplateId params
          correlationId with
        | ok request => simp
        | error error => simp

/-- **Every intent is accounted for**: it is executed, skipped or failed. -/
theorem dispatch_accounts {intents : List ActionIntent} {world after : σ}
    {outcome : DispatchOutcome}
    (h : dispatch boundary limits event intents world = (.ok outcome, after)) :
    outcome.accounted = intents.length := by
  have hrounds : ∀ (intents : List ActionIntent) (run : DispatchRun σ),
      (intents.foldl (DispatchRun.round boundary limits event) run).outcome.accounted =
        run.outcome.accounted + intents.length := by
    intro intents
    induction intents with
    | nil => exact fun run => rfl
    | cons intent intents ih =>
      intro run
      rw [List.foldl_cons, ih, DispatchRun.accounted_round, List.length_cons]
      omega
  unfold dispatch at h
  split at h
  · cases h
  · obtain ⟨houtcome, -⟩ := Prod.mk.inj h
    rw [← Except.ok.inj houtcome]
    have hall := hrounds intents ⟨.new event.id, [], world⟩
    simpa [DispatchOutcome.new, DispatchOutcome.accounted] using hall

end Dispatch

/-! ## The intents of an evaluation -/

/-- Whether a rule of an engine matches an event. -/
def matchesEvent (event : NormalizedEvent) (rule : RuleDefinition) : Bool :=
  triggerMatches rule.trigger event && (ruleMatches rule event).toOption == some true

/-- The rules of an engine that match an event. -/
def RuleEngine.matching (engine : RuleEngine) (event : NormalizedEvent) : List RuleDefinition :=
  engine.rules.filter (matchesEvent event)

/-- The number of actions of some rules. -/
def actionCount (rules : List RuleDefinition) : Nat :=
  (rules.map fun rule => rule.actions.length).sum

/-- A round that succeeds adds the identifier of its rule and an intent for each action, when the
rule matches. -/
theorem RuleEvaluation.round_matching {event : NormalizedEvent} {rule : RuleDefinition}
    {before after : RuleEvaluation} (h : before.round event rule = .ok after) :
    after.matchedRules.length = before.matchedRules.length +
        ([rule].filter (matchesEvent event)).length ∧
      after.intents.length = before.intents.length +
        actionCount ([rule].filter (matchesEvent event)) := by
  unfold round at h
  cases htrigger : triggerMatches rule.trigger event with
  | false =>
    rw [htrigger] at h
    obtain rfl : before = after := Except.ok.inj h
    simp [matchesEvent, htrigger, actionCount]
  | true =>
    rw [htrigger] at h
    obtain ⟨matched, hmatched, h⟩ := bind_eq_ok_iff.mp h
    cases matched with
    | false =>
      obtain rfl : before = after := Except.ok.inj h
      simp [matchesEvent, htrigger, hmatched, actionCount, Except.toOption]
    | true =>
      obtain ⟨intents, hintents, h⟩ := bind_eq_ok_iff.mp h
      rw [← Except.ok.inj h]
      have hlength : rule.actions.length = intents.length :=
        (mapM_eq_ok_iff_forall₂.mp hintents).length_eq
      simp [matchesEvent, htrigger, hmatched, actionCount, Except.toOption, hlength]

/-- The intents of an evaluation are the actions of the rules that match. -/
theorem RuleEngine.evaluate_matching {engine : RuleEngine} {event : NormalizedEvent}
    {evaluation : RuleEvaluation} (h : engine.evaluate event = .ok evaluation) :
    evaluation.matchedRules.length = (engine.matching event).length ∧
      evaluation.intents.length = actionCount (engine.matching event) := by
  have hrounds : ∀ (rules : List RuleDefinition) (before : RuleEvaluation),
      rules.foldlM (RuleEvaluation.round event) before = .ok evaluation →
        evaluation.matchedRules.length = before.matchedRules.length +
            (rules.filter (matchesEvent event)).length ∧
          evaluation.intents.length = before.intents.length +
            actionCount (rules.filter (matchesEvent event)) := by
    intro rules
    induction rules with
    | nil =>
      intro before h
      obtain rfl : before = evaluation := Except.ok.inj h
      simp [actionCount]
    | cons rule rules ih =>
      intro before h
      rw [List.foldlM_cons] at h
      obtain ⟨next, hnext, h⟩ := bind_eq_ok_iff.mp h
      obtain ⟨hids, hintents⟩ := RuleEvaluation.round_matching hnext
      obtain ⟨hids', hintents'⟩ := ih next h
      have hsplit : (rule :: rules).filter (matchesEvent event) =
          [rule].filter (matchesEvent event) ++ rules.filter (matchesEvent event) := by
        rw [← List.filter_append, List.singleton_append]
      rw [hsplit, List.length_append]
      simp only [actionCount, List.map_append, List.sum_append] at hintents hintents' ⊢
      omega
  obtain ⟨hids, hintents⟩ := hrounds engine.rules .empty h
  rw [matching, hids, hintents]
  simp [RuleEvaluation.empty]

/-- A rule of an engine has no more actions than the limits allow. -/
theorem validateRule_actions {rule : RuleDefinition} {limits : RuleEngineLimits}
    (h : validateRule rule limits = .ok ()) : rule.actions.length ≤ limits.maxActionsPerRule := by
  obtain ⟨-, h⟩ := guard_eq_ok_iff.mp h
  obtain ⟨-, h⟩ := guard_eq_ok_iff.mp h
  exact Nat.not_lt.mp (guard_eq_ok_iff.mp h).1

/-- The rules that match have at most as many actions together as the limit for each of them. -/
theorem RuleEngine.actionCount_matching_le {rules : List RuleDefinition}
    {limits : RuleEngineLimits} {engine : RuleEngine}
    (h : RuleEngine.withLimits rules limits = .ok engine) (event : NormalizedEvent) :
    actionCount (engine.matching event) ≤
      (engine.matching event).length * limits.maxActionsPerRule := by
  obtain ⟨hvalid, hrules⟩ := RuleEngine.withLimits_eq_ok_iff.mp h
  have hfew : ∀ count ∈ (engine.matching event).map fun rule => rule.actions.length,
      count ≤ limits.maxActionsPerRule := by
    intro count hcount
    obtain ⟨rule, hmem, rfl⟩ := List.mem_map.mp hcount
    have hrule := (List.mem_filter.mp hmem).1
    rw [hrules] at hrule
    obtain ⟨hin, henabled⟩ := List.mem_filter.mp hrule
    exact validateRule_actions (hvalid rule hin henabled)
  have hsum := List.sum_le_card_nsmul _ _ hfew
  rw [List.length_map] at hsum
  exact hsum

end Core
end PipeBolt
