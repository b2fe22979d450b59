import PipeBolt.Core.Command
import PipeBolt.Core.Dispatcher
import PipeBolt.Daemon.RuntimeConfig
import PipeBolt.Storage.Secret

/-!
# The command processor

`process_command_request` and `process_and_record_command_request` of `pipe_bolt_daemon::runtime`:
a request is checked, rendered, recorded when a rule asked for it, and handed to the queue of its
broker; when any of this fails, its row is marked failed.

The storage and the queues of the brokers are operations on a state.

* `prepareCommandRequest_eq_ok`: what a request that passes the checks is rendered to.
* `PassesChecks.process_error`: where a request that passes the checks can still fail.
-/

namespace PipeBolt
namespace Daemon

open Domain PipeBolt.Core Pipeline Fallible Storage

/-! ## Errors and rows -/

/-- `RuntimeCommandProcessorError`. -/
inductive RuntimeCommandProcessorError where
  | projectMismatch (expected actual : ProjectId)
  | commandTemplateNotFound (templateId : CommandTemplateId)
  | commandTemplateDisabled (templateId : CommandTemplateId)
  | render (source : CommandRenderError)
  | brokerUnavailable (brokerId : BrokerId)
  | publishEnqueue (brokerId : BrokerId) (source : MqttEngineError)
  | auditRecord (source : StorageError)
  | auditUnavailable
  deriving DecidableEq, Repr

/-- `CommandExecutionStatus`. -/
inductive CommandExecutionStatus where
  | queued
  | published
  | failed
  deriving DecidableEq, Repr

/-- `NewCommandExecution`. -/
structure NewCommandExecution where
  commandExecutionId : CommandExecutionId
  projectId : ProjectId
  commandTemplateId : CommandTemplateId
  brokerId : BrokerId
  actorId : Option UserId
  status : CommandExecutionStatus
  topic : String
  qos : MqttQos
  retain : Bool
  payloadSizeBytes : Nat
  failureReason : Option String
  reason : Option String
  deriving DecidableEq, Repr

/-- The counters of `RuntimeStats` that the processor adds to. -/
structure CommandStats where
  renderFailedTotal : UInt64
  publishEnqueueFailedTotal : UInt64
  statusUpdateFailedTotal : UInt64
  deriving DecidableEq, Repr

/-- `record_command_processor_error`. -/
def recordCommandProcessorError (stats : CommandStats) :
    RuntimeCommandProcessorError → CommandStats
  | .render _ => { stats with renderFailedTotal := stats.renderFailedTotal + 1 }
  | .publishEnqueue _ _ =>
    { stats with publishEnqueueFailedTotal := stats.publishEnqueueFailedTotal + 1 }
  | .auditRecord _ => { stats with statusUpdateFailedTotal := stats.statusUpdateFailedTotal + 1 }
  | .auditUnavailable | .projectMismatch _ _ | .commandTemplateNotFound _
  | .commandTemplateDisabled _ | .brokerUnavailable _ => stats

/-! ## The processor -/

/-- The operations of `PostgresStorage` that the processor calls.  The reason of a failure is the
text of the error that is given. -/
structure CommandStorage (σ : Type) where
  recordCommandExecution : NewCommandExecution → σ → Except StorageError Unit × σ
  markCommandExecutionFailed :
    CommandExecutionId → RuntimeCommandProcessorError → σ → Except StorageError Unit × σ

/-- `CommandProcessorBroker`: a broker and the `try_enqueue_rendered` of its sink. -/
structure CommandProcessorBroker (σ : Type) where
  brokerId : BrokerId
  tryEnqueueRendered : RenderedCommand → σ → Except MqttEngineError Unit × σ

/-- `CommandProcessor`. -/
structure CommandProcessor (σ : Type) where
  projectId : ProjectId
  templates : List CommandTemplate
  brokers : List (CommandProcessorBroker σ)
  renderer : CommandTemplateRenderer
  storage : Option (CommandStorage σ)

section Processor

variable {σ : Type} (json : SerdeJson) (processor : CommandProcessor σ)
  (request : CommandExecutionRequest)

/-- The context in which a request is rendered. -/
def renderContext : CommandRenderContext where
  projectId := request.projectId
  commandExecutionId := request.commandExecutionId
  correlationId := request.correlationId

/-- `process_command_request`, up to the broker that is found. -/
def prepareCommandRequest :
    Except RuntimeCommandProcessorError (RenderedCommand × CommandProcessorBroker σ) :=
  if request.projectId ≠ processor.projectId then
    .error (.projectMismatch processor.projectId request.projectId)
  else
    match processor.templates.find? (·.id == request.commandTemplateId) with
    | none => .error (.commandTemplateNotFound request.commandTemplateId)
    | some template =>
      if !template.enabled then .error (.commandTemplateDisabled template.id)
      else do
        let rendered ← (processor.renderer.render json template (renderContext request)
          request.params).mapError .render
        match processor.brokers.find? (·.brokerId == rendered.brokerId) with
        | none => .error (.brokerUnavailable rendered.brokerId)
        | some broker => return (rendered, broker)

/-- The row that `record_rule_command_execution` records. -/
def queuedExecution (rendered : RenderedCommand) : NewCommandExecution where
  commandExecutionId := request.commandExecutionId
  projectId := request.projectId
  commandTemplateId := request.commandTemplateId
  brokerId := rendered.brokerId
  actorId := request.actorId
  status := .queued
  topic := rendered.topic.raw
  qos := rendered.qos
  retain := rendered.retain
  payloadSizeBytes := rendered.payloadSizeBytes
  failureReason := none
  reason := request.reason

/-- `record_rule_command_execution`. -/
def recordRuleCommandExecution (rendered : RenderedCommand) (world : σ) :
    Except RuntimeCommandProcessorError Unit × σ :=
  if request.source ≠ .rule then (.ok (), world)
  else
    match processor.storage with
    | none => (.error .auditUnavailable, world)
    | some storage =>
      let (result, world) := storage.recordCommandExecution (queuedExecution request rendered) world
      (result.mapError .auditRecord, world)

/-- `process_command_request`. -/
def processCommandRequest (world : σ) : Except RuntimeCommandProcessorError Unit × σ :=
  match prepareCommandRequest json processor request with
  | .error error => (.error error, world)
  | .ok (rendered, broker) =>
    match recordRuleCommandExecution processor request rendered world with
    | (.error error, world) => (.error error, world)
    | (.ok (), world) =>
      let (result, world) := broker.tryEnqueueRendered rendered world
      (result.mapError (.publishEnqueue rendered.brokerId), world)

/-- `mark_command_failed_after_processor_error`. -/
def markCommandFailedAfterProcessorError (error : RuntimeCommandProcessorError)
    (stats : CommandStats) (world : σ) : CommandStats × σ :=
  match processor.storage with
  | none => (stats, world)
  | some storage =>
    match storage.markCommandExecutionFailed request.commandExecutionId error world with
    | (.ok (), world) => (stats, world)
    | (.error _, world) =>
      ({ stats with statusUpdateFailedTotal := stats.statusUpdateFailedTotal + 1 }, world)

/-- `process_and_record_command_request`. -/
def processAndRecordCommandRequest (stats : CommandStats) (world : σ) : CommandStats × σ :=
  match processCommandRequest json processor request world with
  | (.ok (), world) => (stats, world)
  | (.error error, world) =>
    markCommandFailedAfterProcessorError processor request error
      (recordCommandProcessorError stats error) world

end Processor

/-! ## What passes the checks -/

section Checks

variable {σ : Type} {json : SerdeJson} {processor : CommandProcessor σ}
  {request : CommandExecutionRequest}

/-- A request is for the project of the processor, and for an enabled template of a broker that
runs. -/
structure PassesChecks (processor : CommandProcessor σ) (request : CommandExecutionRequest) :
    Prop where
  project : request.projectId = processor.projectId
  template : ∃ template,
    processor.templates.find? (·.id == request.commandTemplateId) = some template ∧
      template.enabled = true ∧
      ∃ broker, processor.brokers.find? (·.brokerId == template.brokerId) = some broker

/-- What a request is rendered to carries the identifiers of the request, and the broker is the
one of its template. -/
theorem prepareCommandRequest_eq_ok {rendered : RenderedCommand}
    {broker : CommandProcessorBroker σ}
    (h : prepareCommandRequest json processor request = .ok (rendered, broker)) :
    PassesChecks processor request ∧ rendered.commandExecutionId = request.commandExecutionId ∧
      broker ∈ processor.brokers ∧ broker.brokerId = rendered.brokerId := by
  unfold prepareCommandRequest at h
  obtain ⟨hproject, h⟩ := guard_eq_ok_iff.mp h
  split at h
  · cases h
  · next template htemplate =>
    obtain ⟨henabled, h⟩ := guard_eq_ok_iff.mp h
    obtain ⟨rendered', hrendered, h⟩ := bind_eq_ok_iff.mp h
    obtain ⟨hfrom, -⟩ := CommandTemplateRenderer.render_eq_ok (mapError_eq_ok_iff.mp hrendered)
    split at h
    · cases h
    · next broker' hbroker =>
      obtain ⟨rfl, rfl⟩ := Prod.mk.inj (Except.ok.inj h)
      have hrun : processor.brokers.find? (·.brokerId == template.brokerId) = some broker' := by
        rw [← hfrom.brokerId]
        exact hbroker
      refine ⟨⟨not_not.mp hproject, template, htemplate, ?_, broker', hrun⟩,
        hfrom.commandExecutionId, List.mem_of_find?_eq_some hbroker, ?_⟩
      · simpa using henabled
      · have hid := List.find?_some hbroker
        exact eq_of_beq hid

/-- A request that passes the checks is prepared unless it cannot be rendered. -/
theorem PassesChecks.prepare_error (h : PassesChecks processor request)
    {error : RuntimeCommandProcessorError}
    (herror : prepareCommandRequest json processor request = .error error) :
    ∃ source, error = .render source := by
  obtain ⟨hproject, template, htemplate, henabled, broker, hbroker⟩ := h
  rw [prepareCommandRequest, if_neg (not_not.mpr hproject), htemplate] at herror
  simp only [henabled, Bool.not_true, Bool.false_eq_true, if_false] at herror
  cases hrender : processor.renderer.render json template (renderContext request)
      request.params with
  | error source =>
    rw [hrender] at herror
    exact ⟨source, (Except.error.inj herror).symm⟩
  | ok rendered =>
    obtain ⟨hfrom, -⟩ := CommandTemplateRenderer.render_eq_ok hrender
    rw [hrender] at herror
    have hrun : processor.brokers.find? (·.brokerId == rendered.brokerId) = some broker := by
      rw [hfrom.brokerId]
      exact hbroker
    simp only [Except.mapError, bind, Except.bind, hrun] at herror
    cases herror

/-- The row of a request is not recorded because the storage fails or is missing. -/
theorem recordRuleCommandExecution_error {rendered : RenderedCommand} {world after : σ}
    {error : RuntimeCommandProcessorError}
    (h : recordRuleCommandExecution processor request rendered world = (.error error, after)) :
    (∃ source, error = .auditRecord source) ∨ error = .auditUnavailable := by
  unfold recordRuleCommandExecution at h
  split at h
  · cases h
  · split at h
    · obtain ⟨hunavailable, -⟩ := Prod.mk.inj h
      exact Or.inr (Except.error.inj hunavailable).symm
    · obtain ⟨hresult, -⟩ := Prod.mk.inj h
      obtain ⟨source, -, rfl⟩ := mapError_eq_error_iff.mp hresult
      exact Or.inl ⟨source, rfl⟩

/-- A request that passes the checks fails only where it is rendered, recorded or handed on. -/
theorem PassesChecks.process_error (h : PassesChecks processor request)
    {error : RuntimeCommandProcessorError} {world after : σ}
    (herror : processCommandRequest json processor request world = (.error error, after)) :
    (∃ source, error = .render source) ∨ (∃ source, error = .auditRecord source) ∨
      error = .auditUnavailable ∨ ∃ brokerId source, error = .publishEnqueue brokerId source := by
  unfold processCommandRequest at herror
  split at herror
  · next error' hprepare =>
    obtain ⟨hsame, -⟩ := Prod.mk.inj herror
    rw [← Except.error.inj hsame]
    exact Or.inl (h.prepare_error hprepare)
  · next rendered broker hprepare =>
    split at herror
    · next error' world' hrecord =>
      obtain ⟨hsame, -⟩ := Prod.mk.inj herror
      rw [← Except.error.inj hsame]
      rcases recordRuleCommandExecution_error hrecord with hfailed | hmissing
      · exact Or.inr (Or.inl hfailed)
      · exact Or.inr (Or.inr (Or.inl hmissing))
    · obtain ⟨hresult, -⟩ := Prod.mk.inj herror
      obtain ⟨source, -, rfl⟩ := mapError_eq_error_iff.mp hresult
      exact Or.inr (Or.inr (Or.inr ⟨_, source, rfl⟩))

end Checks

end Daemon
end PipeBolt
