import Mathlib.Algebra.Order.Group.Multiset
import Mathlib.Tactic.Abel
import PipeBolt.Daemon.CommandTable
import PipeBolt.Lib.Channel

/-!
# The runs of the command workers

The two ways of a command to the MQTT client, from `RuntimeSupervisor::execute_command` and from the
rules, and the workers on them: `run_command_processor`, the `run_command_worker` of the MQTT engine
and `consume_command_publish_outcomes`, with the bounded channels between them, the table of command
executions and `ProjectRuntime::shutdown`.

A step is what one party does between two of its awaits.  Calls of the storage may fail before or
after their statement; what the MQTT client returns, and when the signals are seen, is up to the run.
A runtime has one enabled broker and so one MQTT engine.  Identifiers of executions are not given out
twice.

* `processAndRecord_run`: the steps of the processor are the function that they cut.
* `CommandStep.ledger`: a step is a step of the ledger of executions.
* `ledger_run`: and a run is a run of it.
-/

namespace PipeBolt
namespace Daemon

open Domain Storage BoundedChannel Transition Keyed
open PipeBolt.Core Pipeline

/-! ## The parties -/

/-- The request that `RuntimeSupervisor::execute_command` builds. -/
def apiRequest (projectId : ProjectId) (commandTemplateId : CommandTemplateId) (params : ValueMap)
    (audit : AuditContext) (id : CommandExecutionId) : CommandExecutionRequest where
  projectId := projectId
  commandExecutionId := id
  commandTemplateId := commandTemplateId
  params := params
  source := .api
  actorId := audit.actorId
  sourceEventId := none
  correlationId := id.raw
  reason := audit.reason

/-- The checks of `RuntimeSupervisor::execute_command` before it records the row: an enabled
template of the configuration that runs, and `render_command_preview`. -/
def previewCommand (json : SerdeJson) (templates : List CommandTemplate)
    (request : CommandExecutionRequest) : Option RenderedCommand := do
  let template ← templates.find? (·.id == request.commandTemplateId)
  if !template.enabled then none
  else
    (CommandTemplateRenderer.default.render json template (renderContext request)
      request.params).toOption

/-- The request of a call and the command of its preview. -/
structure ApiExecution where
  request : CommandExecutionRequest
  rendered : RenderedCommand
  fromApi : request.source = .api

/-- `RuntimeSupervisor::execute_command`, from the row that it records on. -/
inductive ApiCall where
  | recording (execution : ApiExecution)
  | recorded (execution : ApiExecution)
  /-- The request was not enqueued, and the row is marked failed. -/
  | rejected (execution : ApiExecution)

/-- A request and the command that it is rendered to. -/
structure PreparedCommand where
  request : CommandExecutionRequest
  rendered : RenderedCommand
  sameExecution : rendered.commandExecutionId = request.commandExecutionId

/-- What `process_and_record_command_request` is at. -/
inductive ProcessorWork where
  | received (request : CommandExecutionRequest)
  | prepared (command : PreparedCommand)
  /-- The row is there, and the command goes to the sink next. -/
  | ready (command : PreparedCommand)
  | failed (request : CommandExecutionRequest) (error : RuntimeCommandProcessorError)

/-- What `MqttCommandPublishSink::try_enqueue_rendered` enqueues. -/
def mqttCommand (rendered : RenderedCommand) : MqttCommand where
  topic := rendered.topic.raw
  qos := rendered.qos
  retain := rendered.retain
  payload := rendered.payload
  context := {
    projectId := rendered.projectId
    brokerId := rendered.brokerId
    commandTemplateId := rendered.commandTemplateId
    commandExecutionId := rendered.commandExecutionId
    correlationId := rendered.correlationId }

/-- The error of `InternalBusHandle::try_enqueue_command`. -/
def busError : SendError → MqttEngineError
  | .full => .commandQueueFull
  | .closed => .commandQueueClosed

/-- Where `run_command_worker` is. -/
inductive MqttWorkerPhase where
  | idle
  /-- In `client.publish`. -/
  | publishing (command : MqttCommand)
  /-- In `report_command_publish_outcome`. -/
  | reporting (outcome : MqttCommandPublishOutcome)
  | stopped

/-- Where `ProjectRuntime::shutdown` is, for the workers of commands. -/
inductive CommandShutdown where
  | notCalled
  | joinProcessor
  | joinConsumer
  /-- In `MqttEngine::shutdown`. -/
  | joinEngine
  | over
  /-- The runtime, or the future of its shutdown, was dropped. -/
  | abandoned
  deriving DecidableEq, Repr

/-- The table, the calls, the workers with their channels, and the shutdown. -/
structure CommandSystem where
  rows : CommandTable
  /-- The identifiers of executions that were given out. -/
  used : List CommandExecutionId
  calls : List ApiCall
  requests : Channel CommandExecutionRequest
  /-- Where `run_command_processor` is. -/
  processor : DrainPhase
  work : Option ProcessorWork
  commands : Channel MqttCommand
  worker : MqttWorkerPhase
  outcomes : Channel MqttCommandPublishOutcome
  /-- Where `consume_command_publish_outcomes` is. -/
  consumer : DrainPhase
  /-- The outcome that the consumer records. -/
  recording : Option MqttCommandPublishOutcome
  /-- Whether the runtime was told to shut down. -/
  signalled : Bool
  /-- Whether the MQTT engine was told to shut down. -/
  engineSignalled : Bool
  shutdown : CommandShutdown
  /-- Whether no join of the shutdown timed out. -/
  clean : Bool

/-- The system that `ProjectRuntime::start` sets up, on a table with rows of earlier runs. -/
def CommandSystem.new (rows : CommandTable) (commandQueueCapacity outcomeCapacity : Nat) :
    CommandSystem where
  rows := rows
  used := rows.rows.map (·.commandExecutionId)
  calls := []
  requests := .new commandQueueCapacity
  processor := .running
  work := none
  commands := .new 256
  worker := .idle
  outcomes := .new outcomeCapacity
  consumer := .running
  recording := none
  signalled := false
  engineSignalled := false
  shutdown := .notCalled
  clean := true

/-! ## Steps -/

/-- What happens in a step. -/
inductive CommandLabel where
  | callBegin
  | callRecord (id : CommandExecutionId) (ok : Bool)
  | callEnqueue (id : CommandExecutionId)
  | callRejected
  | callMark (id : CommandExecutionId) (ok : Bool)
  | ruleEnqueue (id : CommandExecutionId)
  | ruleRejected
  | closeRequests
  | receiveRequest
  | prepare
  | ruleRecord (id : CommandExecutionId) (ok : Bool)
  | sinkEnqueue
  | processorMark (id : CommandExecutionId) (ok : Bool)
  | processorForget
  | processorReturn
  | publish (id : CommandExecutionId)
  /-- `client.publish` returned, and whether it returned `Ok`. -/
  | published (id : CommandExecutionId) (ok : Bool)
  | report (sent : Bool)
  | workerStop
  | closeOutcomes
  | receiveOutcome
  | recordOutcome (id : CommandExecutionId) (published ok : Bool)
  | forgetOutcome
  | consumerReturn
  | shutdown
  | joinProcessor
  | abortProcessor
  | joinConsumer
  | abortConsumer
  | joinEngine
  | abandon
  deriving DecidableEq

/-- The update of `record_command_publish_outcome`. -/
def recordCommandPublishOutcome (outcome : MqttCommandPublishOutcome) (rows : CommandTable) :
    Except StorageError CommandTable :=
  match outcome.status with
  | .published => markCommandExecutionPublished outcome.context.commandExecutionId rows
  | .failed =>
    markCommandExecutionFailed outcome.context.commandExecutionId
      (outcome.failureReason.getD "MQTT command publish failed") rows

section Step

variable {σ : Type} (json : SerdeJson) (processor : CommandProcessor σ)

/-- A step of a call, of the pipeline, of a worker or of the shutdown. -/
inductive CommandStep : CommandSystem → CommandLabel → CommandSystem → Prop
  /-- A call with a new identifier gets as far as its row. -/
  | callBegin {s : CommandSystem} {rendered} (projectId : ProjectId)
      (commandTemplateId : CommandTemplateId) (params : ValueMap) (audit : AuditContext)
      (id : CommandExecutionId)
      (hpreview : previewCommand json processor.templates
        (apiRequest projectId commandTemplateId params audit id) = some rendered)
      (hfresh : id ∉ s.used) :
      CommandStep s .callBegin
        { s with
          calls := s.calls ++
            [.recording ⟨apiRequest projectId commandTemplateId params audit id, rendered, rfl⟩]
          used := id :: s.used }
  | callRecorded {s : CommandSystem} {before after execution rows}
      (hcalls : s.calls = before ++ .recording execution :: after)
      (hwrite : StorageCall
        (recordCommandExecution (queuedExecution execution.request execution.rendered)) s.rows true
        rows) :
      CommandStep s (.callRecord execution.request.commandExecutionId true)
        { s with rows, calls := before ++ .recorded execution :: after }
  /-- The row is not recorded, or the call is dropped while it waits. -/
  | callNotRecorded {s : CommandSystem} {before after execution rows}
      (hcalls : s.calls = before ++ .recording execution :: after)
      (hwrite : StorageCall
        (recordCommandExecution (queuedExecution execution.request execution.rendered)) s.rows false
        rows) :
      CommandStep s (.callRecord execution.request.commandExecutionId false)
        { s with rows, calls := before ++ after }
  | callEnqueue {s : CommandSystem} {before after execution requests}
      (hcalls : s.calls = before ++ .recorded execution :: after)
      (hsend : s.requests.trySend execution.request = .ok requests) :
      CommandStep s (.callEnqueue execution.request.commandExecutionId)
        { s with calls := before ++ after, requests }
  | callRejected {s : CommandSystem} {before after execution error}
      (hcalls : s.calls = before ++ .recorded execution :: after)
      (hsend : s.requests.trySend execution.request = .error error) :
      CommandStep s .callRejected { s with calls := before ++ .rejected execution :: after }
  /-- The row is marked failed with the text of the error, or the call is dropped as it waits. -/
  | callMark {s : CommandSystem} {before after execution ok rows} (reason : String)
      (hcalls : s.calls = before ++ .rejected execution :: after)
      (hwrite : StorageCall
        (markCommandExecutionFailed execution.request.commandExecutionId reason) s.rows ok rows) :
      CommandStep s (.callMark execution.request.commandExecutionId ok)
        { s with rows, calls := before ++ after }
  /-- `try_enqueue_command` of the dispatcher, with a new identifier. -/
  | ruleEnqueue {s : CommandSystem} {request requests} (hsource : request.source = .rule)
      (hfresh : request.commandExecutionId ∉ s.used)
      (hsend : s.requests.trySend request = .ok requests) :
      CommandStep s (.ruleEnqueue request.commandExecutionId)
        { s with requests, used := request.commandExecutionId :: s.used }
  | ruleRejected {s : CommandSystem} {request error} (hsource : request.source = .rule)
      (hsend : s.requests.trySend request = .error error) : CommandStep s .ruleRejected s
  /-- The branch of `shutdown_rx.changed()` in `run_command_processor`. -/
  | closeRequests {s : CommandSystem} (hphase : s.processor = .running) (hidle : s.work = none)
      (hsignal : s.signalled = true) :
      CommandStep s .closeRequests { s with requests := s.requests.close, processor := .draining }
  | receiveRequest {s : CommandSystem} {request requests} (hphase : s.processor ≠ .returned)
      (hidle : s.work = none) (hrecv : s.requests.recv = some (request, requests)) :
      CommandStep s .receiveRequest { s with requests, work := some (.received request) }
  | prepared {s : CommandSystem} {request rendered broker}
      (hwork : s.work = some (.received request))
      (hprepare : prepareCommandRequest json processor request = .ok (rendered, broker)) :
      CommandStep s .prepare
        { s with
          work := some (.prepared ⟨request, rendered, (prepareCommandRequest_eq_ok hprepare).2.1⟩) }
  | notPrepared {s : CommandSystem} {request error} (hwork : s.work = some (.received request))
      (hprepare : prepareCommandRequest json processor request = .error error) :
      CommandStep s .prepare { s with work := some (.failed request error) }
  /-- `record_rule_command_execution` records the row of a request from a rule only. -/
  | apiPrepared {s : CommandSystem} {command} (hwork : s.work = some (.prepared command))
      (hsource : command.request.source = .api) :
      CommandStep s .prepare { s with work := some (.ready command) }
  | auditUnavailable {s : CommandSystem} {command} (hwork : s.work = some (.prepared command))
      (hsource : command.request.source = .rule) (hstorage : processor.storage.isSome = false) :
      CommandStep s .prepare { s with work := some (.failed command.request .auditUnavailable) }
  | ruleRecorded {s : CommandSystem} {command rows} (hwork : s.work = some (.prepared command))
      (hsource : command.request.source = .rule) (hstorage : processor.storage.isSome = true)
      (hwrite : StorageCall
        (recordCommandExecution (queuedExecution command.request command.rendered)) s.rows true
        rows) :
      CommandStep s (.ruleRecord command.request.commandExecutionId true)
        { s with rows, work := some (.ready command) }
  | ruleNotRecorded {s : CommandSystem} {command rows} (source : StorageError)
      (hwork : s.work = some (.prepared command)) (hsource : command.request.source = .rule)
      (hstorage : processor.storage.isSome = true)
      (hwrite : StorageCall
        (recordCommandExecution (queuedExecution command.request command.rendered)) s.rows false
        rows) :
      CommandStep s (.ruleRecord command.request.commandExecutionId false)
        { s with rows, work := some (.failed command.request (.auditRecord source)) }
  | sinkEnqueue {s : CommandSystem} {command commands} (hwork : s.work = some (.ready command))
      (hsend : s.commands.trySend (mqttCommand command.rendered) = .ok commands) :
      CommandStep s .sinkEnqueue { s with work := none, commands }
  | sinkRejected {s : CommandSystem} {command error} (hwork : s.work = some (.ready command))
      (hsend : s.commands.trySend (mqttCommand command.rendered) = .error error) :
      CommandStep s .sinkEnqueue
        { s with
          work := some (.failed command.request
            (.publishEnqueue command.rendered.brokerId (busError error))) }
  /-- `mark_command_failed_after_processor_error`, with the text of the error. -/
  | processorMark {s : CommandSystem} {request error ok rows} (reason : String)
      (hwork : s.work = some (.failed request error)) (hstorage : processor.storage.isSome = true)
      (hwrite : StorageCall (markCommandExecutionFailed request.commandExecutionId reason) s.rows ok
        rows) :
      CommandStep s (.processorMark request.commandExecutionId ok) { s with rows, work := none }
  | processorForget {s : CommandSystem} {request error}
      (hwork : s.work = some (.failed request error))
      (hstorage : processor.storage.isSome = false) :
      CommandStep s .processorForget { s with work := none }
  /-- `recv` returns `None` after the channel is closed. -/
  | processorReturn {s : CommandSystem} (hphase : s.processor = .draining) (hidle : s.work = none)
      (hempty : s.requests.queue = []) :
      CommandStep s .processorReturn { s with requests := s.requests.drop, processor := .returned }
  /-- `publish_command` calls `client.publish`. -/
  | publish {s : CommandSystem} {command commands} (hworker : s.worker = .idle)
      (hrecv : s.commands.recv = some (command, commands)) :
      CommandStep s (.publish command.context.commandExecutionId)
        { s with commands, worker := .publishing command }
  /-- `client.publish` returns. -/
  | published {s : CommandSystem} {command} (result : Except String Unit)
      (hworker : s.worker = .publishing command) :
      CommandStep s (.published command.context.commandExecutionId result.isOk)
        { s with worker := .reporting (command.publishOutcome result) }
  | report {s : CommandSystem} {outcome outcomes} (hworker : s.worker = .reporting outcome)
      (hsend : s.outcomes.trySend outcome = .ok outcomes) :
      CommandStep s (.report true) { s with worker := .idle, outcomes }
  | reportDropped {s : CommandSystem} {outcome error} (hworker : s.worker = .reporting outcome)
      (hsend : s.outcomes.trySend outcome = .error error) :
      CommandStep s (.report false) { s with worker := .idle }
  /-- The branch of `shutdown_rx.changed()` in `run_command_worker`: the receiver is dropped with
  what is in its queue. -/
  | workerStop {s : CommandSystem} (hworker : s.worker = .idle)
      (hsignal : s.engineSignalled = true) :
      CommandStep s .workerStop { s with commands := s.commands.drop, worker := .stopped }
  /-- The branch of `shutdown_rx.changed()` in `consume_command_publish_outcomes`, or the end of its
  loop when the worker is gone. -/
  | closeOutcomes {s : CommandSystem} (hphase : s.consumer = .running) (hidle : s.recording = none)
      (hsignal : s.signalled = true) :
      CommandStep s .closeOutcomes { s with outcomes := s.outcomes.close, consumer := .draining }
  | receiveOutcome {s : CommandSystem} {outcome outcomes} (hphase : s.consumer ≠ .returned)
      (hidle : s.recording = none) (hrecv : s.outcomes.recv = some (outcome, outcomes)) :
      CommandStep s .receiveOutcome { s with outcomes, recording := some outcome }
  | recordOutcome {s : CommandSystem} {outcome ok rows} (hrecording : s.recording = some outcome)
      (hstorage : processor.storage.isSome = true)
      (hwrite : StorageCall (recordCommandPublishOutcome outcome) s.rows ok rows) :
      CommandStep s
        (.recordOutcome outcome.context.commandExecutionId outcome.status.isPublished ok)
        { s with rows, recording := none }
  | forgetOutcome {s : CommandSystem} {outcome} (hrecording : s.recording = some outcome)
      (hstorage : processor.storage.isSome = false) :
      CommandStep s .forgetOutcome { s with recording := none }
  | consumerReturn {s : CommandSystem} (hphase : s.consumer = .draining)
      (hidle : s.recording = none) (hempty : s.outcomes.queue = []) :
      CommandStep s .consumerReturn { s with outcomes := s.outcomes.drop, consumer := .returned }
  /-- `shutdown_tx.send(true)` of the runtime. -/
  | shutdown {s : CommandSystem} (hpoint : s.shutdown = .notCalled) :
      CommandStep s .shutdown { s with shutdown := .joinProcessor, signalled := true }
  | joinProcessor {s : CommandSystem} (hpoint : s.shutdown = .joinProcessor)
      (hreturned : s.processor = .returned) :
      CommandStep s .joinProcessor { s with shutdown := .joinConsumer }
  /-- The join times out: the processor is aborted, and the shutdown returns an error in the end. -/
  | abortProcessor {s : CommandSystem} (hpoint : s.shutdown = .joinProcessor) :
      CommandStep s .abortProcessor
        { s with
          shutdown := .joinConsumer
          requests := s.requests.drop
          processor := .returned
          work := none
          clean := false }
  /-- After the workers the MQTT engine is told to shut down. -/
  | joinConsumer {s : CommandSystem} (hpoint : s.shutdown = .joinConsumer)
      (hreturned : s.consumer = .returned) :
      CommandStep s .joinConsumer { s with shutdown := .joinEngine, engineSignalled := true }
  | abortConsumer {s : CommandSystem} (hpoint : s.shutdown = .joinConsumer) :
      CommandStep s .abortConsumer
        { s with
          shutdown := .joinEngine
          outcomes := s.outcomes.drop
          consumer := .returned
          recording := none
          engineSignalled := true
          clean := false }
  | joinEngine {s : CommandSystem} (hpoint : s.shutdown = .joinEngine)
      (hstopped : s.worker = .stopped) : CommandStep s .joinEngine { s with shutdown := .over }
  /-- The runtime or the future of its shutdown is dropped, with the senders of the signals. -/
  | abandon {s : CommandSystem} (hpoint : s.shutdown ≠ .over) :
      CommandStep s .abandon
        { s with shutdown := .abandoned, signalled := true, engineSignalled := true }

end Step

/-! ## The function that the steps of the processor cut -/

section ProcessorRun

variable {json : SerdeJson} {processor : CommandProcessor CommandSystem}
  {request : CommandExecutionRequest}

/-- The operations that a processor calls do to the system what the steps do. -/
structure CommandProcessor.ActsOnSystem (processor : CommandProcessor CommandSystem) : Prop where
  record : ∀ storage ∈ processor.storage, ∀ execution s, ∃ result rows,
    storage.recordCommandExecution execution s = (result, { s with rows }) ∧
      StorageCall (recordCommandExecution execution) s.rows result.isOk rows
  mark : ∀ storage ∈ processor.storage, ∀ id error s, ∃ result rows reason,
    storage.markCommandExecutionFailed id error s = (result, { s with rows }) ∧
      StorageCall (markCommandExecutionFailed id reason) s.rows result.isOk rows
  enqueue : ∀ broker ∈ processor.brokers, ∀ rendered s,
    (∀ commands, s.commands.trySend (mqttCommand rendered) = .ok commands →
      broker.tryEnqueueRendered rendered s = (.ok (), { s with commands })) ∧
    ∀ error, s.commands.trySend (mqttCommand rendered) = .error error →
      broker.tryEnqueueRendered rendered s = (.error (busError error), s)

/-- A storage over the table of the system, whose connection does not fail. -/
def CommandSystem.storage (errorText : RuntimeCommandProcessorError → String) :
    CommandStorage CommandSystem where
  recordCommandExecution execution s :=
    match Daemon.recordCommandExecution execution s.rows with
    | .ok rows => (.ok (), { s with rows })
    | .error error => (.error error, s)
  markCommandExecutionFailed id error s :=
    match Daemon.markCommandExecutionFailed id (errorText error) s.rows with
    | .ok rows => (.ok (), { s with rows })
    | .error error => (.error error, s)

/-- A broker whose sink puts commands into the queue of the system. -/
def CommandSystem.broker (brokerId : BrokerId) : CommandProcessorBroker CommandSystem where
  brokerId := brokerId
  tryEnqueueRendered rendered s :=
    match s.commands.trySend (mqttCommand rendered) with
    | .ok commands => (.ok (), { s with commands })
    | .error error => (.error (busError error), s)

/-- A processor with that storage and such brokers does to the system what the steps do. -/
theorem CommandSystem.actsOnSystem {errorText : RuntimeCommandProcessorError → String}
    (hstorage : ∀ storage ∈ processor.storage, storage = CommandSystem.storage errorText)
    (hbrokers : ∀ broker ∈ processor.brokers, broker = CommandSystem.broker broker.brokerId) :
    processor.ActsOnSystem where
  record storage hmem execution s := by
    rw [hstorage storage hmem]
    cases hcall : Daemon.recordCommandExecution execution s.rows with
    | ok rows => exact ⟨.ok (), rows, by simp only [CommandSystem.storage, hcall], .done hcall⟩
    | error error =>
      exact ⟨.error error, s.rows, by simp only [CommandSystem.storage, hcall], .refused hcall⟩
  mark storage hmem id error s := by
    rw [hstorage storage hmem]
    cases hcall : Daemon.markCommandExecutionFailed id (errorText error) s.rows with
    | ok rows =>
      exact ⟨.ok (), rows, errorText error, by simp only [CommandSystem.storage, hcall],
        .done hcall⟩
    | error reason =>
      exact ⟨.error reason, s.rows, errorText error, by simp only [CommandSystem.storage, hcall],
        .refused hcall⟩
  enqueue broker hmem rendered s := by
    rw [hbrokers broker hmem]
    constructor
    · intro commands hsend
      simp only [CommandSystem.broker, hsend]
    · intro error hsend
      simp only [CommandSystem.broker, hsend]

/-- A request that failed is marked failed, or forgotten where there is no storage. -/
theorem markCommandFailed_run (hacts : processor.ActsOnSystem)
    {error : RuntimeCommandProcessorError} {stats stats' : CommandStats} {s t : CommandSystem}
    (h : markCommandFailedAfterProcessorError processor request error stats s = (stats', t)) :
    ∃ es, Run (CommandStep json processor) { s with work := some (.failed request error) } es
      { t with work := none } := by
  unfold markCommandFailedAfterProcessorError at h
  cases hstorage : processor.storage with
  | none =>
    rw [hstorage] at h
    obtain rfl : s = t := congrArg Prod.snd h
    exact ⟨_, .cons (.processorForget rfl (by rw [hstorage]; rfl)) (.nil _)⟩
  | some storage =>
    obtain ⟨result, rows, reason, hmark, hcall⟩ :=
      hacts.mark storage hstorage request.commandExecutionId error s
    rw [hstorage] at h
    simp only [hmark] at h
    obtain rfl : { s with rows } = t := by
      cases result with
      | ok => exact congrArg Prod.snd h
      | error => exact congrArg Prod.snd h
    exact ⟨_, .cons (.processorMark reason rfl (by rw [hstorage]; rfl) hcall) (.nil _)⟩

/-- A command is handed to the sink of its broker. -/
theorem sinkEnqueue_run (json : SerdeJson) (hacts : processor.ActsOnSystem)
    {command : PreparedCommand} {broker : CommandProcessorBroker CommandSystem}
    (hbroker : broker ∈ processor.brokers) (s : CommandSystem) :
    (∃ t, broker.tryEnqueueRendered command.rendered s = (.ok (), t) ∧
      ∃ es, Run (CommandStep json processor) { s with work := some (.ready command) } es
        { t with work := none }) ∨
    ∃ error t, broker.tryEnqueueRendered command.rendered s = (.error error, t) ∧
      ∃ es, Run (CommandStep json processor) { s with work := some (.ready command) } es
        { t with
          work := some (.failed command.request
            (.publishEnqueue command.rendered.brokerId error)) } := by
  obtain ⟨hsent, hrejected⟩ := hacts.enqueue broker hbroker command.rendered s
  cases hsend : s.commands.trySend (mqttCommand command.rendered) with
  | ok commands => exact .inl ⟨_, hsent commands hsend, _, .cons (.sinkEnqueue rfl hsend) (.nil _)⟩
  | error error =>
    exact .inr ⟨_, _, hrejected error hsend, _, .cons (.sinkRejected rfl hsend) (.nil _)⟩

/-- A prepared request gets its row, which is there already for a request of the API. -/
theorem recordRule_run (json : SerdeJson) (hacts : processor.ActsOnSystem)
    (command : PreparedCommand) (s : CommandSystem) :
    ∃ result t, recordRuleCommandExecution processor command.request command.rendered s =
        (result, t) ∧
      (∀ error, result = .error error → ∃ es,
        Run (CommandStep json processor) { s with work := some (.prepared command) } es
          { t with work := some (.failed command.request error) }) ∧
      (result = .ok () → ∃ es,
        Run (CommandStep json processor) { s with work := some (.prepared command) } es
          { t with work := some (.ready command) }) := by
  unfold recordRuleCommandExecution
  cases hsource : command.request.source with
  | api =>
    refine ⟨.ok (), s, rfl, nofun, fun _ => ⟨_, .cons (.apiPrepared rfl hsource) (.nil _)⟩⟩
  | rule =>
    simp only [ne_eq, not_true_eq_false, if_false]
    cases hstorage : processor.storage with
    | none =>
      have hnone : processor.storage.isSome = false := by rw [hstorage]; rfl
      refine ⟨_, _, rfl, fun error herror => ?_, nofun⟩
      obtain rfl := Except.error.inj herror
      exact ⟨_, .cons (.auditUnavailable rfl hsource hnone) (.nil _)⟩
    | some storage =>
      have hsome : processor.storage.isSome = true := by rw [hstorage]; rfl
      obtain ⟨result, rows, hrecord, hcall⟩ := hacts.record storage hstorage
        (queuedExecution command.request command.rendered) s
      simp only [hrecord]
      refine ⟨_, _, rfl, fun error herror => ?_, fun hok => ?_⟩
      · obtain ⟨source, rfl, rfl⟩ := Fallible.mapError_eq_error_iff.mp herror
        exact ⟨_, .cons (.ruleNotRecorded source rfl hsource hsome hcall) (.nil _)⟩
      · obtain rfl := Fallible.mapError_eq_ok_iff.mp hok
        exact ⟨_, .cons (.ruleRecorded rfl hsource hsome hcall) (.nil _)⟩

/-- The steps that the processor takes on a request are `process_and_record_command_request`, cut at
its awaits. -/
theorem processAndRecord_run (hacts : processor.ActsOnSystem) {stats stats' : CommandStats}
    {s t : CommandSystem} (hwork : s.work = some (.received request))
    (h : processAndRecordCommandRequest json processor request stats s = (stats', t)) :
    ∃ es, Run (CommandStep json processor) s es { t with work := none } := by
  unfold processAndRecordCommandRequest processCommandRequest at h
  cases hprepare : prepareCommandRequest json processor request with
  | error error =>
    simp only [hprepare] at h
    obtain ⟨es, hmark⟩ := markCommandFailed_run hacts h
    exact ⟨_, .cons (.notPrepared hwork hprepare) hmark⟩
  | ok prepared =>
    obtain ⟨rendered, broker⟩ := prepared
    obtain ⟨-, hsame, hbroker, -⟩ := prepareCommandRequest_eq_ok hprepare
    have hprepared := CommandStep.prepared hwork hprepare
    obtain ⟨result, u, hrecord, hfailed, hrecorded⟩ :=
      recordRule_run json hacts ⟨request, rendered, hsame⟩ s
    simp only [hprepare, hrecord] at h
    cases result with
    | error error =>
      obtain ⟨es, hrun⟩ := hfailed error rfl
      obtain ⟨es', hmark⟩ := markCommandFailed_run hacts h
      exact ⟨_, .cons hprepared (hrun.append hmark)⟩
    | ok =>
      obtain ⟨es, hrun⟩ := hrecorded rfl
      have hsend := @sinkEnqueue_run _ json hacts ⟨request, rendered, hsame⟩ broker hbroker u
      rcases hsend with ⟨v, hsent, es', hsink⟩ | ⟨error, v, hrejected, es', hsink⟩
      · simp only [hsent] at h
        obtain rfl : v = t := congrArg Prod.snd h
        exact ⟨_, .cons hprepared (hrun.append hsink)⟩
      · simp only [hrejected] at h
        obtain ⟨es'', hmark⟩ := markCommandFailed_run hacts h
        exact ⟨_, .cons hprepared (hrun.append (hsink.append hmark))⟩

end ProcessorRun

/-! ## The ledger of a state -/

/-- An execution and its stage. -/
abbrev Token := CommandExecutionId × ExecutionStage

/-- The stage of a request in the queue or before the processor records its row. -/
def requestStage (request : CommandExecutionRequest) : ExecutionStage :=
  match request.source with
  | .api => .pending
  | .rule => .ruled

/-- The stage of a request that the processor refuses. -/
def refusedStage (request : CommandExecutionRequest) : ExecutionStage :=
  match request.source with
  | .api => .pending
  | .rule => .failing

theorem refusedStage_isEarly (request : CommandExecutionRequest) :
    (refusedStage request).isEarly = true := by
  unfold refusedStage
  cases request.source <;> rfl

def requestToken (request : CommandExecutionRequest) : Token :=
  (request.commandExecutionId, requestStage request)

def ApiCall.token : ApiCall → Token
  | .recording execution => (execution.request.commandExecutionId, .recording)
  | .recorded execution | .rejected execution =>
    (execution.request.commandExecutionId, .recorded)

def ProcessorWork.token : ProcessorWork → Token
  | .received request => requestToken request
  | .prepared command => requestToken command.request
  | .ready command => (command.request.commandExecutionId, .pending)
  | .failed request _ => (request.commandExecutionId, refusedStage request)

def commandToken (command : MqttCommand) : Token :=
  (command.context.commandExecutionId, .pending)

def outcomeToken (outcome : MqttCommandPublishOutcome) : Token :=
  (outcome.context.commandExecutionId, .returned outcome.status.isPublished)

def MqttWorkerPhase.tokens : MqttWorkerPhase → List Token
  | .idle | .stopped => []
  | .publishing command => [(command.context.commandExecutionId, .handed)]
  | .reporting outcome => [outcomeToken outcome]

theorem coe_append_singleton {α : Type*} (xs : List α) (x : α) :
    ((xs ++ [x] : List α) : Multiset α) = x ::ₘ (xs : Multiset α) :=
  Multiset.coe_eq_coe.mpr (List.perm_append_singleton x xs)

section Held

variable (calls : List ApiCall) (requests : List CommandExecutionRequest)
  (work : Option ProcessorWork) (commands : List MqttCommand) (worker : MqttWorkerPhase)
  (outcomes : List MqttCommandPublishOutcome) (recording : Option MqttCommandPublishOutcome)

/-- The executions that the parties and the channels hold. -/
def heldBy : Multiset Token :=
  (calls.map ApiCall.token : List Token) + (requests.map requestToken : List Token) +
    (work.toList.map ProcessorWork.token : List Token) + (commands.map commandToken : List Token) +
    (worker.tokens : List Token) + (outcomes.map outcomeToken : List Token) +
    (recording.toList.map outcomeToken : List Token)

theorem heldBy_call (before : List ApiCall) (call : ApiCall) (after : List ApiCall) :
    heldBy (before ++ call :: after) requests work commands worker outcomes recording =
      call.token ::ₘ heldBy (before ++ after) requests work commands worker outcomes recording := by
  simp only [heldBy, List.map_append, List.map_cons, ← Multiset.coe_add, ← Multiset.cons_coe,
    Multiset.add_cons, Multiset.cons_add]

theorem heldBy_request (request : CommandExecutionRequest) :
    heldBy calls (request :: requests) work commands worker outcomes recording =
      requestToken request ::ₘ heldBy calls requests work commands worker outcomes recording := by
  simp only [heldBy, List.map_cons, ← Multiset.cons_coe, Multiset.add_cons, Multiset.cons_add]

theorem heldBy_request_snoc (request : CommandExecutionRequest) :
    heldBy calls (requests ++ [request]) work commands worker outcomes recording =
      requestToken request ::ₘ heldBy calls requests work commands worker outcomes recording := by
  simp only [heldBy, List.map_append, List.map_singleton, coe_append_singleton, Multiset.add_cons,
    Multiset.cons_add]

theorem heldBy_work (work : ProcessorWork) :
    heldBy calls requests (some work) commands worker outcomes recording =
      work.token ::ₘ heldBy calls requests none commands worker outcomes recording := by
  simp only [heldBy, Option.toList_some, Option.toList_none, List.map_cons, List.map_nil,
    ← Multiset.cons_coe, Multiset.coe_nil, Multiset.add_cons, Multiset.cons_add, add_zero]

theorem heldBy_command (command : MqttCommand) :
    heldBy calls requests work (command :: commands) worker outcomes recording =
      commandToken command ::ₘ heldBy calls requests work commands worker outcomes recording := by
  simp only [heldBy, List.map_cons, ← Multiset.cons_coe, Multiset.add_cons, Multiset.cons_add]

theorem heldBy_command_snoc (command : MqttCommand) :
    heldBy calls requests work (commands ++ [command]) worker outcomes recording =
      commandToken command ::ₘ heldBy calls requests work commands worker outcomes recording := by
  simp only [heldBy, List.map_append, List.map_singleton, coe_append_singleton, Multiset.add_cons,
    Multiset.cons_add]

theorem heldBy_publishing (command : MqttCommand) :
    heldBy calls requests work commands (.publishing command) outcomes recording =
      (command.context.commandExecutionId, .handed) ::ₘ
        heldBy calls requests work commands .idle outcomes recording := by
  simp only [heldBy, MqttWorkerPhase.tokens, ← Multiset.cons_coe, Multiset.coe_nil,
    Multiset.add_cons, Multiset.cons_add, add_zero]

theorem heldBy_reporting (outcome : MqttCommandPublishOutcome) :
    heldBy calls requests work commands (.reporting outcome) outcomes recording =
      outcomeToken outcome ::ₘ heldBy calls requests work commands .idle outcomes recording := by
  simp only [heldBy, MqttWorkerPhase.tokens, ← Multiset.cons_coe, Multiset.coe_nil,
    Multiset.add_cons, Multiset.cons_add, add_zero]

theorem heldBy_outcome (outcome : MqttCommandPublishOutcome) :
    heldBy calls requests work commands worker (outcome :: outcomes) recording =
      outcomeToken outcome ::ₘ heldBy calls requests work commands worker outcomes recording := by
  simp only [heldBy, List.map_cons, ← Multiset.cons_coe, Multiset.add_cons, Multiset.cons_add]

theorem heldBy_outcome_snoc (outcome : MqttCommandPublishOutcome) :
    heldBy calls requests work commands worker (outcomes ++ [outcome]) recording =
      outcomeToken outcome ::ₘ heldBy calls requests work commands worker outcomes recording := by
  simp only [heldBy, List.map_append, List.map_singleton, coe_append_singleton, Multiset.add_cons,
    Multiset.cons_add]

theorem heldBy_recording (outcome : MqttCommandPublishOutcome) :
    heldBy calls requests work commands worker outcomes (some outcome) =
      outcomeToken outcome ::ₘ heldBy calls requests work commands worker outcomes none := by
  simp only [heldBy, Option.toList_some, Option.toList_none, List.map_cons, List.map_nil,
    ← Multiset.cons_coe, Multiset.coe_nil, Multiset.add_cons, add_zero]

theorem heldBy_commands :
    heldBy calls requests work commands worker outcomes recording =
      (commands.map commandToken : List Token) +
        heldBy calls requests work [] worker outcomes recording := by
  simp only [heldBy, List.map_nil, Multiset.coe_nil]
  abel

theorem heldBy_processor :
    heldBy calls requests work commands worker outcomes recording =
      (requests.map requestToken : List Token) +
        (work.toList.map ProcessorWork.token : List Token) +
          heldBy calls [] none commands worker outcomes recording := by
  simp only [heldBy, List.map_nil, Option.toList_none, Multiset.coe_nil]
  abel

theorem heldBy_consumer :
    heldBy calls requests work commands worker outcomes recording =
      (outcomes.map outcomeToken : List Token) +
        (recording.toList.map outcomeToken : List Token) +
          heldBy calls requests work commands worker [] none := by
  simp only [heldBy, List.map_nil, Option.toList_none, Multiset.coe_nil]
  abel

end Held

/-- The ledger of a state. -/
def CommandSystem.ledger (s : CommandSystem) : Ledger CommandExecutionId where
  held := heldBy s.calls s.requests.queue s.work s.commands.queue s.worker s.outcomes.queue
    s.recording
  status := s.rows.status
  used := s.used

section Take

variable {s : CommandSystem}

theorem CommandSystem.held_call {before after : List ApiCall} {call : ApiCall}
    (h : s.calls = before ++ call :: after) :
    s.ledger.held = call.token ::ₘ heldBy (before ++ after) s.requests.queue s.work
      s.commands.queue s.worker s.outcomes.queue s.recording := by
  simp only [ledger, h, heldBy_call]

theorem CommandSystem.held_request {request : CommandExecutionRequest}
    {requests : List CommandExecutionRequest} (h : s.requests.queue = request :: requests) :
    s.ledger.held = requestToken request ::ₘ heldBy s.calls requests s.work s.commands.queue
      s.worker s.outcomes.queue s.recording := by
  simp only [ledger, h, heldBy_request]

theorem CommandSystem.held_work {work : ProcessorWork} (h : s.work = some work) :
    s.ledger.held = work.token ::ₘ heldBy s.calls s.requests.queue none s.commands.queue s.worker
      s.outcomes.queue s.recording := by
  simp only [ledger, h, heldBy_work]

theorem CommandSystem.held_command {command : MqttCommand} {commands : List MqttCommand}
    (h : s.commands.queue = command :: commands) :
    s.ledger.held = commandToken command ::ₘ heldBy s.calls s.requests.queue s.work commands
      s.worker s.outcomes.queue s.recording := by
  simp only [ledger, h, heldBy_command]

theorem CommandSystem.held_publishing {command : MqttCommand} (h : s.worker = .publishing command) :
    s.ledger.held = (command.context.commandExecutionId, .handed) ::ₘ heldBy s.calls
      s.requests.queue s.work s.commands.queue .idle s.outcomes.queue s.recording := by
  simp only [ledger, h, heldBy_publishing]

theorem CommandSystem.held_reporting {outcome : MqttCommandPublishOutcome}
    (h : s.worker = .reporting outcome) :
    s.ledger.held = outcomeToken outcome ::ₘ heldBy s.calls s.requests.queue s.work
      s.commands.queue .idle s.outcomes.queue s.recording := by
  simp only [ledger, h, heldBy_reporting]

theorem CommandSystem.held_outcome {outcome : MqttCommandPublishOutcome}
    {outcomes : List MqttCommandPublishOutcome} (h : s.outcomes.queue = outcome :: outcomes) :
    s.ledger.held = outcomeToken outcome ::ₘ heldBy s.calls s.requests.queue s.work
      s.commands.queue s.worker outcomes s.recording := by
  simp only [ledger, h, heldBy_outcome]

theorem CommandSystem.held_recording {outcome : MqttCommandPublishOutcome}
    (h : s.recording = some outcome) :
    s.ledger.held = outcomeToken outcome ::ₘ heldBy s.calls s.requests.queue s.work
      s.commands.queue s.worker s.outcomes.queue none := by
  simp only [ledger, h, heldBy_recording]

end Take

/-- What a step is in the ledger. -/
def ledgerLabel (e : Edge CommandSystem CommandLabel) : LedgerLabel CommandExecutionId :=
  match e.label with
  | .callRecord id ok | .ruleRecord id ok => .record id ok
  | .callEnqueue id | .ruleEnqueue id => .accept id
  | .callMark id ok | .processorMark id ok => .fail id ok
  | .publish id => .hand id
  | .published id ok => .returned id ok
  | .recordOutcome id published ok => .settle id published ok
  | .processorForget => .lose (e.source.work.toList.map ProcessorWork.token : List Token)
  | .report false => .lose (e.source.worker.tokens : List Token)
  | .workerStop => .lose (e.source.commands.queue.map commandToken : List Token)
  | .forgetOutcome => .lose (e.source.recording.toList.map outcomeToken : List Token)
  | .abortProcessor =>
    .lose ((e.source.requests.queue.map requestToken : List Token) +
      (e.source.work.toList.map ProcessorWork.token : List Token))
  | .abortConsumer =>
    .lose ((e.source.outcomes.queue.map outcomeToken : List Token) +
      (e.source.recording.toList.map outcomeToken : List Token))
  | .callBegin | .callRejected | .ruleRejected | .closeRequests | .receiveRequest | .prepare
  | .sinkEnqueue | .processorReturn | .report true | .closeOutcomes | .receiveOutcome
  | .consumerReturn | .shutdown | .joinProcessor | .joinConsumer | .joinEngine | .abandon => .silent

section Refinement

variable {σ : Type} {json : SerdeJson} {processor : CommandProcessor σ} {s t : CommandSystem}
  {l : CommandLabel}

/-- A request that the processor refuses. -/
theorem CommandSystem.ledger_refuse {request : CommandExecutionRequest} {stage : ExecutionStage}
    {rest : Multiset Token} (hstage : stage = requestStage request ∨ stage = .pending)
    (hs : s.ledger.held = (request.commandExecutionId, stage) ::ₘ rest)
    (ht : t.ledger.held = (request.commandExecutionId, refusedStage request) ::ₘ rest)
    (hstatus : t.ledger.status = s.ledger.status) (hused : t.ledger.used = s.ledger.used) :
    LedgerStep s.ledger .silent t.ledger := by
  unfold requestStage at hstage
  unfold refusedStage at ht
  cases hsource : request.source with
  | api =>
    rw [hsource] at hstage ht
    obtain rfl : stage = .pending := hstage.elim id id
    exact (LedgerStep.silent s.ledger).of_eq (ht.trans hs.symm) hstatus hused
  | rule =>
    rw [hsource] at hstage ht
    rcases hstage with rfl | rfl
    · exact (LedgerStep.advance hs .refuseRuled).of_eq ht hstatus hused
    · exact (LedgerStep.advance hs .refusePending).of_eq ht hstatus hused

/-- A step of the system is a step of its ledger. -/
theorem CommandStep.ledger (h : CommandStep json processor s l t) :
    LedgerStep s.ledger (ledgerLabel ⟨s, l, t⟩) t.ledger := by
  cases h with
  | callBegin projectId commandTemplateId params audit id hpreview hfresh =>
    refine (LedgerStep.call hfresh).of_eq ?_ rfl rfl
    simp only [CommandSystem.ledger, heldBy_call, List.append_nil]
    rfl
  | callRecorded hcalls hwrite =>
    exact (LedgerStep.callRecorded (CommandSystem.held_call hcalls)).of_eq (heldBy_call ..)
      (hwrite.inserted rfl).of_ok rfl
  | callNotRecorded hcalls hwrite =>
    exact (LedgerStep.callNotRecorded (CommandSystem.held_call hcalls) (hwrite.inserted rfl)).of_eq
      rfl rfl rfl
  | @callEnqueue before after execution requests hcalls hsend =>
    obtain ⟨-, -, rfl⟩ := Channel.trySend_eq_ok_iff.mp hsend
    refine (LedgerStep.advance (CommandSystem.held_call hcalls) .accept).of_eq
      ((heldBy_request_snoc ..).trans ?_) rfl rfl
    rw [requestToken, requestStage, execution.fromApi]
  | callRejected hcalls hsend =>
    exact (LedgerStep.silent s.ledger).of_eq
      ((heldBy_call ..).trans (CommandSystem.held_call hcalls).symm) rfl rfl
  | callMark reason hcalls hwrite =>
    exact (LedgerStep.fail (CommandSystem.held_call hcalls) rfl hwrite.markFailed).of_eq rfl rfl rfl
  | ruleEnqueue hsource hfresh hsend =>
    obtain ⟨-, -, rfl⟩ := Channel.trySend_eq_ok_iff.mp hsend
    refine (LedgerStep.rule hfresh).of_eq ((heldBy_request_snoc ..).trans ?_) rfl rfl
    rw [requestToken, requestStage, hsource]
    rfl
  | ruleRejected hsource hsend => exact .silent _
  | closeRequests hphase hidle hsignal => exact .silent _
  | receiveRequest hphase hidle hrecv =>
    obtain ⟨hqueue, -, -⟩ := Channel.recv_eq_some_iff.mp hrecv
    refine (LedgerStep.silent s.ledger).of_eq ?_ rfl rfl
    refine (heldBy_work ..).trans ((CommandSystem.held_request hqueue).trans ?_).symm
    rw [hidle]
    rfl
  | prepared hwork hprepare =>
    exact (LedgerStep.silent s.ledger).of_eq
      ((heldBy_work ..).trans (CommandSystem.held_work hwork).symm) rfl rfl
  | notPrepared hwork hprepare =>
    exact CommandSystem.ledger_refuse (.inl rfl) (CommandSystem.held_work hwork) (heldBy_work ..)
      rfl rfl
  | apiPrepared hwork hsource =>
    refine (LedgerStep.silent s.ledger).of_eq ?_ rfl rfl
    refine (heldBy_work ..).trans ((CommandSystem.held_work hwork).trans ?_).symm
    rw [ProcessorWork.token, requestToken, requestStage, hsource]
    rfl
  | auditUnavailable hwork hsource hstorage =>
    exact CommandSystem.ledger_refuse (.inl rfl) (CommandSystem.held_work hwork) (heldBy_work ..)
      rfl rfl
  | ruleRecorded hwork hsource hstorage hwrite =>
    have hs := CommandSystem.held_work hwork
    rw [ProcessorWork.token, requestToken, requestStage, hsource] at hs
    exact (LedgerStep.ruleRecorded hs).of_eq (heldBy_work ..) (hwrite.inserted rfl).of_ok rfl
  | ruleNotRecorded source hwork hsource hstorage hwrite =>
    have hs := CommandSystem.held_work hwork
    rw [ProcessorWork.token, requestToken, requestStage, hsource] at hs
    refine (LedgerStep.ruleNotRecorded hs (hwrite.inserted rfl)).of_eq
      ((heldBy_work ..).trans ?_) rfl rfl
    rw [ProcessorWork.token, refusedStage, hsource]
  | @sinkEnqueue command commands hwork hsend =>
    obtain ⟨-, -, rfl⟩ := Channel.trySend_eq_ok_iff.mp hsend
    refine (LedgerStep.silent s.ledger).of_eq ?_ rfl rfl
    refine (heldBy_command_snoc ..).trans ((CommandSystem.held_work hwork).trans ?_).symm
    rw [ProcessorWork.token, commandToken, ← command.sameExecution]
    rfl
  | sinkRejected hwork hsend =>
    exact CommandSystem.ledger_refuse (.inr rfl) (CommandSystem.held_work hwork) (heldBy_work ..)
      rfl rfl
  | processorMark reason hwork hstorage hwrite =>
    exact (LedgerStep.fail (CommandSystem.held_work hwork) (refusedStage_isEarly _)
      hwrite.markFailed).of_eq rfl rfl rfl
  | processorForget hwork hstorage =>
    have hheld := (CommandSystem.held_work hwork).trans (Multiset.singleton_add _ _).symm
    rw [ledgerLabel, hwork]
    exact (LedgerStep.lose hheld).of_eq rfl rfl rfl
  | processorReturn hphase hidle hempty =>
    refine (LedgerStep.silent s.ledger).of_eq ?_ rfl rfl
    simp only [CommandSystem.ledger, Channel.drop_queue, hempty]
  | publish hworker hrecv =>
    obtain ⟨hqueue, -, -⟩ := Channel.recv_eq_some_iff.mp hrecv
    refine (LedgerStep.advance (CommandSystem.held_command hqueue) .hand).of_eq
      ((heldBy_publishing ..).trans ?_) rfl rfl
    rw [hworker]
  | published result hworker =>
    refine (LedgerStep.advance (CommandSystem.held_publishing hworker) (.returned _)).of_eq
      ((heldBy_reporting ..).trans ?_) rfl rfl
    cases result <;> rfl
  | report hworker hsend =>
    obtain ⟨-, -, rfl⟩ := Channel.trySend_eq_ok_iff.mp hsend
    exact (LedgerStep.silent s.ledger).of_eq
      ((heldBy_outcome_snoc ..).trans (CommandSystem.held_reporting hworker).symm) rfl rfl
  | reportDropped hworker hsend =>
    have hheld := (CommandSystem.held_reporting hworker).trans (Multiset.singleton_add _ _).symm
    rw [ledgerLabel, hworker]
    exact (LedgerStep.lose hheld).of_eq rfl rfl rfl
  | workerStop hworker hsignal =>
    refine LedgerStep.of_eq (.lose (heldBy_commands s.calls s.requests.queue s.work s.commands.queue
      s.worker s.outcomes.queue s.recording)) ?_ rfl rfl
    simp only [CommandSystem.ledger, Channel.drop_queue, hworker]
    rfl
  | closeOutcomes hphase hidle hsignal => exact .silent _
  | receiveOutcome hphase hidle hrecv =>
    obtain ⟨hqueue, -, -⟩ := Channel.recv_eq_some_iff.mp hrecv
    refine (LedgerStep.silent s.ledger).of_eq ?_ rfl rfl
    refine (heldBy_recording ..).trans ((CommandSystem.held_outcome hqueue).trans ?_).symm
    rw [hidle]
  | @recordOutcome outcome ok rows hrecording hstorage hwrite =>
    refine (LedgerStep.settle (CommandSystem.held_recording hrecording) ?_).of_eq rfl rfl rfl
    unfold recordCommandPublishOutcome at hwrite
    cases hstatus : outcome.status with
    | published =>
      rw [hstatus] at hwrite
      exact hwrite.markPublished
    | failed =>
      rw [hstatus] at hwrite
      exact hwrite.markFailed
  | forgetOutcome hrecording hstorage =>
    have hheld := (CommandSystem.held_recording hrecording).trans (Multiset.singleton_add _ _).symm
    rw [ledgerLabel, hrecording]
    exact (LedgerStep.lose hheld).of_eq rfl rfl rfl
  | consumerReturn hphase hidle hempty =>
    refine (LedgerStep.silent s.ledger).of_eq ?_ rfl rfl
    simp only [CommandSystem.ledger, Channel.drop_queue, hempty]
  | shutdown hpoint => exact .silent _
  | joinProcessor hpoint hreturned => exact .silent _
  | abortProcessor hpoint =>
    exact LedgerStep.of_eq (.lose (heldBy_processor s.calls s.requests.queue s.work s.commands.queue
      s.worker s.outcomes.queue s.recording)) rfl rfl rfl
  | joinConsumer hpoint hreturned => exact .silent _
  | abortConsumer hpoint =>
    exact LedgerStep.of_eq (.lose (heldBy_consumer s.calls s.requests.queue s.work s.commands.queue
      s.worker s.outcomes.queue s.recording)) rfl rfl rfl
  | joinEngine hpoint hstopped => exact .silent _
  | abandon hpoint => exact .silent _

end Refinement

/-! ## Runs -/

section Runs

variable {σ : Type} {json : SerdeJson} {processor : CommandProcessor σ} {s t : CommandSystem}
  {es : List (Edge CommandSystem CommandLabel)}

/-- A run of the system is a run of its ledger. -/
theorem ledger_run (h : Run (CommandStep json processor) s es t) :
    Run LedgerStep s.ledger (es.map (Edge.map CommandSystem.ledger ledgerLabel)) t.ledger :=
  h.map CommandSystem.ledger ledgerLabel fun _ _ _ hstep => hstep.ledger

variable (rows : CommandTable) (commandQueueCapacity outcomeCapacity : Nat)

theorem CommandSystem.held_new :
    (CommandSystem.new rows commandQueueCapacity outcomeCapacity).ledger.held = 0 := rfl

/-- At the start nothing is held, and the rows of earlier runs have their identifiers given out. -/
theorem CommandSystem.sound_new :
    (CommandSystem.new rows commandQueueCapacity outcomeCapacity).ledger.Sound where
  nodup := by
    rw [held_new]
    exact Multiset.nodup_zero
  used := by
    intro k a hmem
    rw [held_new] at hmem
    exact absurd hmem (Multiset.notMem_zero _)
  agrees := by
    intro k a hmem
    rw [held_new] at hmem
    exact absurd hmem (Multiset.notMem_zero _)
  fresh := by
    intro k hk
    show rows.status k = none
    rw [CommandTable.status, Option.map_eq_none_iff]
    refine Table.find?_eq_none_iff.mpr fun row hrow hid => ?_
    exact hk (List.mem_map.mpr ⟨row, hrow, hid⟩)

/-- Every state of a run has a sound ledger. -/
theorem ledger_sound
    (h : Run (CommandStep json processor) (.new rows commandQueueCapacity outcomeCapacity) es s) :
    s.ledger.Sound ∧ ∀ e ∈ es, e.source.ledger.Sound ∧ e.target.ledger.Sound :=
  h.invariant' (fun s => s.ledger.Sound) (fun _ _ _ hstep hsound => hstep.ledger.sound hsound)
    (CommandSystem.sound_new rows commandQueueCapacity outcomeCapacity)

end Runs

end Daemon
end PipeBolt
