import PipeBolt.Daemon.CommandsSettled
import PipeBolt.Daemon.SupervisorStarts

/-!
# Calls of `execute_command` under reloads

A call of `RuntimeSupervisor::execute_command` renders its command from the template in the slot of
the supervisor and records the row; the processor of a runtime renders the request again, from its
own copy of the templates.  Between the two the supervisor may reload any number of times.

The system has the supervisor, every runtime that was started, with its queue of requests and its
command processor, the calls, and the table of command executions.

* `Installed`: the configuration in the slot is the one its runtime was started with.
* `handed_recorded`: a command that is handed to a sink is as its row says.
-/

namespace PipeBolt
namespace Daemon

open Domain Storage BoundedChannel Transition Keyed
open PipeBolt.Core Pipeline Fallible

/-! ## Runtimes -/

section Runtimes

variable {σ : Type}

/-- What the processor of a runtime is at. -/
inductive RuntimeWork where
  | received (request : CommandExecutionRequest)
  | prepared (request : CommandExecutionRequest) (rendered : RenderedCommand)
  /-- The row is there, and the command goes to the sink next. -/
  | ready (rendered : RenderedCommand)

/-- A runtime that was started: what its processor is built from, the queue of requests, and the
work of the processor. -/
structure StartedRuntime (σ : Type) where
  config : ProjectConfig
  enqueue : BrokerId → RenderedCommand → σ → Except MqttEngineError Unit × σ
  storage : Option (CommandStorage σ)
  requests : Channel CommandExecutionRequest
  work : Option RuntimeWork

/-- The command processor of a runtime. -/
def StartedRuntime.processor (runtime : StartedRuntime σ) : CommandProcessor σ :=
  buildCommandProcessor runtime.config runtime.enqueue runtime.storage

/-- What a runtime is started with besides its configuration. -/
structure RuntimeResources (σ : Type) where
  enqueue : BrokerId → RenderedCommand → σ → Except MqttEngineError Unit × σ
  storage : Option (CommandStorage σ)
  commandQueueCapacity : Nat

/-- `ProjectRuntime::start`, for commands. -/
def StartedRuntime.start (config : ProjectConfig) (resources : RuntimeResources σ) :
    StartedRuntime σ where
  config := config
  enqueue := resources.enqueue
  storage := resources.storage
  requests := .new resources.commandQueueCapacity
  work := none

end Runtimes

/-- The runtime that a step of the supervisor starts, and its configuration. -/
def Label.started : Label → Option (RuntimeId × ProjectConfig)
  | .advance _ (.startNew _ next) (.ok runtime) => some (runtime, next)
  | .advance _ (.startRollback old _ _) (.ok runtime) => some (runtime, old.config)
  | _ => none

/-! ## Calls -/

/-- The arguments of a call of `execute_command`. -/
structure ExecuteCall where
  projectId : ProjectId
  commandTemplateId : CommandTemplateId
  params : ValueMap
  audit : AuditContext

/-- What a call has taken from the slot: the handle of the queue, and the request with the command
of its preview. -/
structure TakenCommand where
  queue : RuntimeId
  request : CommandExecutionRequest
  rendered : RenderedCommand

/-- The awaits of `execute_command`. -/
inductive ExecutePoint where
  /-- `ensure_not_stopping` waits for the state. -/
  | ensureNotStopping (call : ExecuteCall)
  /-- The template and the handle of the queue are to be taken out of the slot. -/
  | takeCommand (call : ExecuteCall)
  | record (taken : TakenCommand)
  /-- The row is there, and the request is enqueued next. -/
  | enqueue (taken : TakenCommand)
  /-- The request was not enqueued, and the row is marked failed. -/
  | markFailed (taken : TakenCommand)

/-- The template and the handle of one slot, and the preview with a new identifier. -/
def takeCommand (json : SerdeJson) (state : RuntimeState) (call : ExecuteCall)
    (id : CommandExecutionId) : Option TakenCommand := do
  let slot ← state.slot
  let request := apiRequest call.projectId call.commandTemplateId call.params call.audit id
  let rendered ← previewCommand json slot.config.commandTemplates request
  return { queue := slot.runtime, request, rendered }

/-! ## The system -/

/-- The supervisor, the runtimes that were started, the calls, the table, and the commands that
were handed to a sink. -/
structure CommandGateway (σ : Type) where
  supervisor : System
  started : RuntimeId → Option (StartedRuntime σ)
  calls : List ExecutePoint
  rows : CommandTable
  handed : List RenderedCommand

/-- What happens in a step. -/
inductive GatewayLabel where
  | supervisor (label : Label)
  | call
  | accepted (id : CommandExecutionId)
  | callEnded
  | runtime (runtime : RuntimeId)
  | handed (runtime : RuntimeId) (rendered : RenderedCommand)
  | status (id : CommandExecutionId)

section Gateway

variable {σ : Type}

/-- The state after a runtime has changed. -/
def CommandGateway.setRuntime (s : CommandGateway σ) (id : RuntimeId) (runtime : StartedRuntime σ) :
    CommandGateway σ :=
  { s with started := Function.update s.started id (some runtime) }

/-- The state that `RuntimeSupervisor::new` begins in, over a runtime that was started. -/
def CommandGateway.new (config : ProjectConfig) (runtime : RuntimeId) (startedAt : OffsetDateTime)
    (resources : RuntimeResources σ) (rows : CommandTable) : CommandGateway σ where
  supervisor := .new config runtime startedAt
  started := Function.update (fun _ => none) runtime (some (.start config resources))
  calls := []
  rows := rows
  handed := []

/-- A step of the supervisor, of a call, of a runtime, or of another writer of the table. -/
inductive GatewayStep (json : SerdeJson) (managed : ProjectId) :
    CommandGateway σ → GatewayLabel → CommandGateway σ → Prop
  | supervise {s : CommandGateway σ} {label supervisor} (hstep : Step managed s.supervisor label
      supervisor) (hquiet : label.started = none) :
      GatewayStep json managed s (.supervisor label) { s with supervisor }
  /-- A step that starts a runtime of its own number. -/
  | start {s : CommandGateway σ} {label supervisor runtime config} (resources : RuntimeResources σ)
      (hstep : Step managed s.supervisor label supervisor)
      (hstarted : label.started = some (runtime, config)) (hfresh : s.started runtime = none) :
      GatewayStep json managed s (.supervisor label)
        ({ s with supervisor }.setRuntime runtime (.start config resources))
  /-- `ensure_project`. -/
  | callBegin {s : CommandGateway σ} (call : ExecuteCall) (hproject : call.projectId = managed) :
      GatewayStep json managed s .call { s with calls := s.calls ++ [.ensureNotStopping call] }
  | callChecked {s : CommandGateway σ} {before after call}
      (hcalls : s.calls = before ++ .ensureNotStopping call :: after)
      (hrunning : s.supervisor.state.stopping = false) :
      GatewayStep json managed s .call { s with calls := before ++ .takeCommand call :: after }
  | callTaken {s : CommandGateway σ} {before after call taken} (id : CommandExecutionId)
      (hcalls : s.calls = before ++ .takeCommand call :: after)
      (htaken : takeCommand json s.supervisor.state call id = some taken) :
      GatewayStep json managed s .call { s with calls := before ++ .record taken :: after }
  | callRecorded {s : CommandGateway σ} {before after taken rows}
      (hcalls : s.calls = before ++ .record taken :: after)
      (hwrite : StorageCall (recordCommandExecution (queuedExecution taken.request taken.rendered))
        s.rows true rows) :
      GatewayStep json managed s .call { s with rows, calls := before ++ .enqueue taken :: after }
  | callNotRecorded {s : CommandGateway σ} {before after taken rows}
      (hcalls : s.calls = before ++ .record taken :: after)
      (hwrite : StorageCall (recordCommandExecution (queuedExecution taken.request taken.rendered))
        s.rows false rows) :
      GatewayStep json managed s .callEnded { s with rows, calls := before ++ after }
  /-- The request is enqueued, and the call returns `Ok`. -/
  | callAccepted {s : CommandGateway σ} {before after taken runtime requests}
      (hcalls : s.calls = before ++ .enqueue taken :: after)
      (hruntime : s.started taken.queue = some runtime)
      (hsend : runtime.requests.trySend taken.request = .ok requests) :
      GatewayStep json managed s (.accepted taken.request.commandExecutionId)
        ({ s with calls := before ++ after }.setRuntime taken.queue { runtime with requests })
  | callRejected {s : CommandGateway σ} {before after taken runtime error}
      (hcalls : s.calls = before ++ .enqueue taken :: after)
      (hruntime : s.started taken.queue = some runtime)
      (hsend : runtime.requests.trySend taken.request = .error error) :
      GatewayStep json managed s .call { s with calls := before ++ .markFailed taken :: after }
  | callMarked {s : CommandGateway σ} {before after taken ok rows} (reason : String)
      (hcalls : s.calls = before ++ .markFailed taken :: after)
      (hwrite : StorageCall (markCommandExecutionFailed taken.request.commandExecutionId reason)
        s.rows ok rows) :
      GatewayStep json managed s .callEnded { s with rows, calls := before ++ after }
  /-- A call returns an error, or its future is dropped at an await. -/
  | callEnded {s : CommandGateway σ} {before after point}
      (hcalls : s.calls = before ++ point :: after) :
      GatewayStep json managed s .callEnded { s with calls := before ++ after }
  /-- `try_enqueue_command` of the dispatcher of a runtime. -/
  | ruleEnqueue {s : CommandGateway σ} {id runtime request requests}
      (hruntime : s.started id = some runtime) (hsource : request.source = .rule)
      (hsend : runtime.requests.trySend request = .ok requests) :
      GatewayStep json managed s (.runtime id) (s.setRuntime id { runtime with requests })
  | receive {s : CommandGateway σ} {id runtime request requests}
      (hruntime : s.started id = some runtime) (hidle : runtime.work = none)
      (hrecv : runtime.requests.recv = some (request, requests)) :
      GatewayStep json managed s (.runtime id)
        (s.setRuntime id { runtime with requests, work := some (.received request) })
  | prepare {s : CommandGateway σ} {id runtime request rendered broker}
      (hruntime : s.started id = some runtime) (hwork : runtime.work = some (.received request))
      (hprepare : prepareCommandRequest json runtime.processor request = .ok (rendered, broker)) :
      GatewayStep json managed s (.runtime id)
        (s.setRuntime id { runtime with work := some (.prepared request rendered) })
  | apiReady {s : CommandGateway σ} {id runtime request rendered}
      (hruntime : s.started id = some runtime)
      (hwork : runtime.work = some (.prepared request rendered)) (hsource : request.source = .api) :
      GatewayStep json managed s (.runtime id)
        (s.setRuntime id { runtime with work := some (.ready rendered) })
  | ruleRecorded {s : CommandGateway σ} {id runtime request rendered rows}
      (hruntime : s.started id = some runtime)
      (hwork : runtime.work = some (.prepared request rendered)) (hsource : request.source = .rule)
      (hwrite : StorageCall (recordCommandExecution (queuedExecution request rendered)) s.rows true
        rows) :
      GatewayStep json managed s (.runtime id)
        ({ s with rows }.setRuntime id { runtime with work := some (.ready rendered) })
  | ruleNotRecorded {s : CommandGateway σ} {id runtime request rendered rows}
      (hruntime : s.started id = some runtime)
      (hwork : runtime.work = some (.prepared request rendered)) (hsource : request.source = .rule)
      (hwrite : StorageCall (recordCommandExecution (queuedExecution request rendered)) s.rows false
        rows) :
      GatewayStep json managed s (.runtime id)
        ({ s with rows }.setRuntime id { runtime with work := none })
  /-- The sink takes the command. -/
  | hand {s : CommandGateway σ} {id runtime rendered} (hruntime : s.started id = some runtime)
      (hwork : runtime.work = some (.ready rendered)) :
      GatewayStep json managed s (.handed id rendered)
        ({ s with handed := s.handed ++ [rendered] }.setRuntime id { runtime with work := none })
  /-- The processor refuses its request, or is aborted. -/
  | giveUp {s : CommandGateway σ} {id runtime} (hruntime : s.started id = some runtime) :
      GatewayStep json managed s (.runtime id) (s.setRuntime id { runtime with work := none })
  /-- A shutdown closes the queue of requests. -/
  | close {s : CommandGateway σ} {id runtime} (hruntime : s.started id = some runtime) :
      GatewayStep json managed s (.runtime id)
        (s.setRuntime id { runtime with requests := runtime.requests.close })
  /-- The processor has returned, or is aborted, and its queue is gone. -/
  | drop {s : CommandGateway σ} {id runtime} (hruntime : s.started id = some runtime) :
      GatewayStep json managed s (.runtime id)
        (s.setRuntime id { runtime with requests := runtime.requests.drop })
  /-- A processor marks the row of a request that failed. -/
  | processorMark {s : CommandGateway σ} {id ok rows} (reason : String)
      (hwrite : StorageCall (markCommandExecutionFailed id reason) s.rows ok rows) :
      GatewayStep json managed s (.status id) { s with rows }
  /-- A consumer of outcomes marks the row of a command. -/
  | recordOutcome {s : CommandGateway σ} {outcome ok rows}
      (hwrite : StorageCall (recordCommandPublishOutcome outcome) s.rows ok rows) :
      GatewayStep json managed s (.status outcome.context.commandExecutionId) { s with rows }

/-! ## Rows -/

/-- A row says what a command is. -/
structure Records (row : NewCommandExecution) (command : RenderedCommand) : Prop where
  topic : row.topic = command.topic.raw
  qos : row.qos = command.qos
  retain : row.retain = command.retain
  brokerId : row.brokerId = command.brokerId
  payloadSizeBytes : row.payloadSizeBytes = command.payloadSizeBytes

/-- The row of a command is there, and says what the command is. -/
def HasRow (rows : CommandTable) (command : RenderedCommand) : Prop :=
  ∃ row, rows.find? command.commandExecutionId = some row ∧ Records row command

/-- Commands keep their rows. -/
def KeepsRows (rows rows' : CommandTable) : Prop :=
  ∀ command, HasRow rows command → HasRow rows' command

theorem KeepsRows.refl (rows : CommandTable) : KeepsRows rows rows := fun _ h => h

/-- A new row takes the place of none. -/
theorem keepsRows_insert {rows : CommandTable} {row : NewCommandExecution}
    (hfresh : rows.find? row.commandExecutionId = none) : KeepsRows rows (rows.insert row hfresh) := by
  rintro command ⟨old, hfind, hrecords⟩
  have hne : row.commandExecutionId ≠ command.commandExecutionId := by
    intro h
    rw [h, hfind] at hfresh
    cases hfresh
  refine ⟨old, ?_, hrecords⟩
  rw [Table.find?_insert, if_neg hne]
  exact hfind

/-- An update that keeps what the row says. -/
theorem keepsRows_modify {rows : CommandTable} {id : CommandExecutionId}
    {f : NewCommandExecution → NewCommandExecution}
    (hf : ∀ row, (f row).commandExecutionId = row.commandExecutionId)
    (hrecords : ∀ row command, Records row command → Records (f row) command) :
    KeepsRows rows (rows.modify id f hf) := by
  rintro command ⟨row, hfind, hrow⟩
  by_cases hid : command.commandExecutionId = id
  · refine ⟨f row, ?_, hrecords row command hrow⟩
    rw [Table.find?_modify, if_pos hid, ← hid, hfind]
    rfl
  · refine ⟨row, ?_, hrow⟩
    rw [Table.find?_modify, if_neg hid]
    exact hfind

/-- `record_command_execution` puts a row where none was. -/
theorem recordCommandExecution_eq_ok {execution : NewCommandExecution} {rows after : CommandTable}
    (h : recordCommandExecution execution rows = .ok after) :
    ∃ hfresh : rows.find? execution.commandExecutionId = none,
      after = rows.insert execution hfresh := by
  obtain ⟨-, -, h⟩ := bind_eq_ok_iff.mp h
  obtain ⟨-, h⟩ := guard_eq_ok_iff.mp h
  split at h
  · cases h
  · next hfresh => exact ⟨hfresh, (Except.ok.inj h).symm⟩

theorem markCommandExecutionFailed_keepsRows {id : CommandExecutionId} {reason : String}
    {rows after : CommandTable} (h : markCommandExecutionFailed id reason rows = .ok after) :
    KeepsRows rows after := by
  obtain ⟨-, -, h⟩ := bind_eq_ok_iff.mp h
  obtain rfl := Except.ok.inj h
  exact keepsRows_modify _ fun _ _ h => ⟨h.topic, h.qos, h.retain, h.brokerId, h.payloadSizeBytes⟩

theorem recordCommandPublishOutcome_keepsRows {outcome : MqttCommandPublishOutcome}
    {rows after : CommandTable} (h : recordCommandPublishOutcome outcome rows = .ok after) :
    KeepsRows rows after := by
  unfold recordCommandPublishOutcome at h
  split at h
  · obtain rfl := Except.ok.inj h
    exact keepsRows_modify _ fun _ _ h => ⟨h.topic, h.qos, h.retain, h.brokerId, h.payloadSizeBytes⟩
  · exact markCommandExecutionFailed_keepsRows h

/-- A call of the storage keeps the rows when its statement does. -/
theorem StorageCall.keepsRows {op : CommandTable → Except StorageError CommandTable}
    {rows after : CommandTable} {ok : Bool} (h : StorageCall op rows ok after)
    (hop : ∀ after, op rows = .ok after → KeepsRows rows after) : KeepsRows rows after := by
  rcases h.all_or_nothing with hdone | ⟨-, rfl⟩
  · exact hop after hdone
  · exact .refl after

theorem StorageCall.recordKeepsRows {execution : NewCommandExecution} {rows after : CommandTable}
    {ok : Bool} (h : StorageCall (recordCommandExecution execution) rows ok after) :
    KeepsRows rows after := by
  refine h.keepsRows fun after hdone => ?_
  obtain ⟨hfresh, rfl⟩ := recordCommandExecution_eq_ok hdone
  exact keepsRows_insert hfresh

/-- A recorded command has its row. -/
theorem StorageCall.hasRow {request : CommandExecutionRequest} {rendered : RenderedCommand}
    {rows after : CommandTable}
    (h : StorageCall (recordCommandExecution (queuedExecution request rendered)) rows true after)
    (hid : rendered.commandExecutionId = request.commandExecutionId) : HasRow after rendered := by
  rcases h.all_or_nothing with hdone | ⟨hfailed, -⟩
  · obtain ⟨hfresh, rfl⟩ := recordCommandExecution_eq_ok hdone
    have hkey : (queuedExecution request rendered).commandExecutionId =
        rendered.commandExecutionId := hid.symm
    refine ⟨queuedExecution request rendered, ?_, rfl, rfl, rfl, rfl, rfl⟩
    rw [Table.find?_insert, if_pos hkey]
  · cases hfailed

/-! ## The two renderings -/

variable {json : SerdeJson}

/-- A previewed command carries the identifier of its request. -/
theorem previewCommand_id {templates : List CommandTemplate} {request : CommandExecutionRequest}
    {rendered : RenderedCommand} (h : previewCommand json templates request = some rendered) :
    rendered.commandExecutionId = request.commandExecutionId := by
  obtain ⟨template, -, h⟩ := Option.bind_eq_some_iff.mp h
  split at h
  · cases h
  · have hrender := toOption_eq_some_iff.mp h
    exact (CommandTemplateRenderer.render_eq_ok hrender).1.commandExecutionId

/-- The processor of a runtime renders a request as its preview did, from the same templates. -/
theorem prepareCommandRequest_eq_preview {runtime : StartedRuntime σ}
    {request : CommandExecutionRequest} {previewed rendered : RenderedCommand}
    {broker : CommandProcessorBroker σ}
    (hpreview : previewCommand json runtime.config.commandTemplates request = some previewed)
    (hprepare : prepareCommandRequest json runtime.processor request = .ok (rendered, broker)) :
    rendered = previewed := by
  unfold prepareCommandRequest at hprepare
  obtain ⟨-, hprepare⟩ := guard_eq_ok_iff.mp hprepare
  split at hprepare
  · cases hprepare
  · next template htemplate =>
    obtain ⟨henabled, hprepare⟩ := guard_eq_ok_iff.mp hprepare
    obtain ⟨rendered', hrendered, hprepare⟩ := bind_eq_ok_iff.mp hprepare
    have hprocessor := mapError_eq_ok_iff.mp hrendered
    have hfind : runtime.config.commandTemplates.find? (·.id == request.commandTemplateId) =
        some template := htemplate
    rw [previewCommand, hfind, Option.bind_eq_bind, Option.bind_some, if_neg henabled] at hpreview
    have hsupervisor := toOption_eq_some_iff.mp hpreview
    have hsame : rendered' = previewed := Except.ok.inj (hprocessor.symm.trans hsupervisor)
    split at hprepare
    · cases hprepare
    · obtain ⟨rfl, -⟩ := Prod.mk.inj (Except.ok.inj hprepare)
      exact hsame

/-! ## The configuration of the slot -/

/-- A runtime was started with a configuration. -/
def StartedWith (started : RuntimeId → Option (StartedRuntime σ)) (id : RuntimeId)
    (config : ProjectConfig) : Prop :=
  ∃ runtime, started id = some runtime ∧ runtime.config = config

/-- Runtimes keep their configuration. -/
def KeepsConfigs (started started' : RuntimeId → Option (StartedRuntime σ)) : Prop :=
  ∀ id config, StartedWith started id config → StartedWith started' id config

theorem KeepsConfigs.refl (started : RuntimeId → Option (StartedRuntime σ)) :
    KeepsConfigs started started := fun _ _ h => h

theorem startedWith_update (started : RuntimeId → Option (StartedRuntime σ)) (id : RuntimeId)
    (runtime : StartedRuntime σ) :
    StartedWith (Function.update started id (some runtime)) id runtime.config :=
  ⟨runtime, Function.update_self .., rfl⟩

/-- A runtime that only changes what it is at. -/
theorem keepsConfigs_update {started : RuntimeId → Option (StartedRuntime σ)} {id : RuntimeId}
    {old runtime : StartedRuntime σ} (hold : started id = some old)
    (hconfig : runtime.config = old.config) :
    KeepsConfigs started (Function.update started id (some runtime)) := by
  rintro k config ⟨rt, hrt, rfl⟩
  by_cases hk : k = id
  · subst hk
    obtain rfl := Option.some.inj (hold.symm.trans hrt)
    rw [← hconfig]
    exact startedWith_update started k runtime
  · refine ⟨rt, ?_, rfl⟩
    rw [Function.update_of_ne hk]
    exact hrt

/-- A runtime that starts. -/
theorem keepsConfigs_start {started : RuntimeId → Option (StartedRuntime σ)} {id : RuntimeId}
    (hfresh : started id = none) (runtime : StartedRuntime σ) :
    KeepsConfigs started (Function.update started id (some runtime)) := by
  rintro k config ⟨rt, hrt, rfl⟩
  have hk : k ≠ id := by
    rintro rfl
    rw [hfresh] at hrt
    cases hrt
  refine ⟨rt, ?_, rfl⟩
  rw [Function.update_of_ne hk]
  exact hrt

/-- The runtime that a point holds was started with the configuration that it is put beside. -/
def ReloadPoint.Installs (started : RuntimeId → Option (StartedRuntime σ)) : ReloadPoint → Prop
  | .installNew _ next runtime _ => StartedWith started runtime next
  | .installRollback old _ _ runtime => StartedWith started runtime old.config
  | .ensureNotStopping | .loadConfig | .takeSlot _ | .shutdownOld _ _ | .setReloadFailed _ _ _
  | .auditShutdownFailure _ _ _ | .startNew _ _ | .auditSuccess _ _ _ | .startRollback _ _ _
  | .rollbackFailed _ _ _ _ | .recordFailure _ _ _ | .readActiveVersion _ _ _
  | .auditStartFailure _ _ _ _ => True

/-- The runtime in the slot was started with the configuration in the slot. -/
def RuntimeState.Installs (started : RuntimeId → Option (StartedRuntime σ)) (state : RuntimeState) :
    Prop :=
  ∀ slot, state.slot = some slot → StartedWith started slot.runtime slot.config

/-- What holds of the supervisor and the runtimes in every run. -/
structure Installed (started : RuntimeId → Option (StartedRuntime σ)) (s : System) : Prop where
  slot : s.state.Installs started
  reload : ∀ call point, s.lifecycle = some (.reload call point) → point.Installs started

section Installed

variable {started started' : RuntimeId → Option (StartedRuntime σ)}

theorem ReloadPoint.Installs.mono (hkeeps : KeepsConfigs started started') {point : ReloadPoint}
    (h : point.Installs started) : point.Installs started' := by
  cases point with
  | installNew old next runtime reloadedAt => exact hkeeps _ _ h
  | installRollback old next startError runtime => exact hkeeps _ _ h
  | ensureNotStopping | loadConfig | takeSlot | shutdownOld | setReloadFailed
  | auditShutdownFailure | startNew | auditSuccess | startRollback | rollbackFailed
  | recordFailure | readActiveVersion | auditStartFailure => trivial

theorem Installed.mono (hkeeps : KeepsConfigs started started') {s : System}
    (h : Installed started s) : Installed started' s where
  slot := fun slot hslot => hkeeps _ _ (h.slot slot hslot)
  reload := fun call point hlock => (h.reload call point hlock).mono hkeeps

/-- A step of a reload puts a runtime beside the configuration that it was started with. -/
theorem Advances.slotInstalls {state state' : RuntimeState} {point next : ReloadPoint}
    (h : Advances state point state' next) (hslot : state.Installs started)
    (hpoint : point.Installs started) : state'.Installs started := by
  cases h with
  | checked | loaded | oldStopped | oldFailed | started | startFailed | rolledBack
  | rollbackFailed | noted | read => exact hslot
  | taken | emptied | abandoned => exact fun _ h => nomatch h
  | installed =>
    intro slot h
    obtain rfl := Option.some.inj h
    exact hpoint
  | reinstalled =>
    intro slot h
    obtain rfl := Option.some.inj h
    exact hpoint

/-- A step of a reload holds a runtime only when it has just started it. -/
theorem reloadStep_installs {managed : ProjectId} {call : ReloadCall} {now : OffsetDateTime}
    {state : RuntimeState} {point next : ReloadPoint} {outcome : point.Outcome}
    (h : (reloadStep managed call now state point outcome).2 = .at next)
    (hstarted : ∀ runtime config, (Label.advance now point outcome).started = some (runtime, config) →
      StartedWith started runtime config) : next.Installs started := by
  have hadvance := reloadStep_at h
  cases point with
  | startNew old config =>
    cases outcome with
    | error startError => cases h; trivial
    | ok runtime => cases h; exact hstarted runtime config rfl
  | startRollback old config startError =>
    cases outcome with
    | error rollbackError => cases h; trivial
    | ok runtime => cases h; exact hstarted runtime old.config rfl
  | ensureNotStopping | loadConfig | takeSlot | shutdownOld | setReloadFailed
  | auditShutdownFailure | installNew | auditSuccess | installRollback | rollbackFailed
  | recordFailure | readActiveVersion | auditStartFailure =>
    generalize (reloadStep managed call now state _ outcome).1 = state' at hadvance
    cases hadvance
    all_goals trivial

/-- A step of the supervisor, over runtimes among which is the one that it starts. -/
theorem installed_step {managed : ProjectId} {s t : System} {label : Label}
    (h : Step managed s label t) (hs : Installed started s)
    (hstarted : ∀ runtime config, label.started = some (runtime, config) →
      StartedWith started runtime config) : Installed started t := by
  cases h with
  | rejected => exact hs
  | begin =>
    refine ⟨hs.slot, ?_⟩
    rintro _ _ ⟨⟩
    trivial
  | @advance call point now outcome hlock =>
    cases hnext : (reloadStep managed call now s.state point outcome).2 with
    | «at» next =>
      refine ⟨(reloadStep_at hnext).slotInstalls hs.slot (hs.reload call point hlock), ?_⟩
      rintro _ _ ⟨⟩
      exact reloadStep_installs hnext hstarted
    | returned result =>
      refine ⟨?_, fun _ _ h => nomatch h⟩
      rcases reloadStep_returned hnext with h | ⟨-, h⟩
      · rw [h]
        exact hs.slot
      · rw [h]
        exact hs.slot
  | drop => exact ⟨hs.slot, fun _ _ h => nomatch h⟩
  | shutdown => exact ⟨hs.slot, hs.reload⟩
  | acquire => exact ⟨hs.slot, fun _ _ h => nomatch h⟩
  | @stop point outcome hlock =>
    refine ⟨?_, fun call point' h => ?_⟩
    · cases point with
      | takeSlot => exact fun _ h => nomatch h
      | shutdownRuntime slot => exact hs.slot
      | finish result =>
        cases result with
        | error error => exact hs.slot
        | ok => exact hs.slot
    · obtain ⟨next, -, hnext⟩ := Option.map_eq_some_iff.mp h
      cases hnext

end Installed

/-! ## What holds in every run -/

/-- A request of the API as the call that took it previewed it, with the templates of the runtime
whose queue it is for. -/
structure TakenCommand.Sound (json : SerdeJson) (started : RuntimeId → Option (StartedRuntime σ))
    (taken : TakenCommand) : Prop where
  previewed : ∃ config, StartedWith started taken.queue config ∧
    previewCommand json config.commandTemplates taken.request = some taken.rendered

/-- What holds of a call at its awaits. -/
def ExecutePoint.Sound (json : SerdeJson) (started : RuntimeId → Option (StartedRuntime σ))
    (rows : CommandTable) : ExecutePoint → Prop
  | .record taken | .markFailed taken => taken.Sound json started
  | .enqueue taken => taken.Sound json started ∧ HasRow rows taken.rendered
  | .ensureNotStopping _ | .takeCommand _ => True

/-- A request that a runtime with these templates has received: one of the API has the row of the
command that it is rendered to. -/
def RequestRecorded (json : SerdeJson) (templates : List CommandTemplate) (rows : CommandTable)
    (request : CommandExecutionRequest) : Prop :=
  request.source = .api → ∃ rendered,
    previewCommand json templates request = some rendered ∧ HasRow rows rendered

/-- What holds of the work of a processor. -/
def RuntimeWork.Sound (json : SerdeJson) (templates : List CommandTemplate) (rows : CommandTable) :
    RuntimeWork → Prop
  | .received request => RequestRecorded json templates rows request
  | .prepared request rendered =>
    rendered.commandExecutionId = request.commandExecutionId ∧
      (request.source = .api → HasRow rows rendered)
  | .ready rendered => HasRow rows rendered

/-- What holds of a runtime. -/
structure StartedRuntime.Sound (json : SerdeJson) (rows : CommandTable)
    (runtime : StartedRuntime σ) : Prop where
  requests : ∀ request ∈ runtime.requests.queue,
    RequestRecorded json runtime.config.commandTemplates rows request
  work : ∀ work, runtime.work = some work → work.Sound json runtime.config.commandTemplates rows

/-- What holds of the system. -/
structure CommandGateway.Sound (json : SerdeJson) (s : CommandGateway σ) : Prop where
  installed : Installed s.started s.supervisor
  calls : ∀ point ∈ s.calls, point.Sound json s.started s.rows
  runtimes : ∀ id runtime, s.started id = some runtime → runtime.Sound json s.rows
  handed : ∀ command ∈ s.handed, HasRow s.rows command

section Mono

variable {started started' : RuntimeId → Option (StartedRuntime σ)} {rows rows' : CommandTable}

theorem TakenCommand.Sound.mono (hkeeps : KeepsConfigs started started') {taken : TakenCommand}
    (h : taken.Sound json started) : taken.Sound json started' := by
  obtain ⟨config, hstarted, hpreview⟩ := h.previewed
  exact ⟨config, hkeeps _ _ hstarted, hpreview⟩

theorem ExecutePoint.Sound.mono (hkeeps : KeepsConfigs started started')
    (hrows : KeepsRows rows rows') {point : ExecutePoint} (h : point.Sound json started rows) :
    point.Sound json started' rows' := by
  cases point with
  | ensureNotStopping call => trivial
  | takeCommand call => trivial
  | record taken => exact TakenCommand.Sound.mono hkeeps h
  | enqueue taken => exact ⟨h.1.mono hkeeps, hrows _ h.2⟩
  | markFailed taken => exact TakenCommand.Sound.mono hkeeps h

theorem RequestRecorded.mono (hrows : KeepsRows rows rows') {templates : List CommandTemplate}
    {request : CommandExecutionRequest} (h : RequestRecorded json templates rows request) :
    RequestRecorded json templates rows' request := by
  intro hsource
  obtain ⟨rendered, hpreview, hrow⟩ := h hsource
  exact ⟨rendered, hpreview, hrows _ hrow⟩

theorem RuntimeWork.Sound.mono (hrows : KeepsRows rows rows') {templates : List CommandTemplate}
    {work : RuntimeWork} (h : work.Sound json templates rows) :
    work.Sound json templates rows' := by
  cases work with
  | received request => exact RequestRecorded.mono hrows h
  | prepared request rendered => exact ⟨h.1, fun hsource => hrows _ (h.2 hsource)⟩
  | ready rendered => exact hrows _ h

theorem StartedRuntime.Sound.mono (hrows : KeepsRows rows rows') {runtime : StartedRuntime σ}
    (h : runtime.Sound json rows) : runtime.Sound json rows' where
  requests := fun request hmem => (h.requests request hmem).mono hrows
  work := fun work hwork => (h.work work hwork).mono hrows

theorem StartedRuntime.sound_start (config : ProjectConfig) (resources : RuntimeResources σ) :
    (StartedRuntime.start config resources).Sound json rows :=
  ⟨fun _ hmem => absurd hmem List.not_mem_nil, fun _ h => nomatch h⟩

end Mono

section Sound

variable {s : CommandGateway σ} {rows : CommandTable}

/-- Other rows, and other calls. -/
theorem CommandGateway.Sound.write (h : s.Sound json) (hrows : KeepsRows s.rows rows)
    {calls : List ExecutePoint} (hcalls : ∀ point ∈ calls, point.Sound json s.started rows) :
    ({ s with rows, calls } : CommandGateway σ).Sound json where
  installed := h.installed
  calls := hcalls
  runtimes := fun id runtime hruntime => (h.runtimes id runtime hruntime).mono hrows
  handed := fun command hmem => hrows _ (h.handed command hmem)

/-- Other rows alone. -/
theorem CommandGateway.Sound.writeRows (h : s.Sound json) (hrows : KeepsRows s.rows rows) :
    ({ s with rows } : CommandGateway σ).Sound json :=
  h.write hrows fun point hmem => (h.calls point hmem).mono (.refl _) hrows

/-- The calls beside one of them. -/
theorem CommandGateway.Sound.other_calls (h : s.Sound json) (hrows : KeepsRows s.rows rows)
    {before after : List ExecutePoint} {point : ExecutePoint}
    (hcalls : s.calls = before ++ point :: after) :
    (∀ other ∈ before, other.Sound json s.started rows) ∧
      ∀ other ∈ after, other.Sound json s.started rows := by
  have hall := h.calls
  rw [hcalls, List.forall_mem_append, List.forall_mem_cons] at hall
  obtain ⟨hbefore, -, hafter⟩ := hall
  exact ⟨fun other hmem => (hbefore other hmem).mono (.refl _) hrows,
    fun other hmem => (hafter other hmem).mono (.refl _) hrows⟩

/-- One of the calls has reached another point. -/
theorem CommandGateway.Sound.moveCall (h : s.Sound json) (hrows : KeepsRows s.rows rows)
    {before after : List ExecutePoint} {point next : ExecutePoint}
    (hcalls : s.calls = before ++ point :: after) (hnext : next.Sound json s.started rows) :
    ({ s with rows, calls := before ++ next :: after } : CommandGateway σ).Sound json := by
  obtain ⟨hbefore, hafter⟩ := h.other_calls hrows hcalls
  exact h.write hrows
    (List.forall_mem_append.mpr ⟨hbefore, List.forall_mem_cons.mpr ⟨hnext, hafter⟩⟩)

/-- One of the calls is over. -/
theorem CommandGateway.Sound.endCall (h : s.Sound json) (hrows : KeepsRows s.rows rows)
    {before after : List ExecutePoint} {point : ExecutePoint}
    (hcalls : s.calls = before ++ point :: after) :
    ({ s with rows, calls := before ++ after } : CommandGateway σ).Sound json :=
  h.write hrows (List.forall_mem_append.mpr (h.other_calls hrows hcalls))

/-- A call that is at a point is sound there. -/
theorem CommandGateway.Sound.call_at (h : s.Sound json) {before after : List ExecutePoint}
    {point : ExecutePoint} (hcalls : s.calls = before ++ point :: after) :
    point.Sound json s.started s.rows := by
  refine h.calls point ?_
  rw [hcalls]
  exact List.mem_append_right _ List.mem_cons_self

/-- A runtime that only changes what it is at. -/
theorem CommandGateway.Sound.setRuntime (h : s.Sound json) {id : RuntimeId}
    {old runtime : StartedRuntime σ} (hold : s.started id = some old)
    (hconfig : runtime.config = old.config) (hruntime : runtime.Sound json s.rows) :
    (s.setRuntime id runtime).Sound json := by
  have hkeeps : KeepsConfigs s.started (s.setRuntime id runtime).started :=
    keepsConfigs_update hold hconfig
  refine ⟨h.installed.mono hkeeps, ?_, ?_, h.handed⟩
  · exact fun point hmem => (h.calls point hmem).mono hkeeps (.refl _)
  · intro k rt hrt
    have hrt : Function.update s.started id (some runtime) k = some rt := hrt
    by_cases hk : k = id
    · subst hk
      rw [Function.update_self] at hrt
      obtain rfl := Option.some.inj hrt
      exact hruntime
    · rw [Function.update_of_ne hk] at hrt
      exact h.runtimes k rt hrt

/-- A request reaches the queue of a runtime. -/
theorem CommandGateway.Sound.send (h : s.Sound json) {id : RuntimeId}
    {runtime : StartedRuntime σ} (hruntime : s.started id = some runtime)
    {request : CommandExecutionRequest} {requests : Channel CommandExecutionRequest}
    (hsend : runtime.requests.trySend request = .ok requests)
    (hrequest : RequestRecorded json runtime.config.commandTemplates s.rows request) :
    (s.setRuntime id { runtime with requests }).Sound json := by
  have hsound := h.runtimes id runtime hruntime
  obtain ⟨-, -, rfl⟩ := Channel.trySend_eq_ok_iff.mp hsend
  refine h.setRuntime hruntime rfl ⟨?_, hsound.work⟩
  intro queued hmem
  rcases List.mem_append.mp hmem with hmem | hmem
  · exact hsound.requests queued hmem
  · obtain rfl := List.mem_singleton.mp hmem
    exact hrequest

/-- A processor comes to another piece of work, or to none. -/
theorem CommandGateway.Sound.setWork (h : s.Sound json) {id : RuntimeId}
    {runtime : StartedRuntime σ} (hruntime : s.started id = some runtime)
    {work : Option RuntimeWork}
    (hwork : ∀ w, work = some w → w.Sound json runtime.config.commandTemplates s.rows) :
    (s.setRuntime id { runtime with work }).Sound json :=
  h.setRuntime hruntime rfl ⟨(h.runtimes id runtime hruntime).requests, hwork⟩

/-- A call takes the template and the handle out of one slot, whose runtime has the same
templates. -/
theorem CommandGateway.Sound.taken (h : s.Sound json) {call : ExecuteCall}
    {id : CommandExecutionId} {taken : TakenCommand}
    (htaken : takeCommand json s.supervisor.state call id = some taken) :
    taken.Sound json s.started := by
  obtain ⟨slot, hslot, htaken⟩ := Option.bind_eq_some_iff.mp htaken
  obtain ⟨rendered, hpreview, htaken⟩ := Option.bind_eq_some_iff.mp htaken
  obtain rfl := Option.some.inj htaken
  exact ⟨slot.config, h.installed.slot slot hslot, hpreview⟩

end Sound

/-! ## Runs -/

section Runs

variable {managed : ProjectId} {s t : CommandGateway σ} {label : GatewayLabel}

/-- What holds of the system is kept by every step. -/
theorem GatewayStep.sound (h : GatewayStep json managed s label t) (hs : s.Sound json) :
    t.Sound json := by
  cases h with
  | supervise hstep hquiet =>
    refine ⟨installed_step hstep hs.installed fun _ _ h => ?_, hs.calls, hs.runtimes, hs.handed⟩
    rw [hquiet] at h
    cases h
  | @start label supervisor runtime config resources hstep hstarted hfresh =>
    have hkeeps := keepsConfigs_start hfresh (.start config resources)
    refine ⟨installed_step hstep (hs.installed.mono hkeeps) fun id next h => ?_, ?_, ?_, hs.handed⟩
    · obtain ⟨rfl, rfl⟩ := Prod.mk.inj (Option.some.inj (hstarted.symm.trans h))
      exact startedWith_update s.started runtime (.start config resources)
    · exact fun point hmem => (hs.calls point hmem).mono hkeeps (.refl _)
    · intro k rt hrt
      have hrt : Function.update s.started runtime (some (.start config resources)) k = some rt :=
        hrt
      by_cases hk : k = runtime
      · subst hk
        rw [Function.update_self] at hrt
        obtain rfl := Option.some.inj hrt
        exact StartedRuntime.sound_start config resources
      · rw [Function.update_of_ne hk] at hrt
        exact hs.runtimes k rt hrt
  | callBegin call hproject =>
    refine hs.write (.refl _) fun point hmem => ?_
    rcases List.mem_append.mp hmem with hmem | hmem
    · exact hs.calls point hmem
    · obtain rfl := List.mem_singleton.mp hmem
      trivial
  | callChecked hcalls hrunning => exact hs.moveCall (.refl _) hcalls trivial
  | callTaken id hcalls htaken => exact hs.moveCall (.refl _) hcalls (hs.taken htaken)
  | callRecorded hcalls hwrite =>
    have htaken := hs.call_at hcalls
    obtain ⟨config, -, hpreview⟩ := htaken.previewed
    exact hs.moveCall hwrite.recordKeepsRows hcalls
      ⟨htaken, hwrite.hasRow (previewCommand_id hpreview)⟩
  | callNotRecorded hcalls hwrite => exact hs.endCall hwrite.recordKeepsRows hcalls
  | @callAccepted before after taken runtime requests hcalls hruntime hsend =>
    obtain ⟨htaken, hrow⟩ := hs.call_at hcalls
    obtain ⟨config, ⟨runtime', hruntime', rfl⟩, hpreview⟩ := htaken.previewed
    obtain rfl := Option.some.inj (hruntime.symm.trans hruntime')
    have hcalled : ({ s with calls := before ++ after } : CommandGateway σ).Sound json :=
      hs.endCall (.refl _) hcalls
    exact hcalled.send hruntime hsend fun _ => ⟨taken.rendered, hpreview, hrow⟩
  | callRejected hcalls hruntime hsend =>
    exact hs.moveCall (.refl _) hcalls (hs.call_at hcalls).1
  | callMarked reason hcalls hwrite =>
    exact hs.endCall (hwrite.keepsRows fun _ h => markCommandExecutionFailed_keepsRows h) hcalls
  | callEnded hcalls => exact hs.endCall (.refl _) hcalls
  | ruleEnqueue hruntime hsource hsend =>
    refine hs.send hruntime hsend fun h => ?_
    rw [hsource] at h
    cases h
  | @receive id runtime request requests hruntime hidle hrecv =>
    have hsound := hs.runtimes id runtime hruntime
    obtain ⟨hqueue, -, -⟩ := Channel.recv_eq_some_iff.mp hrecv
    refine hs.setRuntime hruntime rfl ⟨fun queued hmem => hsound.requests queued ?_, ?_⟩
    · rw [hqueue]
      exact List.mem_cons_of_mem _ hmem
    · rintro _ ⟨⟩
      refine hsound.requests request ?_
      rw [hqueue]
      exact List.mem_cons_self
  | @prepare id runtime request rendered broker hruntime hwork hprepare =>
    have hreceived : RequestRecorded json runtime.config.commandTemplates s.rows request :=
      (hs.runtimes id runtime hruntime).work _ hwork
    refine hs.setWork hruntime ?_
    rintro _ ⟨⟩
    refine ⟨(prepareCommandRequest_eq_ok hprepare).2.1, fun hsource => ?_⟩
    obtain ⟨previewed, hpreview, hrow⟩ := hreceived hsource
    rw [prepareCommandRequest_eq_preview hpreview hprepare]
    exact hrow
  | @apiReady id runtime request rendered hruntime hwork hsource =>
    have hprepared := (hs.runtimes id runtime hruntime).work _ hwork
    refine hs.setWork hruntime ?_
    rintro _ ⟨⟩
    exact hprepared.2 hsource
  | @ruleRecorded id runtime request rendered rows hruntime hwork hsource hwrite =>
    have hprepared := (hs.runtimes id runtime hruntime).work _ hwork
    refine (hs.writeRows hwrite.recordKeepsRows).setWork hruntime ?_
    rintro _ ⟨⟩
    exact hwrite.hasRow hprepared.1
  | @ruleNotRecorded id runtime request rendered rows hruntime hwork hsource hwrite =>
    exact (hs.writeRows hwrite.recordKeepsRows).setWork hruntime fun _ h => nomatch h
  | @hand id runtime rendered hruntime hwork =>
    have hready : HasRow s.rows rendered := (hs.runtimes id runtime hruntime).work _ hwork
    have hhanded : ({ s with handed := s.handed ++ [rendered] } : CommandGateway σ).Sound json := by
      refine ⟨hs.installed, hs.calls, hs.runtimes, fun command hmem => ?_⟩
      rcases List.mem_append.mp hmem with hmem | hmem
      · exact hs.handed command hmem
      · obtain rfl := List.mem_singleton.mp hmem
        exact hready
    exact hhanded.setWork hruntime fun _ h => nomatch h
  | giveUp hruntime => exact hs.setWork hruntime fun _ h => nomatch h
  | @close id runtime hruntime =>
    have hsound := hs.runtimes id runtime hruntime
    exact hs.setRuntime hruntime rfl ⟨hsound.requests, hsound.work⟩
  | @drop id runtime hruntime =>
    have hsound := hs.runtimes id runtime hruntime
    exact hs.setRuntime hruntime rfl ⟨fun _ hmem => absurd hmem List.not_mem_nil, hsound.work⟩
  | processorMark reason hwrite =>
    exact hs.writeRows (hwrite.keepsRows fun _ h => markCommandExecutionFailed_keepsRows h)
  | recordOutcome hwrite =>
    exact hs.writeRows (hwrite.keepsRows fun _ h => recordCommandPublishOutcome_keepsRows h)

/-- The commands that a step hands to a sink. -/
def GatewayLabel.commands : GatewayLabel → List RenderedCommand
  | .handed _ rendered => [rendered]
  | .supervisor _ | .call | .accepted _ | .callEnded | .runtime _ | .status _ => []

theorem GatewayStep.handed_eq (h : GatewayStep json managed s label t) :
    t.handed = s.handed ++ label.commands := by
  cases h with
  | hand => rfl
  | supervise | start | callBegin | callChecked | callTaken | callRecorded | callNotRecorded
  | callAccepted | callRejected | callMarked | callEnded | ruleEnqueue | receive | prepare
  | apiReady | ruleRecorded | ruleNotRecorded | giveUp | close | drop | processorMark
  | recordOutcome => exact (List.append_nil _).symm

variable {config : ProjectConfig} {runtime : RuntimeId} {startedAt : OffsetDateTime}
  {resources : RuntimeResources σ} {rows : CommandTable}
  {es : List (Edge (CommandGateway σ) GatewayLabel)}

theorem CommandGateway.sound_new :
    (CommandGateway.new config runtime startedAt resources rows).Sound json := by
  have hstarted := startedWith_update (fun _ => none) runtime (.start config resources)
  refine ⟨⟨?_, fun _ _ h => nomatch h⟩, fun _ hmem => absurd hmem List.not_mem_nil, ?_,
    fun _ hmem => absurd hmem List.not_mem_nil⟩
  · intro slot hslot
    obtain rfl := Option.some.inj hslot
    exact hstarted
  · intro id rt hrt
    have hrt : Function.update (fun _ => none) runtime (some (.start config resources)) id =
        some rt := hrt
    by_cases hid : id = runtime
    · subst hid
      rw [Function.update_self] at hrt
      obtain rfl := Option.some.inj hrt
      exact StartedRuntime.sound_start config resources
    · rw [Function.update_of_ne hid] at hrt
      cases hrt

/-- In every run, the row of each command that was handed to a sink is there and says what the
command is, whichever configurations were installed between the call and its processor. -/
theorem handed_recorded
    (h : Run (GatewayStep json managed) (.new config runtime startedAt resources rows) es s)
    {e : Edge (CommandGateway σ) GatewayLabel} (he : e ∈ es) {id : RuntimeId}
    {rendered : RenderedCommand} (hhanded : e.label = .handed id rendered) :
    ∃ row, s.rows.find? rendered.commandExecutionId = some row ∧ Records row rendered := by
  have hall : s.Sound json ∧ ∀ e ∈ es, ∀ command ∈ e.label.commands, command ∈ s.handed := by
    refine h.history
      (fun es u => u.Sound json ∧ ∀ e ∈ es, ∀ command ∈ e.label.commands, command ∈ u.handed)
      (fun past u l v hu huv => ⟨huv.sound hu.1, fun e he command hmem => ?_⟩)
      ⟨CommandGateway.sound_new, fun _ he => absurd he List.not_mem_nil⟩
    rw [huv.handed_eq]
    rcases List.mem_append.mp he with he | he
    · exact List.mem_append_left _ (hu.2 e he command hmem)
    · obtain rfl := List.mem_singleton.mp he
      exact List.mem_append_right _ hmem
  refine hall.1.handed rendered (hall.2 e he rendered ?_)
  rw [hhanded]
  exact List.mem_singleton_self rendered

end Runs

end Gateway

/-! ## A command that is accepted before a reload -/

/-- A configuration with a template that the next one does not have. -/
def restartProject : ProjectConfig :=
  { plantProject "s3cret" [] [] with commandTemplates := [restartTemplate] }

def restartResources : RuntimeResources Unit where
  enqueue := fun _ _ world => (.ok (), world)
  storage := restartProcessor.storage
  commandQueueCapacity := 8

theorem restartProject_prepared : ∃ broker,
    prepareCommandRequest emptyJson
      (StartedRuntime.start restartProject restartResources).processor restartRequest =
        .ok (restartCommand, broker) := by
  have hrendered :
      (prepareCommandRequest emptyJson
        (StartedRuntime.start restartProject restartResources).processor
          restartRequest).map Prod.fst = .ok restartCommand := by
    decide +kernel
  obtain ⟨⟨rendered, broker⟩, hprepared, rfl⟩ := map_eq_ok_iff.mp hrendered
  exact ⟨broker, hprepared⟩

theorem restart_taken :
    takeCommand emptyJson (System.new restartProject 0 0).state
      ⟨⟨"plant"⟩, ⟨"restart"⟩, [], ⟨none, none⟩⟩ ⟨"restart-1"⟩ =
        some ⟨0, restartRequest, restartCommand⟩ := by
  have htake : takeCommand emptyJson (System.new restartProject 0 0).state
      ⟨⟨"plant"⟩, ⟨"restart"⟩, [], ⟨none, none⟩⟩ ⟨"restart-1"⟩ =
        (previewCommand emptyJson [restartTemplate] restartRequest).bind
          fun rendered => some ⟨0, restartRequest, rendered⟩ := rfl
  rw [htake, restart_previewed]
  rfl

/-- A call is accepted, a reload takes its slot, and the processor hands the command on. -/
theorem restart_handed : ∃ es s,
    Run (GatewayStep emptyJson ⟨"plant"⟩) (.new restartProject 0 0 restartResources .empty) es s ∧
      (∃ e ∈ es, e.label = .accepted ⟨"restart-1"⟩) ∧ s.supervisor.state.phase = .reloading ∧
      ∃ e ∈ es, e.label = .handed 0 restartCommand := by
  obtain ⟨broker, hprepared⟩ := restartProject_prepared
  refine ⟨_, _,
    .cons (.callBegin ⟨⟨"plant"⟩, ⟨"restart"⟩, [], ⟨none, none⟩⟩ rfl) <|
    .cons (.callChecked (List.nil_append _).symm rfl) <|
    .cons (.callTaken ⟨"restart-1"⟩ (List.nil_append _).symm restart_taken) <|
    .cons (.callRecorded (List.nil_append _).symm (.done restart_recorded)) <|
    .cons (.callAccepted (List.nil_append _).symm rfl rfl) <|
    .cons (.supervise (.begin plantCall rfl) rfl) <|
    .cons (.supervise (.of_reloadStep .ensureNotStopping 1 () rfl rfl) rfl) <|
    .cons (.supervise (.of_reloadStep .loadConfig 2 (.ok (some _)) rfl
      (reloadStep_loadConfig plantProject_valid)) rfl) <|
    .cons (.supervise (.of_reloadStep (.takeSlot _) 3 () rfl rfl) rfl) <|
    .cons (@GatewayStep.receive _ _ _ _ 0 _ _ _ rfl rfl rfl) <|
    .cons (@GatewayStep.prepare _ _ _ _ 0 _ _ _ _ rfl rfl hprepared) <|
    .cons (@GatewayStep.apiReady _ _ _ _ 0 _ _ _ rfl rfl rfl) <|
    .cons (@GatewayStep.hand _ _ _ _ 0 _ _ rfl rfl) <| .nil _, ?_, rfl, ?_⟩
  · exact ⟨_, .tail _ (.tail _ (.tail _ (.tail _ (.head _)))), rfl⟩
  · exact ⟨_, .tail _ (.tail _ (.tail _ (.tail _ (.tail _ (.tail _ (.tail _ (.tail _ (.tail _
      (.tail _ (.tail _ (.tail _ (.head _)))))))))))), rfl⟩

theorem handed_recorded_restart : ∃ es s,
    Run (GatewayStep emptyJson ⟨"plant"⟩) (.new restartProject 0 0 restartResources .empty) es s ∧
      ∃ row, s.rows.find? ⟨"restart-1"⟩ = some row ∧ Records row restartCommand := by
  obtain ⟨es, s, hrun, -, -, e, he, hhanded⟩ := restart_handed
  exact ⟨es, s, hrun, handed_recorded hrun he hhanded⟩

end Daemon
end PipeBolt
