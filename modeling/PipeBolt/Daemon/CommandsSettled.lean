import PipeBolt.Daemon.CommandRuns
import PipeBolt.Daemon.References

/-!
# Commands at a shutdown

`ProjectRuntime::shutdown` joins the command processor, then the consumer of outcomes, and tells the
MQTT engine only after both to shut down.  What becomes of the commands that were accepted by then
is in what the workers leave behind.

* `CommandStep.joined`: a worker that has returned left its channel closed and empty.
* `accepted_settled_iff`: after a shutdown that returned `Ok` every accepted command is published or
  failed if and only if every outcome found its channel open and with room, and the MQTT worker had
  nothing in its queue when it stopped.
-/

namespace PipeBolt
namespace Daemon

open Domain Storage BoundedChannel Transition
open PipeBolt.Core Pipeline

/-- The write of the step, if there is one, succeeds. -/
def CommandLabel.WriteOk : CommandLabel → Prop
  | .callRecord _ ok | .callMark _ ok | .ruleRecord _ ok | .processorMark _ ok
  | .recordOutcome _ _ ok => ok = true
  | _ => True

/-- A worker was aborted in the step. -/
def CommandLabel.Aborts (label : CommandLabel) : Prop :=
  label = .abortProcessor ∨ label = .abortConsumer

/-- The step drops no outcome and no command: an outcome finds its channel open and with room, and
the MQTT worker stops with nothing in its queue. -/
def Delivers (e : Edge CommandSystem CommandLabel) : Prop :=
  (∀ sent, e.label = .report sent → e.source.outcomes.closed = false ∧
    e.source.outcomes.queue.length < e.source.outcomes.capacity) ∧
  (e.label = .workerStop → e.source.commands.queue = [])

/-- The request of a command was enqueued. -/
def Enqueued (es : List (Edge CommandSystem CommandLabel)) (id : CommandExecutionId) : Prop :=
  ∃ e ∈ es, e.label = .callEnqueue id ∨ e.label = .ruleEnqueue id

/-! ## What the workers leave behind -/

/-- A worker that has returned left its channel closed and empty, and the joins of a shutdown
happened in their order. -/
structure WorkersJoined (s : CommandSystem) : Prop where
  processor : s.processor = .returned →
    s.requests.queue = [] ∧ s.requests.closed = true ∧ s.work = none
  consumer : s.consumer = .returned →
    s.outcomes.queue = [] ∧ s.outcomes.closed = true ∧ s.recording = none
  worker : s.worker = .stopped → s.commands.queue = [] ∧ s.commands.closed = true
  joinedProcessor : s.shutdown = .joinConsumer ∨ s.shutdown = .joinEngine ∨ s.shutdown = .over →
    s.processor = .returned
  joinedConsumer : s.shutdown = .joinEngine ∨ s.shutdown = .over → s.consumer = .returned
  joinedEngine : s.shutdown = .over → s.worker = .stopped

section Step

variable {σ : Type} {json : SerdeJson} {processor : CommandProcessor σ} {s t : CommandSystem}
  {l : CommandLabel}

/-- A step keeps what the workers that have returned left behind. -/
theorem CommandStep.joined (h : CommandStep json processor s l t) (hs : WorkersJoined s) :
    WorkersJoined t := by
  cases h with
  | callEnqueue hcalls hsend | ruleEnqueue hsource hfresh hsend =>
    obtain ⟨hopen, -, -⟩ := Channel.trySend_eq_ok_iff.mp hsend
    refine { hs with processor := fun hphase => ?_ }
    have hclosed := (hs.processor hphase).2.1
    cases hopen.symm.trans hclosed
  | closeRequests hphase hidle hsignal =>
    refine { hs with processor := nofun, joinedProcessor := fun hpoint => ?_ }
    cases hphase.symm.trans (hs.joinedProcessor hpoint)
  | receiveRequest hphase hidle hrecv =>
    exact { hs with processor := fun hreturned => absurd hreturned hphase }
  | prepared hwork | notPrepared hwork | apiPrepared hwork | auditUnavailable hwork
  | ruleRecorded hwork | ruleNotRecorded source hwork | sinkRejected hwork =>
    refine { hs with processor := fun hreturned => ?_ }
    cases hwork.symm.trans (hs.processor hreturned).2.2
  | sinkEnqueue hwork hsend =>
    obtain ⟨hopen, -, -⟩ := Channel.trySend_eq_ok_iff.mp hsend
    refine { hs with processor := fun hreturned => ?_, worker := fun hstopped => ?_ }
    · cases hwork.symm.trans (hs.processor hreturned).2.2
    · cases hopen.symm.trans (hs.worker hstopped).2
  | processorMark reason hwork | processorForget hwork =>
    refine { hs with processor := fun hreturned => ?_ }
    cases hwork.symm.trans (hs.processor hreturned).2.2
  | processorReturn hphase hidle hempty =>
    exact { hs with processor := fun _ => ⟨rfl, rfl, hidle⟩, joinedProcessor := fun _ => rfl }
  | publish hworker hrecv | published result hworker | reportDropped hworker hsend =>
    refine { hs with worker := nofun, joinedEngine := fun hpoint => ?_ }
    cases hworker.symm.trans (hs.joinedEngine hpoint)
  | report hworker hsend =>
    obtain ⟨hopen, -, -⟩ := Channel.trySend_eq_ok_iff.mp hsend
    refine { hs with
      consumer := fun hreturned => ?_
      worker := nofun
      joinedEngine := fun hpoint => ?_ }
    · cases hopen.symm.trans (hs.consumer hreturned).2.1
    · cases hworker.symm.trans (hs.joinedEngine hpoint)
  | workerStop hworker hsignal =>
    exact { hs with worker := fun _ => ⟨rfl, rfl⟩, joinedEngine := fun _ => rfl }
  | closeOutcomes hphase hidle hsignal =>
    refine { hs with consumer := nofun, joinedConsumer := fun hpoint => ?_ }
    cases hphase.symm.trans (hs.joinedConsumer hpoint)
  | receiveOutcome hphase hidle hrecv =>
    exact { hs with consumer := fun hreturned => absurd hreturned hphase }
  | recordOutcome hrecording | forgetOutcome hrecording =>
    refine { hs with consumer := fun hreturned => ?_ }
    cases hrecording.symm.trans (hs.consumer hreturned).2.2
  | consumerReturn hphase hidle hempty =>
    exact { hs with consumer := fun _ => ⟨rfl, rfl, hidle⟩, joinedConsumer := fun _ => rfl }
  | shutdown hpoint =>
    exact { hs with joinedProcessor := nofun, joinedConsumer := nofun, joinedEngine := nofun }
  | joinProcessor hpoint hreturned =>
    exact { hs with
      joinedProcessor := fun _ => hreturned
      joinedConsumer := nofun
      joinedEngine := nofun }
  | abortProcessor hpoint =>
    exact { hs with
      processor := fun _ => ⟨rfl, rfl, rfl⟩
      joinedProcessor := fun _ => rfl
      joinedConsumer := nofun
      joinedEngine := nofun }
  | joinConsumer hpoint hreturned =>
    exact { hs with
      joinedProcessor := fun _ => hs.joinedProcessor (.inl hpoint)
      joinedConsumer := fun _ => hreturned
      joinedEngine := nofun }
  | abortConsumer hpoint =>
    exact { hs with
      consumer := fun _ => ⟨rfl, rfl, rfl⟩
      joinedProcessor := fun _ => hs.joinedProcessor (.inl hpoint)
      joinedConsumer := fun _ => rfl
      joinedEngine := nofun }
  | joinEngine hpoint hstopped =>
    exact { hs with
      joinedProcessor := fun _ => hs.joinedProcessor (.inr (.inl hpoint))
      joinedConsumer := fun _ => hs.joinedConsumer (.inl hpoint)
      joinedEngine := fun _ => hstopped }
  | abandon hpoint =>
    exact { hs with joinedProcessor := nofun, joinedConsumer := nofun, joinedEngine := nofun }
  | _ => exact { hs with }

/-- A shutdown that returns `Ok` has aborted no worker. -/
theorem CommandStep.clean (h : CommandStep json processor s l t) (hclean : t.clean = true) :
    s.clean = true ∧ ¬ l.Aborts := by
  cases h with
  | abortProcessor hpoint | abortConsumer hpoint => cases hclean
  | _ => exact ⟨hclean, by simp [CommandLabel.Aborts]⟩

/-- With a storage, and unless a worker is aborted, what a step drops is a command on its way to the
MQTT client or an outcome. -/
theorem CommandStep.ledger_clean (h : CommandStep json processor s l t)
    (hstorage : processor.storage.isSome = true) (hwrite : l.WriteOk) (habort : ¬ l.Aborts) :
    (ledgerLabel ⟨s, l, t⟩).Clean := by
  cases h with
  | callRecorded hcalls | callNotRecorded hcalls | callMark reason hcalls | ruleRecorded hwork
  | ruleNotRecorded source hwork | processorMark reason hwork | recordOutcome hrecording =>
    exact ⟨hwrite, nofun⟩
  | processorForget hwork hnone | forgetOutcome hrecording hnone =>
    cases hstorage.symm.trans hnone
  | abortProcessor hpoint => exact absurd (.inl rfl) habort
  | abortConsumer hpoint => exact absurd (.inr rfl) habort
  | reportDropped hworker hsend =>
    refine ⟨trivial, fun lost hlost x hx => .inr ?_⟩
    obtain rfl := LedgerLabel.lose.inj hlost
    simp only [hworker] at hx
    rw [List.mem_singleton.mp (Multiset.mem_coe.mp hx)]
    rfl
  | workerStop hworker hsignal =>
    refine ⟨trivial, fun lost hlost x hx => .inl ?_⟩
    obtain rfl := LedgerLabel.lose.inj hlost
    obtain ⟨command, -, rfl⟩ := List.mem_map.mp (Multiset.mem_coe.mp hx)
    rfl
  | _ => exact ⟨trivial, nofun⟩

/-- A step drops nothing if and only if outcomes find room and the MQTT worker leaves no command. -/
theorem CommandStep.delivers_iff (h : CommandStep json processor s l t)
    (hstorage : processor.storage.isSome = true) (habort : ¬ l.Aborts) :
    Delivers ⟨s, l, t⟩ ↔ ∀ lost, ledgerLabel ⟨s, l, t⟩ = .lose lost → lost = 0 := by
  cases h with
  | processorForget hwork hnone | forgetOutcome hrecording hnone =>
    cases hstorage.symm.trans hnone
  | abortProcessor hpoint => exact absurd (.inl rfl) habort
  | abortConsumer hpoint => exact absurd (.inr rfl) habort
  | report hworker hsend =>
    obtain ⟨hopen, hroom, -⟩ := Channel.trySend_eq_ok_iff.mp hsend
    exact iff_of_true ⟨fun _ _ => ⟨hopen, hroom⟩, nofun⟩ nofun
  | reportDropped hworker hsend =>
    refine iff_of_false (fun hdelivers => ?_) (fun hnothing => ?_)
    · obtain ⟨hopen, hroom⟩ := hdelivers.1 false rfl
      cases hsend.symm.trans (Channel.trySend_open hopen hroom)
    · have htokens : (s.worker.tokens : Multiset Token) = 0 := hnothing _ rfl
      rw [hworker] at htokens
      cases (Multiset.coe_eq_zero _).mp htokens
  | workerStop hworker hsignal =>
    constructor
    · rintro ⟨-, hempty⟩ lost hlost
      obtain rfl := LedgerLabel.lose.inj hlost
      rw [hempty rfl]
      rfl
    · intro hnothing
      have htokens : (s.commands.queue.map commandToken : Multiset Token) = 0 := hnothing _ rfl
      rw [Multiset.coe_eq_zero, List.map_eq_nil_iff] at htokens
      exact ⟨nofun, fun _ => htokens⟩
  | _ => exact iff_of_true ⟨nofun, nofun⟩ nofun

end Step

/-! ## Finished runs -/

section Runs

variable {σ : Type} {json : SerdeJson} {processor : CommandProcessor σ} {rows : CommandTable}
  {commandQueueCapacity outcomeCapacity : Nat} {s : CommandSystem}
  {es : List (Edge CommandSystem CommandLabel)}

theorem workersJoined_new : WorkersJoined (.new rows commandQueueCapacity outcomeCapacity) where
  processor := nofun
  consumer := nofun
  worker := nofun
  joinedProcessor := nofun
  joinedConsumer := nofun
  joinedEngine := nofun

theorem not_aborted
    (h : Run (CommandStep json processor) (.new rows commandQueueCapacity outcomeCapacity) es s)
    (hclean : s.clean = true) : ∀ e ∈ es, ¬ e.label.Aborts := by
  refine h.history (fun past s => s.clean = true → ∀ e ∈ past, ¬ e.label.Aborts) ?_
    (fun _ => List.forall_mem_nil _) hclean
  intro past s l t hpast hstep hclean
  obtain ⟨hbefore, habort⟩ := hstep.clean hclean
  rw [List.forall_mem_append]
  exact ⟨hpast hbefore, List.forall_mem_singleton.mpr habort⟩

theorem heldBy_calls (calls : List ApiCall) :
    heldBy calls [] none [] .stopped [] none = (calls.map ApiCall.token : List Token) := by
  simp [heldBy, MqttWorkerPhase.tokens]

/-- After a shutdown nothing is held but what its calls have not enqueued. -/
theorem WorkersJoined.held_over (hs : WorkersJoined s) (hover : s.shutdown = .over) :
    ∀ id a, (id, a) ∈ s.ledger.held → a.isAccepted = false := by
  obtain ⟨hrequests, -, hwork⟩ := hs.processor (hs.joinedProcessor (.inr (.inr hover)))
  obtain ⟨houtcomes, -, hrecording⟩ := hs.consumer (hs.joinedConsumer (.inr hover))
  have hworker := hs.joinedEngine hover
  obtain ⟨hcommands, -⟩ := hs.worker hworker
  have hheld : s.ledger.held = (s.calls.map ApiCall.token : List Token) := by
    rw [CommandSystem.ledger, hrequests, hwork, hcommands, hworker, houtcomes, hrecording]
    exact heldBy_calls s.calls
  intro id a hmem
  rw [hheld, Multiset.mem_coe, List.mem_map] at hmem
  obtain ⟨call, -, htoken⟩ := hmem
  have hstage : a = call.token.2 := (congrArg Prod.snd htoken).symm
  rw [hstage]
  cases call with
  | recording execution | recorded execution | rejected execution => rfl

theorem accept_iff (e : Edge CommandSystem CommandLabel) (id : CommandExecutionId) :
    ledgerLabel e = .accept id ↔ e.label = .callEnqueue id ∨ e.label = .ruleEnqueue id := by
  obtain ⟨s, l, t⟩ := e
  cases l with
  | report sent => cases sent <;> simp [ledgerLabel]
  | _ => simp [ledgerLabel]

theorem enqueued_iff {id : CommandExecutionId} :
    Enqueued es id ↔ Accepted (es.map (Edge.map CommandSystem.ledger ledgerLabel)) id := by
  constructor
  · rintro ⟨e, he, hlabel⟩
    exact ⟨_, List.mem_map_of_mem he, (accept_iff e id).mpr hlabel⟩
  · rintro ⟨e', he', hlabel⟩
    obtain ⟨e, he, rfl⟩ := List.mem_map.mp he'
    exact ⟨e, he, (accept_iff e id).mp hlabel⟩

/-- After a shutdown that returned `Ok`, with writes that all succeeded, every command that was
accepted is published or failed if and only if no outcome came to a closed or full channel and the
MQTT worker had no command in its queue when it stopped. -/
theorem accepted_settled_iff
    (h : Run (CommandStep json processor) (.new rows commandQueueCapacity outcomeCapacity) es s)
    (hstorage : processor.storage.isSome = true) (hover : s.shutdown = .over)
    (hclean : s.clean = true) (hwrites : ∀ e ∈ es, e.label.WriteOk) :
    (∀ id status, Enqueued es id → s.rows.status id = some status →
      status = .published ∨ status = .failed) ↔ ∀ e ∈ es, Delivers e := by
  have habort := not_aborted h hclean
  have hjoined : WorkersJoined s :=
    (h.invariant' WorkersJoined (fun _ _ _ hstep hs => hstep.joined hs) workersJoined_new).1
  have hledger : ∀ e ∈ es.map (Edge.map CommandSystem.ledger ledgerLabel), e.label.Clean := by
    intro e' he'
    obtain ⟨e, he, rfl⟩ := List.mem_map.mp he'
    exact (h.step_of_mem e he).ledger_clean hstorage (hwrites e he) (habort e he)
  -- What is left queued is what was dropped.
  have hlost : ∀ id, (Enqueued es id ∧ s.rows.status id = some .queued) ↔
      ∃ e ∈ es, ∃ lost a, ledgerLabel e = .lose lost ∧ (id, a) ∈ lost := by
    intro id
    rw [enqueued_iff]
    have haccepted := accepted_queued_iff (ledger_run h) (CommandSystem.sound_new ..)
      (CommandSystem.held_new ..) hledger (hjoined.held_over hover) id
    refine haccepted.trans ?_
    constructor
    · rintro ⟨e', he', hlose⟩
      obtain ⟨e, he, rfl⟩ := List.mem_map.mp he'
      exact ⟨e, he, hlose⟩
    · rintro ⟨e, he, hlose⟩
      exact ⟨_, List.mem_map_of_mem he, hlose⟩
  constructor
  · intro hsettled e he
    refine ((h.step_of_mem e he).delivers_iff hstorage (habort e he)).mpr fun lost hlose => ?_
    rw [Multiset.eq_zero_iff_forall_notMem]
    rintro ⟨id, a⟩ hmem
    obtain ⟨henqueued, hqueued⟩ := (hlost id).mpr ⟨e, he, lost, a, hlose, hmem⟩
    rcases hsettled id .queued henqueued hqueued with hstatus | hstatus <;> cases hstatus
  · intro hdelivers id status henqueued hstatus
    cases status with
    | published => exact .inl rfl
    | failed => exact .inr rfl
    | queued =>
      obtain ⟨e, he, lost, a, hlose, hmem⟩ := (hlost id).mp ⟨henqueued, hstatus⟩
      have hdelivers' := (h.step_of_mem e he).delivers_iff hstorage (habort e he)
      rw [hdelivers'.mp (hdelivers e he) lost hlose] at hmem
      exact absurd hmem (Multiset.notMem_zero _)

end Runs

/-! ## Two shutdowns -/

/-- A processor with one template and the storage. -/
def restartProcessor : CommandProcessor Unit where
  projectId := ⟨"plant"⟩
  templates := [restartTemplate]
  brokers := [⟨⟨"main"⟩, fun _ world => (.ok (), world)⟩]
  renderer := .default
  storage := some ⟨fun _ world => (.ok (), world), fun _ _ world => (.ok (), world)⟩

/-- A call of `execute_command`. -/
def restartRequest : CommandExecutionRequest :=
  apiRequest ⟨"plant"⟩ ⟨"restart"⟩ [] ⟨none, none⟩ ⟨"restart-1"⟩

/-- The command that it is rendered to. -/
def restartCommand : RenderedCommand where
  projectId := ⟨"plant"⟩
  brokerId := ⟨"main"⟩
  commandTemplateId := ⟨"restart"⟩
  commandExecutionId := ⟨"restart-1"⟩
  topic := ⟨"devices/boiler/restart"⟩
  payload := [110, 117, 108, 108]
  qos := .atLeastOnce
  retain := false
  payloadSizeBytes := 4
  correlationId := "restart-1"

theorem restart_previewed :
    previewCommand emptyJson [restartTemplate] restartRequest = some restartCommand := by
  decide +kernel

theorem restart_prepared : ∃ broker,
    prepareCommandRequest emptyJson restartProcessor restartRequest =
      .ok (restartCommand, broker) := by
  have hrendered :
      (prepareCommandRequest emptyJson restartProcessor restartRequest).map Prod.fst =
        .ok restartCommand := by
    decide +kernel
  cases h : prepareCommandRequest emptyJson restartProcessor restartRequest with
  | error error =>
    rw [h] at hrendered
    cases hrendered
  | ok prepared =>
    rw [h] at hrendered
    obtain ⟨rendered, broker⟩ := prepared
    obtain rfl : rendered = restartCommand := Except.ok.inj hrendered
    exact ⟨broker, rfl⟩

/-- The rows after the call. -/
def restartRows : CommandTable :=
  Keyed.Table.empty.insert (queuedExecution restartRequest restartCommand) rfl

theorem restart_recorded :
    recordCommandExecution (queuedExecution restartRequest restartCommand) .empty =
      .ok restartRows := rfl

/-- The state once the command is in the queue of the MQTT worker. -/
def restartQueued : CommandSystem where
  rows := restartRows
  used := [⟨"restart-1"⟩]
  calls := []
  requests := .new 8
  processor := .running
  work := none
  commands := { capacity := 256, queue := [mqttCommand restartCommand], closed := false }
  worker := .idle
  outcomes := .new 8
  consumer := .running
  recording := none
  signalled := false
  engineSignalled := false
  shutdown := .notCalled
  clean := true

theorem restart_enqueued : ∃ es,
    Run (CommandStep emptyJson restartProcessor) (.new .empty 8 8) es restartQueued ∧
      Enqueued es ⟨"restart-1"⟩ ∧ ∀ e ∈ es, e.label.WriteOk ∧ Delivers e := by
  obtain ⟨broker, hprepared⟩ := restart_prepared
  refine ⟨_,
    .cons (.callBegin ⟨"plant"⟩ ⟨"restart"⟩ [] ⟨none, none⟩ ⟨"restart-1"⟩ restart_previewed
      (by decide)) <|
    .cons (.callRecorded (List.nil_append _).symm (.done restart_recorded)) <|
    .cons (.callEnqueue (List.nil_append _).symm rfl) <|
    .cons (.receiveRequest nofun rfl rfl) <|
    .cons (.prepared rfl hprepared) <|
    .cons (.apiPrepared rfl rfl) <|
    .cons (.sinkEnqueue rfl rfl) <| .nil _, ?_, ?_⟩
  · exact ⟨_, .tail _ (.tail _ (.head _)), .inl rfl⟩
  · simp [CommandLabel.WriteOk, Delivers]

/-- The command is published, its outcome recorded, and only then the runtime told to shut down. -/
theorem restart_finished : ∃ es s,
    Run (CommandStep emptyJson restartProcessor) restartQueued es s ∧ s.shutdown = .over ∧
      s.clean = true ∧ s.rows.status ⟨"restart-1"⟩ = some .published ∧
      ∀ e ∈ es, e.label.WriteOk ∧ Delivers e := by
  refine ⟨_, _,
    .cons (.publish rfl rfl) <|
    .cons (.published (.ok ()) rfl) <|
    .cons (.report rfl rfl) <|
    .cons (.receiveOutcome nofun rfl rfl) <|
    .cons (.recordOutcome rfl rfl (.done rfl)) <|
    .cons (.shutdown rfl) <|
    .cons (.closeRequests rfl rfl rfl) <|
    .cons (.processorReturn rfl rfl rfl) <|
    .cons (.joinProcessor rfl rfl) <|
    .cons (.closeOutcomes rfl rfl rfl) <|
    .cons (.consumerReturn rfl rfl rfl) <|
    .cons (.joinConsumer rfl rfl) <|
    .cons (.workerStop rfl rfl) <|
    .cons (.joinEngine rfl rfl) <| .nil _, rfl, rfl, rfl, ?_⟩
  simp [CommandLabel.WriteOk, Delivers, restartQueued, Channel.new]

/-- The MQTT engine is told to shut down while the command is in the queue of its worker. -/
theorem restart_left : ∃ es s,
    Run (CommandStep emptyJson restartProcessor) restartQueued es s ∧ s.shutdown = .over ∧
      s.clean = true ∧ s.rows.status ⟨"restart-1"⟩ = some .queued ∧
      ∀ e ∈ es, e.label.WriteOk := by
  refine ⟨_, _,
    .cons (.shutdown rfl) <|
    .cons (.closeRequests rfl rfl rfl) <|
    .cons (.processorReturn rfl rfl rfl) <|
    .cons (.joinProcessor rfl rfl) <|
    .cons (.closeOutcomes rfl rfl rfl) <|
    .cons (.consumerReturn rfl rfl rfl) <|
    .cons (.joinConsumer rfl rfl) <|
    .cons (.workerStop rfl rfl) <|
    .cons (.joinEngine rfl rfl) <| .nil _, rfl, rfl, rfl, ?_⟩
  simp [CommandLabel.WriteOk]

theorem accepted_settled_iff_restart : ∃ es s,
    Run (CommandStep emptyJson restartProcessor) (.new .empty 8 8) es s ∧
      Enqueued es ⟨"restart-1"⟩ ∧ s.rows.status ⟨"restart-1"⟩ = some .published ∧
      ∀ id status, Enqueued es id → s.rows.status id = some status →
        status = .published ∨ status = .failed := by
  obtain ⟨es, hqueued, ⟨e, he, henqueue⟩, hes⟩ := restart_enqueued
  obtain ⟨fs, s, hfinished, hover, hclean, hstatus, hfs⟩ := restart_finished
  have hall : ∀ e ∈ es ++ fs, e.label.WriteOk ∧ Delivers e :=
    List.forall_mem_append.mpr ⟨hes, hfs⟩
  have hsettled := accepted_settled_iff (hqueued.append hfinished) rfl hover hclean
    fun e he => (hall e he).1
  exact ⟨es ++ fs, s, hqueued.append hfinished, ⟨e, List.mem_append_left _ he, henqueue⟩, hstatus,
    hsettled.mpr fun e he => (hall e he).2⟩

/-- A command may be left queued by a shutdown that returns `Ok`. -/
theorem accepted_left_queued : ¬ ∀ es s,
    Run (CommandStep emptyJson restartProcessor) (.new .empty 8 8) es s →
    s.shutdown = .over → s.clean = true → (∀ e ∈ es, e.label.WriteOk) →
    ∀ id status, Enqueued es id → s.rows.status id = some status →
      status = .published ∨ status = .failed := by
  intro hsettled
  obtain ⟨es, hqueued, ⟨e, he, henqueue⟩, hes⟩ := restart_enqueued
  obtain ⟨fs, s, hleft, hover, hclean, hstatus, hfs⟩ := restart_left
  have hwrites : ∀ e ∈ es ++ fs, e.label.WriteOk :=
    List.forall_mem_append.mpr ⟨fun e he => (hes e he).1, hfs⟩
  rcases hsettled _ s (hqueued.append hleft) hover hclean hwrites _ .queued
    ⟨e, List.mem_append_left _ he, henqueue⟩ hstatus with hpublished | hfailed
  · cases hpublished
  · cases hfailed

end Daemon
end PipeBolt
