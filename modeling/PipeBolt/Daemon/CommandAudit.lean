import PipeBolt.Daemon.CommandStatus
import PipeBolt.Daemon.CommandsSettled

/-!
# The rows of processed commands

What `process_and_record_command_request` leaves in `command_executions`.  The row of a call of the
API is there before its request is enqueued, the row of a rule's request is recorded once it has
been rendered, and the mark of a failure is an update, which adds no row.

* `ProcessorRow`: which row the request has that the processor works on.
* `processed_recorded_iff`: a processed request has a row, marked failed if and only if the
  processing failed, exactly when it comes from the API or can be rendered.
* `status_order_recorded`: where every request is recorded that is taken up, an update of a status
  always finds its row queued.
-/

namespace PipeBolt
namespace Daemon

open Domain Storage BoundedChannel Transition
open PipeBolt.Core Pipeline Fallible

/-! ## Requests that are recorded -/

section Condition

variable {σ : Type} {json : SerdeJson} {processor : CommandProcessor σ}
  {request : CommandExecutionRequest}

/-- A request is for the project of the processor, and for an enabled template of a broker that
runs, which its parameters fill. -/
structure Renderable (json : SerdeJson) (processor : CommandProcessor σ)
    (request : CommandExecutionRequest) : Prop where
  project : request.projectId = processor.projectId
  template : ∃ template,
    processor.templates.find? (·.id == request.commandTemplateId) = some template ∧
      template.enabled = true ∧
      (∃ rendered, processor.renderer.render json template (renderContext request)
        request.params = .ok rendered) ∧
      ∃ broker, processor.brokers.find? (·.brokerId == template.brokerId) = some broker

theorem prepareCommandRequest_isOk_iff :
    (∃ rendered broker, prepareCommandRequest json processor request = .ok (rendered, broker)) ↔
      Renderable json processor request := by
  constructor
  · rintro ⟨rendered, broker, h⟩
    obtain ⟨⟨hproject, template, htemplate, henabled, hbroker⟩, -⟩ := prepareCommandRequest_eq_ok h
    refine ⟨hproject, template, htemplate, henabled, ?_, hbroker⟩
    rw [prepareCommandRequest, if_neg (not_not_intro hproject), htemplate] at h
    simp only [henabled, Bool.not_true, Bool.false_eq_true, if_false] at h
    obtain ⟨rendered', hrendered, -⟩ := bind_eq_ok_iff.mp h
    exact ⟨rendered', mapError_eq_ok_iff.mp hrendered⟩
  · rintro ⟨hproject, template, htemplate, henabled, ⟨rendered, hrendered⟩, broker, hbroker⟩
    have hchecks : PassesChecks processor request :=
      ⟨hproject, template, htemplate, henabled, broker, hbroker⟩
    cases h : prepareCommandRequest json processor request with
    | ok prepared => exact ⟨prepared.1, prepared.2, rfl⟩
    | error error =>
        rw [prepareCommandRequest, if_neg (not_not_intro hproject), htemplate] at h
        obtain ⟨hfrom, -⟩ := CommandTemplateRenderer.render_eq_ok hrendered
        have hrun : processor.brokers.find? (·.brokerId == rendered.brokerId) = some broker := by
          rw [hfrom.brokerId]
          exact hbroker
        simp only [henabled, Bool.not_true, Bool.false_eq_true, if_false, hrendered,
          Except.mapError, bind, Except.bind, hrun] at h
        cases h

/-- The row of a request is there once it has been prepared. -/
def IsRecorded (json : SerdeJson) (processor : CommandProcessor σ)
    (request : CommandExecutionRequest) : Prop :=
  request.source = .api ∨ Renderable json processor request

end Condition

/-! ## What a step leaves of a row -/

section Ledger

variable {κ : Type} [DecidableEq κ] {L L' : Ledger κ} {k : κ} {label : LedgerLabel κ}

/-- A step that leaves an early execution held leaves its row as it is. -/
theorem LedgerStep.status_early (h : LedgerStep L label L') (hs : L.Sound) {a b : ExecutionStage}
    (hearly : a.isEarly = true) (hbefore : (k, a) ∈ L.held) (hafter : (k, b) ∈ L'.held) :
    L'.status k = L.status k := by
  have hgone : ¬ label.Updates k := fun hupdate => (h.update hs hupdate).1.notHeld b hafter
  cases h.row_change k with
  | same hsame => exact hsame
  | fail hlabel hfailed => exact absurd (.inl ⟨_, hlabel⟩) hgone
  | settle hlabel hheld hsettled => exact absurd (.inr ⟨_, _, hlabel⟩) hgone
  | record hlabel _ _ =>
      subst hlabel
      cases h with
      | advance hheld hadvance => cases hadvance
      | callRecorded hheld | callNotRecorded hheld hstatus | ruleRecorded hheld
      | ruleNotRecorded hheld hstatus =>
          rw [hs.stage_unique hheld hbefore] at hearly
          cases hearly

end Ledger

/-! ## The row of the request that is processed -/

section Row

variable {σ : Type} {json : SerdeJson} {processor : CommandProcessor σ} {s t : CommandSystem}
  {l : CommandLabel}

/-- What is known of a request by how far the processor is with it: a prepared command is what its
request is rendered to, a command that goes to the sink has its row, and a request that failed has a
row exactly when it is one that is recorded. -/
def WorkRow (json : SerdeJson) (processor : CommandProcessor σ) (rows : CommandTable) :
    ProcessorWork → Prop
  | .received _ => True
  | .prepared command => Renderable json processor command.request
  | .ready command => IsRecorded json processor command.request
  | .failed request _ =>
    rows.status request.commandExecutionId = some .queued ↔ IsRecorded json processor request

/-- What is known of the request that the processor works on. -/
def ProcessorRow (json : SerdeJson) (processor : CommandProcessor σ) (s : CommandSystem) : Prop :=
  ∀ work, s.work = some work → WorkRow json processor s.rows work

theorem ProcessorRow.of_work {work : ProcessorWork} (hwork : t.work = some work)
    (h : WorkRow json processor t.rows work) : ProcessorRow json processor t := by
  intro work' hwork'
  obtain rfl : work = work' := Option.some.inj (hwork.symm.trans hwork')
  exact h

theorem ProcessorRow.of_idle (h : t.work = none) : ProcessorRow json processor t := by
  intro work hwork
  cases h.symm.trans hwork

/-- A step of another party changes neither the request nor its row. -/
theorem ProcessorRow.frame (hs : ProcessorRow json processor s) (hsound : s.ledger.Sound)
    (h : CommandStep json processor s l t) (hwork : t.work = s.work) :
    ProcessorRow json processor t := by
  intro work hafter
  have hbefore : s.work = some work := hwork ▸ hafter
  have hknown := hs work hbefore
  cases work with
  | received request => exact trivial
  | prepared command => exact hknown
  | ready command => exact hknown
  | failed request error =>
    have hsame : t.ledger.status request.commandExecutionId =
        s.ledger.status request.commandExecutionId :=
      h.ledger.status_early hsound (refusedStage_isEarly request)
        (CommandSystem.held_work hbefore ▸ Multiset.mem_cons_self _ _)
        (CommandSystem.held_work hafter ▸ Multiset.mem_cons_self _ _)
    exact (Iff.of_eq (congrArg (· = _) hsame)).trans hknown

/-- The row that the work of the processor has, by its stage. -/
theorem CommandSystem.work_agrees (hsound : s.ledger.Sound) {work : ProcessorWork}
    (hwork : s.work = some work) : work.token.2.Agrees (s.rows.status work.token.1) :=
  hsound.agrees_head (CommandSystem.held_work hwork)

/-- A step keeps what is known of the request that the processor works on. -/
theorem CommandStep.processorRow (h : CommandStep json processor s l t)
    (hstorage : processor.storage.isSome = true) (hok : l.WriteOk) (hsound : s.ledger.Sound)
    (hs : ProcessorRow json processor s) : ProcessorRow json processor t := by
  have hstep := h
  cases h with
  | receiveRequest hphase hidle hrecv => exact .of_work rfl trivial
  | @prepared request rendered broker hwork hprepare =>
    exact .of_work rfl (prepareCommandRequest_isOk_iff.mp ⟨rendered, broker, hprepare⟩)
  | @notPrepared request error hwork hprepare =>
    refine .of_work rfl ?_
    have hagrees := CommandSystem.work_agrees hsound hwork
    have hrefused : ¬ Renderable json processor request := by
      intro hrenderable
      obtain ⟨rendered, broker, hok⟩ := prepareCommandRequest_isOk_iff.mpr hrenderable
      cases hprepare.symm.trans hok
    -- A request of a rule has no row before it is prepared.
    cases hsource : request.source with
    | api =>
      rw [ProcessorWork.token, requestToken, requestStage, hsource] at hagrees
      exact iff_of_true hagrees (.inl hsource)
    | rule =>
      rw [ProcessorWork.token, requestToken, requestStage, hsource] at hagrees
      have hnone : s.rows.status request.commandExecutionId = none := hagrees
      refine iff_of_false ?_ ?_
      · intro hqueued
        cases hnone.symm.trans hqueued
      · rintro (hapi | hrenderable)
        · cases hsource.symm.trans hapi
        · exact hrefused hrenderable
  | apiPrepared hwork hsource => exact .of_work rfl (.inl hsource)
  | auditUnavailable hwork hsource hnone => cases hstorage.symm.trans hnone
  | ruleRecorded hwork hsource hsome hwrite => exact .of_work rfl (.inr (hs _ hwork))
  | ruleNotRecorded source hwork hsource hsome hwrite => cases hok
  | sinkEnqueue hwork hsend => exact .of_idle rfl
  | sinkRejected hwork hsend =>
    exact .of_work rfl (iff_of_true (CommandSystem.work_agrees hsound hwork) (hs _ hwork))
  | processorMark reason hwork hsome hwrite => exact .of_idle rfl
  | processorForget hwork hnone => exact .of_idle rfl
  | abortProcessor hpoint => exact .of_idle rfl
  | _ => exact hs.frame hsound hstep rfl

/-- The processor returns from `process_and_record_command_request`, with what
`process_command_request` has returned. -/
inductive ProcessorReturns (e : Edge CommandSystem CommandLabel)
    (request : CommandExecutionRequest) : Except RuntimeCommandProcessorError Unit → Prop
  | enqueued {command : PreparedCommand} (hwork : e.source.work = some (.ready command))
      (hrequest : command.request = request) (hlabel : e.label = .sinkEnqueue)
      (hreturned : e.target.work = none) : ProcessorReturns e request (.ok ())
  | marked {error : RuntimeCommandProcessorError} {ok : Bool}
      (hwork : e.source.work = some (.failed request error))
      (hlabel : e.label = .processorMark request.commandExecutionId ok) :
      ProcessorReturns e request (.error error)

/-- The execution has a row, which says that it failed exactly when the processing did. -/
def RowTells (rows : CommandTable) (request : CommandExecutionRequest)
    (result : Except RuntimeCommandProcessorError Unit) : Prop :=
  ∃ status, rows.status request.commandExecutionId = some status ∧
    (status = .failed ↔ ∃ error, result = .error error)

/-- What a step that ends the processing of a request leaves of its row. -/
theorem CommandStep.returned (h : CommandStep json processor s l t) (hok : l.WriteOk)
    (hsound : s.ledger.Sound) (hs : ProcessorRow json processor s)
    {request : CommandExecutionRequest} {result : Except RuntimeCommandProcessorError Unit}
    (hreturns : ProcessorReturns ⟨s, l, t⟩ request result) :
    RowTells t.rows request result ↔ IsRecorded json processor request := by
  cases hreturns with
  | enqueued hwork hrequest hlabel hreturned =>
    subst hrequest
    have hqueued := CommandSystem.work_agrees hsound hwork
    have hsame : t.rows = s.rows := by
      have hlabel : l = .sinkEnqueue := hlabel
      subst hlabel
      cases h with
      | sinkEnqueue _ _ => rfl
      | sinkRejected _ _ => rfl
    refine iff_of_true ⟨.queued, hsame ▸ hqueued, ?_, ?_⟩ (hs _ hwork)
    · intro hfailed
      cases hfailed
    · rintro ⟨error, herror⟩
      cases herror
  | @marked error ok hwork hlabel =>
    have hlabel : l = .processorMark request.commandExecutionId ok := hlabel
    subst hlabel
    obtain rfl : ok = true := hok
    have hmarked : t.rows.status request.commandExecutionId =
        (s.rows.status request.commandExecutionId).map fun _ => .failed := by
      generalize hid : request.commandExecutionId = id at h
      cases h with
      | processorMark reason hwork' hsome hwrite => exact hid ▸ hwrite.markFailed.of_ok
    have hknown : s.rows.status request.commandExecutionId = some .queued ↔
        IsRecorded json processor request := hs _ hwork
    rw [← hknown]
    -- The row was queued, or there was none.
    have hagrees := CommandSystem.work_agrees hsound hwork
    have hbefore : s.rows.status request.commandExecutionId = none ∨
        s.rows.status request.commandExecutionId = some .queued := by
      cases hsource : request.source with
      | api =>
        rw [ProcessorWork.token, refusedStage, hsource] at hagrees
        exact .inr hagrees
      | rule =>
        rw [ProcessorWork.token, refusedStage, hsource] at hagrees
        exact hagrees
    unfold RowTells
    rw [hmarked]
    rcases hbefore with hnone | hqueued
    · rw [hnone]
      refine iff_of_false ?_ (Option.some_ne_none _).symm
      rintro ⟨status, hstatus, -⟩
      cases hstatus
    · rw [hqueued]
      exact iff_of_true ⟨.failed, rfl, iff_of_true rfl ⟨error, rfl⟩⟩ rfl

end Row

/-! ## Runs -/

section Runs

variable {σ : Type} {json : SerdeJson} {processor : CommandProcessor σ} {rows : CommandTable}
  {commandQueueCapacity outcomeCapacity : Nat} {s : CommandSystem}
  {es : List (Edge CommandSystem CommandLabel)}

/-- **The audit of processed commands.**  With storage, and with writes that all succeed, the
execution of a processed request has a row that is failed exactly when processing it failed, if
and only if the request comes from the API or is one that can be rendered for its broker. -/
theorem processed_recorded_iff
    (h : Run (CommandStep json processor) (.new rows commandQueueCapacity outcomeCapacity) es s)
    (hstorage : processor.storage.isSome = true) (hwrites : ∀ e ∈ es, e.label.WriteOk)
    {e : Edge CommandSystem CommandLabel} (he : e ∈ es) {request : CommandExecutionRequest}
    {result : Except RuntimeCommandProcessorError Unit}
    (hreturns : ProcessorReturns e request result) :
    RowTells e.target.rows request result ↔ IsRecorded json processor request := by
  have hsound := (ledger_sound rows commandQueueCapacity outcomeCapacity h).2 e he
  have hrow := (h.invariant (fun s => s.ledger.Sound ∧ ProcessorRow json processor s)
    (fun e => e.label.WriteOk)
    (fun e hok hstep hs => ⟨hstep.ledger.sound hs.1, hstep.processorRow hstorage hok hs.1 hs.2⟩)
    hwrites ⟨CommandSystem.sound_new rows commandQueueCapacity outcomeCapacity, .of_idle rfl⟩).2 e he
  exact (h.step_of_mem e he).returned (hwrites e he) hsound.1 hrow.1.2 hreturns

end Runs

/-! ## A request of a rule that is not recorded -/

/-- The processor refuses the request before it has a row, and returns. -/
theorem unfilledRequest_returned :
    ∃ es s, Run (CommandStep emptyJson deviceProcessor) (.new .empty 8 8) es s ∧
      (∀ e ∈ es, e.label.WriteOk) ∧
      ∃ e ∈ es, ∃ error, ProcessorReturns e unfilledRequest (.error error) ∧
        e.target.rows.status unfilledRequest.commandExecutionId = none := by
  obtain ⟨error, herror⟩ := unfilledRequest_error
  refine ⟨_, _,
    .cons (.ruleEnqueue (show unfilledRequest.source = .rule from rfl) (by decide) rfl) <|
    .cons (.receiveRequest nofun rfl rfl) <|
    .cons (.notPrepared rfl herror) <|
    .cons (.processorMark ("command render failed: command template 'restart' is missing " ++
      "parameter 'device'") rfl rfl (.done rfl)) <|
    .nil _, ?_, _, .tail _ (.tail _ (.tail _ (.head _))), error, .marked rfl rfl, rfl⟩
  simp [CommandLabel.WriteOk]

/-- The failure of a rule's command may leave no row. -/
theorem refused_unrecorded : ¬ ∀ (processor : CommandProcessor Unit) es s,
    processor.storage.isSome = true →
    Run (CommandStep emptyJson processor) (.new .empty 8 8) es s →
    (∀ e ∈ es, e.label.WriteOk) →
    ∀ e ∈ es, ∀ request result, ProcessorReturns e request result →
      RowTells e.target.rows request result := by
  intro hrecorded
  obtain ⟨es, s, hrun, hwrites, e, he, error, hreturns, hnone⟩ := unfilledRequest_returned
  obtain ⟨status, hstatus, -⟩ :=
    hrecorded deviceProcessor es s rfl hrun hwrites e he _ _ hreturns
  cases hnone.symm.trans hstatus

theorem unfilledRequest_notRecorded : ¬ IsRecorded emptyJson deviceProcessor unfilledRequest := by
  obtain ⟨es, s, hrun, hwrites, e, he, error, hreturns, hnone⟩ := unfilledRequest_returned
  intro hrecorded
  obtain ⟨status, hstatus, -⟩ :=
    (processed_recorded_iff hrun rfl hwrites he hreturns).mpr hrecorded
  cases hnone.symm.trans hstatus

/-! ## Updates of rows that are there -/

/-- The step takes up no request of a rule that is refused, and inserts the row of a rule's request,
also where the call that does so fails. -/
def RecordsFirst {σ : Type} (json : SerdeJson) (processor : CommandProcessor σ)
    (e : Edge CommandSystem CommandLabel) : Prop :=
  (∀ request, e.source.work = some (.received request) → e.label = .prepare →
    IsRecorded json processor request) ∧
  ∀ id, e.label = .ruleRecord id false → (e.target.rows.status id).isSome = true

/-- The request that the processor has refused has a row. -/
def RefusedRecorded {σ : Type} (processor : CommandProcessor σ) (s : CommandSystem) : Prop :=
  processor.storage.isSome = true → ∀ request error, s.work = some (.failed request error) →
    (s.rows.status request.commandExecutionId).isSome = true

section Updates

variable {σ : Type} {json : SerdeJson} {processor : CommandProcessor σ} {s t : CommandSystem}
  {l : CommandLabel}

theorem RefusedRecorded.of_idle (h : t.work = none) : RefusedRecorded processor t := by
  intro _ request error hwork
  cases h.symm.trans hwork

/-- The request that was refused in the step has a row. -/
theorem RefusedRecorded.of_failed {request : CommandExecutionRequest}
    {error : RuntimeCommandProcessorError} (hwork : t.work = some (.failed request error))
    (h : (t.rows.status request.commandExecutionId).isSome = true) : RefusedRecorded processor t := by
  intro _ request' error' hwork'
  cases hwork.symm.trans hwork'
  exact h

/-- A step of another party changes neither the request nor its row. -/
theorem RefusedRecorded.frame (hs : RefusedRecorded processor s) (hsound : s.ledger.Sound)
    (h : CommandStep json processor s l t) (hwork : t.work = s.work) :
    RefusedRecorded processor t := by
  intro hstorage request error hafter
  have hbefore : s.work = some (.failed request error) := hwork ▸ hafter
  have hsame : t.ledger.status request.commandExecutionId =
      s.ledger.status request.commandExecutionId :=
    h.ledger.status_early hsound (refusedStage_isEarly request)
      (CommandSystem.held_work hbefore ▸ Multiset.mem_cons_self _ _)
      (CommandSystem.held_work hafter ▸ Multiset.mem_cons_self _ _)
  exact (congrArg Option.isSome hsame).trans (hs hstorage request error hbefore)

/-- A step that records first keeps the rows of refused requests. -/
theorem CommandStep.refusedRecorded (h : CommandStep json processor s l t)
    (hfirst : RecordsFirst json processor ⟨s, l, t⟩) (hsound : s.ledger.Sound)
    (hs : RefusedRecorded processor s) : RefusedRecorded processor t := by
  have hstep := h
  cases h with
  | receiveRequest hphase hidle hrecv =>
    intro _ request error hwork
    cases hwork
  | prepared hwork hprepare =>
    intro _ request error hwork
    cases hwork
  | @notPrepared request error hwork hprepare =>
    refine .of_failed rfl ?_
    rcases hfirst.1 request hwork rfl with hapi | hrenderable
    · -- The row of a call is there before its request is enqueued.
      have hagrees := CommandSystem.work_agrees hsound hwork
      rw [ProcessorWork.token, requestToken, requestStage, hapi] at hagrees
      exact Option.isSome_of_eq_some hagrees
    · obtain ⟨rendered, broker, hok⟩ := prepareCommandRequest_isOk_iff.mpr hrenderable
      cases hprepare.symm.trans hok
  | apiPrepared hwork hsource =>
    intro _ request error hwork
    cases hwork
  | auditUnavailable hwork hsource hnone =>
    intro hstorage
    cases hstorage.symm.trans hnone
  | ruleRecorded hwork hsource hsome hwrite =>
    intro _ request error hwork
    cases hwork
  | ruleNotRecorded source hwork hsource hsome hwrite => exact .of_failed rfl (hfirst.2 _ rfl)
  | sinkEnqueue hwork hsend => exact .of_idle rfl
  | sinkRejected hwork hsend =>
    exact .of_failed rfl (Option.isSome_of_eq_some (CommandSystem.work_agrees hsound hwork))
  | processorMark reason hwork hsome hwrite => exact .of_idle rfl
  | processorForget hwork hnone => exact .of_idle rfl
  | abortProcessor hpoint => exact .of_idle rfl
  | _ => exact hs.frame hsound hstep rfl

/-- Where the refused request has a row, an update finds its row queued. -/
theorem CommandStep.updated_queued (h : CommandStep json processor s l t) (hsound : s.ledger.Sound)
    (hs : RefusedRecorded processor s) {id : CommandExecutionId} (hupdated : l.updated = some id) :
    s.rows.status id = some .queued := by
  rcases h.updated_found hsound hupdated with hqueued | ⟨⟨hnone, request, error, hwork, -, rfl⟩, -⟩
  · exact hqueued
  · have hstorage : processor.storage.isSome = true := by
      cases h with
      | processorMark reason hwork' hsome hwrite => exact hsome
      | callMark reason hcalls hwrite =>
        -- The call holds the execution, so the processor does not.
        have hqueued : s.rows.status request.commandExecutionId = some .queued := by
          rw [← Option.some.inj hupdated]
          exact hsound.agrees_head (CommandSystem.held_call hcalls)
        cases hnone.symm.trans hqueued
      | recordOutcome hrecording hsome hwrite => exact hsome
      | _ => cases hupdated
    have hrow := hs hstorage request error hwork
    rw [hnone] at hrow
    cases hrow

variable {rows : CommandTable} {commandQueueCapacity outcomeCapacity : Nat}
  {es : List (Edge CommandSystem CommandLabel)}

/-- **The status of recorded executions.**  Where every step records first, a row leaves `queued` at
most once, an update always finds its row there and queued, a row becomes published only when
`client.publish` returned `Ok`, and what the API or the processor marks failed is never handed to
the MQTT client. -/
theorem status_order_recorded
    (h : Run (CommandStep json processor) (.new rows commandQueueCapacity outcomeCapacity) es s)
    (hfirst : ∀ e ∈ es, RecordsFirst json processor e) :
    (es.Pairwise fun e e' => ∀ id, LeavesQueued e id →
      e'.target.rows.status id = e'.source.rows.status id) ∧
    (∀ e ∈ es, ∀ id, e.label.updated = some id → e.source.rows.status id = some .queued) ∧
    (∀ id, s.rows.status id = some .published →
      rows.status id = some .published ∨ ∃ e ∈ es, e.label = .published id true) ∧
    ∀ e ∈ es, ∀ e' ∈ es, ∀ id, e.label.markedFailed = some id → e'.label ≠ .publish id := by
  obtain ⟨hleaves, -, -, hpublished, hmarked⟩ := status_order h
  refine ⟨hleaves, ?_, hpublished, hmarked⟩
  intro e he id hupdated
  have hrow := (h.invariant (fun s => s.ledger.Sound ∧ RefusedRecorded processor s)
    (RecordsFirst json processor)
    (fun e hok hstep hs => ⟨hstep.ledger.sound hs.1, hstep.refusedRecorded hok hs.1 hs.2⟩) hfirst
    ⟨CommandSystem.sound_new rows commandQueueCapacity outcomeCapacity, .of_idle rfl⟩).2 e he
  exact (h.step_of_mem e he).updated_queued hrow.1.1 hrow.1.2 hupdated

end Updates

/-! ## A request of a rule that is recorded -/

/-- The request of a rule for the restart. -/
def restartRuleRequest : CommandExecutionRequest := { restartRequest with source := .rule }

theorem restartRule_prepared : ∃ broker,
    prepareCommandRequest emptyJson restartProcessor restartRuleRequest =
      .ok (restartCommand, broker) := by
  have hrendered :
      (prepareCommandRequest emptyJson restartProcessor restartRuleRequest).map Prod.fst =
        .ok restartCommand := by
    decide +kernel
  cases h : prepareCommandRequest emptyJson restartProcessor restartRuleRequest with
  | error error =>
    rw [h] at hrendered
    cases hrendered
  | ok prepared =>
    rw [h] at hrendered
    obtain ⟨rendered, broker⟩ := prepared
    obtain rfl : rendered = restartCommand := Except.ok.inj hrendered
    exact ⟨broker, rfl⟩

/-- The request is rendered, its row inserted by a call that fails afterwards, and marked failed. -/
theorem restartRule_run : ∃ es s,
    Run (CommandStep emptyJson restartProcessor) (.new .empty 8 8) es s ∧
      s.rows.status ⟨"restart-1"⟩ = some .failed ∧
      ∀ e ∈ es, RecordsFirst emptyJson restartProcessor e := by
  obtain ⟨broker, hprepared⟩ := restartRule_prepared
  have hrecorded : IsRecorded emptyJson restartProcessor restartRuleRequest :=
    .inr (prepareCommandRequest_isOk_iff.mp ⟨restartCommand, broker, hprepared⟩)
  refine ⟨_, _,
    .cons (.ruleEnqueue (show restartRuleRequest.source = .rule from rfl) (by decide) rfl) <|
    .cons (.receiveRequest nofun rfl rfl) <|
    .cons (.prepared rfl hprepared) <|
    .cons (.ruleNotRecorded (.sqlx (.io "connection reset")) rfl rfl rfl (.lost restart_recorded)) <|
    .cons (.processorMark "command audit failed: connection reset" rfl rfl (.done rfl)) <|
    .nil _, rfl, ?_⟩
  have hrow : (restartRows.status restartRuleRequest.commandExecutionId).isSome = true := rfl
  simp [RecordsFirst, hrecorded, hrow]

theorem status_order_recorded_restartRule : ∃ es s,
    Run (CommandStep emptyJson restartProcessor) (.new .empty 8 8) es s ∧
      s.rows.status ⟨"restart-1"⟩ = some .failed ∧
      ∀ e ∈ es, ∀ id, e.label.updated = some id → e.source.rows.status id = some .queued := by
  obtain ⟨es, s, hrun, hstatus, hfirst⟩ := restartRule_run
  exact ⟨es, s, hrun, hstatus, (status_order_recorded hrun hfirst).2.1⟩

end Daemon
end PipeBolt
