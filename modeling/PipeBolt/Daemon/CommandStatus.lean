import PipeBolt.Daemon.CommandRuns
import PipeBolt.Daemon.References

/-!
# The status of a command execution

The rows of `command_executions` have four writers, the API, the command processor and the consumer
of outcomes with its two updates, and no update looks at the status that it replaces.  What a row
goes through is in the order of the steps.

* `CommandStep.updated_found`: what an update finds.
* `status_order`: a row leaves `queued` at most once.  An update comes after the row, except that of
  a rule's request which the processor refuses before its row is there; then there never is one.  A
  row becomes published only when `client.publish` returned `Ok` for it, and what the API or the
  processor marks failed never gets to the MQTT client.
-/

namespace PipeBolt
namespace Daemon

open Domain Storage BoundedChannel Transition
open PipeBolt.Core Pipeline

/-- The row whose status the step updates. -/
def CommandLabel.updated : CommandLabel → Option CommandExecutionId
  | .callMark id _ | .processorMark id _ | .recordOutcome id _ _ => some id
  | _ => none

/-- The execution that the API or the processor marks failed in the step. -/
def CommandLabel.markedFailed : CommandLabel → Option CommandExecutionId
  | .callMark id _ | .processorMark id _ => some id
  | _ => none

/-- The step takes a row out of `queued`. -/
def LeavesQueued (e : Edge CommandSystem CommandLabel) (id : CommandExecutionId) : Prop :=
  e.source.rows.status id = some .queued ∧ e.target.rows.status id ≠ some .queued

/-- The processor has refused a request of a rule that has no row. -/
def CommandSystem.RefusedUnrecorded (s : CommandSystem) (id : CommandExecutionId) : Prop :=
  s.rows.status id = none ∧ ∃ request error, s.work = some (.failed request error) ∧
    request.source = .rule ∧ request.commandExecutionId = id

theorem updates_iff (e : Edge CommandSystem CommandLabel) (id : CommandExecutionId) :
    (ledgerLabel e).Updates id ↔ e.label.updated = some id := by
  obtain ⟨s, l, t⟩ := e
  cases l with
  | callMark id' ok | processorMark id' ok =>
    simp [ledgerLabel, LedgerLabel.Updates, CommandLabel.updated]
  | recordOutcome id' published ok =>
    simp [ledgerLabel, LedgerLabel.Updates, CommandLabel.updated]
  | report sent =>
    cases sent <;> simp [ledgerLabel, LedgerLabel.Updates, CommandLabel.updated]
  | _ => simp [ledgerLabel, LedgerLabel.Updates, CommandLabel.updated]

theorem fails_of_markedFailed {e : Edge CommandSystem CommandLabel} {id : CommandExecutionId}
    (h : e.label.markedFailed = some id) : ∃ ok, ledgerLabel e = .fail id ok := by
  obtain ⟨s, l, t⟩ := e
  cases l with
  | callMark id' ok | processorMark id' ok =>
    obtain rfl : id' = id := Option.some.inj h
    exact ⟨ok, rfl⟩
  | _ => cases h

theorem eq_published_of_returned {e : Edge CommandSystem CommandLabel} {id : CommandExecutionId}
    (h : ledgerLabel e = .returned id true) : e.label = .published id true := by
  obtain ⟨s, l, t⟩ := e
  cases l with
  | published id' ok =>
    cases h
    rfl
  | report sent => cases sent <;> cases h
  | _ => cases h

section Step

variable {σ : Type} {json : SerdeJson} {processor : CommandProcessor σ} {s t : CommandSystem}
  {l : CommandLabel}

/-- An update finds its row queued, or it is that of a request of a rule that the processor has
refused before the row was recorded, and there is no row after it. -/
theorem CommandStep.updated_found (h : CommandStep json processor s l t) (hs : s.ledger.Sound)
    {id : CommandExecutionId} (hupdated : l.updated = some id) :
    s.rows.status id = some .queued ∨ (s.RefusedUnrecorded id ∧ t.rows.status id = none) := by
  cases h with
  | callMark reason hcalls hwrite =>
    obtain rfl := Option.some.inj hupdated
    exact .inl (hs.agrees_head (CommandSystem.held_call hcalls))
  | @processorMark request error ok rows reason hwork hstorage hwrite =>
    obtain rfl := Option.some.inj hupdated
    have hagrees : (refusedStage request).Agrees (s.rows.status request.commandExecutionId) :=
      hs.agrees_head (CommandSystem.held_work hwork)
    unfold refusedStage at hagrees
    cases hsource : request.source with
    | api =>
      rw [hsource] at hagrees
      exact .inl hagrees
    | rule =>
      rw [hsource] at hagrees
      rcases hagrees with hnone | hqueued
      · refine .inr ⟨⟨hnone, request, error, hwork, hsource, rfl⟩, ?_⟩
        rcases hwrite.markFailed.eq_or request.commandExecutionId with hsame | ⟨-, hnew⟩
        · exact hsame.trans hnone
        · rw [hnew, hnone]
          rfl
      · exact .inl hqueued
  | recordOutcome hrecording hstorage hwrite =>
    obtain rfl := Option.some.inj hupdated
    exact .inl (hs.agrees_head (CommandSystem.held_recording hrecording))
  | _ => cases hupdated

end Step

/-! ## Runs -/

section Runs

variable {σ : Type} {json : SerdeJson} {processor : CommandProcessor σ} {rows : CommandTable}
  {commandQueueCapacity outcomeCapacity : Nat} {s : CommandSystem}
  {es : List (Edge CommandSystem CommandLabel)}

/-- After an update of a status the row never changes, and its status is not updated again. -/
theorem updated_once
    (h : Run (CommandStep json processor) (.new rows commandQueueCapacity outcomeCapacity) es s) :
    es.Pairwise fun e e' => ∀ id, e.label.updated = some id →
      e'.label.updated ≠ some id ∧ e'.target.rows.status id = e'.source.rows.status id := by
  have hledger := updates_pairwise (ledger_run h) (CommandSystem.sound_new ..)
  rw [List.pairwise_map] at hledger
  refine hledger.imp fun {e e'} hpair id hupdated => ?_
  obtain ⟨hexecution, hstatus⟩ := hpair id ((updates_iff e id).mpr hupdated)
  refine ⟨fun hagain => hexecution ?_, hstatus⟩
  rcases (updates_iff e' id).mpr hagain with ⟨ok, hlabel⟩ | ⟨published, ok, hlabel⟩
  · show (ledgerLabel e').execution = some id
    rw [hlabel]
    rfl
  · show (ledgerLabel e').execution = some id
    rw [hlabel]
    rfl

/-- A row leaves `queued` by an update. -/
theorem updated_of_leavesQueued
    (h : Run (CommandStep json processor) (.new rows commandQueueCapacity outcomeCapacity) es s) :
    ∀ e ∈ es, ∀ id, LeavesQueued e id → e.label.updated = some id := by
  intro e he id hleaves
  have hstep := (h.step_of_mem e he).ledger
  exact (updates_iff e id).mp (hstep.status_leaves hleaves.1 hleaves.2)

/-- A row leaves `queued` at most once, and keeps what it is then. -/
theorem leavesQueued_once
    (h : Run (CommandStep json processor) (.new rows commandQueueCapacity outcomeCapacity) es s) :
    es.Pairwise fun e e' => ∀ id, LeavesQueued e id →
      e'.target.rows.status id = e'.source.rows.status id := by
  have honce := updated_once h
  have hleaves := updated_of_leavesQueued h
  rw [List.pairwise_iff_forall_sublist] at honce ⊢
  intro e e' hsublist id hleft
  have he : e ∈ es := hsublist.subset (.head _)
  exact (honce hsublist id (hleaves e he id hleft)).2

/-- A row becomes published only when `client.publish` returned `Ok`. -/
theorem published_of_status
    (h : Run (CommandStep json processor) (.new rows commandQueueCapacity outcomeCapacity) es s)
    {id : CommandExecutionId} (hpublished : s.rows.status id = some .published) :
    rows.status id = some .published ∨ ∃ e ∈ es, e.label = .published id true := by
  have hreturned := published_returned (ledger_run h) (CommandSystem.held_new ..) hpublished
  refine hreturned.imp_right fun ⟨e, he, hlabel⟩ => ?_
  obtain ⟨e₀, he₀, rfl⟩ := List.mem_map.mp he
  exact ⟨e₀, he₀, eq_published_of_returned hlabel⟩

/-- What the API or the processor marks failed is never handed to the MQTT client. -/
theorem markedFailed_not_publish
    (h : Run (CommandStep json processor) (.new rows commandQueueCapacity outcomeCapacity) es s)
    {e e' : Edge CommandSystem CommandLabel} (he : e ∈ es) (he' : e' ∈ es)
    {id : CommandExecutionId} (hmarked : e.label.markedFailed = some id) :
    e'.label ≠ .publish id := by
  intro hpublish
  obtain ⟨ok, hfail⟩ := fails_of_markedFailed hmarked
  have hhand : ledgerLabel e' = .hand id := by rw [ledgerLabel, hpublish]
  exact fail_not_hand (ledger_run h) (CommandSystem.sound_new ..) (List.mem_map_of_mem he)
    (List.mem_map_of_mem he') hfail hhand

/-- A row leaves `queued` at most once.  An update comes after its row, or there is no row, then and
later.  A row becomes published only when `client.publish` returned `Ok`, and what the API or the
processor marks failed is never handed to the MQTT client. -/
theorem status_order
    (h : Run (CommandStep json processor) (.new rows commandQueueCapacity outcomeCapacity) es s) :
    (es.Pairwise fun e e' => ∀ id, LeavesQueued e id →
      e'.target.rows.status id = e'.source.rows.status id) ∧
    (∀ e ∈ es, ∀ id, e.label.updated = some id →
      e.source.rows.status id = some .queued ∨
        (e.source.RefusedUnrecorded id ∧ e.target.rows.status id = none)) ∧
    (es.Pairwise fun e e' => ∀ id, e.label.updated = some id →
      e'.label.updated ≠ some id ∧ e'.target.rows.status id = e'.source.rows.status id) ∧
    (∀ id, s.rows.status id = some .published →
      rows.status id = some .published ∨ ∃ e ∈ es, e.label = .published id true) ∧
    ∀ e ∈ es, ∀ e' ∈ es, ∀ id, e.label.markedFailed = some id → e'.label ≠ .publish id := by
  refine ⟨leavesQueued_once h, ?_, updated_once h, fun id => published_of_status h,
    fun e he e' he' id => markedFailed_not_publish h he he'⟩
  intro e he id hupdated
  have hsound := ((ledger_sound rows commandQueueCapacity outcomeCapacity h).2 e he).1
  exact (h.step_of_mem e he).updated_found hsound hupdated

end Runs

/-! ## A request without a row -/

/-- A processor whose template has a parameter in its topic. -/
def deviceProcessor : CommandProcessor Unit where
  projectId := ⟨"plant"⟩
  templates := [{ restartTemplate with topicTemplate := "devices/\x7bdevice\x7d/restart" }]
  brokers := [⟨⟨"main"⟩, fun _ world => (.ok (), world)⟩]
  renderer := .default
  storage := some ⟨fun _ world => (.ok (), world), fun _ _ world => (.ok (), world)⟩

/-- The request of a rule that does not give the parameter. -/
def unfilledRequest : CommandExecutionRequest where
  projectId := ⟨"plant"⟩
  commandExecutionId := ⟨"restart-1"⟩
  commandTemplateId := ⟨"restart"⟩
  params := []
  source := .rule
  actorId := none
  sourceEventId := some ⟨"e1"⟩
  correlationId := "e1"
  reason := none

theorem unfilledRequest_error :
    ∃ error, prepareCommandRequest emptyJson deviceProcessor unfilledRequest = .error error := by
  have hrefused :
      (prepareCommandRequest emptyJson deviceProcessor unfilledRequest).isOk = false := by
    decide +kernel
  cases h : prepareCommandRequest emptyJson deviceProcessor unfilledRequest with
  | error error => exact ⟨error, rfl⟩
  | ok prepared =>
    rw [h] at hrefused
    cases hrefused

/-- The processor refuses the request, and marks a row failed that is not there. -/
theorem unfilledRequest_run :
    ∃ es s, Run (CommandStep emptyJson deviceProcessor) (.new .empty 8 8) es s ∧
      ∃ e ∈ es, e.label.updated = some ⟨"restart-1"⟩ ∧
        e.source.rows.status ⟨"restart-1"⟩ = none := by
  obtain ⟨error, herror⟩ := unfilledRequest_error
  exact ⟨_, _,
    .cons (.ruleEnqueue (show unfilledRequest.source = .rule from rfl) (by decide) rfl) <|
    .cons (.receiveRequest nofun rfl rfl) <|
    .cons (.notPrepared rfl herror) <|
    .cons (.processorMark ("command render failed: command template 'restart' is missing " ++
      "parameter 'device'") rfl rfl (.done rfl)) <|
    .nil _, _, .tail _ (.tail _ (.tail _ (.head _))), rfl, rfl⟩

/-- An update may run for an execution that has no row. -/
theorem update_without_row : ¬ ∀ (processor : CommandProcessor Unit) es s,
    Run (CommandStep emptyJson processor) (.new .empty 8 8) es s →
    ∀ e ∈ es, ∀ id, e.label.updated = some id → (e.source.rows.status id).isSome = true := by
  intro hrecorded
  obtain ⟨es, s, hrun, e, he, hupdated, hnone⟩ := unfilledRequest_run
  have hrow := hrecorded deviceProcessor es s hrun e he _ hupdated
  simp [hnone] at hrow

end Daemon
end PipeBolt
