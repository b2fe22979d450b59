import PipeBolt.Lib.Fold
import PipeBolt.Lib.Transition
import PipeBolt.Core.Dispatcher

/-!
# The calls of a dispatch

`ActionDispatcher::dispatch`: which of the intents of an event reach the realtime sink, the
forwarder and the command queue, and where each of them is accounted for.

A boundary is logged by keeping the calls next to its state; the log changes nothing
(`DispatchRun.round_erase`).

* `DispatchRun.outcome_round`: a round puts its intent into one of the three lists.
* `dispatch_exact`: the calls are those of the intents of the event before the first that drops it,
  in order; intents of other events have no effect, and too many intents cause no call.
-/

namespace PipeBolt
namespace Core

open Domain Rust Fallible

/-! ## Calls -/

/-- A call on the realtime sink, on the forwarder or on the command queue. -/
inductive Call where
  | publish (event : NormalizedEvent)
  | forward (request : ForwardRequest)
  | enqueue (request : CommandExecutionRequest)

/-- A boundary with the log of the calls on it. -/
def Boundary.logged {σ : Type} (boundary : Boundary σ) : Boundary (σ × List Call) where
  tryPublish event world :=
    let published := boundary.tryPublish event world.1
    (published.1, published.2, world.2 ++ [.publish event])
  tryForward request world :=
    let forwarded := boundary.tryForward request world.1
    (forwarded.1, forwarded.2, world.2 ++ [.forward request])
  tryEnqueueCommand request world :=
    let queued := boundary.tryEnqueueCommand request world.1
    (queued.1, queued.2, world.2 ++ [.enqueue request])
  nowV7 world :=
    let named := boundary.nowV7 world.1
    (named.1, named.2, world.2)

/-- The characters of a hyphenated lower case UUID. -/
def isUuidChar (c : Char) : Bool := c.isDigit || ('a' ≤ c && c ≤ 'f') || c == '-'

/-- What the texts of `Uuid::now_v7` look like: 32 lower case hexadecimal digits in five groups,
with a hyphen between two of them. -/
def Boundary.UuidTexts {σ : Type} (boundary : Boundary σ) : Prop :=
  ∀ world, len (boundary.nowV7 world).1 = 36 ∧
    ∀ c ∈ (boundary.nowV7 world).1.toList, isUuidChar c = true

theorem isIdentifierChar_of_isUuidChar {c : Char} (h : isUuidChar c = true) :
    isIdentifierChar c = true := by
  have hclasses : isIdentifierChar c =
      (((decide (c.val ≥ 65 ∧ c.val ≤ 90) || decide (c.val ≥ 97) && decide (c.val ≤ 122)) ||
        decide (c.val ≥ 48) && decide (c.val ≤ 57)) ||
        c == '-' || c == '_' || c == '.' || c == ':') := rfl
  have huuid : ((decide (c.val ≥ 48) && decide (c.val ≤ 57)) ||
      (decide (c.val ≥ 97) && decide (c.val ≤ 102)) || c == '-') = true := h
  rw [hclasses]
  simp only [Bool.or_eq_true, Bool.and_eq_true, decide_eq_true_eq] at huuid ⊢
  rcases huuid with (hdigit | ⟨hlow, hhigh⟩) | hyphen
  · exact .inl (.inl (.inl (.inl (.inr hdigit))))
  · have hletter : c.val ≤ 122 := UInt32.le_trans hhigh (by decide)
    exact .inl (.inl (.inl (.inl (.inl (.inr ⟨hlow, hletter⟩)))))
  · exact .inl (.inl (.inl (.inr hyphen)))

/-- An identifier that ends in a UUID. -/
theorem isIdentifier_uuid {head uuid : String} (hhead : head.toList.all isIdentifierChar = true)
    (hshort : len head + 36 ≤ MAX_ID_BYTES) (hlen : len uuid = 36)
    (hchars : ∀ c ∈ uuid.toList, isUuidChar c = true) : IsIdentifier (head ++ uuid) := by
  have hlong : len (head ++ uuid) = len head + 36 := by
    unfold len at hlen ⊢
    rw [String.utf8ByteSize_append, hlen]
  refine ⟨?_, ?_, ?_⟩
  · intro hempty
    rw [hempty] at hlong
    have hzero : len "" = 0 := rfl
    omega
  · rw [hlong]
    exact hshort
  · intro c hc
    rw [String.toList_append, List.mem_append] at hc
    rcases hc with hc | hc
    · exact List.all_eq_true.mp hhead c hc
    · exact isIdentifierChar_of_isUuidChar (hchars c hc)

/-- The identifier that is generated for a command is valid. -/
theorem generatedExecutionId_isOk {uuid : String} (hlen : len uuid = 36)
    (hchars : ∀ c ∈ uuid.toList, isUuidChar c = true) :
    ∃ id, generatedExecutionId uuid = .ok id := by
  have htext : s!"command_exec_{uuid}" = "command_exec_" ++ uuid := by
    simp [ToString.toString]
  have hid : IsIdentifier ("command_exec_" ++ uuid) :=
    isIdentifier_uuid (by decide) (by decide) hlen hchars
  refine ⟨⟨"command_exec_" ++ uuid⟩, ?_⟩
  rw [generatedExecutionId, htext, Identifier.new, validateIdentifier_eq_ok_iff.mpr hid]
  rfl

/-! ## Intents of an event -/

/-- Whether an intent is addressed to an event. -/
def isOwn (event : NormalizedEvent) (intent : ActionIntent) : Bool :=
  intentEventId intent == some event.id

/-- Whether an intent drops an event. -/
def isOwnDrop (event : NormalizedEvent) (intent : ActionIntent) : Bool :=
  match intent with
  | .dropEvent _ _ => isOwn event intent
  | _ => false

/-- Whether an intent is one that calls the realtime sink, the forwarder or the command queue. -/
def isCalling : ActionIntent → Bool
  | .streamToUi _ | .forwardToSink _ _ _ | .executeCommand _ _ _ _ => true
  | .dropEvent _ _ | .addMetadata _ _ _ => false

/-- Whether an intent of an event calls one of them. -/
def isOwnCall (event : NormalizedEvent) (intent : ActionIntent) : Bool :=
  isOwn event intent && isCalling intent

/-- The intents that reach the realtime sink, the forwarder or the command queue: those of the
event, before the first that drops it. -/
def callIntents (event : NormalizedEvent) (intents : List ActionIntent) : List ActionIntent :=
  (intents.takeWhile fun intent => !isOwnDrop event intent).filter (isOwnCall event)

/-- The call of an intent, with the snapshot of the event that it takes. -/
def CallOf (snapshot : NormalizedEvent) : ActionIntent → Call → Prop
  | .streamToUi _, .publish published => published = snapshot
  | .forwardToSink _ sinkId projection, .forward request =>
    request = ⟨snapshot, sinkId, projection⟩
  | .executeCommand _ commandTemplateId params correlationId, .enqueue request =>
    request = {
      projectId := snapshot.projectId
      commandExecutionId := request.commandExecutionId
      commandTemplateId
      params
      source := .rule
      actorId := none
      sourceEventId := some snapshot.id
      correlationId
      reason := some s!"matched event {snapshot.id.raw}" }
  | _, _ => False

/-- A snapshot that differs from its event at most in the metadata. -/
def IsSnapshot (event snapshot : NormalizedEvent) : Prop :=
  snapshot = { event with metadata := snapshot.metadata }

/-- An enriched event is a snapshot. -/
theorem enrichedEvent_isSnapshot (event : NormalizedEvent) (overlay : BTreeMap String) :
    IsSnapshot event (enrichedEvent event overlay) := by
  unfold enrichedEvent IsSnapshot
  split <;> rfl

/-- An intent with a new end: it is reached unless the event has been dropped. -/
theorem callIntents_concat (event : NormalizedEvent) (past : List ActionIntent)
    (intent : ActionIntent) :
    callIntents event (past ++ [intent]) =
      if past.any (isOwnDrop event) then callIntents event past
      else callIntents event past ++ [intent].filter (isOwnCall event) := by
  unfold callIntents
  induction past with
  | nil =>
    cases intent with
    | dropEvent eventId reason =>
      cases hown : isOwn event (.dropEvent eventId reason) <;>
        simp [isOwnDrop, isOwnCall, isCalling, hown]
    | streamToUi eventId => simp [isOwnDrop]
    | forwardToSink eventId sinkId projection => simp [isOwnDrop]
    | addMetadata eventId key value => simp [isOwnDrop]
    | executeCommand eventId commandTemplateId params correlationId => simp [isOwnDrop]
  | cons head past ih =>
    cases hdrop : isOwnDrop event head with
    | true => simp [hdrop]
    | false =>
      have htake : ∀ intents, (head :: intents).takeWhile (fun intent => !isOwnDrop event intent) =
          head :: intents.takeWhile fun intent => !isOwnDrop event intent :=
        fun intents => List.takeWhile_cons_of_pos (by rw [hdrop]; rfl)
      rw [List.cons_append, htake, htake, List.any_cons, hdrop, Bool.false_or]
      cases hcall : isOwnCall event head with
      | true =>
        rw [List.filter_cons_of_pos hcall, List.filter_cons_of_pos hcall, ih]
        split <;> rfl
      | false =>
        have hneg : ¬ isOwnCall event head = true := Bool.eq_false_iff.mp hcall
        rw [List.filter_cons_of_neg hneg, List.filter_cons_of_neg hneg, ih]

/-! ## Dispositions -/

/-- Where an intent is accounted for. -/
inductive Disposition where
  | executed (action : ExecutedAction)
  | skipped (action : SkippedAction)
  | failed (action : FailedAction)
  deriving DecidableEq, Repr

def Disposition.executed? : Disposition → Option ExecutedAction
  | .executed action => some action
  | .skipped _ | .failed _ => none

def Disposition.skipped? : Disposition → Option SkippedAction
  | .skipped action => some action
  | .executed _ | .failed _ => none

def Disposition.failed? : Disposition → Option FailedAction
  | .failed action => some action
  | .executed _ | .skipped _ => none

/-- An outcome with one more intent accounted for. -/
def DispatchOutcome.put (outcome : DispatchOutcome) : Disposition → DispatchOutcome
  | .executed action => outcome.pushExecuted action
  | .skipped action => outcome.pushSkipped action
  | .failed action => outcome.pushFailed action

/-- The three lists of an outcome are those of some dispositions, in order. -/
structure DispatchOutcome.Buckets (outcome : DispatchOutcome) (dispositions : List Disposition) :
    Prop where
  executed : outcome.executed = dispositions.filterMap Disposition.executed?
  skipped : outcome.skipped = dispositions.filterMap Disposition.skipped?
  failed : outcome.failed = dispositions.filterMap Disposition.failed?

theorem DispatchOutcome.Buckets.put {outcome : DispatchOutcome} {dispositions : List Disposition}
    (h : outcome.Buckets dispositions) (disposition : Disposition) :
    (outcome.put disposition).Buckets (dispositions ++ [disposition]) := by
  obtain ⟨hexecuted, hskipped, hfailed⟩ := h
  cases disposition <;>
    constructor <;>
    simp [DispatchOutcome.put, DispatchOutcome.pushExecuted, DispatchOutcome.pushSkipped,
      DispatchOutcome.pushFailed, Disposition.executed?, Disposition.skipped?,
      Disposition.failed?, hexecuted, hskipped, hfailed]

/-- What an attempt of an intent may end in: it is executed, or it fails.  Dropping an event does
not fail. -/
def Attempted : ActionIntent → Disposition → Prop
  | .streamToUi _, .executed (.streamToUi _) => True
  | .forwardToSink _ _ _, .executed (.forwardToSink _) => True
  | .executeCommand _ _ _ _, .executed (.executeCommand _) => True
  | .dropEvent _ _, .executed action => action = .dropEvent
  | .addMetadata _ key _, .executed action => action = .addMetadata key
  | .dropEvent _ _, .failed _ => False
  | intent, .failed action => action.actionType = actionType intent
  | _, _ => False

/-- How an intent is disposed of, when it is known whether the event has been dropped. -/
def DispositionOf (event : NormalizedEvent) (dropped : Bool) (intent : ActionIntent)
    (disposition : Disposition) : Prop :=
  if dropped then disposition = .skipped (.afterDrop (actionType intent))
  else if isOwn event intent then Attempted intent disposition
  else ∃ actionEventId, intentEventId intent = some actionEventId ∧
    disposition = .skipped (.eventMismatch (actionType intent) actionEventId)

/-! ## One round -/

section Dispatch

variable {σ : Type} (boundary : Boundary σ) (limits : DispatchLimits) (event : NormalizedEvent)

/-- The answer to an intent that is attempted. -/
def DispatchRun.answer (run : DispatchRun σ) :
    ActionIntent → Except DispatchError ExecutedAction
  | .streamToUi _ =>
    (boundary.tryPublish (enrichedEvent event run.metadataOverlay) run.world).1.map .streamToUi
  | .forwardToSink _ sinkId projection =>
    (boundary.tryForward ⟨enrichedEvent event run.metadataOverlay, sinkId, projection⟩
      run.world).1.map .forwardToSink
  | .dropEvent _ _ => .ok .dropEvent
  | .addMetadata _ key value =>
    (insertMetadata run.metadataOverlay key value limits).map fun _ => .addMetadata key
  | .executeCommand _ commandTemplateId params correlationId =>
    let named := boundary.nowV7 run.world
    (commandRequestFromIntent named.1 event commandTemplateId params correlationId).bind
      fun request => (boundary.tryEnqueueCommand request named.2).1.map .executeCommand

/-- How an intent is disposed of that is answered. -/
def Disposition.ofAnswer (actionType : String) : Except DispatchError ExecutedAction → Disposition
  | .ok action => .executed action
  | .error error => .failed ⟨actionType, error⟩

/-- How a round disposes of its intent. -/
def DispatchRun.disposition (run : DispatchRun σ) (intent : ActionIntent) : Disposition :=
  if run.outcome.dropped then .skipped (.afterDrop (actionType intent))
  else
    match (intentEventId intent).filter (· ≠ event.id) with
    | some actionEventId => .skipped (.eventMismatch (actionType intent) actionEventId)
    | none => .ofAnswer (actionType intent) (run.answer boundary limits event intent)

theorem DispatchOutcome.record_eq_put {α : Type} (outcome : DispatchOutcome) (actionType : String)
    (result : Except DispatchError α) (executed : α → ExecutedAction) :
    outcome.record actionType result executed =
      outcome.put (.ofAnswer actionType (result.map executed)) := by
  cases result <;> rfl

/-- An intent is addressed to an event exactly when its identifier is no other. -/
theorem isOwn_iff {intent : ActionIntent} :
    isOwn event intent = true ↔ (intentEventId intent).filter (· ≠ event.id) = none := by
  cases intent <;> simp [isOwn, intentEventId]

/-- A round after the event has been dropped. -/
theorem DispatchRun.round_of_dropped {run : DispatchRun σ} (h : run.outcome.dropped = true)
    (intent : ActionIntent) :
    run.round boundary limits event intent =
      { run with outcome := run.outcome.pushSkipped (.afterDrop (actionType intent)) } :=
  if_pos h

/-- A round on an intent of another event. -/
theorem DispatchRun.round_of_foreign {run : DispatchRun σ} (h : run.outcome.dropped = false)
    {intent : ActionIntent} {actionEventId : EventId}
    (hforeign : (intentEventId intent).filter (· ≠ event.id) = some actionEventId) :
    run.round boundary limits event intent =
      { run with outcome :=
          run.outcome.pushSkipped (.eventMismatch (actionType intent) actionEventId) } := by
  rw [round, h, hforeign]
  rfl

/-- A round on an intent of the event. -/
theorem DispatchRun.round_of_own {run : DispatchRun σ} (h : run.outcome.dropped = false)
    {intent : ActionIntent} (hown : isOwn event intent = true) :
    run.round boundary limits event intent = run.attempt boundary limits event intent := by
  rw [round, h, (isOwn_iff event).mp hown]
  rfl

/-- The branch of a command whose request is built. -/
theorem DispatchRun.executeCommand_of_ok {run : DispatchRun σ}
    {commandTemplateId : CommandTemplateId} {params : ValueMap} {correlationId : String}
    {request : CommandExecutionRequest}
    (h : commandRequestFromIntent (boundary.nowV7 run.world).1 event commandTemplateId params
      correlationId = .ok request) :
    run.executeCommand boundary event commandTemplateId params correlationId =
      { run with
        outcome := run.outcome.record "execute_command"
          (boundary.tryEnqueueCommand request (boundary.nowV7 run.world).2).1 .executeCommand
        world := (boundary.tryEnqueueCommand request (boundary.nowV7 run.world).2).2 } := by
  rw [executeCommand, h]

/-- The branch of a command whose request is not built. -/
theorem DispatchRun.executeCommand_of_error {run : DispatchRun σ}
    {commandTemplateId : CommandTemplateId} {params : ValueMap} {correlationId : String}
    {error : DispatchError}
    (h : commandRequestFromIntent (boundary.nowV7 run.world).1 event commandTemplateId params
      correlationId = .error error) :
    run.executeCommand boundary event commandTemplateId params correlationId =
      { run with
        outcome := run.outcome.pushFailed ⟨"execute_command", error⟩
        world := (boundary.nowV7 run.world).2 } := by
  rw [executeCommand, h]

/-- The branch of metadata that are accepted. -/
theorem DispatchRun.addMetadata_of_ok {run : DispatchRun σ} {key value : String}
    {overlay : BTreeMap String}
    (h : insertMetadata run.metadataOverlay key value limits = .ok overlay) :
    run.addMetadata limits key value =
      { run with
        outcome := run.outcome.pushExecuted (.addMetadata key), metadataOverlay := overlay } := by
  rw [addMetadata, h]

/-- The branch of metadata that are refused. -/
theorem DispatchRun.addMetadata_of_error {run : DispatchRun σ} {key value : String}
    {error : DispatchError}
    (h : insertMetadata run.metadataOverlay key value limits = .error error) :
    run.addMetadata limits key value =
      { run with outcome := run.outcome.pushFailed ⟨"add_metadata", error⟩ } := by
  rw [addMetadata, h]

/-- An attempt puts its intent where its answer says. -/
theorem DispatchRun.outcome_attempt {run : DispatchRun σ} (hdropped : run.outcome.dropped = false)
    {intent : ActionIntent} (hown : isOwn event intent = true) :
    (run.attempt boundary limits event intent).outcome =
      { run.outcome.put
          (.ofAnswer (actionType intent) (run.answer boundary limits event intent)) with
        dropped := isOwnDrop event intent } := by
  have hkeep : ∀ disposition, run.outcome.put disposition =
      { run.outcome.put disposition with dropped := false } := by
    intro disposition
    cases disposition <;>
      simp [DispatchOutcome.put, DispatchOutcome.pushExecuted, DispatchOutcome.pushSkipped,
        DispatchOutcome.pushFailed, hdropped]
  cases intent with
  | streamToUi eventId =>
    show run.outcome.record _ _ _ = _
    rw [DispatchOutcome.record_eq_put, hkeep]
    rfl
  | forwardToSink eventId sinkId projection =>
    show run.outcome.record _ _ _ = _
    rw [DispatchOutcome.record_eq_put, hkeep]
    rfl
  | dropEvent eventId reason =>
    rw [isOwnDrop, hown]
    rfl
  | addMetadata eventId key value =>
    rw [attempt, answer]
    cases hinsert : insertMetadata run.metadataOverlay key value limits with
    | ok overlay =>
      rw [addMetadata_of_ok limits hinsert]
      exact hkeep (.executed (.addMetadata key))
    | error error =>
      rw [addMetadata_of_error limits hinsert]
      exact hkeep (.failed ⟨"add_metadata", error⟩)
  | executeCommand eventId commandTemplateId params correlationId =>
    rw [attempt, answer]
    cases hrequest : commandRequestFromIntent (boundary.nowV7 run.world).1 event commandTemplateId
      params correlationId with
    | ok request =>
      rw [executeCommand_of_ok boundary event hrequest, DispatchOutcome.record_eq_put, hkeep]
      rfl
    | error error =>
      rw [executeCommand_of_error boundary event hrequest]
      exact hkeep (.failed ⟨"execute_command", error⟩)

/-- **A round puts its intent into one of the three lists**, and an intent of the event that drops
it is remembered. -/
theorem DispatchRun.outcome_round (run : DispatchRun σ) (intent : ActionIntent) :
    (run.round boundary limits event intent).outcome =
      { run.outcome.put (run.disposition boundary limits event intent) with
        dropped := run.outcome.dropped || isOwnDrop event intent } := by
  cases hdropped : run.outcome.dropped with
  | true =>
    rw [round_of_dropped boundary limits event hdropped, disposition, if_pos hdropped]
    simp [DispatchOutcome.put, DispatchOutcome.pushSkipped, hdropped]
  | false =>
    cases hforeign : (intentEventId intent).filter (· ≠ event.id) with
    | none =>
      have hown : isOwn event intent = true := (isOwn_iff event).mpr hforeign
      rw [round_of_own boundary limits event hdropped hown,
        outcome_attempt boundary limits event hdropped hown, disposition, hdropped, hforeign]
      rfl
    | some actionEventId =>
      have hown : isOwn event intent = false := by
        rw [← Bool.not_eq_true, isOwn_iff, hforeign]
        exact Option.some_ne_none _
      have hdrop : isOwnDrop event intent = false := by
        cases intent with
        | dropEvent eventId reason => exact hown
        | _ => rfl
      rw [round_of_foreign boundary limits event hdropped hforeign, disposition, hdropped, hforeign,
        hdrop]
      simp [DispatchOutcome.put, DispatchOutcome.pushSkipped, hdropped]

/-- An answer is of the kind of its intent. -/
theorem DispatchRun.attempted_answer (run : DispatchRun σ) (intent : ActionIntent) :
    Attempted intent (.ofAnswer (actionType intent) (run.answer boundary limits event intent)) := by
  cases intent with
  | streamToUi eventId =>
    rw [answer]
    cases (boundary.tryPublish (enrichedEvent event run.metadataOverlay) run.world).1 with
    | ok receipt => trivial
    | error error => rfl
  | forwardToSink eventId sinkId projection =>
    rw [answer]
    cases (boundary.tryForward ⟨enrichedEvent event run.metadataOverlay, sinkId, projection⟩
      run.world).1 with
    | ok receipt => trivial
    | error error => rfl
  | dropEvent eventId reason => rfl
  | addMetadata eventId key value =>
    rw [answer]
    cases insertMetadata run.metadataOverlay key value limits <;> rfl
  | executeCommand eventId commandTemplateId params correlationId =>
    rw [answer]
    cases commandRequestFromIntent (boundary.nowV7 run.world).1 event commandTemplateId params
      correlationId with
    | error error => rfl
    | ok request =>
      cases hqueued : (boundary.tryEnqueueCommand request (boundary.nowV7 run.world).2).1 with
      | ok receipt => simp [Except.bind, Except.map, hqueued, Disposition.ofAnswer, Attempted]
      | error error =>
        simp [Except.bind, Except.map, hqueued, Disposition.ofAnswer, Attempted, actionType]

/-- A round disposes of its intent by what is known of the event. -/
theorem DispatchRun.dispositionOf_disposition (run : DispatchRun σ) (intent : ActionIntent) :
    DispositionOf event run.outcome.dropped intent
      (run.disposition boundary limits event intent) := by
  unfold DispositionOf disposition
  cases run.outcome.dropped with
  | true => rfl
  | false =>
    cases hforeign : (intentEventId intent).filter (· ≠ event.id) with
    | none =>
      have hown : isOwn event intent = true := (isOwn_iff event).mpr hforeign
      simpa [hown] using run.attempted_answer boundary limits event intent
    | some actionEventId =>
      have hown : isOwn event intent = false := by
        rw [← Bool.not_eq_true, isOwn_iff, hforeign]
        exact Option.some_ne_none _
      have hid : intentEventId intent = some actionEventId :=
        (Option.filter_eq_some_iff.mp hforeign).1
      simp [hown, hid]

/-! ## The loop -/

/-- The loop of `ActionDispatcher::dispatch`. -/
def dispatchLoop (intents : List ActionIntent) (world : σ) : DispatchRun σ :=
  intents.foldl (DispatchRun.round boundary limits event) ⟨.new event.id, [], world⟩

/-- How a dispatch disposes of its intents. -/
def dispositions (intents : List ActionIntent) (world : σ) : List Disposition :=
  Fold.outputs (DispatchRun.round boundary limits event)
    (DispatchRun.disposition boundary limits event) ⟨.new event.id, [], world⟩ intents

theorem dispatchLoop_concat (past : List ActionIntent) (intent : ActionIntent) (world : σ) :
    dispatchLoop boundary limits event (past ++ [intent]) world =
      (dispatchLoop boundary limits event past world).round boundary limits event intent := by
  rw [dispatchLoop, List.foldl_append]
  rfl

theorem dispositions_concat (past : List ActionIntent) (intent : ActionIntent) (world : σ) :
    dispositions boundary limits event (past ++ [intent]) world =
      dispositions boundary limits event past world ++
        [(dispatchLoop boundary limits event past world).disposition boundary limits event
          intent] :=
  Fold.outputs_append _ _ past [intent] _

/-- A dispatch of intents that are not too many is its loop. -/
theorem dispatch_eq_loop {intents : List ActionIntent}
    (h : intents.length ≤ limits.maxIntentsPerEvent) (world : σ) :
    dispatch boundary limits event intents world =
      (.ok { (dispatchLoop boundary limits event intents world).outcome with
          metadataOverlay := (dispatchLoop boundary limits event intents world).metadataOverlay },
        (dispatchLoop boundary limits event intents world).world) :=
  if_neg (Nat.not_lt.mpr h)

/-- The event has been dropped when one of the intents dropped it. -/
theorem dropped_dispatchLoop (intents : List ActionIntent) (world : σ) :
    (dispatchLoop boundary limits event intents world).outcome.dropped =
      intents.any (isOwnDrop event) := by
  induction intents using List.reverseRecOn with
  | nil => rfl
  | append_singleton past intent ih =>
    rw [dispatchLoop_concat, DispatchRun.outcome_round, List.any_append, ← ih]
    simp

/-- The lists of the outcome are those of the dispositions. -/
theorem buckets_dispatchLoop (intents : List ActionIntent) (world : σ) :
    (dispatchLoop boundary limits event intents world).outcome.Buckets
      (dispositions boundary limits event intents world) := by
  induction intents using List.reverseRecOn with
  | nil => exact ⟨rfl, rfl, rfl⟩
  | append_singleton past intent ih =>
    rw [dispatchLoop_concat, dispositions_concat, DispatchRun.outcome_round]
    obtain ⟨hexecuted, hskipped, hfailed⟩ := ih.put
      ((dispatchLoop boundary limits event past world).disposition boundary limits event intent)
    exact ⟨hexecuted, hskipped, hfailed⟩

/-- How the intent at a place is disposed of is told by the intents before it. -/
theorem disposed_dispositions (before rest : List ActionIntent) (intent : ActionIntent)
    (world : σ) :
    ∃ disposition, (dispositions boundary limits event (before ++ intent :: rest)
        world)[before.length]? = some disposition ∧
      DispositionOf event (before.any (isOwnDrop event)) intent disposition := by
  refine ⟨_, Fold.getElem?_outputs _ _ before rest intent _, ?_⟩
  rw [← dropped_dispatchLoop boundary limits event before world]
  exact (dispatchLoop boundary limits event before world).dispositionOf_disposition boundary limits
    event intent

end Dispatch

/-! ## The log -/

section Logged

variable {σ : Type} (boundary : Boundary σ) (limits : DispatchLimits) (event : NormalizedEvent)

/-- The variables of the loop without the log. -/
def DispatchRun.erase (run : DispatchRun (σ × List Call)) : DispatchRun σ :=
  ⟨run.outcome, run.metadataOverlay, run.world.1⟩

/-- The log changes nothing in an attempt. -/
theorem DispatchRun.attempt_erase (run : DispatchRun (σ × List Call)) (intent : ActionIntent) :
    (run.attempt boundary.logged limits event intent).erase =
      run.erase.attempt boundary limits event intent := by
  cases intent with
  | streamToUi eventId => rfl
  | forwardToSink eventId sinkId projection => rfl
  | dropEvent eventId reason => rfl
  | addMetadata eventId key value =>
    show (run.addMetadata limits key value).erase = run.erase.addMetadata limits key value
    have herased : insertMetadata run.erase.metadataOverlay key value limits =
        insertMetadata run.metadataOverlay key value limits := rfl
    cases hinsert : insertMetadata run.metadataOverlay key value limits with
    | ok overlay =>
      rw [addMetadata_of_ok limits hinsert, addMetadata_of_ok limits (herased.trans hinsert)]
      rfl
    | error error =>
      rw [addMetadata_of_error limits hinsert, addMetadata_of_error limits (herased.trans hinsert)]
      rfl
  | executeCommand eventId commandTemplateId params correlationId =>
    show (run.executeCommand boundary.logged event commandTemplateId params correlationId).erase =
      run.erase.executeCommand boundary event commandTemplateId params correlationId
    have hnamed : commandRequestFromIntent (boundary.logged.nowV7 run.world).1 event
        commandTemplateId params correlationId = commandRequestFromIntent
          (boundary.nowV7 run.erase.world).1 event commandTemplateId params correlationId := rfl
    cases hrequest : commandRequestFromIntent (boundary.nowV7 run.erase.world).1 event
      commandTemplateId params correlationId with
    | ok request =>
      rw [executeCommand_of_ok boundary event hrequest,
        executeCommand_of_ok boundary.logged event (hnamed.trans hrequest)]
      rfl
    | error error =>
      rw [executeCommand_of_error boundary event hrequest,
        executeCommand_of_error boundary.logged event (hnamed.trans hrequest)]
      rfl

/-- The log changes nothing in a round. -/
theorem DispatchRun.round_erase (run : DispatchRun (σ × List Call)) (intent : ActionIntent) :
    (run.round boundary.logged limits event intent).erase =
      run.erase.round boundary limits event intent := by
  have hdropped : run.erase.outcome.dropped = run.outcome.dropped := rfl
  rw [round, round, hdropped]
  cases run.outcome.dropped with
  | true => rfl
  | false =>
    cases (intentEventId intent).filter (· ≠ event.id) with
    | some actionEventId => rfl
    | none => exact run.attempt_erase boundary limits event intent

/-- The log changes nothing in a loop. -/
theorem dispatchLoop_erase (intents : List ActionIntent) (world : σ) :
    (dispatchLoop boundary.logged limits event intents (world, [])).erase =
      dispatchLoop boundary limits event intents world :=
  (List.foldl_hom DispatchRun.erase fun run intent =>
    (run.round_erase boundary limits event intent).symm).symm

/-- The calls of an attempt: one, when its intent is one that calls. -/
theorem DispatchRun.calls_attempt (htexts : boundary.UuidTexts)
    (run : DispatchRun (σ × List Call)) (intent : ActionIntent) :
    ∃ calls, (run.attempt boundary.logged limits event intent).world.2 = run.world.2 ++ calls ∧
      List.Forall₂ (CallOf (enrichedEvent event run.metadataOverlay)) ([intent].filter isCalling)
        calls := by
  cases intent with
  | streamToUi eventId =>
    exact ⟨[.publish (enrichedEvent event run.metadataOverlay)], rfl, .cons rfl .nil⟩
  | forwardToSink eventId sinkId projection =>
    exact ⟨[.forward ⟨enrichedEvent event run.metadataOverlay, sinkId, projection⟩], rfl,
      .cons rfl .nil⟩
  | dropEvent eventId reason => exact ⟨[], (List.append_nil _).symm, .nil⟩
  | addMetadata eventId key value =>
    refine ⟨[], ?_, .nil⟩
    rw [attempt, addMetadata, List.append_nil]
    cases insertMetadata run.metadataOverlay key value limits <;> rfl
  | executeCommand eventId commandTemplateId params correlationId =>
    obtain ⟨hlen, hchars⟩ := htexts run.world.1
    obtain ⟨id, hid⟩ := generatedExecutionId_isOk hlen hchars
    have hrequest : commandRequestFromIntent (boundary.logged.nowV7 run.world).1 event
        commandTemplateId params correlationId = .ok {
          projectId := event.projectId, commandExecutionId := id, commandTemplateId, params,
          source := .rule, actorId := none, sourceEventId := some event.id, correlationId,
          reason := some s!"matched event {event.id.raw}" } := by
      show commandRequestFromIntent (boundary.nowV7 run.world.1).1 event _ _ _ = _
      rw [commandRequestFromIntent, hid]
      rfl
    rw [attempt, executeCommand_of_ok boundary.logged event hrequest]
    have hsnapshot := enrichedEvent_isSnapshot event run.metadataOverlay
    refine ⟨[.enqueue _], rfl, .cons ?_ .nil⟩
    rw [hsnapshot]
    rfl

/-- The calls of a round: one, when its intent is one of the event that calls, and the event has
not been dropped. -/
theorem DispatchRun.calls_round (htexts : boundary.UuidTexts) (run : DispatchRun (σ × List Call))
    (intent : ActionIntent) :
    ∃ calls, (run.round boundary.logged limits event intent).world.2 = run.world.2 ++ calls ∧
      List.Forall₂ (CallOf (enrichedEvent event run.metadataOverlay))
        (if run.outcome.dropped then [] else [intent].filter (isOwnCall event)) calls := by
  cases hdropped : run.outcome.dropped with
  | true =>
    rw [round_of_dropped boundary.logged limits event hdropped]
    exact ⟨[], (List.append_nil _).symm, .nil⟩
  | false =>
    cases hforeign : (intentEventId intent).filter (· ≠ event.id) with
    | none =>
      have hown : isOwn event intent = true := (isOwn_iff event).mpr hforeign
      have hcall : isOwnCall event intent = isCalling intent := by
        rw [isOwnCall, hown, Bool.true_and]
      have hfilter : [intent].filter (isOwnCall event) = [intent].filter isCalling := by
        rw [List.filter_cons, List.filter_cons, hcall]
        rfl
      rw [round_of_own boundary.logged limits event hdropped hown, hfilter]
      exact run.calls_attempt boundary limits event htexts intent
    | some actionEventId =>
      have hcall : isOwnCall event intent = false := by
        rw [isOwnCall, Bool.and_eq_false_iff, ← Bool.not_eq_true, isOwn_iff, hforeign]
        exact .inl (Option.some_ne_none _)
      rw [round_of_foreign boundary.logged limits event hdropped hforeign]
      refine ⟨[], (List.append_nil _).symm, ?_⟩
      rw [if_neg Bool.false_ne_true, List.filter_cons_of_neg (Bool.eq_false_iff.mp hcall)]
      exact .nil

/-- The snapshot that an intent takes is one of its event. -/
def CallOfEvent (intent : ActionIntent) (call : Call) : Prop :=
  ∃ snapshot, IsSnapshot event snapshot ∧ CallOf snapshot intent call

/-- **The calls of a loop** are those of the intents of the event before the first that drops it. -/
theorem calls_dispatchLoop (htexts : boundary.UuidTexts) (intents : List ActionIntent) (world : σ) :
    List.Forall₂ (CallOfEvent event) (callIntents event intents)
      (dispatchLoop boundary.logged limits event intents (world, [])).world.2 := by
  induction intents using List.reverseRecOn with
  | nil => exact .nil
  | append_singleton past intent ih =>
    obtain ⟨calls, hcalls, hof⟩ := DispatchRun.calls_round boundary limits event htexts
      (dispatchLoop boundary.logged limits event past (world, [])) intent
    rw [dropped_dispatchLoop] at hof
    have hof' := hof.imp fun _ call hcall =>
      (⟨_, enrichedEvent_isSnapshot event _, hcall⟩ : CallOfEvent event _ call)
    rw [dispatchLoop_concat, hcalls, callIntents_concat]
    cases hany : past.any (isOwnDrop event) with
    | true =>
      rw [hany, if_pos rfl, List.forall₂_nil_left_iff] at hof'
      rw [hof', List.append_nil, if_pos rfl]
      exact ih
    | false =>
      rw [hany, if_neg Bool.false_ne_true] at hof'
      rw [if_neg Bool.false_ne_true]
      exact List.rel_append ih hof'

end Logged

/-! ## Intents of other events -/

section Foreign

variable {σ : Type} (boundary : Boundary σ) (limits : DispatchLimits) (event : NormalizedEvent)

/-- The variables of the loop with other intents skipped. -/
def DispatchRun.withSkipped (run : DispatchRun σ) (skipped : List SkippedAction) : DispatchRun σ :=
  { run with outcome := { run.outcome with skipped } }

/-- What has been skipped has no effect on an attempt. -/
theorem DispatchRun.attempt_withSkipped (run : DispatchRun σ) (skipped : List SkippedAction)
    (intent : ActionIntent) :
    (run.withSkipped skipped).attempt boundary limits event intent =
      (run.attempt boundary limits event intent).withSkipped skipped := by
  have hrecord : ∀ {α : Type} (actionType : String) (result : Except DispatchError α)
      (executed : α → ExecutedAction),
      { run.outcome with skipped }.record actionType result executed =
        { run.outcome.record actionType result executed with skipped } := by
    intro α actionType result executed
    cases result <;> rfl
  cases intent with
  | streamToUi eventId =>
    show DispatchRun.mk _ _ _ = DispatchRun.mk _ _ _
    exact congrArg (DispatchRun.mk · _ _) (hrecord _ _ _)
  | forwardToSink eventId sinkId projection =>
    exact congrArg (DispatchRun.mk · _ _) (hrecord _ _ _)
  | dropEvent eventId reason => rfl
  | addMetadata eventId key value =>
    show (run.withSkipped skipped).addMetadata limits key value =
      (run.addMetadata limits key value).withSkipped skipped
    have hsame : insertMetadata (run.withSkipped skipped).metadataOverlay key value limits =
        insertMetadata run.metadataOverlay key value limits := rfl
    cases hinsert : insertMetadata run.metadataOverlay key value limits with
    | ok overlay =>
      rw [addMetadata_of_ok limits hinsert, addMetadata_of_ok limits (hsame.trans hinsert)]
      rfl
    | error error =>
      rw [addMetadata_of_error limits hinsert, addMetadata_of_error limits (hsame.trans hinsert)]
      rfl
  | executeCommand eventId commandTemplateId params correlationId =>
    rw [attempt, attempt]
    cases hrequest : commandRequestFromIntent (boundary.nowV7 run.world).1 event commandTemplateId
      params correlationId with
    | ok request =>
      have hskipped : commandRequestFromIntent (boundary.nowV7 (run.withSkipped skipped).world).1
        event commandTemplateId params correlationId = .ok request := hrequest
      rw [executeCommand_of_ok boundary event hrequest,
        executeCommand_of_ok boundary event hskipped]
      exact congrArg (DispatchRun.mk · _ _) (hrecord _ _ _)
    | error error =>
      have hskipped : commandRequestFromIntent (boundary.nowV7 (run.withSkipped skipped).world).1
        event commandTemplateId params correlationId = .error error := hrequest
      rw [executeCommand_of_error boundary event hrequest,
        executeCommand_of_error boundary event hskipped]
      rfl

/-- Two states of the loop that differ at most in what has been skipped. -/
def DispatchRun.SameEffects (run other : DispatchRun σ) : Prop :=
  other = run.withSkipped other.outcome.skipped

/-- A round keeps states together that differ at most in what has been skipped. -/
theorem DispatchRun.SameEffects.round {run other : DispatchRun σ} (h : run.SameEffects other)
    (intent : ActionIntent) :
    (run.round boundary limits event intent).SameEffects
      (other.round boundary limits event intent) := by
  rw [h]
  generalize other.outcome.skipped = skipped
  cases hdropped : run.outcome.dropped with
  | true =>
    have hother : (run.withSkipped skipped).outcome.dropped = true := hdropped
    rw [round_of_dropped boundary limits event hdropped,
      round_of_dropped boundary limits event hother]
    rfl
  | false =>
    have hother : (run.withSkipped skipped).outcome.dropped = false := hdropped
    cases hforeign : (intentEventId intent).filter (· ≠ event.id) with
    | none =>
      have hown : isOwn event intent = true := (isOwn_iff event).mpr hforeign
      rw [round_of_own boundary limits event hdropped hown,
        round_of_own boundary limits event hother hown, attempt_withSkipped]
      rfl
    | some actionEventId =>
      rw [round_of_foreign boundary limits event hdropped hforeign,
        round_of_foreign boundary limits event hother hforeign]
      rfl

/-- An intent of another event changes what has been skipped at most. -/
theorem DispatchRun.SameEffects.round_foreign {run other : DispatchRun σ}
    (h : run.SameEffects other) {intent : ActionIntent} (hforeign : isOwn event intent = false) :
    (run.round boundary limits event intent).SameEffects other := by
  rw [h]
  generalize other.outcome.skipped = skipped
  cases hdropped : run.outcome.dropped with
  | true =>
    rw [round_of_dropped boundary limits event hdropped]
    rfl
  | false =>
    cases hid : (intentEventId intent).filter (· ≠ event.id) with
    | none =>
      rw [(isOwn_iff event).mpr hid] at hforeign
      exact absurd hforeign.symm Bool.false_ne_true
    | some actionEventId =>
      rw [round_of_foreign boundary limits event hdropped hid]
      rfl

/-- A loop without the intents of other events has the same effects. -/
theorem dispatchLoop_filter (intents : List ActionIntent) (world : σ) :
    (dispatchLoop boundary limits event intents world).SameEffects
      (dispatchLoop boundary limits event (intents.filter (isOwn event)) world) := by
  rw [dispatchLoop, dispatchLoop, List.foldl_filter]
  refine List.foldl_rel (r := DispatchRun.SameEffects) rfl fun intent _ run other h => ?_
  cases hown : isOwn event intent with
  | true => exact h.round boundary limits event intent
  | false => exact h.round_foreign boundary limits event hown

end Foreign

/-! ## The claim on a whole dispatch -/

/-- **What a dispatch does with its intents**.  Intents that are not too many are each executed,
skipped or failed, in order; the calls are exactly those of the intents of the event before the
first that drops it, in order; and the intents of other events change nothing but what is skipped.
Too many intents cause no call. -/
theorem dispatch_exact {σ : Type} {boundary : Boundary σ} (htexts : boundary.UuidTexts)
    (limits : DispatchLimits) (event : NormalizedEvent) (intents : List ActionIntent) (world : σ) :
    (intents.length ≤ limits.maxIntentsPerEvent →
      ∃ outcome after calls,
        dispatch boundary limits event intents world = (.ok outcome, after) ∧
        dispatch boundary.logged limits event intents (world, []) = (.ok outcome, after, calls) ∧
        outcome.accounted = intents.length ∧
        (∃ dispositions : List Disposition, dispositions.length = intents.length ∧
          outcome.Buckets dispositions ∧
          ∀ before intent rest, intents = before ++ intent :: rest →
            ∃ disposition, dispositions[before.length]? = some disposition ∧
              DispositionOf event (before.any (isOwnDrop event)) intent disposition) ∧
        List.Forall₂ (CallOfEvent event) (callIntents event intents) calls ∧
        ∃ filtered, dispatch boundary.logged limits event (intents.filter (isOwn event))
            (world, []) = (.ok filtered, after, calls) ∧
          filtered = { outcome with skipped := filtered.skipped }) ∧
      (limits.maxIntentsPerEvent < intents.length →
        dispatch boundary.logged limits event intents (world, []) =
          (.error (.tooManyIntents intents.length limits.maxIntentsPerEvent), world, [])) := by
  refine ⟨fun hfew => ?_, fun hmany => dispatch_of_many boundary.logged limits event hmany _⟩
  have herase := dispatchLoop_erase boundary limits event intents world
  have hplain := dispatch_eq_loop boundary limits event hfew world
  rw [← herase] at hplain
  have hfilter : (intents.filter (isOwn event)).length ≤ limits.maxIntentsPerEvent :=
    Nat.le_trans (List.length_filter_le _ _) hfew
  refine ⟨_, _, _, hplain, dispatch_eq_loop boundary.logged limits event hfew (world, []),
    dispatch_accounts boundary limits event hplain,
    ⟨dispositions boundary limits event intents world, Fold.length_outputs _ _ _ _, ?_, ?_⟩,
    calls_dispatchLoop boundary limits event htexts intents world, ?_⟩
  · obtain ⟨hexecuted, hskipped, hfailed⟩ := buckets_dispatchLoop boundary limits event intents world
    rw [← herase] at hexecuted hskipped hfailed
    exact ⟨hexecuted, hskipped, hfailed⟩
  · rintro before intent rest rfl
    exact disposed_dispositions boundary limits event before rest intent world
  · have hsame := dispatchLoop_filter boundary.logged limits event intents (world, [])
    rw [dispatch_eq_loop boundary.logged limits event hfilter, hsame]
    exact ⟨_, rfl, rfl⟩

/-- `BoundedRealtimeEventSink`, with the free places of its channel, next to `DisabledForwarder` and
`DisabledCommandQueue`. -/
def boundedBoundary : Boundary Nat where
  tryPublish _ free :=
    match free with
    | 0 => (.error .realtimeBackpressure, 0)
    | free + 1 => (.ok ⟨true⟩, free)
  tryForward request free := (.error (.sinkNotFound request.sinkId), free)
  tryEnqueueCommand _ free := (.error .commandQueueUnavailable, free)
  nowV7 free := ("018f2f9e-0000-7000-8000-0123456789ab", free)

theorem boundedBoundary_uuidTexts : boundedBoundary.UuidTexts :=
  fun _ => ⟨(by decide : len "018f2f9e-0000-7000-8000-0123456789ab" = 36), List.all_eq_true.mp
    (by decide : "018f2f9e-0000-7000-8000-0123456789ab".toList.all isUuidChar = true)⟩

/-- Two intents that are served, one that another event would be dropped by, and one that comes too
late. -/
def mixedIntents : List ActionIntent :=
  [.streamToUi hotEvent.id, .dropEvent ⟨"other"⟩ none,
    .forwardToSink hotEvent.id ⟨"archive"⟩ none, .dropEvent hotEvent.id none,
    .streamToUi hotEvent.id]

theorem dispatch_exact_mixed :
    ∃ outcome after calls,
      dispatch boundedBoundary.logged .default hotEvent mixedIntents (1, []) =
        (.ok outcome, after, calls) ∧
      List.Forall₂ (CallOfEvent hotEvent)
        [.streamToUi hotEvent.id, .forwardToSink hotEvent.id ⟨"archive"⟩ none] calls := by
  obtain ⟨outcome, after, calls, -, hlogged, -, -, hcalls, -⟩ :=
    (dispatch_exact boundedBoundary_uuidTexts .default hotEvent mixedIntents 1).1 (by decide)
  exact ⟨outcome, after, calls, hlogged, hcalls⟩

end Core
end PipeBolt
