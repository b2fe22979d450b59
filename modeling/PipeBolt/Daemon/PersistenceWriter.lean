import Mathlib.Data.List.Perm.Basic
import PipeBolt.Core.ForwardWorker
import PipeBolt.Lib.Channel
import PipeBolt.Lib.Transition

/-!
# The persistence writer

`RuntimePersistenceWriter` of `pipe_bolt_daemon::persistence_writer`.  Handles put delivery outcomes
into a bounded channel.  Its receiver is behind a mutex that any number of workers share; each takes
one outcome at a time and writes it to the storage.  `shutdown` drops the handle of the writer and
joins the workers in order, within a drain timeout.

A handle is shared by any number of calls of `try_record_forward_outcome`, and goes only when none
of them is under way.  What a write of the storage returns, when a timeout is over, and where a
worker panics or is aborted, is up to the run.

* `WriterStep`: the steps of the handles, of the workers and of the shutdown.
* `Drained`: what a run has taken from the channel, written and counted at each of its points.
* `shutdown_drains`: when `shutdown` is good, every outcome was taken once and attempted once.
-/

namespace PipeBolt
namespace Daemon

open Domain PipeBolt.Core Rust BoundedChannel Transition
open scoped List

/-! ## Settings -/

/-- `PersistenceWriterSettings`. -/
structure PersistenceWriterSettings where
  queueCapacity : Nat := 4096
  workerCount : Nat := 2
  writeTimeout : Duration := .fromSecs 3
  shutdownDrainTimeout : Duration := .fromSecs 10
  deriving DecidableEq

/-- `PersistenceWriterError`. -/
inductive PersistenceWriterError where
  | invalidConfig (reason : String)
  | join
  | drainTimeout
  deriving DecidableEq, Repr

/-- `PersistenceWriterSettings::validate`. -/
def PersistenceWriterSettings.validate (settings : PersistenceWriterSettings) :
    Except PersistenceWriterError Unit :=
  if settings.queueCapacity = 0 then
    .error (.invalidConfig "persistence writer queue_capacity must be greater than zero")
  else if settings.workerCount = 0 then
    .error (.invalidConfig "persistence writer worker_count must be greater than zero")
  else if settings.writeTimeout.isZero || settings.shutdownDrainTimeout.isZero then
    .error (.invalidConfig "persistence writer timeouts must be greater than zero")
  else .ok ()

/-! ## Outcomes -/

/-- `SinkDeliveryStatus`. -/
inductive SinkDeliveryStatus where
  | delivered (httpStatus : UInt16) (responseBodyBytes : Nat)
  | httpRejected (httpStatus : UInt16) (responseBodyBytes : Nat)
  | timedOut
  | responseTooLarge (max : Nat)
  | failed (reason : String)
  deriving DecidableEq, Repr

/-- `NewSinkDeliveryOutcome`. -/
structure NewSinkDeliveryOutcome where
  projectId : ProjectId
  eventId : EventId
  sinkId : SinkId
  status : SinkDeliveryStatus
  correlationId : Option String
  durationMs : Option UInt64
  attempt : UInt16
  deriving DecidableEq, Repr

/-- `forward_failure_reason_name`. -/
def forwardFailureReasonName : ForwardFailureReason → String
  | .requestFailed => "request_failed"
  | .responseReadFailed => "response_read_failed"
  | .workerJoinFailed => "worker_join_failed"
  | .outcomeReceiverClosed => "outcome_receiver_closed"

/-- `map_delivery_status`. -/
def mapDeliveryStatus : ForwardDeliveryStatus → SinkDeliveryStatus
  | .delivered httpStatus responseBodyBytes => .delivered httpStatus responseBodyBytes
  | .httpRejected httpStatus responseBodyBytes => .httpRejected httpStatus responseBodyBytes
  | .timedOut => .timedOut
  | .responseTooLarge max => .responseTooLarge max
  | .failed reason => .failed (forwardFailureReasonName reason)

/-- What `try_record_forward_outcome` sends. -/
def newSinkDeliveryOutcome (projectId : ProjectId) (outcome : ForwardDeliveryOutcome) :
    NewSinkDeliveryOutcome where
  projectId := projectId
  eventId := outcome.eventId
  sinkId := outcome.sinkId
  status := mapDeliveryStatus outcome.status
  correlationId := none
  durationMs := none
  attempt := 1

/-! ## Counters -/

/-- `PersistenceWriterStats`.  `fetch_add` wraps around. -/
structure PersistenceWriterStats where
  enqueuedTotal : UInt64 := 0
  queueFullTotal : UInt64 := 0
  queueClosedTotal : UInt64 := 0
  writeSucceededTotal : UInt64 := 0
  writeFailedTotal : UInt64 := 0
  writeTimeoutTotal : UInt64 := 0
  deriving DecidableEq, Repr

/-- What became of a write: `record_sink_delivery_outcome` returned or the write timed out. -/
inductive WriteResult where
  | succeeded
  | failed
  | timedOut
  deriving DecidableEq, Repr

namespace PersistenceWriterStats

/-- What is counted of a `try_send`. -/
def recordSend (stats : PersistenceWriterStats) :
    Except SendError Unit → PersistenceWriterStats
  | .ok () => { stats with enqueuedTotal := stats.enqueuedTotal + 1 }
  | .error .full => { stats with queueFullTotal := stats.queueFullTotal + 1 }
  | .error .closed => { stats with queueClosedTotal := stats.queueClosedTotal + 1 }

/-- What is counted of a write. -/
def recordWrite (stats : PersistenceWriterStats) : WriteResult → PersistenceWriterStats
  | .succeeded => { stats with writeSucceededTotal := stats.writeSucceededTotal + 1 }
  | .failed => { stats with writeFailedTotal := stats.writeFailedTotal + 1 }
  | .timedOut => { stats with writeTimeoutTotal := stats.writeTimeoutTotal + 1 }

/-- The attempted writes that were counted. -/
def writesTotal (stats : PersistenceWriterStats) : UInt64 :=
  stats.writeSucceededTotal + stats.writeFailedTotal + stats.writeTimeoutTotal

@[simp] theorem recordSend_writesTotal (stats : PersistenceWriterStats)
    (result : Except SendError Unit) : (stats.recordSend result).writesTotal = stats.writesTotal := by
  rcases result with (_ | _) | _ <;> rfl

@[simp] theorem recordWrite_enqueuedTotal (stats : PersistenceWriterStats) (result : WriteResult) :
    (stats.recordWrite result).enqueuedTotal = stats.enqueuedTotal := by
  cases result <;> rfl

@[simp] theorem recordWrite_writesTotal (stats : PersistenceWriterStats) (result : WriteResult) :
    (stats.recordWrite result).writesTotal = stats.writesTotal + 1 := by
  cases result <;> simp only [recordWrite, writesTotal] <;> grind

end PersistenceWriterStats

/-! ## The system -/

/-- Where a worker is. -/
inductive WorkerPhase where
  /-- It waits for the lock of the receiver. -/
  | waiting
  /-- It holds the lock and waits for an outcome. -/
  | receiving
  | writing (outcome : NewSinkDeliveryOutcome)
  | returned
  /-- It panicked or was aborted. -/
  | dead
  deriving DecidableEq, Repr

/-- A worker has let go of the receiver for good. -/
def WorkerPhase.over : WorkerPhase → Bool
  | .returned => true
  | .dead => true
  | _ => false

/-- Where `shutdown` is. -/
inductive WriterShutdown where
  | notCalled
  /-- It joins the worker with this number. -/
  | joining (worker : Nat)
  | returned (result : Except PersistenceWriterError Unit)
  deriving DecidableEq

/-- The writer with its handles and its workers. -/
structure PersistenceWriter where
  channel : Channel NewSinkDeliveryOutcome
  /-- The handle of the writer itself is not dropped. -/
  ownHandle : Bool
  /-- The other handles: for each of them what `try_send` returned to the calls that have not counted
  it yet. -/
  handles : List (List (Except SendError Unit))
  workers : List WorkerPhase
  stats : PersistenceWriterStats
  shutdown : WriterShutdown
  deriving DecidableEq

namespace PersistenceWriter

/-- `RuntimePersistenceWriter::spawn`. -/
def spawn (settings : PersistenceWriterSettings) :
    Except PersistenceWriterError PersistenceWriter := do
  settings.validate
  return {
    channel := .new settings.queueCapacity
    ownHandle := true
    handles := []
    workers := List.replicate settings.workerCount .waiting
    stats := {}
    shutdown := .notCalled }

/-- Every sender of the channel is dropped. -/
def NoSenders (s : PersistenceWriter) : Prop := s.ownHandle = false ∧ s.handles = []

/-- The writer after a worker is over.  The receiver goes with the last of them. -/
def exit (s : PersistenceWriter) (workers : List WorkerPhase) : PersistenceWriter :=
  { s with workers, channel := if workers.all WorkerPhase.over then s.channel.drop else s.channel }

@[simp] theorem exit_workers (s : PersistenceWriter) (workers : List WorkerPhase) :
    (s.exit workers).workers = workers := rfl

@[simp] theorem exit_handles (s : PersistenceWriter) (workers : List WorkerPhase) :
    (s.exit workers).handles = s.handles := rfl

@[simp] theorem exit_stats (s : PersistenceWriter) (workers : List WorkerPhase) :
    (s.exit workers).stats = s.stats := rfl

end PersistenceWriter

/-- What happens in a step.  A worker is named by its number. -/
inductive WriterLabel where
  | clone
  | dropHandle
  | send (outcome : NewSinkDeliveryOutcome) (result : Except SendError Unit)
  | count (result : Except SendError Unit)
  | lock (worker : Nat)
  | take (worker : Nat) (outcome : NewSinkDeliveryOutcome)
  | workerReturn (worker : Nat)
  | write (worker : Nat) (outcome : NewSinkDeliveryOutcome) (result : WriteResult)
  | workerDies (worker : Nat)
  | shutdown
  | join
  | shutdownReturn (result : Except PersistenceWriterError Unit)
  deriving DecidableEq

/-- A step of a handle, of a worker or of the shutdown. -/
inductive WriterStep (projectId : ProjectId) :
    PersistenceWriter → WriterLabel → PersistenceWriter → Prop
  /-- `handle`, or the `clone` of a handle. -/
  | clone {s : PersistenceWriter} (hsender : ¬ s.NoSenders) :
      WriterStep projectId s .clone { s with handles := s.handles ++ [[]] }
  | dropHandle {s : PersistenceWriter} {before after} (hhandles : s.handles = before ++ [] :: after) :
      WriterStep projectId s .dropHandle { s with handles := before ++ after }
  /-- `try_send` of `try_record_forward_outcome` takes the outcome. -/
  | send {s : PersistenceWriter} {before calls after channel} (outcome : ForwardDeliveryOutcome)
      (hhandles : s.handles = before ++ calls :: after)
      (hsend : s.channel.trySend (newSinkDeliveryOutcome projectId outcome) = .ok channel) :
      WriterStep projectId s (.send (newSinkDeliveryOutcome projectId outcome) (.ok ()))
        { s with channel, handles := before ++ (.ok () :: calls) :: after }
  /-- `try_send` fails. -/
  | refuse {s : PersistenceWriter} {before calls after error} (outcome : ForwardDeliveryOutcome)
      (hhandles : s.handles = before ++ calls :: after)
      (hsend : s.channel.trySend (newSinkDeliveryOutcome projectId outcome) = .error error) :
      WriterStep projectId s (.send (newSinkDeliveryOutcome projectId outcome) (.error error))
        { s with handles := before ++ (.error error :: calls) :: after }
  /-- A call of `try_record_forward_outcome` counts what `try_send` returned, and returns. -/
  | count {s : PersistenceWriter} {before earlier later after result}
      (hhandles : s.handles = before ++ (earlier ++ result :: later) :: after) :
      WriterStep projectId s (.count result)
        { s with handles := before ++ (earlier ++ later) :: after
                 stats := s.stats.recordSend result }
  | lock {s : PersistenceWriter} {before after} (hworkers : s.workers = before ++ .waiting :: after)
      (hfree : .receiving ∉ s.workers) :
      WriterStep projectId s (.lock before.length)
        { s with workers := before ++ .receiving :: after }
  /-- `recv` returns an outcome, and the lock is released. -/
  | take {s : PersistenceWriter} {before after outcome channel}
      (hworkers : s.workers = before ++ .receiving :: after)
      (hrecv : s.channel.recv = some (outcome, channel)) :
      WriterStep projectId s (.take before.length outcome)
        { s with channel, workers := before ++ .writing outcome :: after }
  /-- `recv` returns `None`: the channel is empty and has no sender. -/
  | workerReturn {s : PersistenceWriter} {before after}
      (hworkers : s.workers = before ++ .receiving :: after)
      (hempty : s.channel.queue = []) (hsenders : s.NoSenders) :
      WriterStep projectId s (.workerReturn before.length)
        (s.exit (before ++ .returned :: after))
  /-- The write of an outcome returns or times out, and is counted. -/
  | write {s : PersistenceWriter} {before after outcome} (result : WriteResult)
      (hworkers : s.workers = before ++ .writing outcome :: after) :
      WriterStep projectId s (.write before.length outcome result)
        { s with workers := before ++ .waiting :: after, stats := s.stats.recordWrite result }
  | workerDies {s : PersistenceWriter} {before phase after}
      (hworkers : s.workers = before ++ phase :: after) (hphase : phase.over = false) :
      WriterStep projectId s (.workerDies before.length) (s.exit (before ++ .dead :: after))
  /-- `shutdown` drops the handle of the writer. -/
  | shutdown {s : PersistenceWriter} (hpoint : s.shutdown = .notCalled) :
      WriterStep projectId s .shutdown { s with ownHandle := false, shutdown := .joining 0 }
  | join {s : PersistenceWriter} {worker} (hpoint : s.shutdown = .joining worker)
      (hreturned : s.workers[worker]? = some .returned) :
      WriterStep projectId s .join { s with shutdown := .joining (worker + 1) }
  | joinFailed {s : PersistenceWriter} {worker} (hpoint : s.shutdown = .joining worker)
      (hdead : s.workers[worker]? = some .dead) :
      WriterStep projectId s (.shutdownReturn (.error .join))
        { s with shutdown := .returned (.error .join) }
  /-- The drain timeout is over before the worker is. -/
  | drainTimeout {s : PersistenceWriter} {worker} (hpoint : s.shutdown = .joining worker)
      (hworker : worker < s.workers.length) :
      WriterStep projectId s (.shutdownReturn (.error .drainTimeout))
        { s with shutdown := .returned (.error .drainTimeout) }
  /-- Every worker is joined. -/
  | shutdownReturn {s : PersistenceWriter} {worker} (hpoint : s.shutdown = .joining worker)
      (hjoined : s.workers.length ≤ worker) :
      WriterStep projectId s (.shutdownReturn (.ok ())) { s with shutdown := .returned (.ok ()) }

/-! ## What a run does -/

/-- The edges of a run. -/
abbrev WriterEdges := List (Edge PersistenceWriter WriterLabel)

/-- The outcome that the channel takes in the step. -/
def WriterLabel.enqueued : WriterLabel → Option NewSinkDeliveryOutcome
  | .send outcome (.ok ()) => some outcome
  | _ => none

/-- The worker that takes an outcome in the step, with the outcome. -/
def WriterLabel.taken : WriterLabel → Option (Nat × NewSinkDeliveryOutcome)
  | .take worker outcome => some (worker, outcome)
  | _ => none

/-- The worker that has attempted a write in the step, with the outcome. -/
def WriterLabel.attempted : WriterLabel → Option (Nat × NewSinkDeliveryOutcome)
  | .write worker outcome _ => some (worker, outcome)
  | _ => none

/-- The outcomes that the channel took in a run. -/
def enqueued (es : WriterEdges) : List NewSinkDeliveryOutcome := es.filterMap (·.label.enqueued)

/-- The outcomes that workers took in a run, each with its worker. -/
def taken (es : WriterEdges) : List (Nat × NewSinkDeliveryOutcome) :=
  es.filterMap (·.label.taken)

/-- The writes that workers attempted in a run, each with its worker. -/
def attempted (es : WriterEdges) : List (Nat × NewSinkDeliveryOutcome) :=
  es.filterMap (·.label.attempted)

/-- The outcomes that workers have taken and not attempted yet, of workers numbered from `n`. -/
def inProgress : Nat → List WorkerPhase → List (Nat × NewSinkDeliveryOutcome)
  | _, [] => []
  | n, .writing outcome :: workers => (n, outcome) :: inProgress (n + 1) workers
  | n, _ :: workers => inProgress (n + 1) workers

/-- The calls that have enqueued their outcome and not counted it yet. -/
def uncounted (handles : List (List (Except SendError Unit))) : Nat :=
  handles.flatten.countP fun result => result.toOption.isSome

section Workers

variable {n : Nat} {before after : List WorkerPhase} {p q : WorkerPhase}

theorem inProgress_append (n : Nat) (xs ys : List WorkerPhase) :
    inProgress n (xs ++ ys) = inProgress n xs ++ inProgress (n + xs.length) ys := by
  induction xs generalizing n with
  | nil => rfl
  | cons x xs ih =>
    have hlength : n + (xs.length + 1) = n + 1 + xs.length := by omega
    cases x <;> simp [inProgress, ih, hlength]

/-- A worker that writes has its outcome in progress. -/
theorem inProgress_writing (before after : List WorkerPhase) (outcome : NewSinkDeliveryOutcome) :
    (inProgress 0 (before ++ .writing outcome :: after)).Perm
      ((before.length, outcome) :: inProgress 0 (before ++ .waiting :: after)) := by
  rw [inProgress_append, inProgress_append, Nat.zero_add]
  exact List.perm_middle

/-- Workers that do not write have nothing in progress. -/
theorem inProgress_eq (hp : ∀ outcome, p ≠ .writing outcome) (hq : ∀ outcome, q ≠ .writing outcome) :
    inProgress 0 (before ++ p :: after) = inProgress 0 (before ++ q :: after) := by
  have hskip : ∀ {r : WorkerPhase} (n : Nat), (∀ outcome, r ≠ .writing outcome) →
      inProgress n (r :: after) = inProgress (n + 1) after := by
    intro r n hr
    cases r with
    | writing outcome => exact absurd rfl (hr outcome)
    | _ => rfl
  rw [inProgress_append, inProgress_append, hskip _ hp, hskip _ hq]

theorem inProgress_of_returned {workers : List WorkerPhase} (h : ∀ w ∈ workers, w = .returned)
    (n : Nat) : inProgress n workers = [] := by
  induction workers generalizing n with
  | nil => rfl
  | cons w workers ih =>
    obtain ⟨rfl, hworkers⟩ := List.forall_mem_cons.mp h
    exact ih hworkers (n + 1)

/-- A worker that has returned is not the one that moves. -/
theorem returned_kept {i : Nat} (h : (before ++ p :: after)[i]? = some .returned)
    (hp : p ≠ .returned) : (before ++ q :: after)[i]? = some .returned := by
  rcases Nat.lt_trichotomy i before.length with hlt | rfl | hgt
  · rwa [List.getElem?_append_left hlt] at h ⊢
  · rw [List.getElem?_append_right (Nat.le_refl _), Nat.sub_self, List.getElem?_cons_zero] at h
    exact absurd (Option.some_inj.mp h) hp
  · obtain ⟨k, rfl⟩ := Nat.exists_eq_add_of_lt hgt
    rw [List.getElem?_append_right (by omega)] at h ⊢
    have hindex : before.length + k + 1 - before.length = k + 1 := by omega
    rwa [hindex, List.getElem?_cons_succ] at h ⊢

theorem mem_of_mem_middle {r : WorkerPhase} (h : r ∈ before ++ q :: after) (hr : r ≠ q) :
    r ∈ before ++ p :: after := by
  simp only [List.mem_append, List.mem_cons] at h ⊢
  tauto

end Workers

/-! ## What a run has drained -/

/-- What a run has taken, written and counted at one of its points.  A worker that dies loses the
outcome it writes, and the last one the queue. -/
structure Drained (past : WriterEdges) (s : PersistenceWriter) : Prop where
  accounts : .dead ∉ s.workers → s.channel.Accounts (enqueued past) ((taken past).map Prod.snd)
  attempts : .dead ∉ s.workers → (taken past).Perm (attempted past ++ inProgress 0 s.workers)
  enqueuedTotal : UInt64.ofNat (enqueued past).length =
    s.stats.enqueuedTotal + UInt64.ofNat (uncounted s.handles)
  writesTotal : s.stats.writesTotal = UInt64.ofNat (attempted past).length

/-- Where the shutdown is, the workers are. -/
structure JoinState (s : PersistenceWriter) : Prop where
  workers : s.workers ≠ []
  /-- A worker returns when the channel is empty and has no sender. -/
  finished : .returned ∈ s.workers → s.channel.queue = [] ∧ s.NoSenders
  joining : ∀ n, s.shutdown = .joining n → ∀ i < n, s.workers[i]? = some .returned
  joined : s.shutdown = .returned (.ok ()) → ∀ w ∈ s.workers, w = .returned

section Steps

variable {projectId : ProjectId} {s t : PersistenceWriter} {l : WriterLabel} {past : WriterEdges}

/-- The step of a worker that has not returned and does not return. -/
theorem JoinState.worker (h : JoinState s) {before after : List WorkerPhase} {p q : WorkerPhase}
    (hworkers : s.workers = before ++ p :: after) (hp : p ≠ .returned) (hq : q ≠ .returned)
    {channel : Channel NewSinkDeliveryOutcome} {stats : PersistenceWriterStats}
    (hqueue : s.channel.queue = [] → channel.queue = []) :
    JoinState { s with workers := before ++ q :: after, channel, stats } where
  workers := by simp
  finished := by
    intro hreturned
    have hmem := h.finished (hworkers ▸ mem_of_mem_middle hreturned hq.symm)
    exact ⟨hqueue hmem.1, hmem.2⟩
  joining := fun n hn i hi => returned_kept (hworkers ▸ h.joining n hn i hi) hp
  joined := by
    intro hdone
    have hall := h.joined hdone
    rw [hworkers] at hall
    exact absurd (hall p (by simp)) hp

/-- Where there is a sender, no worker has returned. -/
theorem JoinState.not_returned (h : JoinState s) (hsenders : ¬ s.NoSenders) : .returned ∉ s.workers :=
  fun hreturned => hsenders (h.finished hreturned).2

/-- A step of a handle. -/
theorem JoinState.handle (h : JoinState s) (hsenders : ¬ s.NoSenders)
    {channel : Channel NewSinkDeliveryOutcome} {handles : List (List (Except SendError Unit))}
    {stats : PersistenceWriterStats} : JoinState { s with channel, handles, stats } where
  workers := h.workers
  finished := fun hreturned => absurd hreturned (h.not_returned hsenders)
  joining := h.joining
  joined := h.joined

/-- The last step of a worker. -/
theorem JoinState.exit (h : JoinState s) {before after : List WorkerPhase} {p q : WorkerPhase}
    (hworkers : s.workers = before ++ p :: after) (hp : p ≠ .returned)
    (hfinished : q = .returned → s.channel.queue = [] ∧ s.NoSenders) :
    JoinState (s.exit (before ++ q :: after)) where
  workers := by simp [PersistenceWriter.exit]
  finished := by
    intro hreturned
    have hbefore : s.channel.queue = [] ∧ s.NoSenders := by
      by_cases hq : q = .returned
      · exact hfinished hq
      · exact h.finished (hworkers ▸ mem_of_mem_middle hreturned (Ne.symm hq))
    refine ⟨?_, hbefore.2⟩
    unfold PersistenceWriter.exit
    split
    · rfl
    · exact hbefore.1
  joining := fun n hn i hi => returned_kept (hworkers ▸ h.joining n hn i hi) hp
  joined := by
    intro hdone
    have hall := h.joined hdone
    rw [hworkers] at hall
    exact absurd (hall p (by simp)) hp

theorem handles_ne {before after : List (List (Except SendError Unit))}
    {calls : List (Except SendError Unit)} (h : s.handles = before ++ calls :: after) :
    ¬ s.NoSenders := by
  rintro ⟨-, hnone⟩
  rw [hnone] at h
  simp at h

theorem WriterStep.joined (h : WriterStep projectId s l t) (hs : JoinState s) : JoinState t := by
  cases h with
  | clone hsender => exact hs.handle hsender
  | dropHandle hhandles => exact hs.handle (handles_ne hhandles)
  | send outcome hhandles hsend => exact hs.handle (handles_ne hhandles)
  | refuse outcome hhandles hsend => exact hs.handle (handles_ne hhandles)
  | count hhandles => exact hs.handle (handles_ne hhandles)
  | lock hworkers hfree => exact hs.worker hworkers (by simp) (by simp) id
  | take hworkers hrecv =>
    refine hs.worker hworkers (by simp) (by simp) fun hempty => ?_
    rw [(Channel.recv_eq_some_iff.mp hrecv).1] at hempty
    exact nomatch hempty
  | workerReturn hworkers hempty hsenders =>
    exact hs.exit hworkers (by simp) fun _ => ⟨hempty, hsenders⟩
  | write result hworkers => exact hs.worker hworkers (by simp) (by simp) id
  | workerDies hworkers hphase =>
    refine hs.exit hworkers ?_ (by simp)
    rintro rfl
    exact nomatch hphase
  | shutdown hpoint =>
    exact {
      workers := hs.workers
      finished := fun hreturned => ⟨(hs.finished hreturned).1, rfl, (hs.finished hreturned).2.2⟩
      joining := fun n hn i hi => by
        cases hn
        exact absurd hi (Nat.not_lt_zero i)
      joined := (nomatch ·) }
  | @join worker hpoint hreturned =>
    exact {
      workers := hs.workers
      finished := hs.finished
      joining := fun n hn i hi => by
        cases hn
        rcases Nat.lt_succ_iff_lt_or_eq.mp hi with hlt | rfl
        · exact hs.joining worker hpoint i hlt
        · exact hreturned
      joined := (nomatch ·) }
  | joinFailed hpoint hdead | drainTimeout hpoint hworker =>
    exact ⟨hs.workers, hs.finished, fun _ => (nomatch ·), (nomatch ·)⟩
  | @shutdownReturn worker hpoint hjoined =>
    refine ⟨hs.workers, hs.finished, fun _ => (nomatch ·), fun _ w hw => ?_⟩
    obtain ⟨i, hi, rfl⟩ := List.getElem_of_mem hw
    have hreturned := hs.joining worker hpoint i (Nat.lt_of_lt_of_le hi hjoined)
    rw [List.getElem?_eq_getElem hi] at hreturned
    exact Option.some_inj.mp hreturned

theorem not_dead_of_step {before after : List WorkerPhase} {p q : WorkerPhase}
    (hworkers : s.workers = before ++ p :: after) (hp : p ≠ .dead)
    (hlive : .dead ∉ before ++ q :: after) : .dead ∉ s.workers :=
  fun hdead => hlive (mem_of_mem_middle (hworkers ▸ hdead) hp.symm)

/-- What a step sends and takes is accounted for, unless a worker dies. -/
theorem WriterStep.accounts (h : WriterStep projectId s l t)
    {sent received : List NewSinkDeliveryOutcome} (hlive : .dead ∉ t.workers)
    (hs : .dead ∉ s.workers → s.channel.Accounts sent received) :
    t.channel.Accounts (sent ++ l.enqueued.toList) (received ++ (l.taken.map Prod.snd).toList) := by
  have hsilent : ∀ {c}, Channel.Accounts sent received c → l.enqueued = none → l.taken = none →
      Channel.Accounts (sent ++ l.enqueued.toList) (received ++ (l.taken.map Prod.snd).toList) c := by
    intro c haccounts hsent htaken
    rw [hsent, htaken, Option.map_none, Option.toList_none, List.append_nil, List.append_nil]
    exact haccounts
  cases h with
  | send outcome hhandles hsend =>
    simpa [WriterLabel.enqueued, WriterLabel.taken] using (hs hlive).trySend hsend
  | take hworkers hrecv =>
    simpa [WriterLabel.enqueued, WriterLabel.taken] using
      (hs (not_dead_of_step hworkers (by simp) hlive)).recv hrecv
  | workerReturn hworkers hempty hsenders =>
    have haccounts := hs (not_dead_of_step hworkers (by simp) hlive)
    refine hsilent ?_ rfl rfl
    unfold PersistenceWriter.exit
    split
    · exact haccounts.drop hempty
    · exact haccounts
  | workerDies hworkers hphase => exact absurd (by simp) hlive
  | lock hworkers hfree => exact hsilent (hs (not_dead_of_step hworkers (by simp) hlive)) rfl rfl
  | write result hworkers => exact hsilent (hs (not_dead_of_step hworkers (by simp) hlive)) rfl rfl
  | _ => exact hsilent (hs hlive) rfl rfl

/-- What a step takes is attempted or in progress, unless a worker dies. -/
theorem WriterStep.attempts (h : WriterStep projectId s l t) (hlive : .dead ∉ t.workers) :
    .dead ∉ s.workers ∧
      (inProgress 0 s.workers ++ l.taken.toList).Perm
        (l.attempted.toList ++ inProgress 0 t.workers) := by
  have hsame : inProgress 0 s.workers = inProgress 0 t.workers → l.taken = none →
      l.attempted = none → (inProgress 0 s.workers ++ l.taken.toList).Perm
        (l.attempted.toList ++ inProgress 0 t.workers) := by
    intro hprogress htaken hattempted
    rw [hprogress, htaken, hattempted]
    simp
  cases h with
  | @take before after outcome channel hworkers hrecv =>
    refine ⟨not_dead_of_step hworkers (by simp) hlive, ?_⟩
    have hreceiving : inProgress 0 s.workers = inProgress 0 (before ++ .waiting :: after) := by
      rw [hworkers]
      exact inProgress_eq (by simp) (by simp)
    rw [hreceiving]
    exact List.perm_append_singleton _ _ |>.trans (inProgress_writing before after outcome).symm
  | write result hworkers =>
    refine ⟨not_dead_of_step hworkers (by simp) hlive, ?_⟩
    rw [hworkers]
    simpa [WriterLabel.taken, WriterLabel.attempted] using inProgress_writing _ _ _
  | lock hworkers hfree =>
    refine ⟨not_dead_of_step hworkers (by simp) hlive, hsame ?_ rfl rfl⟩
    rw [hworkers]
    exact inProgress_eq (by simp) (by simp)
  | workerReturn hworkers hempty hsenders =>
    refine ⟨not_dead_of_step hworkers (by simp) hlive, hsame ?_ rfl rfl⟩
    rw [hworkers]
    exact inProgress_eq (by simp) (by simp)
  | workerDies hworkers hphase => exact absurd (by simp) hlive
  | _ => exact ⟨hlive, hsame rfl rfl rfl⟩

theorem uncounted_cons (before after : List (List (Except SendError Unit)))
    (earlier later : List (Except SendError Unit)) (result : Except SendError Unit) :
    uncounted (before ++ (earlier ++ result :: later) :: after) =
      uncounted (before ++ (earlier ++ later) :: after) + if result.toOption.isSome then 1 else 0 := by
  simp only [uncounted, List.flatten_append, List.flatten_cons, List.countP_append,
    List.countP_cons]
  omega

/-- An outcome is counted as enqueued after it is sent. -/
theorem WriterStep.enqueuedTotal (h : WriterStep projectId s l t) :
    t.stats.enqueuedTotal + UInt64.ofNat (uncounted t.handles) =
      s.stats.enqueuedTotal + UInt64.ofNat (uncounted s.handles) +
        UInt64.ofNat l.enqueued.toList.length := by
  cases h with
  | clone hsender => simp [uncounted, WriterLabel.enqueued]
  | dropHandle hhandles => simp [uncounted, WriterLabel.enqueued, hhandles]
  | @send before calls after channel outcome hhandles hsend =>
    have hcount := uncounted_cons before after [] calls (.ok ())
    simp only [List.nil_append] at hcount
    rw [hhandles, hcount]
    simp [WriterLabel.enqueued, UInt64.ofNat_add, UInt64.add_assoc, Except.toOption]
  | @refuse before calls after error outcome hhandles hsend =>
    have hcount := uncounted_cons before after [] calls (.error error)
    simp only [List.nil_append] at hcount
    rw [hhandles, hcount]
    simp [WriterLabel.enqueued, Except.toOption]
  | @count before earlier later after result hhandles =>
    rw [hhandles, uncounted_cons]
    cases result with
    | ok value =>
      have hmoved : s.stats.enqueuedTotal + 1 + UInt64.ofNat (uncounted (before ++ (earlier ++ later)
          :: after)) = s.stats.enqueuedTotal + UInt64.ofNat (uncounted (before ++ (earlier ++ later)
          :: after) + 1) := by
        rw [UInt64.ofNat_add, UInt64.add_assoc, UInt64.add_comm 1]
        rfl
      cases value
      simpa [WriterLabel.enqueued, Except.toOption, PersistenceWriterStats.recordSend] using hmoved
    | error error => cases error <;> simp [WriterLabel.enqueued, Except.toOption,
        PersistenceWriterStats.recordSend]
  | _ => simp [WriterLabel.enqueued]

theorem WriterStep.writesTotal (h : WriterStep projectId s l t) :
    t.stats.writesTotal = s.stats.writesTotal + UInt64.ofNat l.attempted.toList.length := by
  cases h with
  | count hhandles => simp [WriterLabel.attempted]
  | write result hworkers => simp [WriterLabel.attempted]
  | _ => simp [WriterLabel.attempted]

theorem Drained.step (hs : Drained past s) (h : WriterStep projectId s l t) :
    Drained (past ++ [⟨s, l, t⟩]) t where
  accounts := by
    intro hlive
    have haccounts := h.accounts hlive hs.accounts
    simp only [enqueued, taken, filterMap_snoc, List.map_append]
    cases htaken : l.taken with
    | none => simpa [enqueued, taken, htaken] using haccounts
    | some pair => simpa [enqueued, taken, htaken] using haccounts
  attempts := by
    intro hlive
    obtain ⟨hlive, hstep⟩ := h.attempts hlive
    have hperm := hs.attempts hlive
    simp only [taken, attempted, filterMap_snoc] at hperm ⊢
    calc past.filterMap (·.label.taken) ++ l.taken.toList
        _ ~ past.filterMap (·.label.attempted) ++ (inProgress 0 s.workers ++ l.taken.toList) := by
          rw [← List.append_assoc]
          exact hperm.append_right _
        _ ~ past.filterMap (·.label.attempted) ++
            (l.attempted.toList ++ inProgress 0 t.workers) := hstep.append_left _
        _ = past.filterMap (·.label.attempted) ++ l.attempted.toList ++
            inProgress 0 t.workers := (List.append_assoc _ _ _).symm
  enqueuedTotal := by
    have hcount := h.enqueuedTotal
    have htotal := hs.enqueuedTotal
    simp only [enqueued, filterMap_snoc, List.length_append, UInt64.ofNat_add] at htotal ⊢
    rw [hcount, htotal]
  writesTotal := by
    have htotal := hs.writesTotal
    rw [h.writesTotal, htotal]
    simp only [attempted, filterMap_snoc, List.length_append, UInt64.ofNat_add]

end Steps

section Runs

variable {projectId : ProjectId} {settings : PersistenceWriterSettings} {s t : PersistenceWriter}
  {es : WriterEdges}

theorem spawn_ok (h : PersistenceWriter.spawn settings = .ok s) :
    settings.workerCount ≠ 0 ∧ s = {
      channel := .new settings.queueCapacity
      ownHandle := true
      handles := []
      workers := List.replicate settings.workerCount .waiting
      stats := {}
      shutdown := .notCalled } := by
  obtain ⟨hvalid, h⟩ := Fallible.check_eq_ok_iff.mp h
  obtain ⟨-, hvalid⟩ := Fallible.guard_eq_ok_iff.mp hvalid
  obtain ⟨hworkers, -⟩ := Fallible.guard_eq_ok_iff.mp hvalid
  exact ⟨hworkers, (Except.ok.inj h).symm⟩

theorem inProgress_replicate_waiting (n count : Nat) :
    inProgress n (List.replicate count .waiting) = [] := by
  induction count generalizing n with
  | zero => rfl
  | succ count ih => exact ih (n + 1)

/-- At every point of a run what was enqueued is taken or queued, what was taken is attempted or in
progress, and all of it is counted, unless a worker has died. -/
theorem drained_of_run (hspawn : PersistenceWriter.spawn settings = .ok s)
    (h : Run (WriterStep projectId) s es t) : Drained es t ∧ JoinState t := by
  obtain ⟨hworkers, rfl⟩ := spawn_ok hspawn
  refine h.history (fun es s => Drained es s ∧ JoinState s)
    (fun es s l t hs hstep => ⟨hs.1.step hstep, hstep.joined hs.2⟩) ⟨?_, ?_⟩
  · exact {
      accounts := fun _ => Channel.accounts_new _
      attempts := fun _ => by
        rw [inProgress_replicate_waiting]
        exact .refl _
      enqueuedTotal := rfl
      writesTotal := rfl }
  · exact {
      workers := by simpa using hworkers
      finished := fun hreturned => absurd (List.eq_of_mem_replicate hreturned) (by simp)
      joining := fun _ => (nomatch ·)
      joined := (nomatch ·) }

/-- When `shutdown` is good, every outcome that was enqueued was taken by one worker and its write
attempted once, by that worker, and the counters add up. -/
theorem shutdown_drains (hspawn : PersistenceWriter.spawn settings = .ok s)
    (h : Run (WriterStep projectId) s es t) (hshutdown : t.shutdown = .returned (.ok ())) :
    (taken es).map Prod.snd = enqueued es ∧ (attempted es).Perm (taken es) ∧
      t.stats.enqueuedTotal =
        t.stats.writeSucceededTotal + t.stats.writeFailedTotal + t.stats.writeTimeoutTotal := by
  obtain ⟨hdrained, hjoined⟩ := drained_of_run hspawn h
  have hreturned := hjoined.joined hshutdown
  have hlive : .dead ∉ t.workers := fun hdead => nomatch hreturned _ hdead
  obtain ⟨worker, hworker⟩ := List.exists_mem_of_ne_nil _ hjoined.workers
  obtain ⟨hempty, -, hhandles⟩ := hjoined.finished (hreturned worker hworker ▸ hworker)
  have htaken := (hdrained.accounts hlive).eq_of_empty hempty
  have hattempts := hdrained.attempts hlive
  rw [inProgress_of_returned hreturned, List.append_nil] at hattempts
  refine ⟨htaken.symm, hattempts.symm, ?_⟩
  have henqueued : t.stats.enqueuedTotal = UInt64.ofNat (enqueued es).length := by
    rw [hdrained.enqueuedTotal, hhandles]
    exact (UInt64.add_zero _).symm
  have hlength : (enqueued es).length = (attempted es).length := by
    rw [htaken, List.length_map, hattempts.length_eq]
  show t.stats.enqueuedTotal = t.stats.writesTotal
  rw [henqueued, hdrained.writesTotal, hlength]

end Runs

/-- A writer with two workers. -/
def twoWorkers : PersistenceWriterSettings := { workerCount := 2 }

/-- What became of an event on its way to a sink of the plant. -/
def plantOutcome (event : String) (status : ForwardDeliveryStatus) : ForwardDeliveryOutcome :=
  ⟨⟨event⟩, ⟨"historian"⟩, status⟩

/-- Three outcomes are enqueued.  One worker writes the first of them, which times out, while the
other one writes the two that follow; then the writer is shut down. -/
theorem shutdown_drains_twoWorkers : ∃ s es t,
    PersistenceWriter.spawn twoWorkers = .ok s ∧ Run (WriterStep ⟨"plant"⟩) s es t ∧
      t.shutdown = .returned (.ok ()) ∧ (enqueued es).length = 3 ∧
      (taken es).map Prod.fst = [0, 1, 1] ∧ (attempted es).map Prod.fst = [1, 0, 1] ∧
      t.stats = ⟨3, 0, 0, 1, 1, 1⟩ ∧
      (taken es).map Prod.snd = enqueued es ∧ (attempted es).Perm (taken es) ∧
      t.stats.enqueuedTotal =
        t.stats.writeSucceededTotal + t.stats.writeFailedTotal + t.stats.writeTimeoutTotal := by
  obtain ⟨s, es, t, hspawn, hrun, hshutdown, hlength, htaken, hattempted, hstats⟩ : ∃ s es t,
      PersistenceWriter.spawn twoWorkers = .ok s ∧ Run (WriterStep ⟨"plant"⟩) s es t ∧
        t.shutdown = .returned (.ok ()) ∧ (enqueued es).length = 3 ∧
        (taken es).map Prod.fst = [0, 1, 1] ∧ (attempted es).map Prod.fst = [1, 0, 1] ∧
        t.stats = ⟨3, 0, 0, 1, 1, 1⟩ :=
    ⟨_, _, _, rfl,
      .cons (.clone (nomatch ·.1)) <|
      .cons (@WriterStep.send _ _ [] [] [] _ (plantOutcome "event-1" .timedOut) rfl rfl) <|
      .cons (@WriterStep.send _ _ [] _ [] _ (plantOutcome "event-2" (.delivered 200 2)) rfl rfl) <|
      .cons (@WriterStep.send _ _ [] _ [] _ (plantOutcome "event-3" .timedOut) rfl rfl) <|
      .cons (@WriterStep.count _ _ [] [] _ [] _ rfl) <|
      .cons (@WriterStep.count _ _ [] [] _ [] _ rfl) <|
      .cons (@WriterStep.count _ _ [] [] _ [] _ rfl) <|
      .cons (@WriterStep.dropHandle _ _ [] [] rfl) <|
      .cons (@WriterStep.lock _ _ [] _ rfl (by decide)) <|
      .cons (@WriterStep.take _ _ [] _ _ _ rfl rfl) <|
      .cons (@WriterStep.lock _ _ [_] [] rfl (by decide)) <|
      .cons (@WriterStep.take _ _ [_] [] _ _ rfl rfl) <|
      .cons (@WriterStep.write _ _ [_] [] _ .succeeded rfl) <|
      .cons (@WriterStep.lock _ _ [_] [] rfl (by decide)) <|
      .cons (@WriterStep.take _ _ [_] [] _ _ rfl rfl) <|
      .cons (@WriterStep.write _ _ [] _ _ .timedOut rfl) <|
      .cons (@WriterStep.write _ _ [_] [] _ .failed rfl) <|
      .cons (.shutdown rfl) <|
      .cons (@WriterStep.lock _ _ [] _ rfl (by decide)) <|
      .cons (@WriterStep.workerReturn _ _ [] _ rfl rfl ⟨rfl, rfl⟩) <|
      .cons (.join rfl rfl) <|
      .cons (@WriterStep.lock _ _ [_] [] rfl (by decide)) <|
      .cons (@WriterStep.workerReturn _ _ [_] [] rfl rfl ⟨rfl, rfl⟩) <|
      .cons (.join rfl rfl) <|
      .cons (.shutdownReturn rfl (by decide)) <| .nil _, rfl, rfl, rfl, rfl, rfl⟩
  exact ⟨s, es, t, hspawn, hrun, hshutdown, hlength, htaken, hattempted, hstats,
    shutdown_drains hspawn hrun hshutdown⟩

end Daemon
end PipeBolt
