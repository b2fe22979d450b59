import Mathlib.Algebra.GroupWithZero.Nat
import PipeBolt.Core.Forwarder
import PipeBolt.Lib.Channel
import PipeBolt.Lib.Transition

/-!
# The worker of the HTTP forwarder

`BoundedHttpForwarder::try_forward` and `HttpForwardWorker` of `pipe_bolt_core::forwarder`: calls
that put requests into a bounded queue, a worker that takes them out and spawns a task for each, and
a shutdown that drains the queue until a timeout.

The state lists what the calls, the worker and its tasks hold between two of their awaits.  What an
HTTP exchange ends with, when a task breaks, when the signal comes and when the timeout fires is up
to the run.

* `ForwardStep.conserves`: what a step does to the balance of accepted and counted requests.
* `accepted_eq`: in a finished run the requests that were accepted are those that were counted and
  those that the timeout left behind.
* `accepted_counted_iff`: when every accepted request is counted.
* `snapshot_counted_iff`: the same for the wrapping counters of a snapshot.
-/

namespace PipeBolt
namespace Core

open Domain Rust BoundedChannel Transition

/-! ## Requests and outcomes -/

/-- `QueuedForwardRequest`. -/
structure QueuedForwardRequest where
  eventId : EventId
  sinkId : SinkId
  target : ForwardTarget
  payload : List UInt8
  deriving DecidableEq

/-- `ForwardFailureReason`. -/
inductive ForwardFailureReason where
  | requestFailed
  | responseReadFailed
  | workerJoinFailed
  | outcomeReceiverClosed
  deriving DecidableEq, Repr

/-- `ForwardDeliveryStatus`. -/
inductive ForwardDeliveryStatus where
  | delivered (httpStatus : UInt16) (responseBodyBytes : Nat)
  | httpRejected (httpStatus : UInt16) (responseBodyBytes : Nat)
  | timedOut
  | responseTooLarge (max : Nat)
  | failed (reason : ForwardFailureReason)
  deriving DecidableEq, Repr

/-- `ForwardDeliveryOutcome`. -/
structure ForwardDeliveryOutcome where
  eventId : EventId
  sinkId : SinkId
  status : ForwardDeliveryStatus
  deriving DecidableEq, Repr

/-! ## Counters -/

/-- `ForwarderStats`, each counter as the number of its increments: the `AtomicU64` of the source
holds it modulo `2 ^ 64`. -/
structure ForwarderStats where
  acceptedTotal : Nat
  backpressureTotal : Nat
  deliveredTotal : Nat
  rejectedTotal : Nat
  timedOutTotal : Nat
  failedTotal : Nat
  responseTooLargeTotal : Nat
  outcomeDroppedTotal : Nat
  deriving DecidableEq, Repr

namespace ForwarderStats

/-- `ForwarderStats::default`. -/
def zero : ForwarderStats := ⟨0, 0, 0, 0, 0, 0, 0, 0⟩

/-- `record_acceptance`. -/
def recordAcceptance (stats : ForwarderStats) : ForwarderStats :=
  { stats with acceptedTotal := stats.acceptedTotal + 1 }

/-- `record_backpressure`. -/
def recordBackpressure (stats : ForwarderStats) : ForwarderStats :=
  { stats with backpressureTotal := stats.backpressureTotal + 1 }

/-- `record_outcome`. -/
def recordOutcome (stats : ForwarderStats) (outcome : ForwardDeliveryOutcome) : ForwarderStats :=
  match outcome.status with
  | .delivered _ _ => { stats with deliveredTotal := stats.deliveredTotal + 1 }
  | .httpRejected _ _ => { stats with rejectedTotal := stats.rejectedTotal + 1 }
  | .timedOut => { stats with timedOutTotal := stats.timedOutTotal + 1 }
  | .responseTooLarge _ => { stats with responseTooLargeTotal := stats.responseTooLargeTotal + 1 }
  | .failed _ => { stats with failedTotal := stats.failedTotal + 1 }

/-- `record_outcome_drop`. -/
def recordOutcomeDrop (stats : ForwarderStats) : ForwarderStats :=
  { stats with outcomeDroppedTotal := stats.outcomeDroppedTotal + 1 }

/-- `record_join_result` on a task that broke. -/
def recordJoinError (stats : ForwarderStats) : ForwarderStats :=
  { stats with failedTotal := stats.failedTotal + 1 }

/-- The sum of the terminal counters. -/
def terminalTotal (stats : ForwarderStats) : Nat :=
  stats.deliveredTotal + stats.rejectedTotal + stats.timedOutTotal + stats.responseTooLargeTotal +
    stats.failedTotal

end ForwarderStats

/-- `ForwarderStatsSnapshot`. -/
structure ForwarderStatsSnapshot where
  acceptedTotal : UInt64
  backpressureTotal : UInt64
  deliveredTotal : UInt64
  rejectedTotal : UInt64
  timedOutTotal : UInt64
  failedTotal : UInt64
  responseTooLargeTotal : UInt64
  outcomeDroppedTotal : UInt64
  deriving DecidableEq, Repr

/-- The sum of the terminal counters of a snapshot, as `u64`s are added. -/
def ForwarderStatsSnapshot.terminalTotal (snapshot : ForwarderStatsSnapshot) : UInt64 :=
  snapshot.deliveredTotal + snapshot.rejectedTotal + snapshot.timedOutTotal +
    snapshot.responseTooLargeTotal + snapshot.failedTotal

namespace ForwarderStats

/-- `ForwarderStats::snapshot`. -/
def snapshot (stats : ForwarderStats) : ForwarderStatsSnapshot where
  acceptedTotal := .ofNat stats.acceptedTotal
  backpressureTotal := .ofNat stats.backpressureTotal
  deliveredTotal := .ofNat stats.deliveredTotal
  rejectedTotal := .ofNat stats.rejectedTotal
  timedOutTotal := .ofNat stats.timedOutTotal
  failedTotal := .ofNat stats.failedTotal
  responseTooLargeTotal := .ofNat stats.responseTooLargeTotal
  outcomeDroppedTotal := .ofNat stats.outcomeDroppedTotal

section Counters

variable (stats : ForwarderStats)

theorem terminalTotal_snapshot : stats.snapshot.terminalTotal = .ofNat stats.terminalTotal := by
  simp only [ForwarderStatsSnapshot.terminalTotal, snapshot, terminalTotal, UInt64.ofNat_add]

@[simp] theorem terminalTotal_zero : zero.terminalTotal = 0 := rfl
@[simp] theorem acceptedTotal_zero : zero.acceptedTotal = 0 := rfl

@[simp]
theorem acceptedTotal_recordAcceptance :
    stats.recordAcceptance.acceptedTotal = stats.acceptedTotal + 1 := rfl

@[simp]
theorem terminalTotal_recordAcceptance :
    stats.recordAcceptance.terminalTotal = stats.terminalTotal := rfl

@[simp]
theorem acceptedTotal_recordBackpressure :
    stats.recordBackpressure.acceptedTotal = stats.acceptedTotal := rfl

@[simp]
theorem terminalTotal_recordBackpressure :
    stats.recordBackpressure.terminalTotal = stats.terminalTotal := rfl

@[simp]
theorem acceptedTotal_recordOutcomeDrop :
    stats.recordOutcomeDrop.acceptedTotal = stats.acceptedTotal := rfl

@[simp]
theorem terminalTotal_recordOutcomeDrop :
    stats.recordOutcomeDrop.terminalTotal = stats.terminalTotal := rfl

@[simp]
theorem acceptedTotal_recordJoinError :
    stats.recordJoinError.acceptedTotal = stats.acceptedTotal := rfl

@[simp]
theorem terminalTotal_recordJoinError :
    stats.recordJoinError.terminalTotal = stats.terminalTotal + 1 := by
  simp only [terminalTotal, recordJoinError]
  omega

@[simp]
theorem acceptedTotal_recordOutcome (outcome : ForwardDeliveryOutcome) :
    (stats.recordOutcome outcome).acceptedTotal = stats.acceptedTotal := by
  unfold recordOutcome
  cases outcome.status <;> rfl

/-- An outcome is counted in one of the terminal counters. -/
@[simp]
theorem terminalTotal_recordOutcome (outcome : ForwardDeliveryOutcome) :
    (stats.recordOutcome outcome).terminalTotal = stats.terminalTotal + 1 := by
  unfold recordOutcome
  cases outcome.status with
  | delivered httpStatus responseBodyBytes => simp only [terminalTotal]; omega
  | httpRejected httpStatus responseBodyBytes => simp only [terminalTotal]; omega
  | timedOut => simp only [terminalTotal]; omega
  | responseTooLarge max => simp only [terminalTotal]; omega
  | failed reason => simp only [terminalTotal]; omega

end Counters

end ForwarderStats

/-! ## The system -/

/-- A task of the worker, with its permit: the exchange is running, or its outcome is counted and
not yet sent. -/
inductive DeliveryTask where
  | executing (request : QueuedForwardRequest)
  | recorded (outcome : ForwardDeliveryOutcome)
  deriving DecidableEq

/-- Whether the exchange of a task is still running. -/
def DeliveryTask.isExecuting : DeliveryTask → Bool
  | .executing _ => true
  | .recorded _ => false

/-- Where `HttpForwardWorker::run` is. -/
inductive WorkerPhase where
  /-- At the `select!` of the loop. -/
  | running
  /-- In the loop, with a request that waits for a permit. -/
  | acquiring (request : QueuedForwardRequest)
  /-- In `drain_remaining`, receiving. -/
  | draining
  /-- In `drain_remaining`, with a request that waits for a permit. -/
  | drainAcquiring (request : QueuedForwardRequest)
  /-- In `drain_remaining`, joining the tasks that are left. -/
  | joining
  /-- After the timeout, joining the aborted tasks. -/
  | aborting
  | returned
  deriving DecidableEq

/-- The phases that the timeout of `drain_remaining` covers. -/
def WorkerPhase.isDraining : WorkerPhase → Bool
  | .draining | .drainAcquiring _ | .joining => true
  | .running | .acquiring _ | .aborting | .returned => false

/-- The phases in which the worker joins finished tasks. -/
def WorkerPhase.joins : WorkerPhase → Bool
  | .running | .joining | .aborting => true
  | .acquiring _ | .draining | .drainAcquiring _ | .returned => false

/-- The number of requests that wait for a permit. -/
def WorkerPhase.waiting : WorkerPhase → Nat
  | .acquiring _ | .drainAcquiring _ => 1
  | .running | .draining | .joining | .aborting | .returned => 0

/-- The forwarder, its worker and the tasks of the worker. -/
structure ForwardSystem where
  /-- The queue from the handles of the forwarder to the worker. -/
  queue : Channel QueuedForwardRequest
  /-- Whether a handle of the forwarder is left. -/
  senders : Bool
  /-- The calls of `try_forward` that sent a request and did not count it yet. -/
  accepting : Nat
  /-- Whether the shutdown signal was given. -/
  signalled : Bool
  phase : WorkerPhase
  tasks : List DeliveryTask
  /-- The tasks that finished and are not joined yet. -/
  completed : Nat
  /-- The tasks that broke and are not joined yet. -/
  broken : Nat
  stats : ForwarderStats
  deriving DecidableEq

/-- The forwarder and the worker that `try_channel_with_policy` returns. -/
def ForwardSystem.new (limits : ForwardLimits) : ForwardSystem where
  queue := .new limits.queueCapacity
  senders := true
  accepting := 0
  signalled := false
  phase := .running
  tasks := []
  completed := 0
  broken := 0
  stats := .zero

/-- What happens in a step. -/
inductive ForwardLabel where
  | enqueue (request : QueuedForwardRequest)
  | refuseFull
  | refuseClosed
  | countAccepted
  | dropSenders
  | signal
  | observeShutdown
  | receive
  | acquire
  | endOfQueue
  | joinCompleted
  | joinBroken
  | execute (outcome : ForwardDeliveryOutcome)
  | report (outcome : ForwardDeliveryOutcome) (sent : Bool)
  | breakTask
  | timeout
  | finish
  deriving DecidableEq

/-- A step of a call, of the worker, of one of its tasks, or of their surroundings. -/
inductive ForwardStep (limits : ForwardLimits) : ForwardSystem → ForwardLabel → ForwardSystem → Prop
  /-- `try_send` in `try_forward`. -/
  | enqueue {s : ForwardSystem} (request : QueuedForwardRequest) {queue} (hsenders : s.senders = true)
      (hsend : s.queue.trySend request = .ok queue) :
      ForwardStep limits s (.enqueue request) { s with queue, accepting := s.accepting + 1 }
  | refuseFull {s : ForwardSystem} (request : QueuedForwardRequest) (hsenders : s.senders = true)
      (hsend : s.queue.trySend request = .error .full) :
      ForwardStep limits s .refuseFull { s with stats := s.stats.recordBackpressure }
  | refuseClosed {s : ForwardSystem} (request : QueuedForwardRequest) (hsenders : s.senders = true)
      (hsend : s.queue.trySend request = .error .closed) :
      ForwardStep limits s .refuseClosed s
  /-- `record_acceptance` in `try_forward`, on a thread of its own. -/
  | countAccepted {s : ForwardSystem} {accepting : Nat} (haccepting : s.accepting = accepting + 1) :
      ForwardStep limits s .countAccepted
        { s with accepting, stats := s.stats.recordAcceptance }
  /-- The last handle goes, when no call runs on one. -/
  | dropSenders {s : ForwardSystem} (haccepting : s.accepting = 0) :
      ForwardStep limits s .dropSenders { s with senders := false }
  | signal {s : ForwardSystem} : ForwardStep limits s .signal { s with signalled := true }
  /-- The branch of `shutdown_rx.changed()`. -/
  | observeShutdown {s : ForwardSystem} (hphase : s.phase = .running)
      (hsignal : s.signalled = true) :
      ForwardStep limits s .observeShutdown { s with queue := s.queue.close, phase := .draining }
  | receive {s : ForwardSystem} {request queue} (hphase : s.phase = .running)
      (hrecv : s.queue.recv = some (request, queue)) :
      ForwardStep limits s .receive { s with queue, phase := .acquiring request }
  | drainReceive {s : ForwardSystem} {request queue} (hphase : s.phase = .draining)
      (hrecv : s.queue.recv = some (request, queue)) :
      ForwardStep limits s .receive { s with queue, phase := .drainAcquiring request }
  /-- `recv` returns `None` in the loop. -/
  | endOfQueue {s : ForwardSystem} (hphase : s.phase = .running) (hempty : s.queue.queue = [])
      (hsenders : s.senders = false) :
      ForwardStep limits s .endOfQueue { s with phase := .draining }
  /-- `recv` returns `None` in `drain_remaining`. -/
  | drainEnd {s : ForwardSystem} (hphase : s.phase = .draining) (hempty : s.queue.queue = [])
      (hover : s.senders = false ∨ s.queue.closed = true) :
      ForwardStep limits s .endOfQueue { s with phase := .joining }
  /-- A permit is free, and `spawn_delivery` takes it. -/
  | acquire {s : ForwardSystem} {request} (hphase : s.phase = .acquiring request)
      (hpermit : s.tasks.length < limits.maxInFlight) :
      ForwardStep limits s .acquire
        { s with phase := .running, tasks := s.tasks ++ [.executing request] }
  | drainAcquire {s : ForwardSystem} {request} (hphase : s.phase = .drainAcquiring request)
      (hpermit : s.tasks.length < limits.maxInFlight) :
      ForwardStep limits s .acquire
        { s with phase := .draining, tasks := s.tasks ++ [.executing request] }
  | joinCompleted {s : ForwardSystem} {completed : Nat} (hphase : s.phase.joins = true)
      (hcompleted : s.completed = completed + 1) :
      ForwardStep limits s .joinCompleted { s with completed }
  | joinBroken {s : ForwardSystem} {broken : Nat} (hphase : s.phase.joins = true)
      (hbroken : s.broken = broken + 1) :
      ForwardStep limits s .joinBroken { s with broken, stats := s.stats.recordJoinError }
  /-- `execute_request` returns, and its outcome is counted. -/
  | execute {s : ForwardSystem} {before after request} (status : ForwardDeliveryStatus)
      (htasks : s.tasks = before ++ .executing request :: after) :
      ForwardStep limits s (.execute ⟨request.eventId, request.sinkId, status⟩)
        { s with
          tasks := before ++ .recorded ⟨request.eventId, request.sinkId, status⟩ :: after
          stats := s.stats.recordOutcome ⟨request.eventId, request.sinkId, status⟩ }
  /-- The outcome is sent to the receiver of outcomes, and the task ends. -/
  | reportSent {s : ForwardSystem} {before after outcome}
      (htasks : s.tasks = before ++ .recorded outcome :: after) :
      ForwardStep limits s (.report outcome true)
        { s with tasks := before ++ after, completed := s.completed + 1 }
  /-- The outcome cannot be sent: the queue of outcomes is full or its receiver is closed. -/
  | reportDropped {s : ForwardSystem} {before after outcome}
      (htasks : s.tasks = before ++ .recorded outcome :: after) :
      ForwardStep limits s (.report outcome false)
        { s with
          tasks := before ++ after
          completed := s.completed + 1
          stats := s.stats.recordOutcomeDrop }
  /-- A task panics, or is cancelled at an await after an abort. -/
  | breakTask {s : ForwardSystem} {before after request}
      (htasks : s.tasks = before ++ .executing request :: after) :
      ForwardStep limits s .breakTask
        { s with tasks := before ++ after, broken := s.broken + 1 }
  /-- `graceful_shutdown_timeout` is over: the drain is dropped, with the request that waits for a
  permit, and the tasks are aborted. -/
  | timeout {s : ForwardSystem} (hphase : s.phase.isDraining = true) :
      ForwardStep limits s .timeout { s with phase := .aborting }
  /-- No task is left, and `run` returns. -/
  | finish {s : ForwardSystem} (hphase : s.phase = .joining ∨ s.phase = .aborting)
      (htasks : s.tasks = []) (hcompleted : s.completed = 0) (hbroken : s.broken = 0) :
      ForwardStep limits s .finish { s with queue := s.queue.drop, phase := .returned }

/-! ## The balance of a state -/

/-- The phases in which no request is taken out of the queue any more. -/
def WorkerPhase.isOver : WorkerPhase → Bool
  | .aborting | .returned => true
  | .running | .acquiring _ | .draining | .drainAcquiring _ | .joining => false

/-- The phases after the loop. -/
def WorkerPhase.isShutdown : WorkerPhase → Bool
  | .draining | .drainAcquiring _ | .joining | .aborting | .returned => true
  | .running | .acquiring _ => false

theorem WorkerPhase.isOver_aborting : WorkerPhase.aborting.isOver = true := rfl

theorem WorkerPhase.isShutdown_of_isDraining {phase : WorkerPhase}
    (h : phase.isDraining = true) : phase.isShutdown = true := by
  cases phase with
  | draining | drainAcquiring request | joining => rfl
  | running | acquiring request | aborting | returned => cases h

theorem WorkerPhase.isOver_of_isDraining {phase : WorkerPhase}
    (h : phase.isDraining = true) : phase.isOver = false := by
  cases phase with
  | draining | drainAcquiring request | joining => rfl
  | running | acquiring request | aborting | returned => cases h

theorem WorkerPhase.isOver_of_loop {phase : WorkerPhase}
    (h : phase.isShutdown = false) : phase.isOver = false := by
  cases phase with
  | running | acquiring request => rfl
  | draining | drainAcquiring request | joining | aborting | returned => cases h

namespace ForwardSystem

/-- The requests that are in the queue or wait for a permit, as long as a task can still get
them. -/
def held (s : ForwardSystem) : Nat :=
  if s.phase.isOver then 0 else s.queue.queue.length + s.phase.waiting

/-- The tasks whose exchange is running. -/
def executing (s : ForwardSystem) : Nat := s.tasks.countP DeliveryTask.isExecuting

/-- The requests that were accepted. -/
def owed (s : ForwardSystem) : Nat := s.stats.acceptedTotal + s.accepting

/-- The requests that were counted, or still can be. -/
def due (s : ForwardSystem) : Nat := s.stats.terminalTotal + s.held + s.executing + s.broken

/-- What the order of the steps keeps: nothing is sent to a worker that left its loop, and a worker
that returned has no task. -/
structure Orderly (s : ForwardSystem) : Prop where
  closing : s.phase.isShutdown = true → s.senders = false ∨ s.queue.closed = true
  emptied : s.phase = .joining → s.queue.queue = []
  finished : s.phase = .returned → s.tasks = [] ∧ s.broken = 0

theorem orderly_new (limits : ForwardLimits) : (new limits).Orderly where
  closing := (nomatch ·)
  emptied := (nomatch ·)
  finished := (nomatch ·)

/-- A request is sent only while the worker is in its loop. -/
theorem Orderly.isShutdown_eq_false {s : ForwardSystem} (h : s.Orderly) (hsenders : s.senders = true)
    (hopen : s.queue.closed = false) : s.phase.isShutdown = false := by
  by_contra hover
  have hclosing := h.closing (by simpa using hover)
  simp [hsenders, hopen] at hclosing

end ForwardSystem

open ForwardSystem

/-- The accepted requests that a step leaves to no task: those that the timeout drops. -/
def lostBy (e : Edge ForwardSystem ForwardLabel) : Nat :=
  match e.label with
  | .timeout => e.source.queue.queue.length + e.source.phase.waiting
  | _ => 0

section Steps

variable {limits : ForwardLimits} {s t : ForwardSystem} {l : ForwardLabel}

theorem ForwardStep.orderly (h : ForwardStep limits s l t) (hs : s.Orderly) : t.Orderly := by
  have hworker : s.phase = .returned → ∀ before task after, s.tasks ≠ before ++ task :: after := by
    intro hreturned before task after htasks
    simp [(hs.finished hreturned).1] at htasks
  cases h with
  | enqueue request hsenders hsend =>
    obtain ⟨hopen, -, rfl⟩ := Channel.trySend_eq_ok_iff.mp hsend
    have hloop := hs.isShutdown_eq_false hsenders hopen
    refine ⟨fun hover => ?_, fun hjoining => ?_, hs.finished⟩
    · exact absurd (hloop.symm.trans hover) (by decide)
    · have hphase : s.phase = .joining := hjoining
      simp [hphase, WorkerPhase.isShutdown] at hloop
  | refuseFull request hsenders hsend => exact ⟨hs.closing, hs.emptied, hs.finished⟩
  | refuseClosed request hsenders hsend => exact hs
  | countAccepted haccepting => exact ⟨hs.closing, hs.emptied, hs.finished⟩
  | dropSenders haccepting => exact ⟨fun _ => .inl rfl, hs.emptied, hs.finished⟩
  | signal => exact ⟨hs.closing, hs.emptied, hs.finished⟩
  | observeShutdown hphase hsignal => exact ⟨fun _ => .inr rfl, (nomatch ·), (nomatch ·)⟩
  | receive hphase hrecv => exact ⟨(nomatch ·), (nomatch ·), (nomatch ·)⟩
  | drainReceive hphase hrecv =>
    obtain ⟨-, hclosed, -⟩ := Channel.recv_eq_some_iff.mp hrecv
    have hover := hs.closing (by simp [hphase, WorkerPhase.isShutdown])
    refine ⟨fun _ => ?_, (nomatch ·), (nomatch ·)⟩
    simp only [hclosed]
    exact hover
  | endOfQueue hphase hempty hsenders => exact ⟨fun _ => .inl hsenders, (nomatch ·), (nomatch ·)⟩
  | drainEnd hphase hempty hover => exact ⟨fun _ => hover, fun _ => hempty, (nomatch ·)⟩
  | acquire hphase hpermit => exact ⟨(nomatch ·), (nomatch ·), (nomatch ·)⟩
  | drainAcquire hphase hpermit =>
    exact ⟨fun _ => hs.closing (by simp [hphase, WorkerPhase.isShutdown]), (nomatch ·), (nomatch ·)⟩
  | joinCompleted hphase hcompleted => exact ⟨hs.closing, hs.emptied, hs.finished⟩
  | joinBroken hphase hbroken =>
    refine ⟨hs.closing, hs.emptied, fun hreturned => ?_⟩
    have hphase' : s.phase = .returned := hreturned
    simp [hphase', WorkerPhase.joins] at hphase
  | execute status htasks =>
    exact ⟨hs.closing, hs.emptied, fun hreturned => absurd htasks (hworker hreturned _ _ _)⟩
  | reportSent htasks =>
    exact ⟨hs.closing, hs.emptied, fun hreturned => absurd htasks (hworker hreturned _ _ _)⟩
  | reportDropped htasks =>
    exact ⟨hs.closing, hs.emptied, fun hreturned => absurd htasks (hworker hreturned _ _ _)⟩
  | breakTask htasks =>
    exact ⟨hs.closing, hs.emptied, fun hreturned => absurd htasks (hworker hreturned _ _ _)⟩
  | timeout hphase =>
    exact ⟨fun _ => hs.closing (WorkerPhase.isShutdown_of_isDraining hphase), (nomatch ·),
      (nomatch ·)⟩
  | finish hphase htasks hcompleted hbroken =>
    exact ⟨fun _ => .inr rfl, (nomatch ·), fun _ => ⟨htasks, hbroken⟩⟩

/-- A worker that returned stays there. -/
theorem ForwardStep.returned (h : ForwardStep limits s l t) (hreturned : s.phase = .returned) :
    t.phase = .returned := by
  cases h with
  | observeShutdown hphase | receive hphase | drainReceive hphase | endOfQueue hphase
  | drainEnd hphase | acquire hphase | drainAcquire hphase => simp [hreturned] at hphase
  | timeout hphase => simp [hreturned, WorkerPhase.isDraining] at hphase
  | finish hphase => rfl
  | _ => exact hreturned

/-- A step counts what it takes away, but for what the timeout drops. -/
theorem ForwardStep.conserves (h : ForwardStep limits s l t) (hs : s.Orderly) :
    t.owed + s.due = s.owed + t.due + lostBy ⟨s, l, t⟩ := by
  cases h with
  | enqueue request hsenders hsend =>
    obtain ⟨hopen, -, rfl⟩ := Channel.trySend_eq_ok_iff.mp hsend
    have hloop := WorkerPhase.isOver_of_loop (hs.isShutdown_eq_false hsenders hopen)
    simp [owed, due, held, executing, lostBy, hloop]
    omega
  | refuseFull request hsenders hsend => simp [owed, due, held, executing, lostBy]
  | refuseClosed request hsenders hsend => simp [lostBy]
  | countAccepted haccepting =>
    simp [owed, due, held, executing, lostBy, haccepting]
    omega
  | dropSenders haccepting => simp [owed, due, held, executing, lostBy]
  | signal => simp [owed, due, held, executing, lostBy]
  | observeShutdown hphase hsignal =>
    simp [owed, due, held, executing, lostBy, WorkerPhase.isOver, WorkerPhase.waiting, hphase]
  | receive hphase hrecv | drainReceive hphase hrecv =>
    obtain ⟨hqueue, -, -⟩ := Channel.recv_eq_some_iff.mp hrecv
    simp [owed, due, held, executing, lostBy, WorkerPhase.isOver, WorkerPhase.waiting, hphase,
      hqueue]
  | endOfQueue hphase hempty hsenders | drainEnd hphase hempty hover =>
    simp [owed, due, held, executing, lostBy, WorkerPhase.isOver, WorkerPhase.waiting, hphase]
  | acquire hphase hpermit | drainAcquire hphase hpermit =>
    simp [owed, due, held, executing, lostBy, WorkerPhase.isOver, WorkerPhase.waiting,
      DeliveryTask.isExecuting, hphase]
    omega
  | joinCompleted hphase hcompleted => simp [owed, due, held, executing, lostBy]
  | joinBroken hphase hbroken =>
    simp [owed, due, held, executing, lostBy, hbroken]
    omega
  | execute status htasks =>
    simp [owed, due, held, executing, lostBy, DeliveryTask.isExecuting, htasks, List.countP_cons]
    omega
  | reportSent htasks | reportDropped htasks =>
    simp [owed, due, held, executing, lostBy, DeliveryTask.isExecuting, htasks]
  | breakTask htasks =>
    simp [owed, due, held, executing, lostBy, DeliveryTask.isExecuting, htasks, List.countP_cons]
    omega
  | timeout hphase =>
    have hserves := WorkerPhase.isOver_of_isDraining hphase
    simp [owed, due, held, executing, lostBy, WorkerPhase.isOver_aborting, hserves]
    omega
  | finish hphase htasks hcompleted hbroken =>
    rcases hphase with hjoining | haborting
    · simp [owed, due, held, executing, lostBy, WorkerPhase.isOver, WorkerPhase.waiting, hjoining,
        hs.emptied hjoining]
    · simp [owed, due, held, executing, lostBy, WorkerPhase.isOver, haborting]

end Steps

/-! ## Outcomes -/

/-- The outcome of an exchange that ends in the step. -/
def ForwardLabel.produced : ForwardLabel → Option ForwardDeliveryOutcome
  | .execute outcome => some outcome
  | _ => none

/-- The outcome that a task reports in the step. -/
def ForwardLabel.reported : ForwardLabel → Option ForwardDeliveryOutcome
  | .report outcome _ => some outcome
  | _ => none

/-- The outcomes that are counted and not yet reported. -/
def ForwardSystem.unreported (s : ForwardSystem) : List ForwardDeliveryOutcome :=
  s.tasks.filterMap fun
    | .executing _ => none
    | .recorded outcome => some outcome

/-- An outcome that a step produces is unreported until it is reported. -/
theorem ForwardStep.unreported_perm {limits : ForwardLimits} {s t : ForwardSystem} {l : ForwardLabel}
    (h : ForwardStep limits s l t) :
    (s.unreported ++ l.produced.toList).Perm (l.reported.toList ++ t.unreported) := by
  cases h with
  | execute status htasks =>
    simp only [unreported, ForwardLabel.produced, ForwardLabel.reported, htasks,
      List.filterMap_append, List.filterMap_cons, Option.toList_some, Option.toList_none,
      List.nil_append, List.append_assoc]
    exact List.Perm.append_left _ (List.perm_append_singleton _ _)
  | reportSent htasks | reportDropped htasks =>
    simp only [unreported, ForwardLabel.produced, ForwardLabel.reported, htasks,
      List.filterMap_append, List.filterMap_cons, Option.toList_some, Option.toList_none,
      List.append_nil, List.singleton_append]
    exact List.perm_middle
  | breakTask htasks =>
    simp [unreported, ForwardLabel.produced, ForwardLabel.reported, htasks]
  | acquire hphase hpermit | drainAcquire hphase hpermit =>
    simp [unreported, ForwardLabel.produced, ForwardLabel.reported]
  | _ => simp [unreported, ForwardLabel.produced, ForwardLabel.reported]

/-! ## Finished runs -/

section Runs

variable {limits : ForwardLimits} {s : ForwardSystem} {es : List (Edge ForwardSystem ForwardLabel)}

/-- Along every run what was accepted is what is counted or can be, and what was dropped. -/
theorem owed_eq (h : Run (ForwardStep limits) (.new limits) es s) :
    s.owed = s.due + (es.map lostBy).sum := by
  have hbalance := h.history
    (fun past t => t.Orderly ∧ t.owed = t.due + (past.map lostBy).sum)
    (by
      rintro past a l b ⟨horderly, howed⟩ hstep
      have hconserves := hstep.conserves horderly
      refine ⟨hstep.orderly horderly, ?_⟩
      simp only [List.map_append, List.map_cons, List.map_nil, List.sum_append, List.sum_cons,
        List.sum_nil]
      omega)
    ⟨orderly_new limits, rfl⟩
  exact hbalance.2

/-- In a finished run the requests that were accepted are those that were counted and those that
the timeout dropped. -/
theorem accepted_eq (h : Run (ForwardStep limits) (.new limits) es s) (hphase : s.phase = .returned)
    (haccepting : s.accepting = 0) :
    s.stats.acceptedTotal = s.stats.terminalTotal + (es.map lostBy).sum := by
  have horderly := (h.invariant' Orderly (fun _ _ _ => ForwardStep.orderly) (orderly_new limits)).1
  obtain ⟨htasks, hbroken⟩ := horderly.finished hphase
  have howed := owed_eq h
  simp [owed, due, held, executing, WorkerPhase.isOver, hphase, haccepting, htasks, hbroken]
    at howed
  exact howed

/-- A step drops no request if and only if it is no timeout with a request that no task has. -/
theorem lostBy_eq_zero_iff (e : Edge ForwardSystem ForwardLabel) : lostBy e = 0 ↔
    (e.label = .timeout → e.source.queue.queue = [] ∧ e.source.phase.waiting = 0) := by
  obtain ⟨source, label, target⟩ := e
  cases label with
  | timeout => simp [lostBy, List.length_eq_zero_iff]
  | _ => simp [lostBy]

/-- When the worker and every call returned, every accepted request is counted in exactly one
terminal counter, if and only if the timeout of the drain never finds a request in the queue or
waiting for a permit. -/
theorem accepted_counted_iff (h : Run (ForwardStep limits) (.new limits) es s)
    (hphase : s.phase = .returned) (haccepting : s.accepting = 0) :
    s.stats.acceptedTotal = s.stats.terminalTotal ↔
      ∀ e ∈ es, e.label = .timeout → e.source.queue.queue = [] ∧ e.source.phase.waiting = 0 := by
  have haccepted := accepted_eq h hphase haccepting
  calc s.stats.acceptedTotal = s.stats.terminalTotal
      ↔ (es.map lostBy).sum = 0 := by omega
    _ ↔ ∀ e ∈ es, lostBy e = 0 := by
      simp [List.sum_eq_zero_iff_forall_eq_nat]
    _ ↔ ∀ e ∈ es, e.label = .timeout → e.source.queue.queue = [] ∧ e.source.phase.waiting = 0 := by
      simp only [lostBy_eq_zero_iff]

/-- A phase in which requests are still taken out of the queue comes after such phases only. -/
theorem ForwardStep.isOver_eq_false {t : ForwardSystem} {l : ForwardLabel}
    (h : ForwardStep limits s l t) (ht : t.phase.isOver = false) : s.phase.isOver = false := by
  cases h with
  | observeShutdown hphase | receive hphase | drainReceive hphase | endOfQueue hphase
  | drainEnd hphase | acquire hphase | drainAcquire hphase =>
    rw [hphase]
    rfl
  | timeout hphase => cases ht
  | finish hphase => cases ht
  | _ => exact ht

/-- The queue holds no more than its capacity. -/
def QueueBounded (limits : ForwardLimits) (s : ForwardSystem) : Prop :=
  s.queue.capacity = limits.queueCapacity ∧ s.queue.queue.length ≤ limits.queueCapacity

theorem ForwardStep.queueBounded {t : ForwardSystem} {l : ForwardLabel} (h : ForwardStep limits s l t)
    (hs : QueueBounded limits s) : QueueBounded limits t := by
  obtain ⟨hcapacity, hlength⟩ := hs
  cases h with
  | enqueue request hsenders hsend =>
    obtain ⟨-, hroom, rfl⟩ := Channel.trySend_eq_ok_iff.mp hsend
    refine ⟨hcapacity, ?_⟩
    rw [List.length_append, List.length_singleton]
    omega
  | receive hphase hrecv | drainReceive hphase hrecv =>
    obtain ⟨hqueue, -, hsame⟩ := Channel.recv_eq_some_iff.mp hrecv
    refine ⟨hsame.trans hcapacity, ?_⟩
    rw [hqueue, List.length_cons] at hlength
    exact Nat.le_of_succ_le hlength
  | finish hphase htasks hcompleted hbroken => exact ⟨hcapacity, Nat.zero_le _⟩
  | _ => exact ⟨hcapacity, hlength⟩

/-- A step drops nothing, or is the timeout and drops the queue and one more request at most. -/
theorem ForwardStep.lostBy_le {t : ForwardSystem} {l : ForwardLabel} (h : ForwardStep limits s l t)
    (hs : QueueBounded limits s) : lostBy ⟨s, l, t⟩ = 0 ∨ s.phase.isOver = false ∧
      t.phase.isOver = true ∧ lostBy ⟨s, l, t⟩ ≤ limits.queueCapacity + 1 := by
  cases h with
  | timeout hphase =>
    have hwaiting : s.phase.waiting ≤ 1 := by cases s.phase <;> simp [WorkerPhase.waiting]
    exact .inr ⟨WorkerPhase.isOver_of_isDraining hphase, rfl, Nat.add_le_add hs.2 hwaiting⟩
  | _ => exact .inl rfl

/-- A run drops at most what the queue holds and one request that waits for a permit, since it has
at most one timeout. -/
theorem lost_le (h : Run (ForwardStep limits) (.new limits) es s) :
    (es.map lostBy).sum ≤ limits.queueCapacity + 1 := by
  have hbounded := h.history
    (fun past t => QueueBounded limits t ∧ (t.phase.isOver = false → (past.map lostBy).sum = 0) ∧
      (past.map lostBy).sum ≤ limits.queueCapacity + 1)
    (by
      rintro past a l b ⟨hqueue, hnone, hsum⟩ hstep
      have hover := hstep.isOver_eq_false
      simp only [List.map_append, List.map_cons, List.map_nil, List.sum_append, List.sum_cons,
        List.sum_nil, Nat.add_zero]
      rcases hstep.lostBy_le hqueue with hzero | ⟨ha, hb, hlost⟩
      · rw [hzero, Nat.add_zero]
        exact ⟨hstep.queueBounded hqueue, fun h => hnone (hover h), hsum⟩
      · rw [hnone ha, Nat.zero_add]
        exact ⟨hstep.queueBounded hqueue, fun h => absurd (hb.symm.trans h) nofun, hlost⟩)
    ⟨⟨rfl, Nat.zero_le _⟩, fun _ => rfl, Nat.zero_le _⟩
  exact hbounded.2.2

/-- In a finished run the two sides of a snapshot are equal when they are equal as numbers, since
`mpsc::channel` panics on a capacity above `usize::MAX >> 3`. -/
theorem snapshot_counted_iff (h : Run (ForwardStep limits) (.new limits) es s)
    (hphase : s.phase = .returned) (haccepting : s.accepting = 0)
    (hcapacity : limits.queueCapacity ≤ 2 ^ 61 - 1) :
    s.stats.snapshot.acceptedTotal = s.stats.snapshot.terminalTotal ↔
      s.stats.acceptedTotal = s.stats.terminalTotal := by
  have haccepted := accepted_eq h hphase haccepting
  have hlost := lost_le h
  rw [ForwarderStats.terminalTotal_snapshot]
  show UInt64.ofNat s.stats.acceptedTotal = _ ↔ _
  rw [← UInt64.toNat_inj, UInt64.toNat_ofNat', UInt64.toNat_ofNat']
  omega

end Runs

/-- Limits with one request in flight. -/
def oneInFlight : ForwardLimits := { ForwardLimits.default with maxInFlight := 1 }

/-- A forward to the historian. -/
def historianForward (event : String) : QueuedForwardRequest :=
  ⟨⟨event⟩, ⟨"historian"⟩, ⟨⟨"https", some (.domain "historian.example")⟩, .post, [], .fromMillis 500⟩,
    []⟩

/-- A forward that is accepted, delivered and reported before the shutdown. -/
theorem historianForward_run : ∃ es s, Run (ForwardStep oneInFlight) (.new oneInFlight) es s ∧
    s.phase = .returned ∧ s.accepting = 0 ∧ s.stats.acceptedTotal = 1 ∧
      s.stats.deliveredTotal = 1 :=
  ⟨_, _,
    .cons (.enqueue (historianForward "e1") rfl rfl) <|
    .cons (.countAccepted rfl) <|
    .cons (.receive rfl rfl) <|
    .cons (.acquire rfl (by decide)) <|
    .cons (.execute (.delivered 200 0) (List.nil_append _).symm) <|
    .cons (.reportSent (List.nil_append _).symm) <|
    .cons (.joinCompleted rfl rfl) <|
    .cons .signal <|
    .cons (.observeShutdown rfl rfl) <|
    .cons (.drainEnd rfl rfl (.inr rfl)) <|
    .cons (.finish (.inl rfl) rfl rfl rfl) <| .nil _, rfl, rfl, rfl, rfl⟩

theorem accepted_counted_iff_historian :
    ∃ es s, Run (ForwardStep oneInFlight) (.new oneInFlight) es s ∧ s.stats.acceptedTotal = 1 ∧
      (s.stats.acceptedTotal = s.stats.terminalTotal ↔
        ∀ e ∈ es, e.label = .timeout → e.source.queue.queue = [] ∧ e.source.phase.waiting = 0) := by
  obtain ⟨es, s, hrun, hphase, haccepting, haccepted, -⟩ := historianForward_run
  exact ⟨es, s, hrun, haccepted, accepted_counted_iff hrun hphase haccepting⟩

/-- Two forwards are accepted.  The first is in flight and the second waits for its permit when the
timeout fires: the first is counted as failed, the second is not counted. -/
theorem accepted_not_counted : ¬ ∀ limits es s, Run (ForwardStep limits) (.new limits) es s →
    s.phase = .returned → s.accepting = 0 → s.stats.acceptedTotal = s.stats.terminalTotal := by
  intro hcounted
  have hrun : ∃ es s, Run (ForwardStep oneInFlight) (.new oneInFlight) es s ∧
      s.phase = .returned ∧ s.accepting = 0 ∧ s.stats.acceptedTotal = 2 ∧
      s.stats.terminalTotal = 1 :=
    ⟨_, _,
      .cons (.enqueue (historianForward "e1") rfl rfl) <|
      .cons (.countAccepted rfl) <|
      .cons (.enqueue (historianForward "e2") rfl rfl) <|
      .cons (.countAccepted rfl) <|
      .cons (.receive rfl rfl) <|
      .cons (.acquire rfl (by decide)) <|
      .cons .signal <|
      .cons (.observeShutdown rfl rfl) <|
      .cons (.drainReceive rfl rfl) <|
      .cons (.timeout rfl) <|
      .cons (.breakTask (List.nil_append _).symm) <|
      .cons (.joinBroken rfl rfl) <|
      .cons (.finish (.inr rfl) rfl rfl rfl) <| .nil _, rfl, rfl, rfl, rfl⟩
  obtain ⟨es, s, hrun, hphase, haccepting, haccepted, hterminal⟩ := hrun
  have heq := hcounted oneInFlight es s hrun hphase haccepting
  omega

end Core
end PipeBolt
