import PipeBolt.Api.FilterChanges
import PipeBolt.Lib.Lossy

/-!
# The event stream of a realtime subscription

`realtime_sse` of `pipe_bolt_api::realtime`: one task turns what a broadcast receiver is given into
server-sent events, until the runtime is gone or the client leaves.

* `ReceiverKept`: what was published is what the receiver was given, told of, or is still to get.
* `SseKept.step`: what one step keeps.
* `Drained`: what a stream whose runtime is gone still does (`drained_run`).
* `SseExact`, `sse_exact`: what a client has been sent, in every run.
-/

namespace PipeBolt
namespace Api

open Domain LossyChannel Transition
open scoped List

/-! ## Receivers -/

namespace BroadcastReceiver

variable {rx rx' : BroadcastReceiver} {event : NormalizedEvent} {skipped : Nat}
  {pending : List NormalizedEvent}

theorem recv_of_skipped (h : 0 < rx.skipped) :
    rx.recv = some (.error (.lagged rx.skipped), { rx with skipped := 0 }) := if_pos h

theorem recv_of_pending (h : rx.skipped = 0) (hpending : rx.pending = event :: pending) :
    rx.recv = some (.ok event, { rx with pending }) := by
  rw [recv, if_neg (Nat.not_lt.mpr (Nat.le_of_eq h)), hpending]

theorem recv_of_empty (h : rx.skipped = 0) (hpending : rx.pending = []) :
    rx.recv = if rx.closed then some (.error .closed, rx) else none := by
  rw [recv, if_neg (Nat.not_lt.mpr (Nat.le_of_eq h)), hpending]

/-- What a receiver is given, and what it is like before. -/
theorem recv_eq_some {received : Except BroadcastRecvError NormalizedEvent}
    (h : rx.recv = some (received, rx')) :
    (0 < rx.skipped ∧ received = .error (.lagged rx.skipped) ∧ rx' = { rx with skipped := 0 }) ∨
    (∃ event pending, rx.skipped = 0 ∧ rx.pending = event :: pending ∧ received = .ok event ∧
      rx' = { rx with pending }) ∨
    (rx.skipped = 0 ∧ rx.pending = [] ∧ rx.closed = true ∧ received = .error .closed) := by
  by_cases hpos : 0 < rx.skipped
  · rw [recv_of_skipped hpos] at h
    cases h
    exact .inl ⟨hpos, rfl, rfl⟩
  · have hzero : rx.skipped = 0 := Nat.eq_zero_of_not_pos hpos
    cases hpending : rx.pending with
    | nil =>
      rw [recv_of_empty hzero hpending] at h
      obtain ⟨hclosed, heq⟩ := Option.ite_none_right_eq_some.mp h
      cases heq
      exact .inr (.inr ⟨hzero, rfl, hclosed, rfl⟩)
    | cons event pending =>
      rw [recv_of_pending hzero hpending] at h
      cases h
      exact .inr (.inl ⟨event, pending, hzero, rfl, rfl, rfl⟩)

theorem recv_eq_ok (h : rx.recv = some (.ok event, rx')) :
    rx.skipped = 0 ∧ ∃ pending, rx.pending = event :: pending ∧ rx' = { rx with pending } := by
  rcases recv_eq_some h with ⟨-, heq, -⟩ | ⟨_, pending, hzero, hpending, heq, hrx⟩ | ⟨-, -, -, heq⟩
  · cases heq
  · cases heq
    exact ⟨hzero, pending, hpending, hrx⟩
  · cases heq

theorem recv_eq_lagged (h : rx.recv = some (.error (.lagged skipped), rx')) :
    0 < rx.skipped ∧ skipped = rx.skipped ∧ rx' = { rx with skipped := 0 } := by
  rcases recv_eq_some h with ⟨hpos, heq, hrx⟩ | ⟨_, _, -, -, heq, -⟩ | ⟨-, -, -, heq⟩
  · cases heq
    exact ⟨hpos, rfl, hrx⟩
  · cases heq
  · cases heq

theorem recv_eq_closed (h : rx.recv = some (.error .closed, rx')) :
    rx.skipped = 0 ∧ rx.pending = [] ∧ rx.closed = true := by
  rcases recv_eq_some h with ⟨-, heq, -⟩ | ⟨_, _, -, -, heq, -⟩ | ⟨hzero, hpending, hclosed, -⟩
  · cases heq
  · cases heq
  · exact ⟨hzero, hpending, hclosed⟩

/-- What a receiver is still to be given: that events are lost, and then those that wait. -/
def waiting (rx : BroadcastReceiver) : List (Received NormalizedEvent) :=
  (if 0 < rx.skipped then [.lagged rx.skipped] else []) ++ rx.pending.map .value

theorem waiting_of_ok (h : rx.recv = some (.ok event, rx')) :
    rx.waiting = .value event :: rx'.waiting := by
  obtain ⟨hzero, pending, hpending, rfl⟩ := recv_eq_ok h
  have hnone : ¬ 0 < rx.skipped := Nat.not_lt.mpr (Nat.le_of_eq hzero)
  rw [waiting, waiting, if_neg hnone, hpending]
  rfl

theorem waiting_of_lagged (h : rx.recv = some (.error (.lagged skipped), rx')) :
    rx.waiting = .lagged skipped :: rx'.waiting := by
  obtain ⟨hpos, rfl, rfl⟩ := recv_eq_lagged h
  rw [waiting, if_pos hpos]
  rfl

theorem waiting_of_closed (h : rx.recv = some (.error .closed, rx')) : rx.waiting = [] := by
  obtain ⟨hzero, hpending, -⟩ := recv_eq_closed h
  rw [waiting, if_neg (Nat.not_lt.mpr (Nat.le_of_eq hzero)), hpending]
  rfl

/-- To receive from a closed channel is never to wait. -/
theorem exists_recv (hclosed : rx.closed = true) :
    ∃ received rx', rx.recv = some (received, rx') := by
  by_cases hpos : 0 < rx.skipped
  · exact ⟨_, _, recv_of_skipped hpos⟩
  · have hzero : rx.skipped = 0 := Nat.eq_zero_of_not_pos hpos
    cases hpending : rx.pending with
    | nil =>
      rw [recv_of_empty hzero hpending, if_pos hclosed]
      exact ⟨_, _, rfl⟩
    | cons event pending => exact ⟨_, _, recv_of_pending hzero hpending⟩

/-- What is received keeps the channel closed. -/
theorem recv_closed {received : Except BroadcastRecvError NormalizedEvent}
    (h : rx.recv = some (received, rx')) (hclosed : rx.closed = true)
    (hevent : received ≠ .error .closed) : rx'.closed = true := by
  rcases recv_eq_some h with ⟨-, -, rfl⟩ | ⟨_, _, -, -, -, rfl⟩ | ⟨-, -, -, heq⟩
  · exact hclosed
  · exact hclosed
  · exact absurd heq hevent

end BroadcastReceiver

/-- A receiver that was given receipts for some of what was published: it has room for what waits,
and loses events only when it is full. -/
structure ReceiverKept (published : List NormalizedEvent) (got : List (Received NormalizedEvent))
    (rx : BroadcastReceiver) : Prop where
  accounts : Accounts published got rx.skipped rx.pending
  room : rx.pending.length ≤ rx.capacity
  full : 0 < rx.skipped → rx.pending.length = rx.capacity

section Receiver

variable {published : List NormalizedEvent} {got : List (Received NormalizedEvent)}
  {rx rx' : BroadcastReceiver} {event : NormalizedEvent} {skipped : Nat}

theorem receiverKept_subscribe (capacity : Nat) : ReceiverKept [] [] (.subscribe capacity) :=
  ⟨.new, Nat.zero_le _, nofun⟩

theorem ReceiverKept.send (h : ReceiverKept published got rx) (event : NormalizedEvent) :
    ReceiverKept (published ++ [event]) got (rx.send event) := by
  have hsent := h.accounts.send event
  unfold BroadcastReceiver.send
  split
  · next hroom =>
    have hlength : (rx.pending ++ [event]).length ≤ rx.capacity := by
      rw [List.length_append]
      exact hroom
    refine ⟨hsent, hlength, fun hpos => ?_⟩
    exact absurd (h.full hpos) (Nat.ne_of_lt hroom)
  · next hfull =>
    have hlength : rx.pending.length = rx.capacity := by
      have := h.room
      omega
    obtain ⟨first, rest, heq⟩ := List.exists_cons_of_ne_nil
      (List.append_ne_nil_of_right_ne_nil rx.pending (List.cons_ne_nil event []))
    have htail : (rx.pending ++ [event]).tail.length = rx.capacity := by
      rw [List.length_tail, List.length_append, hlength]
      rfl
    rw [heq] at hsent
    refine ⟨?_, Nat.le_of_eq htail, fun _ => htail⟩
    show Accounts (published ++ [event]) got (rx.skipped + 1) (rx.pending ++ [event]).tail
    rw [heq]
    exact hsent.displace

theorem ReceiverKept.close (h : ReceiverKept published got rx) :
    ReceiverKept published got { rx with closed := true } :=
  ⟨h.accounts, h.room, h.full⟩

theorem ReceiverKept.ok (h : ReceiverKept published got rx)
    (hrecv : rx.recv = some (.ok event, rx')) :
    ReceiverKept published (got ++ [.value event]) rx' := by
  obtain ⟨hzero, pending, hpending, rfl⟩ := BroadcastReceiver.recv_eq_ok hrecv
  obtain ⟨haccounts, hroom, -⟩ := h
  rw [hzero, hpending] at haccounts
  rw [hpending, List.length_cons] at hroom
  refine ⟨?_, Nat.le_of_succ_le hroom, fun hpos => absurd hzero (Nat.ne_of_gt hpos)⟩
  show Accounts published (got ++ [.value event]) rx.skipped pending
  rw [hzero]
  exact haccounts.value

theorem ReceiverKept.lagged (h : ReceiverKept published got rx)
    (hrecv : rx.recv = some (.error (.lagged skipped), rx')) :
    ReceiverKept published (got ++ [.lagged skipped]) rx' := by
  obtain ⟨hpos, rfl, rfl⟩ := BroadcastReceiver.recv_eq_lagged hrecv
  exact ⟨h.accounts.lagged hpos, h.room, nofun⟩

/-- A receiver that is told that the channel is closed has been given everything. -/
theorem ReceiverKept.closed (h : ReceiverKept published got rx)
    (hrecv : rx.recv = some (.error .closed, rx')) : Covers published got := by
  obtain ⟨hzero, hpending, -⟩ := BroadcastReceiver.recv_eq_closed hrecv
  have haccounts := h.accounts
  rw [hzero, hpending] at haccounts
  exact haccounts.covers

end Receiver

/-! ## The stream -/

/-- `SseEvent`, by its name and its data. -/
structure SseEvent where
  name : String
  data : String
  deriving DecidableEq, Repr

/-- What the stream uses of other crates: beside JSON, the text of the error with which a message is
not written. -/
structure SseCrates extends RealtimeCrates where
  toJsonError : RealtimeServerMessage → String

/-- `sse_json_event`. -/
def sseJsonEvent (crates : SseCrates) (name : String) (value : RealtimeServerMessage) : SseEvent :=
  match crates.toJson value with
  | some data => ⟨name, data⟩
  | none => ⟨"error", s!"failed to serialize realtime event: {crates.toJsonError value}"⟩

/-- Where the stream is. -/
inductive SsePhase where
  /-- The `Ready` message is yielded next. -/
  | starting
  | looping
  | ended
  deriving DecidableEq, Repr

/-- A call of `realtime_sse`, from its `stream!` on. -/
structure SseStream where
  filter : RealtimeFilter
  rx : BroadcastReceiver
  phase : SsePhase

/-- The start of the stream. -/
def SseStream.new (filter : RealtimeFilter) (rx : BroadcastReceiver) : SseStream :=
  ⟨filter, rx, .starting⟩

/-- What happens in a step. -/
inductive SseLabel where
  /-- The runtime sends an event, or is gone. -/
  | published (event : NormalizedEvent)
  | runtimeGone
  /-- The `Ready` message is yielded. -/
  | ready (frame : SseEvent)
  /-- `rx.recv()` returns, and an event of the stream is yielded or not. -/
  | received (receipt : Received NormalizedEvent) (frame : Option SseEvent)
  | finished
  /-- The client is gone. -/
  | dropped

/-- A step of the runtime or of the stream. -/
inductive SseStep (crates : SseCrates) : SseStream → SseLabel → SseStream → Prop
  | publish {s : SseStream} (event : NormalizedEvent) (hopen : s.rx.closed = false) :
      SseStep crates s (.published event) { s with rx := s.rx.send event }
  | runtimeGone {s : SseStream} (hopen : s.rx.closed = false) :
      SseStep crates s .runtimeGone { s with rx := { s.rx with closed := true } }
  | ready {s : SseStream} (hphase : s.phase = .starting) :
      SseStep crates s (.ready (sseJsonEvent crates "ready" (.ready "sse" s.filter)))
        { s with phase := .looping }
  | filtered {s : SseStream} {event rx} (hphase : s.phase = .looping)
      (hrecv : s.rx.recv = some (.ok event, rx)) (hmatches : s.filter.matches event = false) :
      SseStep crates s (.received (.value event) none) { s with rx }
  | event {s : SseStream} {event rx} (hphase : s.phase = .looping)
      (hrecv : s.rx.recv = some (.ok event, rx)) (hmatches : s.filter.matches event = true) :
      SseStep crates s (.received (.value event)
        (some (sseJsonEvent crates "event" (.event (.fromEvent crates.toRealtimeCrates event)))))
        { s with rx }
  | lagged {s : SseStream} {skipped rx} (hphase : s.phase = .looping)
      (hrecv : s.rx.recv = some (.error (.lagged skipped), rx)) :
      SseStep crates s (.received (.lagged skipped)
        (some (sseJsonEvent crates "lagged" (.lagged skipped)))) { s with rx }
  | closed {s : SseStream} {rx} (hphase : s.phase = .looping)
      (hrecv : s.rx.recv = some (.error .closed, rx)) :
      SseStep crates s .finished { s with phase := .ended }
  | dropped {s : SseStream} (hphase : s.phase ≠ .ended) :
      SseStep crates s .dropped { s with phase := .ended }

/-- A step that is taken. -/
abbrev SseEdge := Edge SseStream SseLabel

/-! ## What a client has been sent -/

namespace SseLabel

/-- The event that the runtime sends. -/
def published? : SseLabel → Option NormalizedEvent
  | .published event => some event
  | .runtimeGone | .ready _ | .received _ _ | .finished | .dropped => none

/-- What the receiver is given. -/
def received? : SseLabel → Option (Received NormalizedEvent)
  | .received receipt _ => some receipt
  | .published _ | .runtimeGone | .ready _ | .finished | .dropped => none

theorem received?_eq_some {label : SseLabel} {receipt : Received NormalizedEvent}
    (h : label.received? = some receipt) : ∃ frame, label = .received receipt frame := by
  cases label with
  | received receipt' frame =>
    cases h
    exact ⟨frame, rfl⟩
  | published | runtimeGone | ready | finished | dropped => cases h

/-- What is yielded. -/
def yielded? : SseLabel → Option SseEvent
  | .ready frame => some frame
  | .received _ frame => frame
  | .published _ | .runtimeGone | .finished | .dropped => none

end SseLabel

/-- What is published in a run. -/
def publishedBy (es : List SseEdge) : List NormalizedEvent :=
  (es.map Edge.label).filterMap SseLabel.published?

/-- What the receiver is given in a run. -/
def receivedBy (es : List SseEdge) : List (Received NormalizedEvent) :=
  (es.map Edge.label).filterMap SseLabel.received?

/-- What is yielded in a run. -/
def yieldedBy (es : List SseEdge) : List SseEvent :=
  (es.map Edge.label).filterMap SseLabel.yielded?

/-- The events of the stream for what the receiver is given. -/
def renderReceipt (crates : SseCrates) (filter : RealtimeFilter) :
    Received NormalizedEvent → Option SseEvent
  | .value event =>
    if filter.matches event then
      some (sseJsonEvent crates "event" (.event (.fromEvent crates.toRealtimeCrates event)))
    else none
  | .lagged skipped => some (sseJsonEvent crates "lagged" (.lagged skipped))

/-- The first event of the stream. -/
def readyFrame (crates : SseCrates) (filter : RealtimeFilter) : SseEvent :=
  sseJsonEvent crates "ready" (.ready "sse" filter)

section Logs

variable (es : List SseEdge) (s t : SseStream) (label : SseLabel)

theorem publishedBy_snoc :
    publishedBy (es ++ [⟨s, label, t⟩]) = publishedBy es ++ label.published?.toList := by
  rw [publishedBy, List.map_append]
  exact filterMap_snoc ..

theorem receivedBy_snoc :
    receivedBy (es ++ [⟨s, label, t⟩]) = receivedBy es ++ label.received?.toList := by
  rw [receivedBy, List.map_append]
  exact filterMap_snoc ..

theorem mem_labels_snoc {other : SseLabel} :
    other ∈ (es ++ [(⟨s, label, t⟩ : SseEdge)]).map Edge.label ↔
      other ∈ es.map Edge.label ∨ other = label := by
  rw [List.map_append, List.mem_append]
  exact or_congr_right List.mem_singleton

theorem yieldedBy_snoc :
    yieldedBy (es ++ [⟨s, label, t⟩]) = yieldedBy es ++ label.yielded?.toList := by
  rw [yieldedBy, List.map_append]
  exact filterMap_snoc ..

end Logs

/-- What a step does to the receiver, and what the client is sent for it. -/
theorem SseStep.receiver {crates : SseCrates} {s t : SseStream} {label : SseLabel}
    (h : SseStep crates s label t) {published : List NormalizedEvent}
    {got : List (Received NormalizedEvent)} (hs : ReceiverKept published got s.rx) :
    ReceiverKept (published ++ label.published?.toList) (got ++ label.received?.toList) t.rx := by
  cases h with
  | publish event hopen =>
    rw [show (SseLabel.published event).received?.toList = [] from rfl, List.append_nil]
    exact hs.send event
  | filtered hphase hrecv hmatches | event hphase hrecv hmatches =>
    rw [show (SseLabel.received _ _).published?.toList = [] from rfl, List.append_nil]
    exact hs.ok hrecv
  | lagged hphase hrecv =>
    rw [show (SseLabel.received _ _).published?.toList = [] from rfl, List.append_nil]
    exact hs.lagged hrecv
  | runtimeGone hopen =>
    exact (List.append_nil published).symm ▸ (List.append_nil got).symm ▸ hs.close
  | ready hphase | closed hphase hrecv | dropped hphase =>
    exact (List.append_nil published).symm ▸ (List.append_nil got).symm ▸ hs

/-- What is yielded is what the receipt is rendered to. -/
theorem SseStep.yielded {crates : SseCrates} {s t : SseStream} {receipt : Received NormalizedEvent}
    {frame : Option SseEvent} (h : SseStep crates s (.received receipt frame) t) :
    s.phase = .looping ∧ t.phase = .looping ∧ frame = renderReceipt crates s.filter receipt := by
  cases h with
  | filtered hphase hrecv hmatches =>
    refine ⟨hphase, hphase, ?_⟩
    rw [renderReceipt, if_neg (Bool.eq_false_iff.mp hmatches)]
  | event hphase hrecv hmatches =>
    refine ⟨hphase, hphase, ?_⟩
    rw [renderReceipt, if_pos hmatches]
  | lagged hphase hrecv => exact ⟨hphase, hphase, rfl⟩

/-- The subscription is never changed. -/
theorem SseStep.filter_eq {crates : SseCrates} {s t : SseStream} {label : SseLabel}
    (h : SseStep crates s label t) : t.filter = s.filter := by
  cases h <;> rfl

/-- What a stream keeps. -/
structure SseKept (crates : SseCrates) (filter : RealtimeFilter) (es : List SseEdge)
    (s : SseStream) : Prop where
  subscription : s.filter = filter
  receiver : ReceiverKept (publishedBy es) (receivedBy es) s.rx
  starting : s.phase = .starting → yieldedBy es = [] ∧ receivedBy es = []
  looping : s.phase = .looping → yieldedBy es =
    readyFrame crates filter :: (receivedBy es).filterMap (renderReceipt crates filter)
  ended : s.phase = .ended → yieldedBy es = [] ∧ receivedBy es = [] ∨ yieldedBy es =
    readyFrame crates filter :: (receivedBy es).filterMap (renderReceipt crates filter)
  finished : .finished ∈ es.map Edge.label →
    s.phase = .ended ∧ s.rx.closed = true ∧ Covers (publishedBy es) (receivedBy es)

section Kept

variable {crates : SseCrates} {filter : RealtimeFilter} {capacity : Nat} {es fs : List SseEdge}
  {s t : SseStream} {label : SseLabel}

theorem sseKept_new (crates : SseCrates) (filter : RealtimeFilter) (capacity : Nat) :
    SseKept crates filter [] (.new filter (.subscribe capacity)) :=
  ⟨rfl, receiverKept_subscribe capacity, fun _ => ⟨rfl, rfl⟩, nofun, nofun, nofun⟩

/-- A step of the runtime: nothing is yielded and nothing received. -/
theorem SseKept.outside (hs : SseKept crates filter es s) (h : SseStep crates s label t)
    (hyielded : label.yielded? = none) (hreceived : label.received? = none)
    (hphase : t.phase = s.phase) (hlabel : label ≠ .finished)
    (hclosed : s.rx.closed = true → t.rx.closed = true ∧ label.published? = none) :
    SseKept crates filter (es ++ [⟨s, label, t⟩]) t := by
  have hr : receivedBy (es ++ [⟨s, label, t⟩]) = receivedBy es := by
    rw [receivedBy_snoc, hreceived]
    exact List.append_nil _
  have hy : yieldedBy (es ++ [⟨s, label, t⟩]) = yieldedBy es := by
    rw [yieldedBy_snoc, hyielded]
    exact List.append_nil _
  refine ⟨h.filter_eq.trans hs.subscription, ?_, ?_, ?_, ?_, ?_⟩
  · rw [publishedBy_snoc, receivedBy_snoc]
    exact h.receiver hs.receiver
  · rw [hphase, hr, hy]
    exact hs.starting
  · rw [hphase, hr, hy]
    exact hs.looping
  · rw [hphase, hr, hy]
    exact hs.ended
  · intro hmem
    rw [mem_labels_snoc] at hmem
    obtain ⟨hended, hgone, hcovers⟩ := hs.finished (hmem.resolve_right hlabel.symm)
    obtain ⟨hstays, hnone⟩ := hclosed hgone
    refine ⟨hphase.trans hended, hstays, ?_⟩
    rw [publishedBy_snoc, hr, hnone]
    exact (List.append_nil (publishedBy es)).symm ▸ hcovers

/-- Every step keeps it. -/
theorem SseKept.step (hs : SseKept crates filter es s) (h : SseStep crates s label t) :
    SseKept crates filter (es ++ [⟨s, label, t⟩]) t := by
  have hnot (hphase : s.phase ≠ .ended) : .finished ∉ es.map Edge.label :=
    fun hmem => hphase (hs.finished hmem).1
  have hreceiver : ReceiverKept (publishedBy (es ++ [⟨s, label, t⟩]))
      (receivedBy (es ++ [⟨s, label, t⟩])) t.rx := by
    rw [publishedBy_snoc, receivedBy_snoc]
    exact h.receiver hs.receiver
  cases hlabel : label with
  | published event =>
    subst hlabel
    cases h with
    | publish event hopen =>
      refine hs.outside (.publish event hopen) rfl rfl rfl nofun fun hclosed => ?_
      rw [hopen] at hclosed
      cases hclosed
  | runtimeGone =>
    subst hlabel
    cases h with
    | runtimeGone hopen =>
      exact hs.outside (.runtimeGone hopen) rfl rfl rfl nofun fun _ => ⟨rfl, rfl⟩
  | ready frame =>
    subst hlabel
    cases h with
    | ready hphase =>
      obtain ⟨hyielded, hreceived⟩ := hs.starting hphase
      refine ⟨hs.subscription, hreceiver, nofun, fun _ => ?_, nofun, fun hmem => ?_⟩
      · rw [yieldedBy_snoc, receivedBy_snoc, hyielded, hreceived, hs.subscription]
        rfl
      · rw [mem_labels_snoc] at hmem
        exact absurd (hmem.resolve_right nofun) (hnot (by rw [hphase]; nofun))
  | received receipt frame =>
    subst hlabel
    obtain ⟨hsource, htarget, hframe⟩ := h.yielded
    refine ⟨h.filter_eq.trans hs.subscription, hreceiver, ?_, fun _ => ?_, ?_, fun hmem => ?_⟩
    · rw [htarget]
      nofun
    · rw [yieldedBy_snoc, receivedBy_snoc, hs.looping hsource, SseLabel.received?,
        Option.toList_some, filterMap_snoc, ← hs.subscription, ← hframe]
      rfl
    · rw [htarget]
      nofun
    · rw [mem_labels_snoc] at hmem
      exact absurd (hmem.resolve_right nofun) (hnot (by rw [hsource]; nofun))
  | finished =>
    subst hlabel
    cases h with
    | closed hphase hrecv =>
      have hcovers := hs.receiver.closed hrecv
      obtain ⟨-, -, hclosed⟩ := BroadcastReceiver.recv_eq_closed hrecv
      have hp : publishedBy (es ++ [⟨s, .finished, { s with phase := .ended }⟩]) =
          publishedBy es := by
        rw [publishedBy_snoc]
        exact List.append_nil _
      have hr : receivedBy (es ++ [⟨s, .finished, { s with phase := .ended }⟩]) =
          receivedBy es := by
        rw [receivedBy_snoc]
        exact List.append_nil _
      refine ⟨hs.subscription, hreceiver, nofun, nofun, fun _ => .inr ?_,
        fun _ => ⟨rfl, hclosed, ?_⟩⟩
      · rw [yieldedBy_snoc, hr, hs.looping hphase]
        exact List.append_nil _
      · rw [hp, hr]
        exact hcovers
  | dropped =>
    subst hlabel
    cases h with
    | dropped hphase =>
      have hr : receivedBy (es ++ [⟨s, .dropped, { s with phase := .ended }⟩]) =
          receivedBy es := by
        rw [receivedBy_snoc]
        exact List.append_nil _
      have hy : yieldedBy (es ++ [⟨s, .dropped, { s with phase := .ended }⟩]) = yieldedBy es := by
        rw [yieldedBy_snoc]
        exact List.append_nil _
      refine ⟨hs.subscription, hreceiver, nofun, nofun, fun _ => ?_, fun hmem => ?_⟩
      · rw [hr, hy]
        cases hbefore : s.phase with
        | starting => exact .inl (hs.starting hbefore)
        | looping => exact .inr (hs.looping hbefore)
        | ended => exact absurd hbefore hphase
      · rw [mem_labels_snoc] at hmem
        exact absurd (hmem.resolve_right nofun) (hnot hphase)

theorem SseKept.run (h : Run (SseStep crates) (.new filter (.subscribe capacity)) es s) :
    SseKept crates filter es s :=
  h.history (fun es s => SseKept crates filter es s)
    (fun _ _ _ _ hs hstep => hs.step hstep) (sseKept_new crates filter capacity)

/-- What the client has been sent, wherever the stream is. -/
theorem SseKept.yielded_eq (hs : SseKept crates filter es s) :
    yieldedBy es = [] ∧ receivedBy es = [] ∨ yieldedBy es =
      readyFrame crates filter :: (receivedBy es).filterMap (renderReceipt crates filter) := by
  cases hphase : s.phase with
  | starting => exact .inl (hs.starting hphase)
  | looping => exact .inr (hs.looping hphase)
  | ended => exact hs.ended hphase

/-! ## Streams that keep up -/

/-- Nothing is published over a full receiver. -/
def KeepsUp (es : List SseEdge) : Prop :=
  ∀ e ∈ es, e.label.published? ≠ none → e.source.rx.pending.length < e.source.rx.capacity

/-- A receiver that keeps up loses nothing. -/
theorem SseStep.skipped_eq_zero (h : SseStep crates s label t)
    (hroom : label.published? ≠ none → s.rx.pending.length < s.rx.capacity)
    (hs : s.rx.skipped = 0) :
    t.rx.skipped = 0 ∧ ∀ skipped frame, label ≠ .received (.lagged skipped) frame := by
  cases h with
  | publish event hopen =>
    refine ⟨?_, nofun⟩
    show (s.rx.send event).skipped = 0
    rw [BroadcastReceiver.send, if_pos (hroom nofun)]
    exact hs
  | filtered hphase hrecv hmatches | event hphase hrecv hmatches =>
    obtain ⟨-, pending, -, rfl⟩ := BroadcastReceiver.recv_eq_ok hrecv
    exact ⟨hs, nofun⟩
  | lagged hphase hrecv =>
    obtain ⟨hpos, -, -⟩ := BroadcastReceiver.recv_eq_lagged hrecv
    exact absurd hs (Nat.ne_of_gt hpos)
  | runtimeGone hopen | ready hphase | closed hphase hrecv | dropped hphase => exact ⟨hs, nofun⟩

/-- A stream that keeps up has been given everything that does not wait. -/
theorem KeepsUp.received_eq (h : Run (SseStep crates) (.new filter (.subscribe capacity)) es s)
    (hkeeps : KeepsUp es) :
    ∃ seen, publishedBy es = seen ++ s.rx.pending ∧ receivedBy es = seen.map .value := by
  have hinv := h.invariant (fun s => s.rx.skipped = 0)
    (fun e : SseEdge =>
      e.label.published? ≠ none → e.source.rx.pending.length < e.source.rx.capacity)
    (fun e hok hstep hs => (hstep.skipped_eq_zero hok hs).1) hkeeps rfl
  have hnever : ∀ skipped, .lagged skipped ∉ receivedBy es := by
    intro skipped hmem
    obtain ⟨label, hmap, hreceived⟩ := List.mem_filterMap.mp hmem
    obtain ⟨e, he, rfl⟩ := List.mem_map.mp hmap
    have hnot := ((h.step_of_mem e he).skipped_eq_zero (hkeeps e he) (hinv.2 e he).1).2
    obtain ⟨frame, hlabel⟩ := SseLabel.received?_eq_some hreceived
    exact hnot skipped frame hlabel
  obtain ⟨seen, lost, hpublished, hcovers, hlost⟩ := (SseKept.run h).receiver.accounts
  obtain rfl := List.length_eq_zero_iff.mp (hlost.trans hinv.1)
  refine ⟨seen, ?_, hcovers.eq_values hnever⟩
  rw [hpublished, List.append_nil]

/-! ## Streams that end -/

/-- How many steps a stream whose runtime is gone still takes at most. -/
def SseStream.work (s : SseStream) : Nat :=
  match s.phase with
  | .starting => s.rx.waiting.length + 2
  | .looping => s.rx.waiting.length + 1
  | .ended => 0

/-- A step of a stream whose runtime is gone. -/
structure Draining (crates : SseCrates) (s : SseStream) (label : SseLabel) (t : SseStream) :
    Prop where
  closed : t.rx.closed = true
  silent : label.published? = none
  received : s.rx.waiting = label.received?.toList ++ t.rx.waiting
  yielded : s.phase ≠ .starting → t.phase ≠ .starting ∧
    label.yielded? = label.received?.bind (renderReceipt crates s.filter)
  work : t.work < s.work
  finished : label = .finished → s.rx.waiting = []

/-- A receipt takes one step, and leaves the rest of what waits. -/
theorem SseStep.draining_received {receipt : Received NormalizedEvent} {frame : Option SseEvent}
    (h : SseStep crates s (.received receipt frame) t) (hclosed : t.rx.closed = true)
    (hwaiting : s.rx.waiting = receipt :: t.rx.waiting) :
    Draining crates s (.received receipt frame) t := by
  obtain ⟨hsource, htarget, hframe⟩ := h.yielded
  refine ⟨hclosed, rfl, hwaiting, fun _ => ⟨?_, hframe⟩, ?_, nofun⟩
  · rw [htarget]
    exact nofun
  · rw [SseStream.work, SseStream.work, hsource, htarget, hwaiting]
    exact Nat.lt_succ_self _

theorem SseStep.draining (h : SseStep crates s label t) (hclosed : s.rx.closed = true) :
    Draining crates s label t := by
  cases h with
  | publish event hopen | runtimeGone hopen =>
    rw [hclosed] at hopen
    cases hopen
  | ready hphase =>
    refine ⟨hclosed, rfl, rfl, fun hstarted => absurd hphase hstarted, ?_, nofun⟩
    rw [SseStream.work, SseStream.work, hphase]
    exact Nat.lt_succ_self _
  | filtered hphase hrecv hmatches =>
    exact (SseStep.filtered hphase hrecv hmatches).draining_received
      (BroadcastReceiver.recv_closed hrecv hclosed nofun) (BroadcastReceiver.waiting_of_ok hrecv)
  | event hphase hrecv hmatches =>
    exact (SseStep.event hphase hrecv hmatches).draining_received
      (BroadcastReceiver.recv_closed hrecv hclosed nofun) (BroadcastReceiver.waiting_of_ok hrecv)
  | lagged hphase hrecv =>
    exact (SseStep.lagged hphase hrecv).draining_received
      (BroadcastReceiver.recv_closed hrecv hclosed nofun)
      (BroadcastReceiver.waiting_of_lagged hrecv)
  | closed hphase hrecv =>
    refine ⟨hclosed, rfl, rfl, fun _ => ⟨nofun, rfl⟩, ?_,
      fun _ => BroadcastReceiver.waiting_of_closed hrecv⟩
    rw [SseStream.work, SseStream.work, hphase]
    exact Nat.succ_pos _
  | dropped hphase =>
    refine ⟨hclosed, rfl, rfl, fun _ => ⟨nofun, rfl⟩, ?_, nofun⟩
    have hpos : 0 < s.work := by
      rw [SseStream.work]
      cases hcase : s.phase with
      | starting => exact Nat.succ_pos _
      | looping => exact Nat.succ_pos _
      | ended => exact absurd hcase hphase
    exact hpos

/-- A stream whose runtime is gone can take a step of its own until it has ended. -/
theorem exists_draining_step (hclosed : s.rx.closed = true) (hphase : s.phase ≠ .ended) :
    ∃ label t, SseStep crates s label t ∧ label ≠ .dropped := by
  cases hcase : s.phase with
  | starting => exact ⟨_, _, .ready hcase, nofun⟩
  | ended => exact absurd hcase hphase
  | looping =>
    obtain ⟨received, rx, hrecv⟩ := BroadcastReceiver.exists_recv hclosed
    match received, hrecv with
    | .ok event, hrecv =>
      cases hmatches : s.filter.matches event with
      | true => exact ⟨_, _, .event hcase hrecv hmatches, nofun⟩
      | false => exact ⟨_, _, .filtered hcase hrecv hmatches, nofun⟩
    | .error (.lagged skipped), hrecv => exact ⟨_, _, .lagged hcase hrecv, nofun⟩
    | .error .closed, hrecv => exact ⟨_, _, .closed hcase hrecv, nofun⟩

/-- What a stream whose runtime is gone does. -/
structure Drained (crates : SseCrates) (s : SseStream) (fs : List SseEdge) (t : SseStream) :
    Prop where
  /-- It can only be given what waits, and send what that is rendered to. -/
  silent : publishedBy fs = []
  received : s.rx.waiting = receivedBy fs ++ t.rx.waiting
  yielded : s.phase ≠ .starting →
    yieldedBy fs = (receivedBy fs).filterMap (renderReceipt crates s.filter)
  /-- It takes a step for each of it, and one for `Ready` and one for its end. -/
  bounded : fs.length ≤ s.rx.waiting.length + 2
  progress : t.phase ≠ .ended → ∃ label u, SseStep crates t label u ∧ label ≠ .dropped
  /-- When it ends by itself it was given everything. -/
  finished : .finished ∈ fs.map Edge.label → receivedBy fs = s.rx.waiting

theorem SseStream.work_le (s : SseStream) : s.work ≤ s.rx.waiting.length + 2 := by
  rw [SseStream.work]
  cases s.phase with
  | starting => exact Nat.le_refl _
  | looping => exact Nat.le_succ _
  | ended => exact Nat.zero_le _

/-- **A stream whose runtime is gone ends**, after everything that waits, whatever it does. -/
theorem drained_run (h : Run (SseStep crates) s fs t) (hclosed : s.rx.closed = true) :
    Drained crates s fs t := by
  have hinv : t.rx.closed = true ∧ publishedBy fs = [] ∧
      s.rx.waiting = receivedBy fs ++ t.rx.waiting ∧
      (s.phase ≠ .starting →
        yieldedBy fs = (receivedBy fs).filterMap (renderReceipt crates s.filter)) ∧
      fs.length + t.work ≤ s.work ∧
      (.finished ∈ fs.map Edge.label → receivedBy fs = s.rx.waiting) := by
    induction h with
    | nil s => exact ⟨hclosed, rfl, rfl, fun _ => rfl, Nat.le_of_eq (Nat.zero_add _), nofun⟩
    | @cons s u t label fs hstep _ ih =>
      have hdraining := hstep.draining hclosed
      obtain ⟨hstays, hsilent, hreceived, hyielded, hwork, hfinished⟩ := ih hdraining.closed
      have hfirst : receivedBy (⟨s, label, u⟩ :: fs) =
          label.received?.toList ++ receivedBy fs := by
        rw [receivedBy, List.map_cons, List.filterMap_cons]
        cases label.received? <;> rfl
      refine ⟨hstays, ?_, ?_, fun hphase => ?_, ?_, fun hmem => ?_⟩
      · rw [publishedBy, List.map_cons, List.filterMap_cons_none hdraining.silent]
        exact hsilent
      · rw [hfirst, List.append_assoc, ← hreceived]
        exact hdraining.received
      · obtain ⟨hphase', hframe⟩ := hdraining.yielded hphase
        have hrest := hyielded hphase'
        rw [hstep.filter_eq] at hrest
        have hone : yieldedBy (⟨s, label, u⟩ :: fs) = label.yielded?.toList ++ yieldedBy fs := by
          rw [yieldedBy, List.map_cons, List.filterMap_cons]
          cases label.yielded? <;> rfl
        rw [hone, hfirst, List.filterMap_append, hrest, hframe]
        cases label.received? with
        | none => rfl
        | some receipt =>
          rw [Option.bind_some, Option.toList_some, List.filterMap_cons, List.filterMap_nil]
          cases renderReceipt crates s.filter receipt <;> rfl
      · have hless := hdraining.work
        rw [List.length_cons]
        omega
      · rw [hfirst, hdraining.received]
        rcases List.mem_cons.mp hmem with hhead | htail
        · have hempty := hdraining.finished hhead.symm
          rw [hdraining.received, List.append_eq_nil_iff] at hempty
          have hnothing := hempty.2
          rw [hreceived, List.append_eq_nil_iff] at hnothing
          rw [hempty.2, hnothing.1]
        · rw [hfinished htail]
  obtain ⟨hstays, hsilent, hreceived, hyielded, hwork, hfinished⟩ := hinv
  exact ⟨hsilent, hreceived, hyielded, (Nat.le_of_add_right_le hwork).trans s.work_le,
    exists_draining_step hstays, hfinished⟩

end Kept

/-! ## Every run of the stream -/

/-- What a client of the stream has been sent. -/
structure SseExact (crates : SseCrates) (filter : RealtimeFilter) (es : List SseEdge)
    (s : SseStream) : Prop where
  /-- The client is sent `Ready` first, and then what each receipt is rendered to. -/
  yielded : yieldedBy es = [] ∧ receivedBy es = [] ∨ yieldedBy es =
    readyFrame crates filter :: (receivedBy es).filterMap (renderReceipt crates filter)
  /-- Events are received in the order in which they were published, each at most once. -/
  ordered : (receivedBy es).filterMap Received.value? ++ s.rx.pending <+ publishedBy es
  /-- Every event is received, counted as lost, or waits. -/
  accounted : (publishedBy es).length =
    total (receivedBy es) + s.rx.skipped + s.rx.pending.length
  /-- Events are lost only over a full receiver. -/
  lossless : KeepsUp es →
    ∃ seen, publishedBy es = seen ++ s.rx.pending ∧ receivedBy es = seen.map .value
  /-- A stream that has ended by itself accounts for every event. -/
  finished : .finished ∈ es.map Edge.label → Covers (publishedBy es) (receivedBy es)
  /-- Once the runtime is gone the stream can only send what waits, whatever happens, and ends. -/
  drained : s.rx.closed = true → ∀ fs t, Run (SseStep crates) s fs t → Drained crates s fs t

/-- **What the client of a stream has been sent**, in every run. -/
theorem sse_exact (crates : SseCrates) (filter : RealtimeFilter) (capacity : Nat)
    {es : List SseEdge} {s : SseStream}
    (h : Run (SseStep crates) (.new filter (.subscribe capacity)) es s) :
    SseExact crates filter es s := by
  have hkept := SseKept.run h
  exact ⟨hkept.yielded_eq, hkept.receiver.accounts.sublist, hkept.receiver.accounts.total_eq,
    KeepsUp.received_eq h, fun hmem => (hkept.finished hmem).2.2,
    fun hclosed fs t hrun => drained_run hrun hclosed⟩

/-- The crates of a stream that is sent `staleEvent`. -/
def overrunCrates : SseCrates where
  toRealtimeCrates :=
    { staleCrates with
      toJson := fun
        | .ready transport _ => some ("\x7b\"type\":\"ready\",\"transport\":\"" ++ transport ++
          "\",\"filter\":\x7b\"device_id\":null,\"topic\":null,\"topic_prefix\":null," ++
          "\"event_type\":null,\"route_id\":null\x7d\x7d")
        | .lagged skipped =>
          some ("\x7b\"type\":\"lagged\",\"skipped\":" ++ toString skipped ++ "\x7d")
        | message => staleCrates.toJson message }
  toJsonError := fun _ => "key must be a string"

/-- Two events are published before the stream of a receiver for one is polled, and then the runtime
is gone. -/
theorem sse_exact_overrun : ∃ es s fs t,
    Run (SseStep overrunCrates) (.new anyFilter (.subscribe 1)) es s ∧
      s.rx.waiting = [.lagged 1, .value staleEvent] ∧ s.rx.closed = true ∧
      SseExact overrunCrates anyFilter es s ∧
      Run (SseStep overrunCrates) s fs t ∧ fs.length = 4 ∧ .finished ∈ fs.map Edge.label ∧
      receivedBy (es ++ fs) = [.lagged 1, .value staleEvent] ∧
      SseExact overrunCrates anyFilter (es ++ fs) t := by
  have hrun : Run (SseStep overrunCrates) (.new anyFilter (.subscribe 1)) _ _ :=
    .cons (.publish staleEvent rfl) <|
    .cons (.publish staleEvent rfl) <|
    .cons (.runtimeGone rfl) <| .nil _
  have hrest : Run (SseStep overrunCrates)
      ⟨anyFilter, ⟨1, [staleEvent], 1, true⟩, .starting⟩ _ _ :=
    .cons (.ready rfl) <|
    .cons (.lagged rfl rfl) <|
    .cons (.event rfl rfl rfl) <|
    .cons (.closed rfl rfl) <| .nil _
  exact ⟨_, _, _, _, hrun, rfl, rfl, sse_exact overrunCrates anyFilter 1 hrun, hrest, rfl,
    List.mem_map.mpr ⟨_, List.mem_of_getLast? rfl, rfl⟩, rfl,
    sse_exact overrunCrates anyFilter 1 (hrun.append hrest)⟩

end Api
end PipeBolt
