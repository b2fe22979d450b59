import PipeBolt.Api.WebSocket

/-!
# The two tasks of a socket, on two threads

The telemetry task and the socket loop of `handle_socket` run on a multi-threaded runtime.  The
telemetry task reads the filter and sends a message in two steps, and the socket loop may accept a
`Subscribe` between them.  Where the message finds the outbound queue full a close message is sent
in a third step, and the loop may take a message out of the queue before it.  `SocketStep` takes
such an iteration as a whole.

* `ThreadStep`: the steps of the two tasks, with an iteration of the telemetry task cut where it
  touches a channel.
* `SocketRun.threads`: the sessions of `SocketStep` are those in which nothing comes in between.
* `SocketSession.accepts`, `SocketSession.sends`: what a step does to the filter and to the queue.
-/

namespace PipeBolt
namespace Api

open Domain BoundedChannel Transition
open scoped List

/-! ## Threads -/

/-- What the telemetry task holds between two steps of an iteration. -/
inductive TelemetryHold where
  /-- It waits in its `select!`. -/
  | nothing
  /-- `filter_rx.changed()` has returned. -/
  | changed
  | update (filter : RealtimeFilter)
  | received (event : NormalizedEvent)
  | compared (event : NormalizedEvent) (filter : RealtimeFilter)
  | lagged (skipped : Nat)
  /-- A message has found the outbound queue full. -/
  | refused

/-- A call of `handle_socket` whose tasks run on two threads. -/
structure SocketThreads where
  session : SocketSession
  hold : TelemetryHold

/-- The start of `handle_socket`. -/
def SocketThreads.new (filter : RealtimeFilter) (events : BroadcastReceiver) : SocketThreads :=
  ⟨.new filter events, .nothing⟩

/-- The telemetry task sends a message, up to the close message for a full queue. -/
def SocketSession.say (crates : RealtimeCrates) (s : SocketSession)
    (message : RealtimeServerMessage) : SocketThreads :=
  match crates.toJson message with
  | none => ⟨s.endTelemetry, .nothing⟩
  | some text =>
    match s.outbound.trySend (.text text) with
    | .ok outbound => ⟨{ s with outbound }, .nothing⟩
    | .error .full => ⟨s, .refused⟩
    | .error .closed => ⟨s.endTelemetry, .nothing⟩

/-- The outbound channel after the close message for a full queue. -/
def SocketSession.closeOutbound (s : SocketSession) : Channel WsMessage :=
  match s.outbound.trySend (.close (some (1011, "client send queue full"))) with
  | .ok outbound => outbound
  | .error _ => s.outbound

/-- The steps of a session that are one step of a thread: all but the messages of the telemetry
task.  The task ends and is aborted only where it holds nothing. -/
def SocketLabel.Whole (hold : TelemetryHold) : SocketLabel → Prop
  | .ready | .filterChanged | .event _ | .lagged _ => False
  | .filterGone | .eventsClosed | .aborted => hold = .nothing
  | .published _ | .runtimeGone | .heartbeat _ | .outbound _ | .outboundClosed | .inbound _
  | .inboundEnded => True

/-- What happens in a step of a thread. -/
inductive ThreadLabel where
  | whole (label : SocketLabel)
  | ready (filter : RealtimeFilter)
  | seeChange
  | readChange (filter : RealtimeFilter)
  | announce (filter : RealtimeFilter)
  | receive (event : NormalizedEvent)
  | readFilter (event : NormalizedEvent) (filter : RealtimeFilter)
  | enqueue (event : NormalizedEvent) (filter : RealtimeFilter)
  | skip (event : NormalizedEvent) (filter : RealtimeFilter)
  | receiveLagged (skipped : Nat)
  | enqueueLagged (skipped : Nat)
  | closeFull

/-- A step of one of the threads. -/
inductive ThreadStep (crates : RealtimeCrates) :
    SocketThreads → ThreadLabel → SocketThreads → Prop
  | whole {s : SocketSession} {hold label t} (hwhole : SocketLabel.Whole hold label)
      (hstep : SocketStep crates s label t) :
      ThreadStep crates ⟨s, hold⟩ (.whole label) ⟨t, hold⟩
  | ready {s : SocketSession} {filter} (hphase : s.telemetry = .starting filter) :
      ThreadStep crates ⟨s, .nothing⟩ (.ready filter)
        ({ s with telemetry := .looping }.say crates (.ready "websocket" filter))
  /-- `filter_rx.changed()`. -/
  | seeChange {s : SocketSession} (hphase : s.telemetry = .looping)
      (hunseen : s.filterSeen = false) :
      ThreadStep crates ⟨s, .nothing⟩ .seeChange ⟨{ s with filterSeen := true }, .changed⟩
  /-- `filter_rx.borrow().clone()`, after a change. -/
  | readChange {s : SocketSession} :
      ThreadStep crates ⟨s, .changed⟩ (.readChange s.filter) ⟨s, .update s.filter⟩
  | announce {s : SocketSession} {filter} :
      ThreadStep crates ⟨s, .update filter⟩ (.announce filter)
        (s.say crates (.filterUpdated filter))
  /-- `rx.recv()`. -/
  | receive {s : SocketSession} {event events} (hphase : s.telemetry = .looping)
      (hrecv : s.events.recv = some (.ok event, events)) :
      ThreadStep crates ⟨s, .nothing⟩ (.receive event) ⟨{ s with events }, .received event⟩
  /-- `filter_rx.borrow().clone()`, for an event. -/
  | readFilter {s : SocketSession} {event} :
      ThreadStep crates ⟨s, .received event⟩ (.readFilter event s.filter)
        ⟨s, .compared event s.filter⟩
  | enqueue {s : SocketSession} {event} {filter : RealtimeFilter}
      (hmatches : filter.matches event = true) :
      ThreadStep crates ⟨s, .compared event filter⟩ (.enqueue event filter)
        (s.say crates (.event (.fromEvent crates event)))
  | skip {s : SocketSession} {event} {filter : RealtimeFilter}
      (hmatches : filter.matches event = false) :
      ThreadStep crates ⟨s, .compared event filter⟩ (.skip event filter) ⟨s, .nothing⟩
  | receiveLagged {s : SocketSession} {skipped events} (hphase : s.telemetry = .looping)
      (hrecv : s.events.recv = some (.error (.lagged skipped), events)) :
      ThreadStep crates ⟨s, .nothing⟩ (.receiveLagged skipped)
        ⟨{ s with events }, .lagged skipped⟩
  | enqueueLagged {s : SocketSession} {skipped} :
      ThreadStep crates ⟨s, .lagged skipped⟩ (.enqueueLagged skipped)
        (s.say crates (.lagged skipped))
  /-- The second `try_send` of `send_json_message`: the queue may have room again. -/
  | closeFull {s : SocketSession} :
      ThreadStep crates ⟨s, .refused⟩ .closeFull
        ⟨{ s with outbound := s.closeOutbound }.endTelemetry, .nothing⟩

/-! ## Sessions without preemption -/

section Threads

variable {crates : RealtimeCrates} {s t : SocketSession} {label : SocketLabel}
  {es : List (Edge SocketSession SocketLabel)}

/-- A message that the telemetry task sends, with nothing in between. -/
theorem exists_say (crates : RealtimeCrates) (s : SocketSession)
    (message : RealtimeServerMessage) :
    ∃ fs, Run (ThreadStep crates) (s.say crates message) fs
      ⟨s.telemetrySend crates message, .nothing⟩ := by
  unfold SocketSession.say SocketSession.telemetrySend sendJsonMessage
  cases crates.toJson message with
  | none => exact ⟨[], .nil _⟩
  | some text =>
    cases htry : s.outbound.trySend (.text text) with
    | ok outbound =>
      simp only [htry]
      exact ⟨[], .nil _⟩
    | error error =>
      cases error with
      | closed =>
        simp only [htry]
        exact ⟨[], .nil _⟩
      | full =>
        have hclose : Run (ThreadStep crates) ⟨s, .refused⟩ _ _ := .cons .closeFull (.nil _)
        unfold SocketSession.closeOutbound at hclose
        cases hsend : s.outbound.trySend (.close (some (1011, "client send queue full"))) with
        | ok outbound =>
          simp only [htry, hsend] at hclose ⊢
          exact ⟨_, hclose⟩
        | error error =>
          simp only [htry, hsend] at hclose ⊢
          exact ⟨_, hclose⟩

/-- A step of a session is taken by the threads, with nothing in between. -/
theorem SocketStep.threads (h : SocketStep crates s label t) :
    ∃ fs, Run (ThreadStep crates) ⟨s, .nothing⟩ fs ⟨t, .nothing⟩ := by
  have hone (hwhole : SocketLabel.Whole .nothing label) :
      ∃ fs, Run (ThreadStep crates) ⟨s, .nothing⟩ fs ⟨t, .nothing⟩ :=
    ⟨_, .cons (.whole hwhole h) (.nil _)⟩
  cases h with
  | ready hphase =>
    obtain ⟨fs, hsay⟩ := exists_say crates { s with telemetry := .looping } _
    exact ⟨_, .cons (.ready hphase) hsay⟩
  | filterChanged hphase hunseen =>
    obtain ⟨fs, hsay⟩ := exists_say crates { s with filterSeen := true } _
    exact ⟨_, .cons (.seeChange hphase hunseen) <| .cons .readChange <| .cons .announce hsay⟩
  | @event event events hphase hrecv hmatches =>
    obtain ⟨fs, hsay⟩ := exists_say crates { s with events } _
    exact ⟨_, .cons (.receive hphase hrecv) <| .cons .readFilter <|
      .cons (.enqueue hmatches) hsay⟩
  | eventFiltered hphase hrecv hmatches =>
    exact ⟨_, .cons (.receive hphase hrecv) <| .cons .readFilter <|
      .cons (.skip hmatches) <| .nil _⟩
  | @lagged skipped events hphase hrecv =>
    obtain ⟨fs, hsay⟩ := exists_say crates { s with events } _
    exact ⟨_, .cons (.receiveLagged hphase hrecv) <| .cons .enqueueLagged hsay⟩
  | publish | runtimeGone | heartbeat | heartbeatLate | deliver | notDelivered | outboundClosed
  | inbound | inboundRefused | inboundEnded => exact hone trivial
  | filterGone | eventsClosed | abort => exact hone rfl

/-- The sessions in which an iteration of the telemetry task is not preempted are sessions of the
threads. -/
theorem SocketRun.threads (h : Run (SocketStep crates) s es t) :
    ∃ fs, Run (ThreadStep crates) ⟨s, .nothing⟩ fs ⟨t, .nothing⟩ := by
  induction h with
  | nil s => exact ⟨[], .nil _⟩
  | cons hst _ ih =>
    obtain ⟨fs, hfs⟩ := hst.threads
    obtain ⟨gs, hgs⟩ := ih
    exact ⟨fs ++ gs, hfs.append hgs⟩

end Threads

/-! ## Filters that are accepted -/

/-- The filter that a message of a client subscribes to. -/
def subscribed (crates : RealtimeCrates) : WsMessage → Option RealtimeFilter
  | .text text =>
    match crates.fromJson text with
    | .ok (.subscribe filter) => some filter.normalized
    | .ok .ping | .error _ => none
  | .binary _ | .ping _ | .pong _ | .close _ => none

/-- The filter of a `Subscribe` that is accepted. -/
def SocketSession.accepts (crates : RealtimeCrates) (s : SocketSession) :
    SocketLabel → Option RealtimeFilter
  | .inbound message =>
    match s.handleClientMessage crates message with
    | (.ok (), _) => subscribed crates message
    | (.error (), _) => none
  | _ => none

/-- The telemetry task enqueues a message. -/
def SocketSession.sends (crates : RealtimeCrates) (s : SocketSession)
    (message : RealtimeServerMessage) : Bool :=
  (sendJsonMessage crates s.outbound message).1.isOk

section Accepted

variable {crates : RealtimeCrates} {s t : SocketSession} {label : SocketLabel}
  {message : RealtimeServerMessage}

@[simp] theorem endTelemetry_filter : s.endTelemetry.filter = s.filter := rfl
@[simp] theorem endTelemetry_filterSeen : s.endTelemetry.filterSeen = s.filterSeen := rfl
@[simp] theorem endTelemetry_events : s.endTelemetry.events = s.events := rfl
@[simp] theorem endTelemetry_telemetry : s.endTelemetry.telemetry = .ended := rfl

@[simp] theorem endSocket_filter : s.endSocket.filter = s.filter := rfl
@[simp] theorem endSocket_filterSeen : s.endSocket.filterSeen = s.filterSeen := rfl
@[simp] theorem endSocket_events : s.endSocket.events = s.events := rfl
@[simp] theorem endSocket_telemetry : s.endSocket.telemetry = s.telemetry := rfl

/-- A message that the telemetry task sends touches its outbound channel, and ends it where it
cannot be enqueued. -/
theorem telemetrySend_eq (crates : RealtimeCrates) (s : SocketSession)
    (message : RealtimeServerMessage) : ∃ outbound,
    s.telemetrySend crates message =
      if s.sends crates message then { s with outbound } else { s with outbound }.endTelemetry := by
  unfold SocketSession.telemetrySend SocketSession.sends
  cases hsend : sendJsonMessage crates s.outbound message with
  | mk result outbound =>
    refine ⟨outbound, ?_⟩
    cases result with
    | ok => rfl
    | error => rfl

@[simp] theorem telemetrySend_filter : (s.telemetrySend crates message).filter = s.filter := by
  obtain ⟨outbound, heq⟩ := telemetrySend_eq crates s message
  rw [heq]
  split <;> rfl

@[simp] theorem telemetrySend_filterSeen :
    (s.telemetrySend crates message).filterSeen = s.filterSeen := by
  obtain ⟨outbound, heq⟩ := telemetrySend_eq crates s message
  rw [heq]
  split <;> rfl

@[simp] theorem telemetrySend_events : (s.telemetrySend crates message).events = s.events := by
  obtain ⟨outbound, heq⟩ := telemetrySend_eq crates s message
  rw [heq]
  split <;> rfl

/-- A message of the telemetry task is put into the outbound channel, or ends the task, or is about
to. -/
theorem say_cases (crates : RealtimeCrates) (s : SocketSession) (message : RealtimeServerMessage) :
    (s.sends crates message = true ∧ ∃ outbound,
        s.say crates message = ⟨{ s with outbound }, .nothing⟩) ∨
      s.sends crates message = false ∧ (s.say crates message = ⟨s.endTelemetry, .nothing⟩ ∨
        s.say crates message = ⟨s, .refused⟩) := by
  unfold SocketSession.say SocketSession.sends sendJsonMessage
  cases crates.toJson message with
  | none => exact .inr ⟨rfl, .inl rfl⟩
  | some text =>
    cases htry : s.outbound.trySend (.text text) with
    | ok outbound =>
      simp only [htry]
      exact .inl ⟨rfl, outbound, rfl⟩
    | error error =>
      cases error with
      | closed =>
        simp only [htry]
        exact .inr ⟨rfl, .inl trivial⟩
      | full =>
        simp only [htry]
        cases s.outbound.trySend (.close (some (1011, "client send queue full"))) with
        | ok outbound => exact .inr ⟨rfl, .inr trivial⟩
        | error error => exact .inr ⟨rfl, .inr trivial⟩

/-- A message of the telemetry task touches its outbound channel and what it holds. -/
theorem say_session {α : Type} (f : SocketSession → α)
    (houtbound : ∀ outbound, f { s with outbound } = f s) (hended : f s.endTelemetry = f s) :
    f (s.say crates message).session = f s := by
  rcases say_cases crates s message with ⟨-, outbound, heq⟩ | ⟨-, heq | heq⟩
  · rw [heq]
    exact houtbound outbound
  · rw [heq]
    exact hended
  · rw [heq]

@[simp] theorem say_filter : (s.say crates message).session.filter = s.filter :=
  say_session SocketSession.filter (fun _ => rfl) rfl

@[simp] theorem say_filterSeen : (s.say crates message).session.filterSeen = s.filterSeen :=
  say_session SocketSession.filterSeen (fun _ => rfl) rfl

@[simp] theorem say_events : (s.say crates message).session.events = s.events :=
  say_session SocketSession.events (fun _ => rfl) rfl

theorem say_hold (crates : RealtimeCrates) (s : SocketSession) (message : RealtimeServerMessage) :
    (s.say crates message).hold = .nothing ∨ (s.say crates message).hold = .refused := by
  rcases say_cases crates s message with ⟨-, outbound, heq⟩ | ⟨-, heq | heq⟩
  · rw [heq]
    exact .inl rfl
  · rw [heq]
    exact .inl rfl
  · rw [heq]
    exact .inr rfl

/-- What a message of the client does to the filter, and to what the telemetry task knows of it. -/
theorem handleClientMessage_filter {message : WsMessage} {result : Except Unit Unit}
    (h : s.handleClientMessage crates message = (result, t)) :
    t.events = s.events ∧ t.telemetry = s.telemetry ∧
      ((result = .ok () ∧ subscribed crates message = some t.filter ∧ t.filterSeen = false) ∨
        ((result = .ok () → subscribed crates message = none) ∧ t.filter = s.filter ∧
          t.filterSeen = s.filterSeen)) := by
  cases message with
  | close frame =>
    obtain ⟨rfl, rfl⟩ := Prod.mk.inj h
    exact ⟨rfl, rfl, .inr ⟨fun _ => rfl, rfl, rfl⟩⟩
  | ping bytes =>
    obtain ⟨rfl, rfl⟩ := Prod.mk.inj h
    exact ⟨rfl, rfl, .inr ⟨fun _ => rfl, rfl, rfl⟩⟩
  | pong bytes =>
    obtain ⟨rfl, rfl⟩ := Prod.mk.inj h
    exact ⟨rfl, rfl, .inr ⟨fun _ => rfl, rfl, rfl⟩⟩
  | binary bytes =>
    obtain ⟨rfl, rfl⟩ := Prod.mk.inj h
    exact ⟨rfl, rfl, .inr ⟨fun _ => rfl, rfl, rfl⟩⟩
  | text text =>
    unfold SocketSession.handleClientMessage at h
    cases hjson : crates.fromJson text with
    | error error =>
      have hsubscribed : subscribed crates (.text text) = none := by simp only [subscribed, hjson]
      simp only [hjson] at h
      obtain ⟨rfl, rfl⟩ := Prod.mk.inj h
      exact ⟨rfl, rfl, .inr ⟨fun _ => hsubscribed, rfl, rfl⟩⟩
    | ok request =>
      cases request with
      | ping =>
        have hsubscribed : subscribed crates (.text text) = none := by simp only [subscribed, hjson]
        simp only [hjson] at h
        obtain ⟨rfl, rfl⟩ := Prod.mk.inj h
        exact ⟨rfl, rfl, .inr ⟨fun _ => hsubscribed, rfl, rfl⟩⟩
      | subscribe filter =>
        have hsubscribed : subscribed crates (.text text) = some filter.normalized := by
          simp only [subscribed, hjson]
        simp only [hjson] at h
        cases hvalid : validateFilter filter.normalized with
        | error error =>
          simp only [hvalid] at h
          obtain ⟨rfl, rfl⟩ := Prod.mk.inj h
          exact ⟨rfl, rfl, .inr ⟨nofun, rfl, rfl⟩⟩
        | ok =>
          simp only [hvalid] at h
          split at h
          · obtain ⟨rfl, rfl⟩ := Prod.mk.inj h
            exact ⟨rfl, rfl, .inl ⟨rfl, hsubscribed, rfl⟩⟩
          · obtain ⟨rfl, rfl⟩ := Prod.mk.inj h
            exact ⟨rfl, rfl, .inr ⟨nofun, rfl, rfl⟩⟩

/-- The filter after a step is the one that the step accepts, or the one before it. -/
theorem SocketStep.filter_eq (h : SocketStep crates s label t) :
    t.filter = (s.accepts crates label).getD s.filter := by
  cases h with
  | inbound message hsocket hmessage =>
    obtain ⟨-, -, ⟨-, hsubscribed, -⟩ | ⟨hnone, hfilter, -⟩⟩ := handleClientMessage_filter hmessage
    · simp only [SocketSession.accepts, hmessage, hsubscribed, Option.getD_some]
    · simp only [SocketSession.accepts, hmessage, hnone rfl, Option.getD_none]
      exact hfilter
  | inboundRefused message hsocket hmessage =>
    obtain ⟨-, -, ⟨hok, -⟩ | ⟨-, hfilter, -⟩⟩ := handleClientMessage_filter hmessage
    · cases hok
    · simp only [SocketSession.accepts, hmessage, Option.getD_none]
      exact hfilter
  | ready | filterChanged | event | lagged => exact telemetrySend_filter
  | publish | runtimeGone | filterGone | eventFiltered | eventsClosed | abort | heartbeat
  | heartbeatLate | deliver | notDelivered | outboundClosed | inboundEnded => rfl

/-- A filter that is accepted is unseen. -/
theorem SocketStep.filterSeen_eq {hold : TelemetryHold} (h : SocketStep crates s label t)
    (hwhole : SocketLabel.Whole hold label) (hseen : t.filterSeen = true) :
    s.filterSeen = true ∧ s.accepts crates label = none := by
  cases h with
  | inbound message hsocket hmessage =>
    obtain ⟨-, -, ⟨-, -, hunseen⟩ | ⟨hnone, -, hsame⟩⟩ := handleClientMessage_filter hmessage
    · rw [hunseen] at hseen
      cases hseen
    · refine ⟨hsame.symm.trans hseen, ?_⟩
      simp only [SocketSession.accepts, hmessage]
      exact hnone rfl
  | inboundRefused message hsocket hmessage =>
    obtain ⟨-, -, ⟨hok, -⟩ | ⟨-, -, hsame⟩⟩ := handleClientMessage_filter hmessage
    · cases hok
    · refine ⟨hsame.symm.trans hseen, ?_⟩
      simp only [SocketSession.accepts, hmessage]
  | ready | filterChanged | event | eventFiltered | lagged => exact hwhole.elim
  | publish | runtimeGone | filterGone | eventsClosed | abort | heartbeat
  | heartbeatLate | deliver | notDelivered | outboundClosed | inboundEnded => exact ⟨hseen, rfl⟩

/-- A `Subscribe` whose filter fails its validation is not accepted, and changes neither the filter
nor what is known of it. -/
theorem SocketStep.refused {text : String} {filter : RealtimeFilter}
    (h : SocketStep crates s (.inbound (.text text)) t)
    (hjson : crates.fromJson text = .ok (.subscribe filter))
    (hinvalid : validateFilter filter.normalized ≠ .ok ()) :
    s.accepts crates (.inbound (.text text)) = none ∧ t.filter = s.filter ∧
      t.filterSeen = s.filterSeen := by
  have hrefused : s.handleClientMessage crates (.text text) = (.error (), s) := by
    cases hvalid : validateFilter filter.normalized with
    | ok => exact absurd hvalid hinvalid
    | error error => simp only [SocketSession.handleClientMessage, hjson, hvalid]
  have haccepts : s.accepts crates (.inbound (.text text)) = none := by
    simp only [SocketSession.accepts, hrefused]
  refine ⟨haccepts, ?_⟩
  cases h with
  | inbound message hsocket hmessage =>
    rw [hrefused] at hmessage
    cases hmessage
  | inboundRefused message hsocket hmessage =>
    rw [hrefused] at hmessage
    obtain ⟨-, rfl⟩ := Prod.mk.inj hmessage
    exact ⟨rfl, rfl⟩

/-- A step that is taken as a whole leaves the telemetry task where it is, or ends it. -/
theorem SocketStep.telemetry_eq {hold : TelemetryHold} (h : SocketStep crates s label t)
    (hwhole : SocketLabel.Whole hold label) : t.telemetry = s.telemetry ∨ t.telemetry = .ended := by
  cases h with
  | inbound message hsocket hmessage => exact .inl (handleClientMessage_filter hmessage).2.1
  | inboundRefused message hsocket hmessage => exact .inl (handleClientMessage_filter hmessage).2.1
  | ready | filterChanged | event | eventFiltered | lagged => exact hwhole.elim
  | filterGone | eventsClosed | abort => exact .inr rfl
  | publish | runtimeGone | heartbeat | heartbeatLate | deliver | notDelivered | outboundClosed
  | inboundEnded => exact .inl rfl

theorem BroadcastReceiver.pending_send (rx : BroadcastReceiver) (event : NormalizedEvent) :
    (rx.send event).pending <+ rx.pending ++ [event] := by
  unfold BroadcastReceiver.send
  split
  · exact .refl _
  · exact List.tail_sublist _

theorem BroadcastReceiver.pending_of_recv {rx rx' : BroadcastReceiver}
    {received : Except BroadcastRecvError NormalizedEvent} (h : rx.recv = some (received, rx')) :
    rx.pending = received.toOption.toList ++ rx'.pending := by
  unfold BroadcastReceiver.recv at h
  split at h
  · cases h
    rfl
  · split at h
    · next hpending =>
      cases h
      exact hpending
    · split at h
      · cases h
        rfl
      · cases h

/-- A step that is taken as a whole receives no event. -/
theorem SocketStep.pending_eq {hold : TelemetryHold} (h : SocketStep crates s label t)
    (hwhole : SocketLabel.Whole hold label) (hpublished : ∀ event, label ≠ .published event) :
    t.events.pending = s.events.pending := by
  cases h with
  | publish event => exact absurd rfl (hpublished event)
  | inbound message hsocket hmessage => rw [(handleClientMessage_filter hmessage).1]
  | inboundRefused message hsocket hmessage =>
    exact congrArg _ (handleClientMessage_filter hmessage).1
  | ready | filterChanged | event | eventFiltered | lagged => exact hwhole.elim
  | runtimeGone | filterGone | eventsClosed | abort | heartbeat | heartbeatLate | deliver
  | notDelivered | outboundClosed | inboundEnded => rfl

end Accepted

end Api
end PipeBolt
