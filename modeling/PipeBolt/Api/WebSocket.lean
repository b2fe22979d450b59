import PipeBolt.Api.Realtime
import PipeBolt.Lib.Channel
import PipeBolt.Lib.Transition

/-!
# The WebSocket of a realtime subscription

`handle_socket` of `pipe_bolt_api::realtime`.  Two tasks share three channels: the telemetry task
turns the events of the runtime into messages, and the socket loop sends them to the client and
reads what the client sends.  Both hold a sender of the outbound channel.

* `Clones`: which senders are left, from what the two tasks are at (`SocketStep.clones`).
* `no_outboundClosed`: the socket loop never sees its outbound channel closed.
* `no_halfDead`: while the telemetry task stays in its loop no session is half-dead.
* `halfDead_of_ended`: once it has left its loop before the socket loop, the session can become so.
-/

namespace PipeBolt
namespace Api

open Domain BoundedChannel Transition

/-! ## The channels -/

/-- `Message` of the WebSocket. -/
inductive WsMessage where
  | text (text : String)
  | binary (bytes : List UInt8)
  | ping (bytes : List UInt8)
  | pong (bytes : List UInt8)
  | close (frame : Option (UInt16 × String))
  deriving DecidableEq, Repr

/-- `RecvError` of a broadcast channel. -/
inductive BroadcastRecvError where
  | lagged (skipped : Nat)
  | closed
  deriving DecidableEq, Repr

/-- A receiver of a broadcast channel: the events that wait, how many were lost since the last
receipt, and whether the senders are gone. -/
structure BroadcastReceiver where
  capacity : Nat
  pending : List NormalizedEvent
  skipped : Nat
  closed : Bool

namespace BroadcastReceiver

/-- `broadcast::Sender::subscribe`. -/
def subscribe (capacity : Nat) : BroadcastReceiver := ⟨capacity, [], 0, false⟩

/-- An event is sent, and may displace the oldest one. -/
def send (rx : BroadcastReceiver) (event : NormalizedEvent) : BroadcastReceiver :=
  if rx.pending.length < rx.capacity then { rx with pending := rx.pending ++ [event] }
  else { rx with pending := (rx.pending ++ [event]).tail, skipped := rx.skipped + 1 }

/-- `broadcast::Receiver::recv`, where it does not wait. -/
def recv (rx : BroadcastReceiver) :
    Option (Except BroadcastRecvError NormalizedEvent × BroadcastReceiver) :=
  if 0 < rx.skipped then some (.error (.lagged rx.skipped), { rx with skipped := 0 })
  else
    match rx.pending with
    | event :: pending => some (.ok event, { rx with pending })
    | [] => if rx.closed then some (.error .closed, rx) else none

end BroadcastReceiver

def WEBSOCKET_CLIENT_BUFFER : Nat := 64

/-- `send_json_message`. -/
def sendJsonMessage (crates : RealtimeCrates) (tx : Channel WsMessage)
    (value : RealtimeServerMessage) : Except Unit Unit × Channel WsMessage :=
  match crates.toJson value with
  | none => (.error (), tx)
  | some text =>
    match tx.trySend (.text text) with
    | .ok tx => (.ok (), tx)
    | .error .full =>
      -- The close message goes to the queue that has just been full.
      match tx.trySend (.close (some (1011, "client send queue full"))) with
      | .ok tx => (.error (), tx)
      | .error _ => (.error (), tx)
    | .error .closed => (.error (), tx)

/-! ## The two tasks -/

/-- Where the telemetry task is. -/
inductive TelemetryPhase where
  /-- The `Ready` message is sent next. -/
  | starting (filter : RealtimeFilter)
  | looping
  | ended
  deriving DecidableEq

/-- Where the socket loop is. -/
inductive SocketPhase where
  | looping
  | ended
  deriving DecidableEq

/-- A call of `handle_socket`. -/
structure SocketSession where
  outbound : Channel WsMessage
  /-- `client_tx`, of the socket loop. -/
  clientTx : Bool
  /-- `writer_client_tx`, of the telemetry task. -/
  writerClientTx : Bool
  /-- The value of the watch channel, whether the telemetry task has seen it, and its two ends. -/
  filter : RealtimeFilter
  filterSeen : Bool
  filterTx : Bool
  filterRx : Bool
  events : BroadcastReceiver
  telemetry : TelemetryPhase
  socket : SocketPhase

namespace SocketSession

/-- The start of `handle_socket`. -/
def new (filter : RealtimeFilter) (events : BroadcastReceiver) : SocketSession where
  outbound := .new WEBSOCKET_CLIENT_BUFFER
  clientTx := true
  writerClientTx := true
  filter := filter
  filterSeen := true
  filterTx := true
  filterRx := true
  events := events
  telemetry := .starting filter
  socket := .looping

/-- The telemetry task is over, and what it holds is dropped. -/
def endTelemetry (s : SocketSession) : SocketSession :=
  { s with telemetry := .ended, writerClientTx := false, filterRx := false }

/-- The socket loop is over, and what it holds is dropped. -/
def endSocket (s : SocketSession) : SocketSession :=
  { s with socket := .ended, clientTx := false, filterTx := false, outbound := s.outbound.drop }

/-- The telemetry task sends a message, and ends when it cannot. -/
def telemetrySend (crates : RealtimeCrates) (s : SocketSession) (message : RealtimeServerMessage) :
    SocketSession :=
  match sendJsonMessage crates s.outbound message with
  | (.ok (), outbound) => { s with outbound }
  | (.error (), outbound) => { s with outbound }.endTelemetry

/-- `handle_client_message` sends a message. -/
def clientSend (crates : RealtimeCrates) (s : SocketSession) (message : RealtimeServerMessage) :
    Except Unit Unit × SocketSession :=
  let (result, outbound) := sendJsonMessage crates s.outbound message
  (result, { s with outbound })

/-- `handle_client_message`.  A text message always holds a text. -/
def handleClientMessage (crates : RealtimeCrates) (s : SocketSession) :
    WsMessage → Except Unit Unit × SocketSession
  | .close _ => (.error (), s)
  | .ping _ | .pong _ => (.ok (), s)
  | .binary _ => s.clientSend crates (.error "only JSON text messages are supported")
  | .text text =>
    match crates.fromJson text with
    | .ok (.subscribe filter) =>
      match validateFilter filter.normalized with
      | .error _ => (.error (), s)
      | .ok () =>
        if s.filterRx then (.ok (), { s with filter := filter.normalized, filterSeen := false })
        else (.error (), s)
    | .ok .ping => s.clientSend crates (.ready "websocket" s.filter)
    | .error error => s.clientSend crates (.error s!"invalid client message: {error}")

end SocketSession

/-- What happens in a step. -/
inductive SocketLabel where
  /-- The runtime sends an event, or is gone. -/
  | published (event : NormalizedEvent)
  | runtimeGone
  /-- The telemetry task. -/
  | ready
  | filterChanged
  | filterGone
  | event (event : NormalizedEvent)
  | lagged (skipped : Nat)
  | eventsClosed
  | aborted
  /-- The socket loop. -/
  | heartbeat (inTime : Bool)
  | outbound (sent : Bool)
  | outboundClosed
  | inbound (message : WsMessage)
  | inboundEnded

/-- A step of the runtime, of the telemetry task or of the socket loop. -/
inductive SocketStep (crates : RealtimeCrates) :
    SocketSession → SocketLabel → SocketSession → Prop
  | publish {s : SocketSession} (event : NormalizedEvent) (hopen : s.events.closed = false) :
      SocketStep crates s (.published event) { s with events := s.events.send event }
  | runtimeGone {s : SocketSession} :
      SocketStep crates s .runtimeGone { s with events := { s.events with closed := true } }
  | ready {s : SocketSession} {filter} (hphase : s.telemetry = .starting filter) :
      SocketStep crates s .ready
        ({ s with telemetry := .looping }.telemetrySend crates (.ready "websocket" filter))
  | filterChanged {s : SocketSession} (hphase : s.telemetry = .looping)
      (hunseen : s.filterSeen = false) :
      SocketStep crates s .filterChanged
        ({ s with filterSeen := true }.telemetrySend crates (.filterUpdated s.filter))
  | filterGone {s : SocketSession} (hphase : s.telemetry = .looping) (hseen : s.filterSeen = true)
      (hgone : s.filterTx = false) : SocketStep crates s .filterGone s.endTelemetry
  | event {s : SocketSession} {event events} (hphase : s.telemetry = .looping)
      (hrecv : s.events.recv = some (.ok event, events)) (hmatches : s.filter.matches event = true) :
      SocketStep crates s (.event event)
        ({ s with events }.telemetrySend crates (.event (.fromEvent crates event)))
  | eventFiltered {s : SocketSession} {event events} (hphase : s.telemetry = .looping)
      (hrecv : s.events.recv = some (.ok event, events))
      (hmatches : s.filter.matches event = false) :
      SocketStep crates s (.event event) { s with events }
  | lagged {s : SocketSession} {skipped events} (hphase : s.telemetry = .looping)
      (hrecv : s.events.recv = some (.error (.lagged skipped), events)) :
      SocketStep crates s (.lagged skipped)
        ({ s with events }.telemetrySend crates (.lagged skipped))
  | eventsClosed {s : SocketSession} {events} (hphase : s.telemetry = .looping)
      (hrecv : s.events.recv = some (.error .closed, events)) :
      SocketStep crates s .eventsClosed s.endTelemetry
  /-- `telemetry_task.abort()`. -/
  | abort {s : SocketSession} (hsocket : s.socket = .ended) :
      SocketStep crates s .aborted s.endTelemetry
  | heartbeat {s : SocketSession} (hsocket : s.socket = .looping) :
      SocketStep crates s (.heartbeat true) s
  | heartbeatLate {s : SocketSession} (hsocket : s.socket = .looping) :
      SocketStep crates s (.heartbeat false) s.endSocket
  | deliver {s : SocketSession} {message outbound} (hsocket : s.socket = .looping)
      (hrecv : s.outbound.recv = some (message, outbound)) :
      SocketStep crates s (.outbound true) { s with outbound }
  | notDelivered {s : SocketSession} {message outbound} (hsocket : s.socket = .looping)
      (hrecv : s.outbound.recv = some (message, outbound)) :
      SocketStep crates s (.outbound false) { s with outbound }.endSocket
  /-- `client_rx.recv()` is `None`: nothing is queued, and no sender is left. -/
  | outboundClosed {s : SocketSession} (hsocket : s.socket = .looping)
      (hempty : s.outbound.queue = []) (hclient : s.clientTx = false)
      (hwriter : s.writerClientTx = false) :
      SocketStep crates s .outboundClosed s.endSocket
  | inbound {s t : SocketSession} (message : WsMessage) (hsocket : s.socket = .looping)
      (hmessage : s.handleClientMessage crates message = (.ok (), t)) :
      SocketStep crates s (.inbound message) t
  | inboundRefused {s t : SocketSession} (message : WsMessage) (hsocket : s.socket = .looping)
      (hmessage : s.handleClientMessage crates message = (.error (), t)) :
      SocketStep crates s (.inbound message) t.endSocket
  | inboundEnded {s : SocketSession} (hsocket : s.socket = .looping) :
      SocketStep crates s .inboundEnded s.endSocket

/-- A session is half-dead: its telemetry has ended and nothing is queued, and yet its outbound
channel is open. -/
def SocketSession.HalfDead (s : SocketSession) : Prop :=
  s.telemetry = .ended ∧ s.outbound.queue = [] ∧ (s.clientTx = true ∨ s.writerClientTx = true)

/-! ## Sends -/

section Sends

variable {crates : RealtimeCrates} {tx : Channel WsMessage} {value : RealtimeServerMessage}
  {s t : SocketSession}

/-- A message can be sent: it has a text, and there is room in the outbound queue. -/
structure SocketSession.CanSend (crates : RealtimeCrates) (s : SocketSession)
    (message : RealtimeServerMessage) : Prop where
  text : (crates.toJson message).isSome = true
  room : s.outbound.queue.length < s.outbound.capacity

/-- A send does not close the queue. -/
theorem sendJsonMessage_closed : (sendJsonMessage crates tx value).2.closed = tx.closed := by
  unfold sendJsonMessage
  cases crates.toJson value with
  | none => rfl
  | some text =>
    cases hsend : tx.trySend (.text text) with
    | ok sent =>
      obtain ⟨-, -, rfl⟩ := Channel.trySend_eq_ok_iff.mp hsend
      simp only [hsend]
    | error error =>
      cases error with
      | closed => simp only [hsend]
      | full =>
        simp only [hsend]
        cases hclose : tx.trySend (.close (some (1011, "client send queue full"))) with
        | ok sent =>
          obtain ⟨-, -, rfl⟩ := Channel.trySend_eq_ok_iff.mp hclose
          rfl
        | error error => rfl

/-- A message that can be sent is sent. -/
theorem sendJsonMessage_ok (hopen : s.outbound.closed = false) (h : s.CanSend crates value) :
    (sendJsonMessage crates s.outbound value).1 = .ok () := by
  obtain ⟨text, htext⟩ := Option.isSome_iff_exists.mp h.text
  unfold sendJsonMessage
  simp only [htext, Channel.trySend_open hopen h.room]

/-- Two sessions whose tasks are at the same points and hold the same ends of the channels. -/
structure SameTasks (s t : SocketSession) : Prop where
  clientTx : t.clientTx = s.clientTx
  writerClientTx : t.writerClientTx = s.writerClientTx
  filterTx : t.filterTx = s.filterTx
  telemetry : t.telemetry = s.telemetry
  socket : t.socket = s.socket
  closed : t.outbound.closed = s.outbound.closed

theorem SameTasks.refl (s : SocketSession) : SameTasks s s := ⟨rfl, rfl, rfl, rfl, rfl, rfl⟩

theorem clientSend_same : SameTasks s (s.clientSend crates value).2 :=
  ⟨rfl, rfl, rfl, rfl, rfl, sendJsonMessage_closed⟩

/-- A message of the client changes no task. -/
theorem handleClientMessage_same (message : WsMessage) :
    SameTasks s (s.handleClientMessage crates message).2 := by
  cases message with
  | close frame => exact .refl s
  | ping bytes => exact .refl s
  | pong bytes => exact .refl s
  | binary bytes => exact clientSend_same
  | text text =>
    rw [SocketSession.handleClientMessage]
    split
    · split
      · exact .refl s
      · split
        · exact ⟨rfl, rfl, rfl, rfl, rfl, rfl⟩
        · exact .refl s
    · exact clientSend_same
    · exact clientSend_same

/-- A send of the telemetry task leaves the tasks as they are, or ends its own. -/
theorem telemetrySend_cases (crates : RealtimeCrates) (s : SocketSession)
    (message : RealtimeServerMessage) :
    ∃ t, SameTasks s t ∧ (s.telemetrySend crates message = t ∧
      (sendJsonMessage crates s.outbound message).1 = .ok () ∨
        s.telemetrySend crates message = t.endTelemetry ∧
          (sendJsonMessage crates s.outbound message).1 = .error ()) := by
  have hclosed : (sendJsonMessage crates s.outbound message).2.closed = s.outbound.closed :=
    sendJsonMessage_closed
  unfold SocketSession.telemetrySend
  cases hsend : sendJsonMessage crates s.outbound message with
  | mk result outbound =>
    rw [hsend] at hclosed
    refine ⟨{ s with outbound }, ⟨rfl, rfl, rfl, rfl, rfl, hclosed⟩, ?_⟩
    cases result with
    | ok => exact .inl ⟨rfl, rfl⟩
    | error => exact .inr ⟨rfl, rfl⟩

end Sends

/-! ## The senders that are left -/

/-- Which ends of the channels are left, from what the tasks are at. -/
structure Clones (s : SocketSession) : Prop where
  clientTx : s.clientTx = true ↔ s.socket = .looping
  filterTx : s.filterTx = true ↔ s.socket = .looping
  writerClientTx : s.writerClientTx = true ↔ s.telemetry ≠ .ended
  outbound : s.socket = .looping → s.outbound.closed = false

section Clones

variable {crates : RealtimeCrates} {s t : SocketSession} {label : SocketLabel}

theorem Clones.same (h : SameTasks s t) (hs : Clones s) : Clones t := by
  refine ⟨?_, ?_, ?_, ?_⟩
  · rw [h.clientTx, h.socket]
    exact hs.clientTx
  · rw [h.filterTx, h.socket]
    exact hs.filterTx
  · rw [h.writerClientTx, h.telemetry]
    exact hs.writerClientTx
  · rw [h.socket, h.closed]
    exact hs.outbound

/-- What the telemetry task has received from the hub is no clone. -/
theorem Clones.receive (hs : Clones s) (events : BroadcastReceiver) : Clones { s with events } :=
  ⟨hs.clientTx, hs.filterTx, hs.writerClientTx, hs.outbound⟩

/-- Nor is it that the task has seen the filter. -/
theorem Clones.seeFilter (hs : Clones s) : Clones { s with filterSeen := true } :=
  ⟨hs.clientTx, hs.filterTx, hs.writerClientTx, hs.outbound⟩

theorem Clones.endTelemetry (hs : Clones s) : Clones s.endTelemetry :=
  ⟨hs.clientTx, hs.filterTx, iff_of_false nofun fun h => h rfl, hs.outbound⟩

theorem Clones.endSocket (hs : Clones s) : Clones s.endSocket :=
  ⟨iff_of_false nofun nofun, iff_of_false nofun nofun, hs.writerClientTx, nofun⟩

theorem Clones.telemetrySend (hs : Clones s) (message : RealtimeServerMessage) :
    Clones (s.telemetrySend crates message) := by
  rcases telemetrySend_cases crates s message with ⟨t, hsame, ⟨ht, -⟩ | ⟨ht, -⟩⟩
  · rw [ht]
    exact hs.same hsame
  · rw [ht]
    exact (hs.same hsame).endTelemetry

theorem Clones.handleClientMessage (hs : Clones s) {message : WsMessage} {result : Except Unit Unit}
    (h : s.handleClientMessage crates message = (result, t)) : Clones t := by
  have hsame : SameTasks s (s.handleClientMessage crates message).2 :=
    handleClientMessage_same message
  rw [h] at hsame
  exact hs.same hsame

/-- Every step keeps the account of the senders. -/
theorem SocketStep.clones (h : SocketStep crates s label t) (hs : Clones s) : Clones t := by
  cases h with
  | publish event hopen => exact hs.receive _
  | runtimeGone => exact hs.receive _
  | ready hphase =>
    have hwriter : s.writerClientTx = true := hs.writerClientTx.mpr (by rw [hphase]; nofun)
    have hlooping : Clones { s with telemetry := .looping } :=
      ⟨hs.clientTx, hs.filterTx, iff_of_true hwriter nofun, hs.outbound⟩
    exact hlooping.telemetrySend _
  | filterChanged hphase hunseen => exact hs.seeFilter.telemetrySend _
  | filterGone hphase hseen hgone => exact hs.endTelemetry
  | event hphase hrecv hmatches => exact (hs.receive _).telemetrySend _
  | eventFiltered hphase hrecv hmatches => exact hs.receive _
  | lagged hphase hrecv => exact (hs.receive _).telemetrySend _
  | eventsClosed hphase hrecv => exact hs.endTelemetry
  | abort hsocket => exact hs.endTelemetry
  | heartbeat hsocket => exact hs
  | heartbeatLate hsocket => exact hs.endSocket
  | deliver hsocket hrecv =>
    obtain ⟨-, hclosed, -⟩ := Channel.recv_eq_some_iff.mp hrecv
    refine ⟨hs.clientTx, hs.filterTx, hs.writerClientTx, fun hlooping => ?_⟩
    exact hclosed.trans (hs.outbound hlooping)
  | notDelivered hsocket hrecv =>
    exact ⟨iff_of_false nofun nofun, iff_of_false nofun nofun, hs.writerClientTx, nofun⟩
  | outboundClosed hsocket hempty hclient hwriter => exact hs.endSocket
  | inbound message hsocket hmessage => exact hs.handleClientMessage hmessage
  | inboundRefused message hsocket hmessage => exact (hs.handleClientMessage hmessage).endSocket
  | inboundEnded hsocket => exact hs.endSocket

theorem clones_new (filter : RealtimeFilter) (events : BroadcastReceiver) :
    Clones (.new filter events) :=
  ⟨iff_of_true rfl rfl, iff_of_true rfl rfl, iff_of_true rfl nofun, fun _ => rfl⟩

end Clones

/-! ## Sessions -/

/-- The telemetry task does not end in a step from `s`: the events are not closed, and a message
that it sends can be sent. -/
def TelemetryStays (crates : RealtimeCrates) (s : SocketSession) : SocketLabel → Prop
  | .ready => ∀ filter, s.telemetry = .starting filter →
    s.CanSend crates (.ready "websocket" filter)
  | .filterChanged => s.CanSend crates (.filterUpdated s.filter)
  | .event event =>
    s.filter.matches event = true → s.CanSend crates (.event (.fromEvent crates event))
  | .lagged skipped => s.CanSend crates (.lagged skipped)
  | .eventsClosed => False
  | .published _ | .runtimeGone | .filterGone | .aborted | .heartbeat _ | .outbound _
  | .outboundClosed | .inbound _ | .inboundEnded => True

section Sessions

variable {crates : RealtimeCrates} {s t : SocketSession} {label : SocketLabel}
  {filter : RealtimeFilter} {events : BroadcastReceiver}
  {es : List (Edge SocketSession SocketLabel)}

/-- The telemetry task runs as long as the socket loop does. -/
def TelemetryAlive (s : SocketSession) : Prop := s.socket = .looping → s.telemetry ≠ .ended

/-- A message that can be sent leaves the telemetry task in its loop. -/
theorem telemetrySend_alive (hs : Clones s) (hphase : s.telemetry ≠ .ended)
    {message : RealtimeServerMessage} (hsend : s.socket = .looping → s.CanSend crates message) :
    TelemetryAlive (s.telemetrySend crates message) := by
  rcases telemetrySend_cases crates s message with ⟨t, hsame, ⟨ht, -⟩ | ⟨ht, herror⟩⟩
  · rw [ht]
    intro _
    rw [hsame.telemetry]
    exact hphase
  · rw [ht]
    intro hlooping
    have hsocket : s.socket = .looping := hsame.socket.symm.trans hlooping
    have hok := sendJsonMessage_ok (hs.outbound hsocket) (hsend hsocket)
    rw [hok] at herror
    cases herror

/-- A session whose telemetry is alive stays so in a step that does not end it. -/
theorem SocketStep.alive (h : SocketStep crates s label t) (hs : Clones s)
    (halive : TelemetryAlive s) (hstays : s.socket = .looping → TelemetryStays crates s label) :
    TelemetryAlive t := by
  cases h with
  | publish event hopen => exact halive
  | runtimeGone => exact halive
  | @ready filter hphase =>
    have hwriter : s.writerClientTx = true := hs.writerClientTx.mpr (by rw [hphase]; nofun)
    have hlooping : Clones { s with telemetry := .looping } :=
      ⟨hs.clientTx, hs.filterTx, iff_of_true hwriter nofun, hs.outbound⟩
    refine telemetrySend_alive hlooping nofun fun hsocket => ?_
    have hsend := hstays hsocket filter hphase
    exact ⟨hsend.text, hsend.room⟩
  | filterChanged hphase hunseen =>
    have hrunning : s.telemetry ≠ .ended := by rw [hphase]; nofun
    refine telemetrySend_alive hs.seeFilter hrunning fun hsocket => ?_
    have hsend : s.CanSend crates (.filterUpdated s.filter) := hstays hsocket
    exact ⟨hsend.text, hsend.room⟩
  | filterGone hphase hseen hgone =>
    intro hsocket
    rw [hs.filterTx.mpr hsocket] at hgone
    cases hgone
  | @event event events hphase hrecv hmatches =>
    have hrunning : s.telemetry ≠ .ended := by rw [hphase]; nofun
    refine telemetrySend_alive (hs.receive events) hrunning fun hsocket => ?_
    have hsend := hstays hsocket hmatches
    exact ⟨hsend.text, hsend.room⟩
  | eventFiltered hphase hrecv hmatches => exact halive
  | @lagged skipped events hphase hrecv =>
    have hrunning : s.telemetry ≠ .ended := by rw [hphase]; nofun
    refine telemetrySend_alive (hs.receive events) hrunning fun hsocket => ?_
    have hsend : s.CanSend crates (.lagged skipped) := hstays hsocket
    exact ⟨hsend.text, hsend.room⟩
  | eventsClosed hphase hrecv => exact fun hsocket => (hstays hsocket).elim
  | abort hended =>
    intro hsocket
    have hsocket : s.socket = .looping := hsocket
    rw [hended] at hsocket
    cases hsocket
  | heartbeat hsocket => exact halive
  | heartbeatLate hsocket => exact nofun
  | deliver hsocket hrecv => exact halive
  | notDelivered hsocket hrecv => exact nofun
  | outboundClosed hsocket hempty hclient hwriter => exact nofun
  | @inbound t message hsocket hmessage =>
    have hsame : SameTasks s (s.handleClientMessage crates message).2 :=
      handleClientMessage_same message
    rw [hmessage] at hsame
    intro _
    rw [hsame.telemetry]
    exact halive hsocket
  | inboundRefused message hsocket hmessage => exact nofun
  | inboundEnded hsocket => exact nofun

/-- While the socket loop runs, a sender of its channel is left. -/
theorem SocketStep.not_outboundClosed (h : SocketStep crates s .outboundClosed t)
    (hs : Clones s) : False := by
  cases h with
  | outboundClosed hsocket hempty hclient hwriter =>
    rw [hs.clientTx.mpr hsocket] at hclient
    cases hclient

/-- The socket loop holds a sender of the channel that it receives from, and so never sees it
closed. -/
theorem no_outboundClosed (h : Run (SocketStep crates) (.new filter events) es s) :
    ∀ e ∈ es, e.label ≠ .outboundClosed := by
  refine h.forall_edge Clones _ (fun s l t hst hs => hst.clones hs) ?_ (clones_new filter events)
  intro e hst hs hlabel
  rw [hlabel] at hst
  exact hst.not_outboundClosed hs

/-- A half-dead session is one whose telemetry has ended before its socket loop, with nothing
queued. -/
theorem halfDead_iff (hs : Clones s) :
    s.HalfDead ↔ s.socket = .looping ∧ s.telemetry = .ended ∧ s.outbound.queue = [] := by
  constructor
  · rintro ⟨hended, hempty, hclient | hwriter⟩
    · exact ⟨hs.clientTx.mp hclient, hended, hempty⟩
    · exact absurd hended (hs.writerClientTx.mp hwriter)
  · rintro ⟨hsocket, hended, hempty⟩
    exact ⟨hended, hempty, .inl (hs.clientTx.mpr hsocket)⟩

/-- In a run in which the telemetry task does not end while the socket loop runs, no session is
half-dead. -/
theorem no_halfDead (h : Run (SocketStep crates) (.new filter events) es s)
    (hstays : ∀ e ∈ es, e.source.socket = .looping → TelemetryStays crates e.source e.label) :
    ¬ s.HalfDead ∧ ∀ e ∈ es, ¬ e.source.HalfDead ∧ ¬ e.target.HalfDead := by
  have hinv := h.invariant (fun s => Clones s ∧ TelemetryAlive s)
    (fun e => e.source.socket = .looping → TelemetryStays crates e.source e.label)
    (fun e hok hstep hs => ⟨hstep.clones hs.1, hstep.alive hs.1 hs.2 hok⟩) hstays
    ⟨clones_new filter events, nofun⟩
  have hnot : ∀ s, Clones s ∧ TelemetryAlive s → ¬ s.HalfDead := by
    rintro s ⟨hclones, halive⟩ hdead
    obtain ⟨hsocket, hended, -⟩ := (halfDead_iff hclones).mp hdead
    exact halive hsocket hended
  exact ⟨hnot s hinv.1, fun e he => ⟨hnot _ (hinv.2 e he).1, hnot _ (hinv.2 e he).2⟩⟩

/-- The socket loop sends what is queued. -/
theorem deliver_all (hsocket : s.socket = .looping) :
    ∃ es t, Run (SocketStep crates) s es t ∧ t.socket = .looping ∧ t.telemetry = s.telemetry ∧
      t.clientTx = s.clientTx ∧ t.outbound.queue = [] := by
  generalize hlength : s.outbound.queue = queue
  induction queue generalizing s with
  | nil => exact ⟨[], s, .nil s, hsocket, rfl, rfl, hlength⟩
  | cons message queue ih =>
    have hrecv : s.outbound.recv = some (message, { s.outbound with queue }) :=
      Channel.recv_eq_some_iff.mpr ⟨hlength, rfl, rfl⟩
    obtain ⟨es, t, hrun, ht⟩ :=
      ih (s := { s with outbound := { s.outbound with queue } }) hsocket rfl
    exact ⟨_, t, .cons (.deliver hsocket hrecv) hrun, ht⟩

/-- Once the telemetry task has ended before the socket loop, the session can become half-dead. -/
theorem halfDead_of_ended (h : Run (SocketStep crates) (.new filter events) es s)
    (hsocket : s.socket = .looping) (hended : s.telemetry = .ended) :
    ∃ fs t, Run (SocketStep crates) s fs t ∧ t.HalfDead := by
  have hs : Clones s :=
    (h.invariant' Clones (fun s l t hst hs => hst.clones hs) (clones_new filter events)).1
  obtain ⟨fs, t, hrun, -, htelemetry, hclient, hempty⟩ := @deliver_all crates s hsocket
  refine ⟨fs, t, hrun, htelemetry.trans hended, hempty, .inl ?_⟩
  rw [hclient]
  exact hs.clientTx.mpr hsocket

end Sessions

/-! ## A reload under a subscription -/

def anyFilter : RealtimeFilter := ⟨none, none, none, none, none⟩

/-- JSON of the messages without a parameter; nothing else is sent below. -/
def readyCrates : RealtimeCrates where
  displayTime := fun _ => "1970-01-01 0:00:00.0 +00:00:00"
  base64Encode := fun _ => ""
  toJson := fun
    | .ready _ _ => some ("\x7b\"type\":\"ready\",\"transport\":\"websocket\",\"filter\":\x7b" ++
      "\"device_id\":null,\"topic\":null,\"topic_prefix\":null,\"event_type\":null," ++
      "\"route_id\":null\x7d\x7d")
    | _ => none
  fromJson := fun _ => .ok .ping

/-- The client leaves, and then a reload closes the events: the telemetry ends after the socket
loop. -/
theorem no_halfDead_left : ∃ es s,
    Run (SocketStep readyCrates) (.new anyFilter (.subscribe 16)) es s ∧
      es.map Edge.label = [.ready, .outbound true, .inboundEnded, .runtimeGone, .eventsClosed] ∧
      s.socket = .ended ∧ s.telemetry = .ended ∧
      ¬ s.HalfDead ∧ ∀ e ∈ es, ¬ e.source.HalfDead ∧ ¬ e.target.HalfDead := by
  have hsend : ∀ filter, (SocketSession.new anyFilter (.subscribe 16)).CanSend readyCrates
      (.ready "websocket" filter) := fun _ => ⟨rfl, by decide⟩
  have hrun : Run (SocketStep readyCrates) (.new anyFilter (.subscribe 16)) _ _ :=
    .cons (.ready rfl) <| .cons (.deliver rfl rfl) <| .cons (.inboundEnded rfl) <|
    .cons .runtimeGone <| .cons (.eventsClosed rfl rfl) <| .nil _
  refine ⟨_, _, hrun, rfl, rfl, rfl, no_halfDead hrun ?_⟩
  simp only [List.forall_mem_cons]
  exact ⟨fun _ filter _ => hsend filter, fun _ => trivial, fun _ => trivial, fun _ => trivial,
    nofun, fun _ h => absurd h List.not_mem_nil⟩

/-- A reload closes the events of a subscription, and the session is left half-dead. -/
theorem halfDead_after_reload : ∃ es s,
    Run (SocketStep readyCrates) (.new anyFilter (.subscribe 16)) es s ∧ s.HalfDead :=
  ⟨_, _,
    .cons (.ready rfl) <|
    .cons (.deliver rfl rfl) <|
    .cons .runtimeGone <|
    .cons (.eventsClosed rfl rfl) <| .nil _, rfl, rfl, .inl rfl⟩

end Api
end PipeBolt
