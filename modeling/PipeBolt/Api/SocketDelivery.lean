import PipeBolt.Api.Sse

/-!
# What a WebSocket delivers

The way of an event through `handle_socket`: from the hub to the telemetry task, from the task to
the outbound queue, and from the queue to the client, with both tasks on threads of their own.

* `sendJsonMessage_eq`, `say_outbound`, `closeOutbound_eq`: a message is put at the end of the
  queue, or nothing happens to the queue.
* `QueueKept.step`: what is delivered and what waits is what was put into the queue.
* `TaskKept.step`: what the telemetry task takes and says.
* `SocketExact`, `socket_exact`: both, in every run.
-/

namespace PipeBolt
namespace Api

open Domain BoundedChannel LossyChannel Transition
open scoped List

/-! ## What a step takes and says -/

/-- What the telemetry task takes from the hub in a step. -/
def taken? (e : ThreadEdge) : Option (Received NormalizedEvent) :=
  match e.label with
  | .receive event => some (.value event)
  | .receiveLagged skipped => some (.lagged skipped)
  | _ => none

/-- What the telemetry task has dealt with in a step. -/
def settled? (e : ThreadEdge) : Option (Received NormalizedEvent) :=
  match e.label with
  | .enqueue event _ | .skip event _ => some (.value event)
  | .enqueueLagged skipped => some (.lagged skipped)
  | _ => none

/-- What the telemetry task has taken and not dealt with. -/
def TelemetryHold.receipts : TelemetryHold → List (Received NormalizedEvent)
  | .received event | .compared event _ => [.value event]
  | .lagged skipped => [.lagged skipped]
  | .nothing | .changed | .update _ | .refused => []

/-- The message that the telemetry task has for the client in a step. -/
def due? (crates : RealtimeCrates) (e : ThreadEdge) : Option RealtimeServerMessage :=
  match e.label with
  | .ready filter => some (.ready "websocket" filter)
  | .announce filter => some (.filterUpdated filter)
  | .enqueue event _ => some (.event (.fromEvent crates event))
  | .enqueueLagged skipped => some (.lagged skipped)
  | _ => none

/-- The answer to a message of the client. -/
def SocketSession.answer? (crates : RealtimeCrates) (s : SocketSession) :
    WsMessage → Option RealtimeServerMessage
  | .binary _ => some (.error "only JSON text messages are supported")
  | .text text =>
    match crates.fromJson text with
    | .ok (.subscribe _) => none
    | .ok .ping => some (.ready "websocket" s.filter)
    | .error error => some (.error s!"invalid client message: {error}")
  | .close _ | .ping _ | .pong _ => none

/-- The answer to a message of the client in a step. -/
def answered? (crates : RealtimeCrates) (e : ThreadEdge) : Option RealtimeServerMessage :=
  match e.label with
  | .whole (.inbound message) => e.source.session.answer? crates message
  | _ => none

/-- What is put into the outbound queue for a message. -/
def SocketSession.posts (crates : RealtimeCrates) (s : SocketSession)
    (message : RealtimeServerMessage) : Option WsMessage :=
  if s.sends crates message then (crates.toJson message).map .text else none

/-- What is put into the outbound queue for a message that found it full. -/
def SocketSession.postsClose (s : SocketSession) : Option WsMessage :=
  let close : WsMessage := .close (some (1011, "client send queue full"))
  if (s.outbound.trySend close).isOk then some close else none

/-- What is put into the outbound queue in a step. -/
def queued? (crates : RealtimeCrates) (e : ThreadEdge) : Option WsMessage :=
  match e.label with
  | .closeFull => e.source.session.postsClose
  | _ => ((due? crates e).or (answered? crates e)).bind (e.source.session.posts crates)

/-- What the client is sent in a step. -/
def delivered? (e : ThreadEdge) : Option WsMessage :=
  match e.label with
  | .whole (.outbound true) => e.source.session.outbound.queue.head?
  | _ => none

/-- The message that the telemetry task has put into the queue in a step. -/
def spoken? (crates : RealtimeCrates) (e : ThreadEdge) : Option RealtimeServerMessage :=
  (due? crates e).filter (e.source.session.sends crates)

/-! ## The outbound queue -/

/-- The outbound channel after some more messages. -/
def SocketSession.outboundWith (s : SocketSession) (more : List WsMessage) : Channel WsMessage :=
  { s.outbound with queue := s.outbound.queue ++ more }

section Queue

variable {crates : RealtimeCrates} {s t : SocketSession} {message : RealtimeServerMessage}

theorem outboundWith_nil : s.outboundWith [] = s.outbound := by
  rw [SocketSession.outboundWith, List.append_nil]

theorem endTelemetry_outbound : s.endTelemetry.outbound = s.outbound := rfl

/-- A message is put at the end of the queue, or the queue stays as it is. -/
theorem sendJsonMessage_eq : sendJsonMessage crates s.outbound message =
    (if s.sends crates message then .ok () else .error (),
      s.outboundWith (s.posts crates message).toList) := by
  unfold SocketSession.posts SocketSession.sends
  cases htext : crates.toJson message with
  | none =>
    have hsend : sendJsonMessage crates s.outbound message = (.error (), s.outbound) := by
      simp only [sendJsonMessage, htext]
    rw [hsend]
    exact Prod.ext rfl outboundWith_nil.symm
  | some text =>
    cases htry : s.outbound.trySend (.text text) with
    | ok outbound =>
      have hsend : sendJsonMessage crates s.outbound message = (.ok (), outbound) := by
        simp only [sendJsonMessage, htext, htry]
      obtain ⟨-, -, rfl⟩ := Channel.trySend_eq_ok_iff.mp htry
      rw [hsend]
      rfl
    | error error =>
      have hsend : sendJsonMessage crates s.outbound message = (.error (), s.outbound) := by
        simp only [sendJsonMessage, htext, htry]
        cases error with
        | closed => rfl
        | full =>
          rcases Channel.trySend_eq_error_iff.mp htry with ⟨hfull, -⟩ | ⟨-, hopen, hfull⟩
          · cases hfull
          · have hclose : s.outbound.trySend (.close (some (1011, "client send queue full"))) =
                .error .full := Channel.trySend_eq_error_iff.mpr (.inr ⟨rfl, hopen, hfull⟩)
            simp only [hclose]
      rw [hsend]
      exact Prod.ext rfl outboundWith_nil.symm

theorem say_outbound : (s.say crates message).session.outbound =
    s.outboundWith (s.posts crates message).toList := by
  have hsend : (sendJsonMessage crates s.outbound message).2 =
      s.outboundWith (s.posts crates message).toList :=
    congrArg Prod.snd sendJsonMessage_eq
  rw [← hsend]
  unfold SocketSession.say sendJsonMessage
  cases htext : crates.toJson message with
  | none => rfl
  | some text =>
    cases htry : s.outbound.trySend (.text text) with
    | ok outbound => simp only [htry]
    | error error =>
      cases error with
      | closed => simp only [htry, endTelemetry_outbound]
      | full =>
        rcases Channel.trySend_eq_error_iff.mp htry with ⟨hfull, -⟩ | ⟨-, hopen, hfull⟩
        · cases hfull
        · have hclose : s.outbound.trySend (.close (some (1011, "client send queue full"))) =
              .error .full := Channel.trySend_eq_error_iff.mpr (.inr ⟨rfl, hopen, hfull⟩)
          simp only [htry, hclose]

theorem say_socket : (s.say crates message).session.socket = s.socket :=
  say_session SocketSession.socket (fun _ => rfl) rfl

theorem closeOutbound_eq : s.closeOutbound = s.outboundWith s.postsClose.toList := by
  unfold SocketSession.closeOutbound SocketSession.postsClose
  cases htry : s.outbound.trySend (.close (some (1011, "client send queue full"))) with
  | ok outbound =>
    obtain ⟨-, -, rfl⟩ := Channel.trySend_eq_ok_iff.mp htry
    simp only [htry]
    rfl
  | error error =>
    simp only [htry]
    exact outboundWith_nil.symm

/-- What is put into the queue for a message of the client. -/
theorem handleClientMessage_outbound {inbound : WsMessage} {result : Except Unit Unit}
    (h : s.handleClientMessage crates inbound = (result, t)) :
    t.socket = s.socket ∧
      t.outbound = s.outboundWith ((s.answer? crates inbound).bind (s.posts crates)).toList := by
  have hclient (message : RealtimeServerMessage) (h : s.clientSend crates message = (result, t)) :
      t.socket = s.socket ∧ t.outbound = s.outboundWith (s.posts crates message).toList := by
    unfold SocketSession.clientSend at h
    rw [sendJsonMessage_eq] at h
    obtain ⟨-, rfl⟩ := Prod.mk.inj h
    exact ⟨rfl, rfl⟩
  cases inbound with
  | close frame | ping bytes | pong bytes =>
    obtain ⟨-, rfl⟩ := Prod.mk.inj h
    exact ⟨rfl, outboundWith_nil.symm⟩
  | binary bytes => exact hclient _ h
  | text text =>
    unfold SocketSession.handleClientMessage at h
    cases hjson : crates.fromJson text with
    | error error =>
      have hanswer : s.answer? crates (.text text) =
          some (.error s!"invalid client message: {error}") := by
        simp only [SocketSession.answer?, hjson]
      simp only [hjson] at h
      rw [hanswer]
      exact hclient _ h
    | ok request =>
      simp only [hjson] at h
      cases request with
      | ping =>
        have hanswer : s.answer? crates (.text text) = some (.ready "websocket" s.filter) := by
          simp only [SocketSession.answer?, hjson]
        rw [hanswer]
        exact hclient _ h
      | subscribe filter =>
        have hanswer : s.answer? crates (.text text) = none := by
          simp only [SocketSession.answer?, hjson]
        have hsame : t.socket = s.socket ∧ t.outbound = s.outbound := by
          dsimp only at h
          split at h
          · obtain ⟨-, rfl⟩ := Prod.mk.inj h
            exact ⟨rfl, rfl⟩
          · split at h
            · obtain ⟨-, rfl⟩ := Prod.mk.inj h
              exact ⟨rfl, rfl⟩
            · obtain ⟨-, rfl⟩ := Prod.mk.inj h
              exact ⟨rfl, rfl⟩
        rw [hanswer]
        exact ⟨hsame.1, hsame.2.trans outboundWith_nil.symm⟩

end Queue

/-- The messages of the telemetry task and of the socket loop, against those that were delivered. -/
structure QueueKept (crates : RealtimeCrates) (es : List ThreadEdge) (s : SocketThreads) :
    Prop where
  looping : s.session.socket = .looping →
    es.filterMap delivered? ++ s.session.outbound.queue = es.filterMap (queued? crates)
  ended : s.session.socket = .ended → s.session.outbound.closed = true
  delivered : es.filterMap delivered? <+: es.filterMap (queued? crates)

section QueueKept

variable {crates : RealtimeCrates} {es : List ThreadEdge} {s t : SocketThreads}
  {label : ThreadLabel}

/-- A step that puts something into the queue, or nothing. -/
theorem QueueKept.append (hs : QueueKept crates es s)
    (hdelivered : delivered? ⟨s, label, t⟩ = none) (hsocket : t.session.socket = s.session.socket)
    (houtbound : t.session.outbound =
      s.session.outboundWith (queued? crates ⟨s, label, t⟩).toList) :
    QueueKept crates (es ++ [⟨s, label, t⟩]) t := by
  have hsame : List.filterMap delivered? (es ++ [⟨s, label, t⟩]) = es.filterMap delivered? := by
    rw [filterMap_snoc, hdelivered]
    exact List.append_nil _
  refine ⟨fun hlooping => ?_, fun hended => ?_, ?_⟩
  · rw [hsame, filterMap_snoc, ← hs.looping (hsocket.symm.trans hlooping), houtbound]
    exact (List.append_assoc _ _ _).symm
  · rw [houtbound]
    exact hs.ended (hsocket.symm.trans hended)
  · rw [hsame, filterMap_snoc]
    exact hs.delivered.trans (List.prefix_append _ _)

/-- A step in which nothing happens to the queue. -/
theorem QueueKept.same (hs : QueueKept crates es s)
    (hdelivered : delivered? ⟨s, label, t⟩ = none) (hqueued : queued? crates ⟨s, label, t⟩ = none)
    (hsocket : t.session.socket = s.session.socket)
    (houtbound : t.session.outbound = s.session.outbound) :
    QueueKept crates (es ++ [⟨s, label, t⟩]) t := by
  refine hs.append hdelivered hsocket ?_
  rw [hqueued, houtbound]
  exact outboundWith_nil.symm

/-- A step that ends the socket loop. -/
theorem QueueKept.endSocket (hs : QueueKept crates es s)
    (hdelivered : delivered? ⟨s, label, t⟩ = none) (hsocket : t.session.socket = .ended)
    (hclosed : t.session.outbound.closed = true) :
    QueueKept crates (es ++ [⟨s, label, t⟩]) t := by
  refine ⟨fun hlooping => ?_, fun _ => hclosed, ?_⟩
  · rw [hsocket] at hlooping
    cases hlooping
  · rw [filterMap_snoc, filterMap_snoc, hdelivered]
    show es.filterMap delivered? ++ [] <+: _
    rw [List.append_nil]
    exact hs.delivered.trans (List.prefix_append _ _)

/-- Every step keeps the account of the queue. -/
theorem QueueKept.step (hs : QueueKept crates es s) (h : ThreadStep crates s label t) :
    QueueKept crates (es ++ [⟨s, label, t⟩]) t := by
  cases h with
  | @whole s hold label t hwhole hstep =>
    cases hstep with
    | publish | runtimeGone | filterGone | eventsClosed | abort | heartbeat =>
      exact hs.same rfl rfl rfl rfl
    | ready | filterChanged | event | eventFiltered | lagged => exact hwhole.elim
    | @deliver message outbound hsocket hrecv =>
      obtain ⟨hqueue, -, -⟩ := Channel.recv_eq_some_iff.mp hrecv
      have hdelivered : delivered? ⟨⟨s, hold⟩, .whole (.outbound true),
          ⟨{ s with outbound }, hold⟩⟩ = some message := by
        show s.outbound.queue.head? = some message
        rw [hqueue]
        rfl
      have hlooping := hs.looping hsocket
      have hnow : List.filterMap delivered? (es ++ [⟨⟨s, hold⟩, .whole (.outbound true),
          ⟨{ s with outbound }, hold⟩⟩]) ++ outbound.queue = es.filterMap (queued? crates) := by
        rw [filterMap_snoc, hdelivered, ← hlooping]
        show _ = es.filterMap delivered? ++ s.outbound.queue
        rw [hqueue, Option.toList_some, List.append_assoc]
        rfl
      refine ⟨fun _ => ?_, fun hended => ?_, ?_⟩
      · rw [filterMap_snoc (queued? crates)]
        exact hnow.trans (List.append_nil _).symm
      · exact absurd (hsocket.symm.trans hended) nofun
      · rw [filterMap_snoc (queued? crates)]
        exact ⟨outbound.queue, hnow.trans (List.append_nil _).symm⟩
    | notDelivered | heartbeatLate | outboundClosed | inboundEnded =>
      exact hs.endSocket rfl rfl rfl
    | inbound message hsocket hmessage =>
      obtain ⟨hsame, houtbound⟩ := handleClientMessage_outbound hmessage
      exact hs.append rfl hsame houtbound
    | inboundRefused message hsocket hmessage => exact hs.endSocket rfl rfl rfl
  | seeChange | readChange | receive | readFilter | skip | receiveLagged =>
    exact hs.same rfl rfl rfl rfl
  | ready | announce | enqueue | enqueueLagged => exact hs.append rfl say_socket say_outbound
  | closeFull => exact hs.append rfl rfl closeOutbound_eq

end QueueKept

/-! ## The telemetry task -/

section Task

variable {crates : RealtimeCrates} {es : List ThreadEdge} {s t : SocketThreads}
  {label : ThreadLabel}

/-- What a step does to the receiver of the telemetry task. -/
theorem ThreadStep.receiver (h : ThreadStep crates s label t)
    {sent : List NormalizedEvent} {got : List (Received NormalizedEvent)}
    (hs : ReceiverKept sent got s.session.events) :
    ReceiverKept (sent ++ (published ⟨s, label, t⟩).toList) (got ++ (taken? ⟨s, label, t⟩).toList)
      t.session.events := by
  have hsame {rx : BroadcastReceiver} (hrx : rx = s.session.events) :
      ReceiverKept (sent ++ []) (got ++ []) rx := by
    rw [List.append_nil, List.append_nil, hrx]
    exact hs
  cases h with
  | @whole s hold label t hwhole hstep =>
    cases hstep with
    | publish event hopen =>
      show ReceiverKept (sent ++ [event]) (got ++ []) _
      rw [List.append_nil]
      exact hs.send event
    | runtimeGone =>
      show ReceiverKept (sent ++ []) (got ++ []) _
      rw [List.append_nil, List.append_nil]
      exact hs.close
    | ready | filterChanged | event | eventFiltered | lagged => exact hwhole.elim
    | inbound message hsocket hmessage => exact hsame (handleClientMessage_filter hmessage).1
    | inboundRefused message hsocket hmessage =>
      exact hsame (handleClientMessage_filter hmessage).1
    | filterGone | eventsClosed | abort | heartbeat | heartbeatLate | deliver | notDelivered
    | outboundClosed | inboundEnded => exact hsame rfl
  | receive hphase hrecv =>
    show ReceiverKept (sent ++ []) _ _
    rw [List.append_nil]
    exact hs.ok hrecv
  | receiveLagged hphase hrecv =>
    show ReceiverKept (sent ++ []) _ _
    rw [List.append_nil]
    exact hs.lagged hrecv
  | ready | announce | enqueue | enqueueLagged => exact hsame say_events
  | seeChange | readChange | readFilter | skip | closeFull => exact hsame rfl

/-- After a message the task holds nothing that it has taken. -/
theorem say_hold_receipts {s : SocketSession} {message : RealtimeServerMessage} :
    (s.say crates message).hold.receipts = [] := by
  rcases say_hold crates s message with hhold | hhold
  · rw [hhold]
    rfl
  · rw [hhold]
    rfl

/-- What the telemetry task has taken is what it deals with, after what it holds. -/
theorem ThreadStep.settles (h : ThreadStep crates s label t) :
    s.hold.receipts ++ (taken? ⟨s, label, t⟩).toList =
      (settled? ⟨s, label, t⟩).toList ++ t.hold.receipts := by
  cases h with
  | whole hwhole hstep => exact List.append_nil _
  | ready | announce | enqueue | enqueueLagged =>
    rw [say_hold_receipts]
    rfl
  | seeChange | readChange | receive | readFilter | skip | receiveLagged | closeFull => rfl

/-- The telemetry task holds something only in its loop. -/
def HoldsInLoop (s : SocketThreads) : Prop := s.hold ≠ .nothing → s.session.telemetry = .looping

/-- After a message it may be about to end. -/
theorem holdsInLoop_say {s : SocketSession} {message : RealtimeServerMessage}
    (hs : s.telemetry = .looping) : HoldsInLoop (s.say crates message) := by
  rcases say_cases crates s message with ⟨-, outbound, heq⟩ | ⟨-, heq | heq⟩
  · rw [heq]
    exact fun hhold => absurd rfl hhold
  · rw [heq]
    exact fun hhold => absurd rfl hhold
  · rw [heq]
    exact fun _ => hs

theorem ThreadStep.holdsInLoop (h : ThreadStep crates s label t) (hs : HoldsInLoop s) :
    HoldsInLoop t := by
  cases h with
  | @whole s hold label t hwhole hstep =>
    intro hhold
    have hlooping := hs hhold
    cases hstep with
    | filterGone | eventsClosed | abort => exact absurd hwhole hhold
    | ready | filterChanged | event | eventFiltered | lagged => exact hwhole.elim
    | inbound message hsocket hmessage =>
      exact (handleClientMessage_filter hmessage).2.1.trans hlooping
    | inboundRefused message hsocket hmessage =>
      exact (handleClientMessage_filter hmessage).2.1.trans hlooping
    | publish | runtimeGone | heartbeat | heartbeatLate | deliver | notDelivered | outboundClosed
    | inboundEnded => exact hlooping
  | seeChange hphase => exact fun _ => hphase
  | receive hphase | receiveLagged hphase => exact fun _ => hphase
  | readChange | readFilter => exact fun _ => hs nofun
  | ready => exact holdsInLoop_say rfl
  | announce | enqueue | enqueueLagged => exact holdsInLoop_say (hs nofun)
  | skip | closeFull => exact fun hhold => absurd rfl hhold

/-- The telemetry task has ended, or a message of it was refused and it is about to. -/
def SocketThreads.Spent (s : SocketThreads) : Prop :=
  s.session.telemetry = .ended ∨ s.hold = .refused

/-- A task that is spent has nothing more to say. -/
theorem ThreadStep.spent (h : ThreadStep crates s label t) (hs : s.Spent)
    (hhold : HoldsInLoop s) : t.Spent ∧ due? crates ⟨s, label, t⟩ = none := by
  have hnot {hold : TelemetryHold} (h : s.hold = hold) (hne : hold ≠ .nothing)
      (hne' : hold ≠ .refused) : False := by
    rcases hs with hended | hrefused
    · have hlooping := hhold (h ▸ hne)
      rw [hended] at hlooping
      cases hlooping
    · exact hne' (h.symm.trans hrefused)
  have hnotLooping (hphase : s.session.telemetry ≠ .ended) (h : s.hold = .nothing) : False := by
    rcases hs with hended | hrefused
    · exact hphase hended
    · rw [h] at hrefused
      cases hrefused
  cases h with
  | @whole s hold label t hwhole hstep =>
    refine ⟨?_, rfl⟩
    rcases hs with hended | hrefused
    · refine .inl ?_
      rcases hstep.telemetry_eq hwhole with heq | heq
      · exact heq.trans hended
      · exact heq
    · exact .inr hrefused
  | ready hphase => exact (hnotLooping (by rw [hphase]; nofun) rfl).elim
  | seeChange hphase | receive hphase | receiveLagged hphase =>
    exact (hnotLooping (by rw [hphase]; nofun) rfl).elim
  | readChange | announce | readFilter | enqueue | skip | enqueueLagged =>
    exact (hnot rfl nofun nofun).elim
  | closeFull => exact ⟨.inl rfl, rfl⟩

/-- The telemetry task does not come back. -/
theorem ThreadStep.ended (h : ThreadStep crates s label t) (hs : s.session.telemetry = .ended)
    (hhold : HoldsInLoop s) : t.session.telemetry = .ended ∧ settled? ⟨s, label, t⟩ = none := by
  have hnot {hold : TelemetryHold} (h : s.hold = hold) (hne : hold ≠ .nothing) : False := by
    have hlooping := hhold (h ▸ hne)
    rw [hs] at hlooping
    cases hlooping
  have hnotRunning {phase : TelemetryPhase} (hphase : s.session.telemetry = phase)
      (hne : phase ≠ .ended) : False := hne (hphase.symm.trans hs)
  cases h with
  | @whole s hold label t hwhole hstep =>
    refine ⟨?_, rfl⟩
    rcases hstep.telemetry_eq hwhole with heq | heq
    · exact heq.trans hs
    · exact heq
  | ready hphase => exact (hnotRunning hphase nofun).elim
  | seeChange hphase | receive hphase | receiveLagged hphase =>
    exact (hnotRunning hphase nofun).elim
  | readChange | announce | readFilter | enqueue | skip | enqueueLagged =>
    exact (hnot rfl nofun).elim
  | closeFull => exact ⟨rfl, rfl⟩

/-- A message of the telemetry task that cannot be put into the queue is its last one. -/
theorem ThreadStep.said (h : ThreadStep crates s label t) {message : RealtimeServerMessage}
    (hdue : due? crates ⟨s, label, t⟩ = some message)
    (hrefused : s.session.sends crates message = false) : t.Spent := by
  have hsay {source : SocketSession} (hsource : source.outbound = s.session.outbound) :
      (source.say crates message).Spent := by
    rcases say_cases crates source message with ⟨hsends, -⟩ | ⟨-, heq | heq⟩
    · rw [SocketSession.sends, hsource] at hsends
      rw [SocketSession.sends, hsends] at hrefused
      cases hrefused
    · rw [heq]
      exact .inl rfl
    · rw [heq]
      exact .inr rfl
  cases h with
  | whole | seeChange | readChange | receive | readFilter | skip | receiveLagged | closeFull =>
    cases hdue
  | ready | announce | enqueue | enqueueLagged =>
    cases hdue
    exact hsay rfl

/-- What the telemetry task takes, deals with and says. -/
structure TaskKept (crates : RealtimeCrates) (es : List ThreadEdge) (s : SocketThreads) :
    Prop where
  receiver : ReceiverKept (es.filterMap published) (es.filterMap taken?) s.session.events
  settled : es.filterMap taken? = es.filterMap settled? ++ s.hold.receipts
  hold : HoldsInLoop s
  said : ∃ unsaid, es.filterMap (due? crates) = es.filterMap (spoken? crates) ++ unsaid ∧
    unsaid.length ≤ 1 ∧ (¬ s.Spent → unsaid = [])
  closed : .whole .eventsClosed ∈ es.map Edge.label → s.session.telemetry = .ended ∧
    s.session.events.closed = true ∧ Covers (es.filterMap published) (es.filterMap settled?)

theorem taskKept_new (crates : RealtimeCrates) (filter : RealtimeFilter) (capacity : Nat) :
    TaskKept crates [] (.new filter (.subscribe capacity)) :=
  ⟨receiverKept_subscribe capacity, rfl, fun h => absurd rfl h, ⟨[], rfl, Nat.zero_le 1,
    fun _ => rfl⟩, nofun⟩

/-- A step of the task says its message, or ends with it. -/
theorem TaskKept.says (hs : TaskKept crates es s) (h : ThreadStep crates s label t) :
    ∃ unsaid, List.filterMap (due? crates) (es ++ [⟨s, label, t⟩]) =
        List.filterMap (spoken? crates) (es ++ [⟨s, label, t⟩]) ++ unsaid ∧
      unsaid.length ≤ 1 ∧ (¬ t.Spent → unsaid = []) := by
  obtain ⟨unsaid, hsaid, hone, hnone⟩ := hs.said
  rw [filterMap_snoc, filterMap_snoc, hsaid]
  by_cases hspent : s.Spent
  · obtain ⟨htarget, hdue⟩ := h.spent hspent hs.hold
    refine ⟨unsaid, ?_, hone, fun hnot => absurd htarget hnot⟩
    rw [spoken?, hdue]
    rw [Option.filter_none, Option.toList_none, List.append_nil, List.append_nil]
  · obtain rfl := hnone hspent
    cases hdue : due? crates ⟨s, label, t⟩ with
    | none =>
      refine ⟨[], ?_, Nat.zero_le 1, fun _ => rfl⟩
      rw [spoken?, hdue]
      rfl
    | some message =>
      cases hsends : s.session.sends crates message with
      | true =>
        have hspoken : spoken? crates ⟨s, label, t⟩ = some message := by
          rw [spoken?, hdue]
          exact Option.filter_some_pos hsends
        refine ⟨[], ?_, Nat.zero_le 1, fun _ => rfl⟩
        rw [hspoken, List.append_nil, List.append_nil]
      | false =>
        have hspoken : spoken? crates ⟨s, label, t⟩ = none := by
          rw [spoken?, hdue]
          exact Option.filter_some_neg hsends
        refine ⟨[message], ?_, Nat.le_refl 1, fun hnot => absurd (h.said hdue hsends) hnot⟩
        rw [hspoken, List.append_nil, Option.toList_none, List.append_nil]
        rfl

/-- The hub stays closed. -/
theorem ThreadStep.events_closed (h : ThreadStep crates s label t)
    (hs : s.session.events.closed = true) : t.session.events.closed = true ∧
      published ⟨s, label, t⟩ = none := by
  cases h with
  | @whole s hold label t hwhole hstep =>
    cases hstep with
    | publish event hopen =>
      rw [hs] at hopen
      cases hopen
    | ready | filterChanged | event | eventFiltered | lagged => exact hwhole.elim
    | inbound message hsocket hmessage =>
      exact ⟨(handleClientMessage_filter hmessage).1 ▸ hs, rfl⟩
    | inboundRefused message hsocket hmessage =>
      exact ⟨(congrArg BroadcastReceiver.closed (handleClientMessage_filter hmessage).1).trans hs,
        rfl⟩
    | runtimeGone => exact ⟨rfl, rfl⟩
    | filterGone | eventsClosed | abort | heartbeat | heartbeatLate | deliver | notDelivered
    | outboundClosed | inboundEnded => exact ⟨hs, rfl⟩
  | receive hphase hrecv =>
    obtain ⟨-, pending, -, rfl⟩ := BroadcastReceiver.recv_eq_ok hrecv
    exact ⟨hs, rfl⟩
  | receiveLagged hphase hrecv =>
    obtain ⟨-, -, rfl⟩ := BroadcastReceiver.recv_eq_lagged hrecv
    exact ⟨hs, rfl⟩
  | ready | announce | enqueue | enqueueLagged =>
    exact ⟨(congrArg BroadcastReceiver.closed say_events).trans hs, rfl⟩
  | seeChange | readChange | readFilter | skip | closeFull => exact ⟨hs, rfl⟩

/-- Every step keeps it. -/
theorem TaskKept.step (hs : TaskKept crates es s) (h : ThreadStep crates s label t) :
    TaskKept crates (es ++ [⟨s, label, t⟩]) t := by
  have hreceiver := h.receiver hs.receiver
  rw [← filterMap_snoc, ← filterMap_snoc] at hreceiver
  have hsettled : List.filterMap taken? (es ++ [⟨s, label, t⟩]) =
      List.filterMap settled? (es ++ [⟨s, label, t⟩]) ++ t.hold.receipts := by
    rw [filterMap_snoc, filterMap_snoc, hs.settled, List.append_assoc, h.settles, List.append_assoc]
  have hhold := h.holdsInLoop hs.hold
  refine ⟨hreceiver, hsettled, hhold, hs.says h, fun hmem => ?_⟩
  rw [List.map_append, List.mem_append] at hmem
  rcases hmem with hmem | hmem
  · obtain ⟨hended, hclosed, hcovers⟩ := hs.closed hmem
    obtain ⟨htarget, hnothing⟩ := h.ended hended hs.hold
    obtain ⟨hstays, hsilent⟩ := h.events_closed hclosed
    refine ⟨htarget, hstays, ?_⟩
    rw [filterMap_snoc, filterMap_snoc, hnothing, hsilent]
    exact (List.append_nil (es.filterMap published)).symm ▸
      (List.append_nil (es.filterMap settled?)).symm ▸ hcovers
  · obtain rfl : .whole .eventsClosed = label := List.mem_singleton.mp hmem
    cases h with
    | @whole s hold label t hwhole hstep =>
      cases hstep with
      | eventsClosed hphase hrecv =>
        obtain ⟨-, -, hclosed⟩ := BroadcastReceiver.recv_eq_closed hrecv
        refine ⟨rfl, hclosed, ?_⟩
        obtain rfl : hold = .nothing := hwhole
        rw [TelemetryHold.receipts, List.append_nil] at hsettled
        rw [← hsettled, filterMap_snoc, filterMap_snoc]
        exact (List.append_nil (es.filterMap published)).symm ▸
          (List.append_nil (es.filterMap taken?)).symm ▸ hs.receiver.closed hrecv

end Task

/-! ## Every run of a socket -/

/-- What the client of a WebSocket has been sent, and what became of the events. -/
structure SocketExact (crates : RealtimeCrates) (es : List ThreadEdge) (s : SocketThreads) :
    Prop where
  /-- The telemetry task takes the events in the order in which they were published. -/
  ordered : (es.filterMap taken?).filterMap Received.value? ++ s.session.events.pending <+
    es.filterMap published
  /-- Every event is taken, counted as lost, or waits. -/
  accounted : (es.filterMap published).length =
    total (es.filterMap taken?) + s.session.events.skipped + s.session.events.pending.length
  /-- What it takes it deals with, in the same order. -/
  settled : es.filterMap taken? = es.filterMap settled? ++ s.hold.receipts
  /-- It says what it has to say, but for a message that it ends over. -/
  said : ∃ unsaid, es.filterMap (due? crates) = es.filterMap (spoken? crates) ++ unsaid ∧
    unsaid.length ≤ 1 ∧ (¬ s.Spent → unsaid = [])
  /-- The client is sent what was put into the queue, in this order. -/
  delivered : es.filterMap delivered? <+: es.filterMap (queued? crates)
  /-- While the socket is open, the rest waits in the queue. -/
  waiting : s.session.socket = .looping →
    es.filterMap delivered? ++ s.session.outbound.queue = es.filterMap (queued? crates)
  /-- A task that ended with the runtime has dealt with every event. -/
  closed : .whole .eventsClosed ∈ es.map Edge.label →
    Covers (es.filterMap published) (es.filterMap settled?)

/-- **What the client of a WebSocket has been sent**, in every run of the two tasks. -/
theorem socket_exact (crates : RealtimeCrates) (filter : RealtimeFilter) (capacity : Nat)
    {es : List ThreadEdge} {s : SocketThreads}
    (h : Run (ThreadStep crates) (.new filter (.subscribe capacity)) es s) :
    SocketExact crates es s := by
  have htask : TaskKept crates es s :=
    h.history (TaskKept crates) (fun _ _ _ _ hs hstep => hs.step hstep)
      (taskKept_new crates filter capacity)
  have hqueue : QueueKept crates es s :=
    h.history (QueueKept crates) (fun _ _ _ _ hs hstep => hs.step hstep)
      ⟨fun _ => rfl, nofun, List.prefix_refl []⟩
  exact ⟨htask.receiver.accounts.sublist, htask.receiver.accounts.total_eq, htask.settled,
    htask.said, hqueue.delivered, hqueue.looping, fun hmem => (htask.closed hmem).2.2⟩

/-- A client subscribes to another device under an event, which is sent all the same. -/
theorem socket_exact_stale : ∃ es s,
    Run (ThreadStep staleCrates) (.new anyFilter (.subscribe 16)) es s ∧
      (es.filterMap delivered?).length = 2 ∧ SocketExact staleCrates es s := by
  have hrun : Run (ThreadStep staleCrates) (.new anyFilter (.subscribe 16)) _ _ :=
    .cons (.whole (by trivial) (.publish staleEvent rfl)) <|
    .cons (.ready rfl) <|
    .cons (.receive rfl rfl) <|
    .cons .readFilter <|
    .cons (.whole (by trivial) (.inbound
      (.text "\x7b\"type\":\"subscribe\",\"device_id\":\"b\"\x7d") rfl rfl)) <|
    .cons (.enqueue rfl) <|
    .cons (.whole (by trivial) (.deliver rfl rfl)) <|
    .cons (.whole (by trivial) (.deliver rfl rfl)) <| .nil _
  exact ⟨_, _, hrun, rfl, socket_exact staleCrates anyFilter 16 hrun⟩

end Api
end PipeBolt
