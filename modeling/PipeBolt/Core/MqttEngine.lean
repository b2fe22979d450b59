import PipeBolt.Core.Backoff
import PipeBolt.Lib.Channel

/-!
# The workers of the MQTT engine

`run_mqtt_worker`, `handle_mqtt_event` and `run_router_worker` of `pipe_bolt_core::mqtt::engine`
over the ingress channel of `pipe_bolt_core::bus` and the request queue of the MQTT client.  The
MQTT worker polls the event loop, requests the subscriptions after every `ConnAck` and puts what is
published into the channel.  It never waits for room in the channel, but it waits for room in the
request queue, which only its own polls empty.  The router worker takes the messages out, hands
each to the router and then to the telemetry of the bus.

The two workers interleave in any way.  What they did is read off the labels of a run.

* `IngressKept`: what the channel, the router worker and the labels have to do with each other
  (`EngineStep.ingressKept`).
* `ingress_exact`: which messages are dispatched, in which order, and which are lost.
-/

namespace PipeBolt
namespace Core

open Domain Rust BoundedChannel Transition
open scoped List

/-! ## The bus -/

/-- `BusConfig`. -/
structure BusConfig where
  ingressCapacity : Nat
  telemetryCapacity : Nat
  commandCapacity : Nat
  deriving DecidableEq, Repr

/-- `BusConfig::default`. -/
def BusConfig.default : BusConfig where
  ingressCapacity := 1024
  telemetryCapacity := 1024
  commandCapacity := 256

/-- `TelemetryEvent`. -/
structure TelemetryEvent where
  topic : String
  payload : List UInt8
  receivedAt : OffsetDateTime

/-- `TelemetryEvent::from_message`. -/
def TelemetryEvent.fromMessage (message : MqttMessage) : TelemetryEvent where
  topic := message.topic
  payload := message.payload
  receivedAt := message.receivedAt

/-- `Publish` of the MQTT client. -/
structure Publish where
  topic : String
  qos : QoS
  retain : Bool
  payload : List UInt8

/-- `MqttMessage::from_publish`, at the time `now`. -/
def MqttMessage.fromPublish (publish : Publish) (now : OffsetDateTime) :
    Except MqttEngineError MqttMessage :=
  MqttMessage.new publish.topic publish.qos publish.retain publish.payload now

/-- What becomes of a published message. -/
inductive IngressOutcome where
  /-- It is no message: its topic is not valid. -/
  | rejected (error : MqttEngineError)
  | enqueued (message : MqttMessage)
  /-- `IngressQueueFull` or `IngressClosed`. -/
  | dropped (message : MqttMessage) (error : SendError)

/-- `handle_mqtt_event` on a publish, with `InternalBusHandle::try_enqueue_ingress`; the errors are
logged only. -/
def handlePublish (ingress : Channel MqttMessage) (publish : Publish) (now : OffsetDateTime) :
    IngressOutcome × Channel MqttMessage :=
  match MqttMessage.fromPublish publish now with
  | .error error => (.rejected error, ingress)
  | .ok message =>
    match ingress.trySend message with
    | .ok ingress => (.enqueued message, ingress)
    | .error error => (.dropped message error, ingress)

/-! ## The two workers -/

/-- Where `run_mqtt_worker` is. -/
inductive MqttWorker where
  /-- Before the `select!`, which looks at the shutdown first. -/
  | selecting
  /-- No shutdown was found: the event loop is polled. -/
  | polling
  /-- In `handle_mqtt_event` after a `ConnAck`: these subscriptions are still to be requested. -/
  | subscribing (rest : List MqttSubscription)
  /-- In `wait_or_shutdown`. -/
  | waiting (delay : Duration)
  | ended
  deriving DecidableEq

/-- Where `run_router_worker` is. -/
inductive RouterWorker where
  /-- Before the `select!`, which looks at the shutdown first. -/
  | selecting
  /-- No shutdown was found: the channel is polled. -/
  | receiving
  | dispatching (message : MqttMessage)
  | publishing (event : TelemetryEvent)
  | ended

/-- The state of an `MqttEngine`, with what the handlers of its router act on. -/
structure MqttEngine (σ : Type) where
  backoff : ExponentialBackoff
  mqtt : MqttWorker
  /-- How many requests wait in the queue of the client for the event loop. -/
  requests : Nat
  ingress : Channel MqttMessage
  router : RouterWorker
  /-- The value of the shutdown channel; a dropped sender counts as a shutdown. -/
  stopping : Bool
  app : σ

/-- `MqttEngine::spawn_with_bus_and_outcomes`. -/
def MqttEngine.spawn {σ : Type} (config : MqttClientConfig) (bus : BusConfig) (app : σ) :
    MqttEngine σ where
  backoff := .new config.reconnect.minDelay config.reconnect.maxDelay
  mqtt := .selecting
  requests := 0
  ingress := .new bus.ingressCapacity
  router := .selecting
  stopping := false
  app := app

/-- What happens in a step. -/
inductive EngineLabel where
  /-- The MQTT worker. -/
  | mqttLooked
  | pollPending
  | connAck
  | publish (publish : Publish) (now : OffsetDateTime) (outcome : IngressOutcome)
  | otherEvent
  | pollError (delay : Duration)
  | subscribe (subscription : MqttSubscription)
  | subscribed
  | waited
  | mqttEnded
  /-- The router worker. -/
  | routerLooked
  | recvPending
  | received (message : MqttMessage)
  | dispatched (message : MqttMessage) (result : Except MqttEngineError Bool)
  | telemetry (event : TelemetryEvent)
  | routerEnded
  /-- The rest of the program. -/
  | shutdown
  /-- A request of a handle or of the command worker to the client. -/
  | requested
  | outside

section Steps

variable {σ ι : Type}

/-- What `MqttRouter::dispatch` does with a message: it may make a choice, such as a fresh
identifier. -/
abbrev Dispatch (ι σ : Type) := ι → MqttMessage → σ → Except MqttEngineError Bool × σ

/-- A step of a worker, or of the rest of the program.  The selects of the workers are biased
towards the shutdown, so that nothing is polled or received that was not begun before it was
requested. -/
inductive EngineStep (config : MqttClientConfig) (dispatch : Dispatch ι σ) (env : σ → σ → Prop) :
    MqttEngine σ → EngineLabel → MqttEngine σ → Prop
  | mqttLooked {s : MqttEngine σ} (hmqtt : s.mqtt = .selecting) (hrunning : s.stopping = false) :
      EngineStep config dispatch env s .mqttLooked { s with mqtt := .polling }
  -- While it is polled the event loop takes requests of the client.
  | pollPending {s : MqttEngine σ} (hmqtt : s.mqtt = .polling) (left : Nat)
      (hleft : left ≤ s.requests) :
      EngineStep config dispatch env s .pollPending
        { s with mqtt := .selecting, requests := left }
  | connAck {s : MqttEngine σ} (hmqtt : s.mqtt = .polling) (left : Nat)
      (hleft : left ≤ s.requests) :
      EngineStep config dispatch env s .connAck
        { s with
          backoff := s.backoff.reset
          mqtt := .subscribing config.subscriptions
          requests := left }
  | publish {s : MqttEngine σ} (publish : Publish) (now : OffsetDateTime)
      (hmqtt : s.mqtt = .polling) (left : Nat) (hleft : left ≤ s.requests) :
      EngineStep config dispatch env s
        (.publish publish now (handlePublish s.ingress publish now).1)
        { s with
          backoff := s.backoff.reset
          mqtt := .selecting
          requests := left
          ingress := (handlePublish s.ingress publish now).2 }
  | otherEvent {s : MqttEngine σ} (hmqtt : s.mqtt = .polling) (left : Nat)
      (hleft : left ≤ s.requests) :
      EngineStep config dispatch env s .otherEvent
        { s with backoff := s.backoff.reset, mqtt := .selecting, requests := left }
  | pollError {s : MqttEngine σ} (hmqtt : s.mqtt = .polling) (left : Nat)
      (hleft : left ≤ s.requests) :
      EngineStep config dispatch env s (.pollError s.backoff.nextDelay.1)
        { s with
          backoff := s.backoff.nextDelay.2
          mqtt := .waiting s.backoff.nextDelay.1
          requests := left }
  -- `subscribe` waits for room in the queue of the client.  The event loop is not dropped while the
  -- worker waits, so the queue is not closed.
  | subscribe {s : MqttEngine σ} {subscription rest}
      (hmqtt : s.mqtt = .subscribing (subscription :: rest))
      (hroom : s.requests < config.requestChannelCapacity) :
      EngineStep config dispatch env s (.subscribe subscription)
        { s with mqtt := .subscribing rest, requests := s.requests + 1 }
  | subscribed {s : MqttEngine σ} (hmqtt : s.mqtt = .subscribing []) :
      EngineStep config dispatch env s .subscribed { s with mqtt := .selecting }
  | waited {s : MqttEngine σ} {delay} (hmqtt : s.mqtt = .waiting delay) :
      EngineStep config dispatch env s .waited { s with mqtt := .selecting }
  | mqttEnded {s : MqttEngine σ} (hmqtt : s.mqtt = .selecting ∨ ∃ delay, s.mqtt = .waiting delay)
      (hstopping : s.stopping = true) :
      EngineStep config dispatch env s .mqttEnded { s with mqtt := .ended }
  | routerLooked {s : MqttEngine σ} (hrouter : s.router = .selecting)
      (hrunning : s.stopping = false) :
      EngineStep config dispatch env s .routerLooked { s with router := .receiving }
  | recvPending {s : MqttEngine σ} (hrouter : s.router = .receiving) :
      EngineStep config dispatch env s .recvPending { s with router := .selecting }
  -- The worker holds a sender of its own channel, so it never finds it closed.
  | received {s : MqttEngine σ} {message ingress} (hrouter : s.router = .receiving)
      (hrecv : s.ingress.recv = some (message, ingress)) :
      EngineStep config dispatch env s (.received message)
        { s with ingress, router := .dispatching message }
  | dispatched {s : MqttEngine σ} {message} (choice : ι)
      (hrouter : s.router = .dispatching message) :
      EngineStep config dispatch env s (.dispatched message (dispatch choice message s.app).1)
        { s with
          router := .publishing (.fromMessage message)
          app := (dispatch choice message s.app).2 }
  | telemetry {s : MqttEngine σ} {event} (hrouter : s.router = .publishing event) :
      EngineStep config dispatch env s (.telemetry event) { s with router := .selecting }
  | routerEnded {s : MqttEngine σ} (hrouter : s.router = .selecting)
      (hstopping : s.stopping = true) :
      EngineStep config dispatch env s .routerEnded
        { s with ingress := s.ingress.drop, router := .ended }
  | shutdown {s : MqttEngine σ} (hrunning : s.stopping = false) :
      EngineStep config dispatch env s .shutdown { s with stopping := true }
  | requested {s : MqttEngine σ} (hopen : s.mqtt ≠ .ended)
      (hroom : s.requests < config.requestChannelCapacity) :
      EngineStep config dispatch env s .requested { s with requests := s.requests + 1 }
  | outside {s : MqttEngine σ} {app} (henv : env s.app app) :
      EngineStep config dispatch env s .outside { s with app }

end Steps

/-! ## What the labels say -/

namespace EngineLabel

/-- A message that was published, with a valid topic. -/
def converted? : EngineLabel → Option MqttMessage
  | publish _ _ (.enqueued message) => some message
  | publish _ _ (.dropped message _) => some message
  | _ => none

/-- A message that was put into the channel. -/
def enqueued? : EngineLabel → Option MqttMessage
  | publish _ _ (.enqueued message) => some message
  | _ => none

/-- A message that was taken out of the channel. -/
def received? : EngineLabel → Option MqttMessage
  | received message => some message
  | _ => none

/-- A message that was handed to the router. -/
def dispatched? : EngineLabel → Option MqttMessage
  | dispatched message _ => some message
  | _ => none

/-- An event that was handed to the telemetry. -/
def telemetry? : EngineLabel → Option TelemetryEvent
  | telemetry event => some event
  | _ => none

/-- A subscription that was requested. -/
def subscribe? : EngineLabel → Option MqttSubscription
  | subscribe subscription => some subscription
  | _ => none

/-- A connection that was acknowledged. -/
def connAck? : EngineLabel → Option Unit
  | connAck => some ()
  | _ => none

/-- A call of the backoff. -/
def backoff? : EngineLabel → Option BackoffCall
  | connAck => some .reset
  | publish _ _ _ => some .reset
  | otherEvent => some .reset
  | pollError delay => some (.nextDelay delay)
  | _ => none

end EngineLabel

/-- What the labels of a list of edges say, in order. -/
def logged {σ α : Type} (f : EngineLabel → Option α) (es : List (Edge (MqttEngine σ) EngineLabel)) :
    List α :=
  es.filterMap fun e => f e.label

/-- How many connections were acknowledged. -/
def connAcks {σ : Type} (es : List (Edge (MqttEngine σ) EngineLabel)) : Nat :=
  (logged EngineLabel.connAck? es).length

section Logged

variable {σ α : Type}

@[simp] theorem logged_nil (f : EngineLabel → Option α) : logged (σ := σ) f [] = [] := rfl

theorem logged_snoc (f : EngineLabel → Option α) (es : List (Edge (MqttEngine σ) EngineLabel))
    (s t : MqttEngine σ) (label : EngineLabel) :
    logged f (es ++ [⟨s, label, t⟩]) = logged f es ++ (f label).toList :=
  filterMap_snoc _ es _

/-- A step that says nothing leaves the log as it is. -/
theorem logged_snoc_none {f : EngineLabel → Option α} {label : EngineLabel}
    (h : f label = none) (es : List (Edge (MqttEngine σ) EngineLabel)) (s t : MqttEngine σ) :
    logged f (es ++ [⟨s, label, t⟩]) = logged f es := by
  rw [logged_snoc, h, Option.toList_none, List.append_nil]

theorem logged_eq (f : EngineLabel → Option α) (es : List (Edge (MqttEngine σ) EngineLabel)) :
    logged f es = (es.map Edge.label).filterMap f :=
  List.filterMap_map.symm

theorem logged_append (f : EngineLabel → Option α)
    (es fs : List (Edge (MqttEngine σ) EngineLabel)) :
    logged f (es ++ fs) = logged f es ++ logged f fs :=
  List.filterMap_append

theorem connAcks_snoc (es : List (Edge (MqttEngine σ) EngineLabel)) (s t : MqttEngine σ) :
    connAcks (es ++ [⟨s, .connAck, t⟩]) = connAcks es + 1 := by
  rw [connAcks, logged_snoc, List.length_append]
  rfl

theorem connAcks_snoc_none {label : EngineLabel} (h : label.connAck? = none)
    (es : List (Edge (MqttEngine σ) EngineLabel)) (s t : MqttEngine σ) :
    connAcks (es ++ [⟨s, label, t⟩]) = connAcks es := by
  rw [connAcks, logged_snoc_none h, connAcks]

end Logged

/-! ## The messages -/

/-- The message that the router worker has taken and not yet dispatched. -/
def RouterWorker.inHand : RouterWorker → List MqttMessage
  | dispatching message => [message]
  | _ => []

/-- The event of the message that was dispatched last, until it is published. -/
def RouterWorker.unpublished : RouterWorker → List TelemetryEvent
  | publishing event => [event]
  | _ => []

namespace RouterWorker

@[simp] theorem inHand_selecting : selecting.inHand = [] := rfl
@[simp] theorem inHand_receiving : receiving.inHand = [] := rfl
@[simp] theorem inHand_dispatching (message : MqttMessage) :
    (dispatching message).inHand = [message] := rfl
@[simp] theorem inHand_publishing (event : TelemetryEvent) : (publishing event).inHand = [] := rfl
@[simp] theorem inHand_ended : ended.inHand = [] := rfl
@[simp] theorem unpublished_dispatching (message : MqttMessage) :
    (dispatching message).unpublished = [] := rfl
@[simp] theorem unpublished_selecting : selecting.unpublished = [] := rfl
@[simp] theorem unpublished_receiving : receiving.unpublished = [] := rfl
@[simp] theorem unpublished_ended : ended.unpublished = [] := rfl
@[simp] theorem unpublished_publishing (event : TelemetryEvent) :
    (publishing event).unpublished = [event] := rfl

end RouterWorker

/-- What a publish does to the channel. -/
theorem handlePublish_cases (ingress : Channel MqttMessage) (publish : Publish)
    (now : OffsetDateTime) :
    (∃ error, MqttMessage.fromPublish publish now = .error error ∧
        handlePublish ingress publish now = (.rejected error, ingress)) ∨
      ∃ message, MqttMessage.fromPublish publish now = .ok message ∧
        ((∃ after, ingress.trySend message = .ok after ∧
            handlePublish ingress publish now = (.enqueued message, after)) ∨
          ∃ error, ingress.trySend message = .error error ∧
            handlePublish ingress publish now = (.dropped message error, ingress)) := by
  unfold handlePublish
  cases MqttMessage.fromPublish publish now with
  | error error => exact .inl ⟨error, rfl, rfl⟩
  | ok message =>
    refine .inr ⟨message, rfl, ?_⟩
    cases hsend : ingress.trySend message with
    | ok after =>
      refine .inl ⟨after, rfl, ?_⟩
      simp only [hsend]
    | error error =>
      refine .inr ⟨error, rfl, ?_⟩
      simp only [hsend]

/-- A publish is no message exactly when its topic is not valid. -/
theorem fromPublish_eq_error_iff {publish : Publish} {now : OffsetDateTime}
    {error : MqttEngineError} :
    MqttMessage.fromPublish publish now = .error error ↔
      validateTopicName publish.topic = .error error := by
  unfold MqttMessage.fromPublish MqttMessage.new
  split
  next other h => rw [h, Except.error.injEq, Except.error.injEq]
  next h => exact ⟨nofun, fun herror => absurd (h.symm.trans herror) nofun⟩

/-- What the steps taken so far say about the channel and the router worker. -/
structure IngressKept {σ : Type} (room : Nat) (es : List (Edge (MqttEngine σ) EngineLabel))
    (s : MqttEngine σ) : Prop where
  capacity : s.ingress.capacity = room
  bounded : s.ingress.queue.length ≤ room
  /-- What is in the channel was published, and is there in the order of the publishes. -/
  enqueued : logged EngineLabel.enqueued? es <+ logged EngineLabel.converted? es
  received : logged EngineLabel.received? es <+: logged EngineLabel.enqueued? es
  running : s.router ≠ .ended → s.ingress.closed = false ∧
    Channel.Accounts (logged EngineLabel.enqueued? es) (logged EngineLabel.received? es) s.ingress
  ended : s.router = .ended → s.ingress.closed = true
  dispatched : logged EngineLabel.received? es =
    logged EngineLabel.dispatched? es ++ s.router.inHand
  telemetry : (logged EngineLabel.dispatched? es).map .fromMessage =
    logged EngineLabel.telemetry? es ++ s.router.unpublished

section Ingress

variable {σ ι : Type} {config : MqttClientConfig} {dispatch : Dispatch ι σ} {env : σ → σ → Prop}
  {room : Nat} {es : List (Edge (MqttEngine σ) EngineLabel)} {s t : MqttEngine σ}
  {label : EngineLabel}

/-- A label that says nothing about messages. -/
structure EngineLabel.Silent (label : EngineLabel) : Prop where
  converted : label.converted? = none
  enqueued : label.enqueued? = none
  received : label.received? = none
  dispatched : label.dispatched? = none
  telemetry : label.telemetry? = none

theorem IngressKept.spawn (config : MqttClientConfig) (bus : BusConfig) (app : σ) :
    IngressKept bus.ingressCapacity [] (.spawn config bus app) where
  capacity := rfl
  bounded := Nat.zero_le _
  enqueued := .slnil
  received := List.prefix_rfl
  running _ := ⟨rfl, rfl⟩
  ended := nofun
  dispatched := rfl
  telemetry := rfl

/-- A silent step that leaves the channel and the router worker. -/
theorem IngressKept.silent (hs : IngressKept room es s) (hlabel : label.Silent)
    (hingress : t.ingress = s.ingress) (hrouter : t.router = s.router) :
    IngressKept room (es ++ [⟨s, label, t⟩]) t := by
  obtain ⟨hconverted, henqueued, hreceived, hdispatched, htelemetry⟩ := hlabel
  constructor
  · rw [hingress]
    exact hs.capacity
  · rw [hingress]
    exact hs.bounded
  · rw [logged_snoc_none henqueued, logged_snoc_none hconverted]
    exact hs.enqueued
  · rw [logged_snoc_none henqueued, logged_snoc_none hreceived]
    exact hs.received
  · rw [logged_snoc_none henqueued, logged_snoc_none hreceived, hingress, hrouter]
    exact hs.running
  · rw [hingress, hrouter]
    exact hs.ended
  · rw [logged_snoc_none hreceived, logged_snoc_none hdispatched, hrouter]
    exact hs.dispatched
  · rw [logged_snoc_none hdispatched, logged_snoc_none htelemetry, hrouter]
    exact hs.telemetry

/-- A message that is enqueued. -/
theorem IngressKept.enqueue (hs : IngressKept room es s) {publish : Publish}
    {now : OffsetDateTime} {message : MqttMessage} {ingress : Channel MqttMessage}
    (hsend : s.ingress.trySend message = .ok ingress)
    (hingress : t.ingress = ingress) (hrouter : t.router = s.router) :
    IngressKept room (es ++ [⟨s, .publish publish now (.enqueued message), t⟩]) t := by
  obtain ⟨hopen, hroom, hafter⟩ := Channel.trySend_eq_ok_iff.mp hsend
  have hrunning : s.router ≠ .ended := by
    intro hended
    rw [hs.ended hended] at hopen
    cases hopen
  have henqueued : logged EngineLabel.enqueued?
      (es ++ [⟨s, .publish publish now (.enqueued message), t⟩]) =
        logged EngineLabel.enqueued? es ++ [message] := logged_snoc _ es s t _
  have hconverted : logged EngineLabel.converted?
      (es ++ [⟨s, .publish publish now (.enqueued message), t⟩]) =
        logged EngineLabel.converted? es ++ [message] := logged_snoc _ es s t _
  subst hingress
  constructor
  · rw [hafter]
    exact hs.capacity
  · rw [hs.capacity] at hroom
    rw [hafter, List.length_append]
    exact hroom
  · rw [henqueued, hconverted]
    exact hs.enqueued.append (List.Sublist.refl [message])
  · rw [henqueued, logged_snoc_none rfl]
    exact hs.received.trans (List.prefix_append _ _)
  · rw [henqueued, logged_snoc_none rfl]
    refine fun _ => ⟨?_, (hs.running hrunning).2.trySend hsend⟩
    rw [hafter]
    exact hopen
  · intro hended
    rw [hrouter] at hended
    exact absurd hended hrunning
  · rw [logged_snoc_none rfl, logged_snoc_none rfl, hrouter]
    exact hs.dispatched
  · rw [logged_snoc_none rfl, logged_snoc_none rfl, hrouter]
    exact hs.telemetry

/-- A message that is lost. -/
theorem IngressKept.drop (hs : IngressKept room es s) {publish : Publish}
    {now : OffsetDateTime} {message : MqttMessage} {error : SendError}
    (hingress : t.ingress = s.ingress) (hrouter : t.router = s.router) :
    IngressKept room (es ++ [⟨s, .publish publish now (.dropped message error), t⟩]) t := by
  have hconverted : logged EngineLabel.converted?
      (es ++ [⟨s, .publish publish now (.dropped message error), t⟩]) =
        logged EngineLabel.converted? es ++ [message] :=
    logged_snoc _ es s t _
  constructor
  · rw [hingress]
    exact hs.capacity
  · rw [hingress]
    exact hs.bounded
  · rw [logged_snoc_none rfl, hconverted]
    exact hs.enqueued.trans (List.sublist_append_left _ _)
  · rw [logged_snoc_none rfl, logged_snoc_none rfl]
    exact hs.received
  · rw [logged_snoc_none rfl, logged_snoc_none rfl, hingress, hrouter]
    exact hs.running
  · rw [hingress, hrouter]
    exact hs.ended
  · rw [logged_snoc_none rfl, logged_snoc_none rfl, hrouter]
    exact hs.dispatched
  · rw [logged_snoc_none rfl, logged_snoc_none rfl, hrouter]
    exact hs.telemetry

/-- The router worker takes a message. -/
theorem IngressKept.receive (hs : IngressKept room es s) {message : MqttMessage}
    {ingress : Channel MqttMessage} (hrouter : s.router = .receiving)
    (hrecv : s.ingress.recv = some (message, ingress)) (hingress : t.ingress = ingress)
    (hrouter' : t.router = .dispatching message) :
    IngressKept room (es ++ [⟨s, .received message, t⟩]) t := by
  obtain ⟨hqueue, hclosed, hcapacity⟩ := Channel.recv_eq_some_iff.mp hrecv
  have hreceived : logged EngineLabel.received? (es ++ [⟨s, .received message, t⟩]) =
      logged EngineLabel.received? es ++ [message] := logged_snoc _ es s t _
  obtain ⟨hopen, haccounts⟩ := hs.running (by rw [hrouter]; nofun)
  have haccounts' := haccounts.recv hrecv
  subst hingress
  constructor
  · rw [hcapacity]
    exact hs.capacity
  · have hbounded := hs.bounded
    rw [hqueue, List.length_cons] at hbounded
    exact Nat.le_of_succ_le hbounded
  · rw [logged_snoc_none rfl, logged_snoc_none rfl]
    exact hs.enqueued
  · rw [hreceived, logged_snoc_none rfl]
    exact ⟨_, haccounts'.symm⟩
  · rw [hreceived, logged_snoc_none rfl]
    exact fun _ => ⟨hclosed.trans hopen, haccounts'⟩
  · intro hended
    rw [hrouter'] at hended
    cases hended
  · rw [hreceived, logged_snoc_none rfl, hrouter', hs.dispatched, hrouter,
      RouterWorker.inHand_receiving, RouterWorker.inHand_dispatching, List.append_nil]
  · rw [logged_snoc_none rfl, logged_snoc_none rfl, hrouter', hs.telemetry, hrouter]
    rfl

/-- The router worker hands the message that it has taken to the router. -/
theorem IngressKept.handOver (hs : IngressKept room es s) {message : MqttMessage}
    {result : Except MqttEngineError Bool} (hrouter : s.router = .dispatching message)
    (hingress : t.ingress = s.ingress) (hrouter' : t.router = .publishing (.fromMessage message)) :
    IngressKept room (es ++ [⟨s, .dispatched message result, t⟩]) t := by
  have hdispatched : logged EngineLabel.dispatched?
      (es ++ [⟨s, .dispatched message result, t⟩]) =
        logged EngineLabel.dispatched? es ++ [message] :=
    logged_snoc _ es s t _
  have hrunning := hs.running (by rw [hrouter]; nofun)
  constructor
  · rw [hingress]
    exact hs.capacity
  · rw [hingress]
    exact hs.bounded
  · rw [logged_snoc_none rfl, logged_snoc_none rfl]
    exact hs.enqueued
  · rw [logged_snoc_none rfl, logged_snoc_none rfl]
    exact hs.received
  · rw [logged_snoc_none rfl, logged_snoc_none rfl, hingress]
    exact fun _ => hrunning
  · intro hended
    rw [hrouter'] at hended
    cases hended
  · rw [hdispatched, logged_snoc_none rfl, hs.dispatched, hrouter, hrouter',
      RouterWorker.inHand_dispatching, RouterWorker.inHand_publishing, List.append_nil]
  · rw [hdispatched, logged_snoc_none rfl, List.map_append, hs.telemetry, hrouter, hrouter']
    rw [RouterWorker.unpublished_dispatching, RouterWorker.unpublished_publishing, List.append_nil]
    rfl

/-- The router worker hands the event of the message to the telemetry. -/
theorem IngressKept.publish (hs : IngressKept room es s) {event : TelemetryEvent}
    (hrouter : s.router = .publishing event) (hingress : t.ingress = s.ingress)
    (hrouter' : t.router = .selecting) :
    IngressKept room (es ++ [⟨s, .telemetry event, t⟩]) t := by
  have htelemetry : logged EngineLabel.telemetry? (es ++ [⟨s, .telemetry event, t⟩]) =
      logged EngineLabel.telemetry? es ++ [event] := logged_snoc _ es s t _
  have hrunning := hs.running (by rw [hrouter]; nofun)
  constructor
  · rw [hingress]
    exact hs.capacity
  · rw [hingress]
    exact hs.bounded
  · rw [logged_snoc_none rfl, logged_snoc_none rfl]
    exact hs.enqueued
  · rw [logged_snoc_none rfl, logged_snoc_none rfl]
    exact hs.received
  · rw [logged_snoc_none rfl, logged_snoc_none rfl, hingress]
    exact fun _ => hrunning
  · intro hended
    rw [hrouter'] at hended
    cases hended
  · rw [logged_snoc_none rfl, logged_snoc_none rfl, hs.dispatched, hrouter, hrouter']
    rfl
  · rw [htelemetry, logged_snoc_none rfl, hs.telemetry, hrouter, hrouter',
      RouterWorker.unpublished_publishing, RouterWorker.unpublished_selecting, List.append_nil]

/-- The router worker ends, and drops its receiver. -/
theorem IngressKept.endRouter (hs : IngressKept room es s) (hrouter : s.router = .selecting)
    (hingress : t.ingress = s.ingress.drop) (hrouter' : t.router = .ended) :
    IngressKept room (es ++ [⟨s, .routerEnded, t⟩]) t := by
  constructor
  · rw [hingress]
    exact hs.capacity
  · rw [hingress]
    exact Nat.zero_le _
  · rw [logged_snoc_none rfl, logged_snoc_none rfl]
    exact hs.enqueued
  · rw [logged_snoc_none rfl, logged_snoc_none rfl]
    exact hs.received
  · exact fun hrunning => absurd hrouter' hrunning
  · rw [hingress]
    exact fun _ => rfl
  · rw [logged_snoc_none rfl, logged_snoc_none rfl, hs.dispatched, hrouter, hrouter']
    rfl
  · rw [logged_snoc_none rfl, logged_snoc_none rfl, hs.telemetry, hrouter, hrouter']
    rfl

/-- The router worker looks at the shutdown, or finds nothing in the channel. -/
theorem IngressKept.turn (hs : IngressKept room es s) (hlabel : label.Silent)
    (hrouter : s.router = .selecting ∨ s.router = .receiving) (hingress : t.ingress = s.ingress)
    (hrouter' : t.router = .selecting ∨ t.router = .receiving) :
    IngressKept room (es ++ [⟨s, label, t⟩]) t := by
  have hidle : ∀ {worker : RouterWorker}, worker = .selecting ∨ worker = .receiving →
      worker ≠ .ended ∧ worker.inHand = [] ∧ worker.unpublished = [] := by
    rintro worker (rfl | rfl)
    · exact ⟨nofun, rfl, rfl⟩
    · exact ⟨nofun, rfl, rfl⟩
  obtain ⟨hrunning, hinHand, hunpublished⟩ := hidle hrouter
  obtain ⟨hrunning', hinHand', hunpublished'⟩ := hidle hrouter'
  obtain ⟨hconverted, henqueued, hreceived, hdispatched, htelemetry⟩ := hlabel
  constructor
  · rw [hingress]
    exact hs.capacity
  · rw [hingress]
    exact hs.bounded
  · rw [logged_snoc_none henqueued, logged_snoc_none hconverted]
    exact hs.enqueued
  · rw [logged_snoc_none henqueued, logged_snoc_none hreceived]
    exact hs.received
  · rw [logged_snoc_none henqueued, logged_snoc_none hreceived, hingress]
    exact fun _ => hs.running hrunning
  · exact fun hended => absurd hended hrunning'
  · rw [logged_snoc_none hreceived, logged_snoc_none hdispatched, hinHand', ← hinHand]
    exact hs.dispatched
  · rw [logged_snoc_none hdispatched, logged_snoc_none htelemetry, hunpublished', ← hunpublished]
    exact hs.telemetry

/-- Every step keeps what the labels say about the channel. -/
theorem EngineStep.ingressKept (h : EngineStep config dispatch env s label t)
    (hs : IngressKept room es s) : IngressKept room (es ++ [⟨s, label, t⟩]) t := by
  cases h with
  | mqttLooked hmqtt hrunning => exact hs.silent ⟨rfl, rfl, rfl, rfl, rfl⟩ rfl rfl
  | pollPending hmqtt left hleft => exact hs.silent ⟨rfl, rfl, rfl, rfl, rfl⟩ rfl rfl
  | connAck hmqtt left hleft => exact hs.silent ⟨rfl, rfl, rfl, rfl, rfl⟩ rfl rfl
  | publish publish now hmqtt left hleft =>
    rcases handlePublish_cases s.ingress publish now with
        ⟨error, -, h⟩ | ⟨message, -, ⟨after, hsend, h⟩ | ⟨error, hsend, h⟩⟩
    · rw [h]
      exact hs.silent ⟨rfl, rfl, rfl, rfl, rfl⟩ rfl rfl
    · rw [h]
      exact hs.enqueue hsend rfl rfl
    · rw [h]
      exact hs.drop rfl rfl
  | otherEvent hmqtt left hleft => exact hs.silent ⟨rfl, rfl, rfl, rfl, rfl⟩ rfl rfl
  | pollError hmqtt left hleft => exact hs.silent ⟨rfl, rfl, rfl, rfl, rfl⟩ rfl rfl
  | subscribe hmqtt hroom => exact hs.silent ⟨rfl, rfl, rfl, rfl, rfl⟩ rfl rfl
  | subscribed hmqtt => exact hs.silent ⟨rfl, rfl, rfl, rfl, rfl⟩ rfl rfl
  | waited hmqtt => exact hs.silent ⟨rfl, rfl, rfl, rfl, rfl⟩ rfl rfl
  | mqttEnded hmqtt hstopping => exact hs.silent ⟨rfl, rfl, rfl, rfl, rfl⟩ rfl rfl
  | routerLooked hrouter hrunning =>
    exact hs.turn ⟨rfl, rfl, rfl, rfl, rfl⟩ (.inl hrouter) rfl (.inr rfl)
  | recvPending hrouter =>
    exact hs.turn ⟨rfl, rfl, rfl, rfl, rfl⟩ (.inr hrouter) rfl (.inl rfl)
  | received hrouter hrecv => exact hs.receive hrouter hrecv rfl rfl
  | dispatched choice hrouter => exact hs.handOver hrouter rfl rfl
  | telemetry hrouter => exact hs.publish hrouter rfl rfl
  | routerEnded hrouter hstopping => exact hs.endRouter hrouter rfl rfl
  | shutdown hrunning => exact hs.silent ⟨rfl, rfl, rfl, rfl, rfl⟩ rfl rfl
  | requested hopen hroom => exact hs.silent ⟨rfl, rfl, rfl, rfl, rfl⟩ rfl rfl
  | outside henv => exact hs.silent ⟨rfl, rfl, rfl, rfl, rfl⟩ rfl rfl

theorem IngressKept.run {bus : BusConfig} {app : σ}
    (h : Run (EngineStep config dispatch env) (.spawn config bus app) es s) :
    IngressKept bus.ingressCapacity es s :=
  h.history (IngressKept bus.ingressCapacity) (fun _ _ _ _ hs hstep => hstep.ingressKept hs)
    (.spawn config bus app)

/-- What becomes of a publish: it is no message when its topic is not valid, and otherwise it is
lost only when the channel is full, or when the router worker has ended. -/
theorem EngineStep.published {publish : Publish} {now : OffsetDateTime} {outcome : IngressOutcome}
    (h : EngineStep config dispatch env s (.publish publish now outcome) t)
    (hs : IngressKept room es s) :
    (∃ error, outcome = .rejected error ∧ validateTopicName publish.topic = .error error) ∨
      ∃ message, MqttMessage.fromPublish publish now = .ok message ∧
        (outcome = .enqueued message ∨
          (outcome = .dropped message .full ∧ s.ingress.queue.length = room) ∨
            outcome = .dropped message .closed ∧ s.router = .ended) := by
  cases h with
  | publish publish now hmqtt left hleft =>
    rcases handlePublish_cases s.ingress publish now with
        ⟨error, hmessage, h⟩ | ⟨message, hmessage, ⟨after, hsend, h⟩ | ⟨error, hsend, h⟩⟩
    · refine .inl ⟨error, ?_, fromPublish_eq_error_iff.mp hmessage⟩
      rw [h]
    · refine .inr ⟨message, hmessage, .inl ?_⟩
      rw [h]
    · refine .inr ⟨message, hmessage, .inr ?_⟩
      rw [h]
      rcases Channel.trySend_eq_error_iff.mp hsend with ⟨rfl, hended⟩ | ⟨rfl, hopen, hroom⟩
      · refine .inr ⟨rfl, ?_⟩
        by_contra hrouter
        rw [(hs.running hrouter).1] at hended
        cases hended
      · rw [hs.capacity] at hroom
        exact .inl ⟨rfl, Nat.le_antisymm hs.bounded hroom⟩

end Ingress

/-! ## The handlers -/

/-- What acts on the handlers of the router. -/
inductive AppLabel where
  | dispatched (message : MqttMessage) (result : Except MqttEngineError Bool)
  | outside

/-- A router to which one message after the other is handed, and the rest of the program. -/
inductive AppStep {σ ι : Type} (dispatch : Dispatch ι σ) (env : σ → σ → Prop) :
    σ → AppLabel → σ → Prop
  | dispatched {app : σ} (choice : ι) (message : MqttMessage) :
      AppStep dispatch env app (.dispatched message (dispatch choice message app).1)
        (dispatch choice message app).2
  | outside {app app' : σ} (henv : env app app') : AppStep dispatch env app .outside app'

/-- What a step of the engine is to the handlers. -/
def EngineLabel.app? : EngineLabel → Option AppLabel
  | dispatched message result => some (.dispatched message result)
  | outside => some .outside
  | _ => none

section Handlers

variable {σ ι : Type} {config : MqttClientConfig} {dispatch : Dispatch ι σ} {env : σ → σ → Prop}
  {es : List (Edge (MqttEngine σ) EngineLabel)} {s t : MqttEngine σ} {label : EngineLabel}

/-- To the handlers a step of the engine is a step of the router, of the rest of the program, or
nothing at all. -/
theorem EngineStep.app (h : EngineStep config dispatch env s label t) :
    label.app? = none ∧ t.app = s.app ∨
      ∃ label', label.app? = some label' ∧ AppStep dispatch env s.app label' t.app := by
  cases h with
  | dispatched choice hrouter => exact .inr ⟨_, rfl, .dispatched choice _⟩
  | outside henv => exact .inr ⟨_, rfl, .outside henv⟩
  | _ => exact .inl ⟨rfl, rfl⟩

/-- A step of the engine hands a message to the router, or leaves the handlers to the rest of the
program, or leaves them alone. -/
theorem EngineStep.handlers (h : EngineStep config dispatch env s label t) :
    (∃ message choice, label.dispatched? = some message ∧
        t.app = (dispatch choice message s.app).2) ∨
      label.dispatched? = none ∧ (env s.app t.app ∨ t.app = s.app) := by
  cases h with
  | dispatched choice hrouter => exact .inl ⟨_, choice, rfl, rfl⟩
  | outside henv => exact .inr ⟨rfl, .inl henv⟩
  | _ => exact .inr ⟨rfl, .inr rfl⟩

/-- To the handlers the two workers are one loop. -/
theorem app_run (h : Run (EngineStep config dispatch env) s es t) :
    ∃ fs, Run (AppStep dispatch env) s.app fs t.app ∧
      fs.map Edge.label = logged EngineLabel.app? es := by
  have hskip : ∀ (e : Edge (MqttEngine σ) EngineLabel) (app : σ),
      EngineStep config dispatch env e.source e.label e.target → e.source.app = app →
        e.label.app? = none → e.target.app = app := by
    rintro ⟨s, label, t⟩ app hstep rfl hnone
    rcases hstep.app with ⟨-, happ⟩ | ⟨label', hsome, -⟩
    · exact happ
    · exact absurd (hnone.symm.trans hsome) nofun
  have hmove : ∀ (e : Edge (MqttEngine σ) EngineLabel) (app : σ) (label' : AppLabel),
      EngineStep config dispatch env e.source e.label e.target → e.source.app = app →
        e.label.app? = some label' →
          ∃ app', AppStep dispatch env app label' app' ∧ e.target.app = app' := by
    rintro ⟨s, label, t⟩ app label' hstep rfl hsome
    rcases hstep.app with ⟨hnone, -⟩ | ⟨label'', hsome', happ⟩
    · exact absurd (hnone.symm.trans hsome) nofun
    · obtain rfl := Option.some.inj (hsome.symm.trans hsome')
      exact ⟨t.app, happ, rfl⟩
  obtain ⟨fs, app, hrun, rfl, hlabels⟩ :=
    h.simulate (fun s app => s.app = app) (fun e => e.label.app?) hskip hmove rfl
  exact ⟨fs, hrun, hlabels⟩

end Handlers

/-- What the workers do with the messages that are published, up to the steps `es`. -/
structure IngressExact {σ ι : Type} (dispatch : Dispatch ι σ) (env : σ → σ → Prop)
    (bus : BusConfig) (app : σ) (es : List (Edge (MqttEngine σ) EngineLabel))
    (s : MqttEngine σ) : Prop where
  /-- Only published messages are enqueued, in their order; the others found the channel full, or
  the router worker gone. -/
  enqueued : logged EngineLabel.enqueued? es <+ logged EngineLabel.converted? es
  dropped : ∀ e ∈ es, ∀ publish now message error,
    e.label = .publish publish now (.dropped message error) →
      error = .full ∧ e.source.ingress.queue.length = bus.ingressCapacity ∨
        error = .closed ∧ e.source.router = .ended
  /-- A publish is rejected exactly when its topic is not valid. -/
  rejected : ∀ e ∈ es, ∀ publish now outcome, e.label = .publish publish now outcome → ∀ error,
    outcome = .rejected error ↔ validateTopicName publish.topic = .error error
  converted : ∀ e ∈ es, ∀ publish now outcome, e.label = .publish publish now outcome →
    ∀ message, (outcome = .enqueued message ∨ ∃ error, outcome = .dropped message error) →
      MqttMessage.fromPublish publish now = .ok message
  bounded : s.ingress.queue.length ≤ bus.ingressCapacity
  /-- The enqueued messages are dispatched in their order, and each of them once: they are those
  that were dispatched, the one in hand and those in the channel. -/
  dispatched : s.router ≠ .ended → logged EngineLabel.enqueued? es =
    logged EngineLabel.dispatched? es ++ s.router.inHand ++ s.ingress.queue
  ended : s.router = .ended →
    logged EngineLabel.dispatched? es <+: logged EngineLabel.enqueued? es
  /-- Every event of the telemetry is that of a message that was dispatched before it. -/
  telemetry : (logged EngineLabel.dispatched? es).map .fromMessage =
    logged EngineLabel.telemetry? es ++ s.router.unpublished
  /-- The handlers are where a loop over the dispatched messages takes them. -/
  app : ∃ fs, Run (AppStep dispatch env) app fs s.app ∧
    fs.map Edge.label = logged EngineLabel.app? es

/-- **The ingress of the engine.**  However the two workers and the rest of the program interleave,
the messages that were put into the channel are dispatched one after the other in the order in which
they were published, each exactly once, and only then handed to the telemetry; a message is lost
only when the channel is full or the router worker has ended. -/
theorem ingress_exact {σ ι : Type} (config : MqttClientConfig) (bus : BusConfig)
    (dispatch : Dispatch ι σ) (env : σ → σ → Prop) (app : σ)
    (es : List (Edge (MqttEngine σ) EngineLabel)) (s : MqttEngine σ)
    (h : Run (EngineStep config dispatch env) (.spawn config bus app) es s) :
    IngressExact dispatch env bus app es s := by
  have hkept := IngressKept.run h
  have hpublished : ∀ e ∈ es, ∀ publish now outcome, e.label = .publish publish now outcome →
      (∃ error, outcome = .rejected error ∧ validateTopicName publish.topic = .error error) ∨
        ∃ message, MqttMessage.fromPublish publish now = .ok message ∧
          (outcome = .enqueued message ∨
            (outcome = .dropped message .full ∧
              e.source.ingress.queue.length = bus.ingressCapacity) ∨
              outcome = .dropped message .closed ∧ e.source.router = .ended) := by
    intro e he publish now outcome hlabel
    obtain ⟨before, after, -, hbefore, hstep, -⟩ := h.split_of_mem he
    rw [hlabel] at hstep
    exact hstep.published (IngressKept.run hbefore)
  refine ⟨hkept.enqueued, ?_, ?_, ?_, hkept.bounded, ?_, ?_, hkept.telemetry, app_run h⟩
  · intro e he publish now message error hlabel
    rcases hpublished e he publish now _ hlabel with
        ⟨_, heq, -⟩ | ⟨_, -, heq | ⟨heq, hfull⟩ | ⟨heq, hended⟩⟩
    · cases heq
    · cases heq
    · cases heq
      exact .inl ⟨rfl, hfull⟩
    · cases heq
      exact .inr ⟨rfl, hended⟩
  · intro e he publish now outcome hlabel error
    rcases hpublished e he publish now outcome hlabel with
        ⟨error', rfl, hinvalid⟩ | ⟨message, hmessage, houtcome⟩
    · rw [hinvalid, IngressOutcome.rejected.injEq, Except.error.injEq]
    · have hvalid : validateTopicName publish.topic ≠ .error error := by
        intro hinvalid
        have herror : MqttMessage.fromPublish publish now = .error error :=
          fromPublish_eq_error_iff.mpr hinvalid
        rw [hmessage] at herror
        cases herror
      refine ⟨fun heq => ?_, fun h => absurd h hvalid⟩
      rcases houtcome with rfl | ⟨rfl, -⟩ | ⟨rfl, -⟩
      · cases heq
      · cases heq
      · cases heq
  · intro e he publish now outcome hlabel message houtcome
    rcases hpublished e he publish now outcome hlabel with
        ⟨error', rfl, -⟩ | ⟨message', hmessage, heq⟩
    · rcases houtcome with heq | ⟨_, heq⟩
      · cases heq
      · cases heq
    · rw [hmessage]
      rcases heq with rfl | ⟨rfl, -⟩ | ⟨rfl, -⟩
      · rcases houtcome with heq | ⟨_, heq⟩
        · rw [IngressOutcome.enqueued.inj heq]
        · cases heq
      · rcases houtcome with heq | ⟨_, heq⟩
        · cases heq
        · rw [(IngressOutcome.dropped.inj heq).1]
      · rcases houtcome with heq | ⟨_, heq⟩
        · cases heq
        · rw [(IngressOutcome.dropped.inj heq).1]
  · intro hrunning
    have haccounts : logged EngineLabel.enqueued? es =
        logged EngineLabel.received? es ++ s.ingress.queue := (hkept.running hrunning).2
    rw [haccounts, hkept.dispatched]
  · intro hended
    have hreceived := hkept.dispatched
    rw [hended, RouterWorker.inHand_ended, List.append_nil] at hreceived
    rw [← hreceived]
    exact hkept.received

/-- A configuration with one subscription. -/
def meterConfig : MqttClientConfig :=
  (MqttClientConfig.new "pipe-bolt" "broker.local" 1883).withSubscription "meters/#" .atLeastOnce

/-- A bus with room for one message. -/
def meterBus : BusConfig := { BusConfig.default with ingressCapacity := 1 }

/-- A router that has no handler. -/
def idleDispatch : Dispatch Unit Unit := fun _ _ app => (.ok false, app)

/-- A reading that is published. -/
def meterPublish (reading : UInt8) : Publish := ⟨"meters/7", .atLeastOnce, false, [reading]⟩

/-- The reading as a message. -/
def meterMessage (reading : UInt8) : MqttMessage where
  topic := "meters/7"
  qos := .atLeastOnce
  retain := false
  payload := [reading]
  receivedAt := 0
  topic_valid := by decide

/-- A publish on a topic that is not valid. -/
def wildcardPublish : Publish := ⟨"meters/+", .atLeastOnce, false, []⟩

/-- After the connection one reading is enqueued, the next finds the channel full, and a third
publish is rejected.  The connection fails twice and is acknowledged again, the reading is
dispatched and another one is enqueued.  Both workers are in a poll when the engine is shut
down. -/
theorem meter_run : ∃ es s,
    Run (EngineStep meterConfig idleDispatch fun _ _ => False)
        (.spawn meterConfig meterBus ()) es s ∧
      logged EngineLabel.converted? es = [meterMessage 42, meterMessage 43, meterMessage 44] ∧
      logged EngineLabel.enqueued? es = [meterMessage 42, meterMessage 44] ∧
      logged EngineLabel.dispatched? es = [meterMessage 42] ∧
      connAcks es = 2 ∧
      logged EngineLabel.backoff? es = [.reset, .reset, .reset, .reset,
        .nextDelay (.fromMillis 500), .nextDelay (.fromMillis 1000), .reset, .reset,
        .nextDelay (.fromMillis 500)] ∧
      s.mqtt = .polling ∧ s.requests = 1 ∧ s.router = .receiving ∧ s.stopping = true ∧
      s.ingress.queue = [meterMessage 44] := by
  refine ⟨_, _, .cons (.mqttLooked rfl rfl) <| .cons (.connAck rfl 0 (Nat.zero_le _)) <|
    .cons (.subscribe rfl (by decide)) <| .cons (.subscribed rfl) <|
    .cons (.mqttLooked rfl rfl) <| .cons (.publish (meterPublish 42) 0 rfl 1 (Nat.le_refl _)) <|
    .cons (.mqttLooked rfl rfl) <| .cons (.publish (meterPublish 43) 0 rfl 0 (Nat.zero_le _)) <|
    .cons (.mqttLooked rfl rfl) <| .cons (.publish wildcardPublish 0 rfl 0 (Nat.zero_le _)) <|
    .cons (.mqttLooked rfl rfl) <| .cons (.pollError rfl 0 (Nat.zero_le _)) <|
    .cons (.waited rfl) <|
    .cons (.mqttLooked rfl rfl) <| .cons (.pollError rfl 0 (Nat.zero_le _)) <|
    .cons (.waited rfl) <|
    .cons (.mqttLooked rfl rfl) <| .cons (.connAck rfl 0 (Nat.zero_le _)) <|
    .cons (.subscribe rfl (by decide)) <| .cons (.subscribed rfl) <|
    .cons (.routerLooked rfl rfl) <| .cons (.received rfl rfl) <| .cons (.dispatched () rfl) <|
    .cons (.telemetry rfl) <|
    .cons (.mqttLooked rfl rfl) <| .cons (.publish (meterPublish 44) 0 rfl 1 (Nat.le_refl _)) <|
    .cons (.mqttLooked rfl rfl) <| .cons (.pollError rfl 1 (Nat.le_refl _)) <|
    .cons (.waited rfl) <|
    .cons (.mqttLooked rfl rfl) <| .cons (.routerLooked rfl rfl) <| .cons (.shutdown rfl) <| .nil _,
    rfl, rfl, rfl, rfl, rfl, rfl, rfl, rfl, rfl, rfl⟩

theorem ingress_exact_meter : ∃ es s,
    Run (EngineStep meterConfig idleDispatch fun _ _ => False)
        (.spawn meterConfig meterBus ()) es s ∧
      IngressExact idleDispatch (fun _ _ => False) meterBus () es s ∧
      logged EngineLabel.converted? es = [meterMessage 42, meterMessage 43, meterMessage 44] ∧
      logged EngineLabel.enqueued? es = [meterMessage 42, meterMessage 44] ∧
      logged EngineLabel.dispatched? es = [meterMessage 42] := by
  obtain ⟨es, s, hrun, hconverted, henqueued, hdispatched, -⟩ := meter_run
  exact ⟨es, s, hrun, ingress_exact _ _ _ _ _ _ _ hrun, hconverted, henqueued, hdispatched⟩

end Core
end PipeBolt
