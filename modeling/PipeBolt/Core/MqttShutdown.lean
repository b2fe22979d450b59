import PipeBolt.Core.MqttSession

/-!
# The shutdown of the MQTT engine

`MqttEngine::shutdown` signals the workers and waits for them.  A worker that is in a poll when the
signal comes may still handle what the poll returns; after that nothing is polled or received.  A
subscription that finds the request queue of the client full waits for a poll that never comes.

* `Winding`: what a step after the signal does to the work that is left (`EngineStep.winding`).
* `Blocked`: the MQTT worker waits for room, and nothing but a poll of its own makes any.
* `shutdown_exact`: what is still done, when the workers end, and what is lost.
-/

namespace PipeBolt
namespace Core

open Domain Rust BoundedChannel Transition

/-! ## The work that is left -/

/-- How many steps the MQTT worker takes at most once a shutdown was requested. -/
def MqttWorker.work (config : MqttClientConfig) : MqttWorker → Nat
  | selecting => 1
  | polling => config.subscriptions.length + 3
  | subscribing rest => rest.length + 2
  | waiting _ => 2
  | ended => 0

/-- How many events the MQTT worker still polls then. -/
def MqttWorker.polls : MqttWorker → Nat
  | polling => 1
  | _ => 0

/-- How many subscriptions it still requests then. -/
def MqttWorker.wanted (config : MqttClientConfig) : MqttWorker → Nat
  | polling => config.subscriptions.length
  | subscribing rest => rest.length
  | _ => 0

/-- How many steps the router worker takes at most then. -/
def RouterWorker.work : RouterWorker → Nat
  | selecting => 1
  | receiving => 4
  | dispatching _ => 3
  | publishing _ => 2
  | ended => 0

/-- How many messages the router worker still takes then. -/
def RouterWorker.takes : RouterWorker → Nat
  | receiving => 1
  | _ => 0

def MqttEngine.work {σ : Type} (config : MqttClientConfig) (s : MqttEngine σ) : Nat :=
  s.mqtt.work config + s.router.work

/-- How many requests there are in the queue of the client, with the subscriptions to come. -/
def MqttEngine.load {σ : Type} (config : MqttClientConfig) (s : MqttEngine σ) : Nat :=
  s.requests + s.mqtt.wanted config

/-- Both workers have ended, so that `shutdown` can return. -/
def MqttEngine.Ended {σ : Type} (s : MqttEngine σ) : Prop := s.mqtt = .ended ∧ s.router = .ended

/-- The MQTT worker waits in `subscribe`, and the queue of the client is full. -/
def MqttEngine.Blocked {σ : Type} (config : MqttClientConfig) (s : MqttEngine σ) : Prop :=
  config.requestChannelCapacity ≤ s.requests ∧
    ∃ subscription rest, s.mqtt = .subscribing (subscription :: rest)

namespace EngineLabel

/-- A step of one of the two workers. -/
def isWorker : EngineLabel → Bool
  | shutdown => false
  | requested => false
  | outside => false
  | _ => true

/-- A request of the rest of the program to the client. -/
def requested? : EngineLabel → Option Unit
  | requested => some ()
  | _ => none

end EngineLabel

/-- How many steps of the workers there are. -/
def workerSteps {σ : Type} (es : List (Edge (MqttEngine σ) EngineLabel)) : Nat :=
  es.countP fun e => e.label.isWorker

section Shutdown

variable {σ ι : Type} {config : MqttClientConfig} {dispatch : Dispatch ι σ} {env : σ → σ → Prop}
  {es fs : List (Edge (MqttEngine σ) EngineLabel)} {s t : MqttEngine σ} {label : EngineLabel}

theorem logged_cons_length {α : Type} (f : EngineLabel → Option α) (s t : MqttEngine σ)
    (label : EngineLabel) (es : List (Edge (MqttEngine σ) EngineLabel)) :
    (logged f (⟨s, label, t⟩ :: es)).length =
      (f label).toList.length + (logged f es).length := by
  rw [logged, logged, List.filterMap_cons]
  cases f label with
  | none => exact (Nat.zero_add _).symm
  | some a => exact Nat.add_comm _ 1

/-- A step after a shutdown was requested: what is still polled, taken and done gets less, and only
the rest of the program adds to the requests. -/
structure Winding (config : MqttClientConfig) (s : MqttEngine σ) (label : EngineLabel)
    (t : MqttEngine σ) : Prop where
  stopping : t.stopping = true
  polled : label.backoff?.toList.length + t.mqtt.polls ≤ s.mqtt.polls
  received : label.received?.toList.length + t.router.takes ≤ s.router.takes
  load : t.load config ≤ s.load config + label.requested?.toList.length
  work : label.isWorker = true → t.work config < s.work config
  rest : label.isWorker = false → t.work config = s.work config

/-- A step of the MQTT worker leaves the work of the router worker. -/
theorem Winding.mqtt (hs : t.stopping = true) (hrouter : t.router = s.router)
    (hlabel : label.received? = none) (hrequested : label.requested? = none)
    (hworker : label.isWorker = true)
    (hpolls : label.backoff?.toList.length + t.mqtt.polls ≤ s.mqtt.polls)
    (hload : t.requests + t.mqtt.wanted config ≤ s.requests + s.mqtt.wanted config)
    (hwork : t.mqtt.work config < s.mqtt.work config) : Winding config s label t := by
  refine ⟨hs, hpolls, ?_, ?_, fun _ => ?_, fun hrest => ?_⟩
  · rw [hlabel, hrouter]
    exact Nat.le_of_eq (Nat.zero_add _)
  · rw [hrequested]
    exact hload
  · rw [MqttEngine.work, MqttEngine.work, hrouter]
    exact Nat.add_lt_add_right hwork _
  · rw [hworker] at hrest
    cases hrest

/-- A step of the router worker leaves the work of the MQTT worker. -/
theorem Winding.router (hs : t.stopping = true) (hmqtt : t.mqtt = s.mqtt)
    (hrequests : t.requests = s.requests) (hlabel : label.backoff? = none)
    (hrequested : label.requested? = none) (hworker : label.isWorker = true)
    (htakes : label.received?.toList.length + t.router.takes ≤ s.router.takes)
    (hwork : t.router.work < s.router.work) : Winding config s label t := by
  refine ⟨hs, ?_, htakes, ?_, fun _ => ?_, fun hrest => ?_⟩
  · rw [hlabel, hmqtt]
    exact Nat.le_of_eq (Nat.zero_add _)
  · rw [hrequested, MqttEngine.load, MqttEngine.load, hrequests, hmqtt]
    exact Nat.le_refl _
  · rw [MqttEngine.work, MqttEngine.work, hmqtt]
    exact Nat.add_lt_add_left hwork _
  · rw [hworker] at hrest
    cases hrest

/-- A step of the rest of the program leaves the workers. -/
theorem Winding.other (hs : t.stopping = true) (hmqtt : t.mqtt = s.mqtt)
    (hrouter : t.router = s.router) (hbackoff : label.backoff? = none)
    (hreceived : label.received? = none) (hworker : label.isWorker = false)
    (hrequests : t.requests ≤ s.requests + label.requested?.toList.length) :
    Winding config s label t := by
  refine ⟨hs, ?_, ?_, ?_, fun hwork => ?_, fun _ => ?_⟩
  · rw [hbackoff, hmqtt]
    exact Nat.le_of_eq (Nat.zero_add _)
  · rw [hreceived, hrouter]
    exact Nat.le_of_eq (Nat.zero_add _)
  · rw [MqttEngine.load, MqttEngine.load, hmqtt]
    omega
  · rw [hworker] at hwork
    cases hwork
  · rw [MqttEngine.work, MqttEngine.work, hmqtt, hrouter]

theorem EngineStep.winding (h : EngineStep config dispatch env s label t)
    (hs : s.stopping = true) : Winding config s label t := by
  have hnot : ¬ s.stopping = false := by
    rw [hs]
    exact nofun
  cases h with
  | mqttLooked hmqtt hrunning => exact absurd hrunning hnot
  | pollPending hmqtt left hleft =>
    refine .mqtt hs rfl rfl rfl rfl ?_ ?_ ?_
    all_goals simp only [hmqtt, MqttWorker.polls, MqttWorker.wanted, MqttWorker.work,
      EngineLabel.backoff?, Option.toList_none, List.length_nil]
    all_goals omega
  | connAck hmqtt left hleft =>
    refine .mqtt hs rfl rfl rfl rfl ?_ ?_ ?_
    all_goals simp only [hmqtt, MqttWorker.polls, MqttWorker.wanted, MqttWorker.work,
      EngineLabel.backoff?, Option.toList_some, List.length_singleton]
    all_goals omega
  | publish publish now hmqtt left hleft =>
    refine .mqtt hs rfl rfl rfl rfl ?_ ?_ ?_
    all_goals simp only [hmqtt, MqttWorker.polls, MqttWorker.wanted, MqttWorker.work,
      EngineLabel.backoff?, Option.toList_some, List.length_singleton]
    all_goals omega
  | otherEvent hmqtt left hleft =>
    refine .mqtt hs rfl rfl rfl rfl ?_ ?_ ?_
    all_goals simp only [hmqtt, MqttWorker.polls, MqttWorker.wanted, MqttWorker.work,
      EngineLabel.backoff?, Option.toList_some, List.length_singleton]
    all_goals omega
  | pollError hmqtt left hleft =>
    refine .mqtt hs rfl rfl rfl rfl ?_ ?_ ?_
    all_goals simp only [hmqtt, MqttWorker.polls, MqttWorker.wanted, MqttWorker.work,
      EngineLabel.backoff?, Option.toList_some, List.length_singleton]
    all_goals omega
  | @subscribe subscription rest hmqtt hroom =>
    refine .mqtt hs rfl rfl rfl rfl ?_ ?_ ?_
    all_goals simp only [hmqtt, MqttWorker.polls, MqttWorker.wanted, MqttWorker.work,
      EngineLabel.backoff?, Option.toList_none, List.length_nil, List.length_cons]
    all_goals omega
  | subscribed hmqtt =>
    refine .mqtt hs rfl rfl rfl rfl ?_ ?_ ?_
    all_goals simp only [hmqtt, MqttWorker.polls, MqttWorker.wanted, MqttWorker.work,
      EngineLabel.backoff?, Option.toList_none, List.length_nil]
    all_goals omega
  | waited hmqtt =>
    refine .mqtt hs rfl rfl rfl rfl ?_ ?_ ?_
    all_goals simp only [hmqtt, MqttWorker.polls, MqttWorker.wanted, MqttWorker.work,
      EngineLabel.backoff?, Option.toList_none, List.length_nil]
    all_goals omega
  | mqttEnded hmqtt hstopping =>
    rcases hmqtt with hmqtt | ⟨delay, hmqtt⟩
    all_goals refine .mqtt hs rfl rfl rfl rfl ?_ ?_ ?_
    all_goals simp only [hmqtt, MqttWorker.polls, MqttWorker.wanted, MqttWorker.work,
      EngineLabel.backoff?, Option.toList_none, List.length_nil]
    all_goals omega
  | routerLooked hrouter hrunning => exact absurd hrunning hnot
  | recvPending hrouter =>
    refine .router hs rfl rfl rfl rfl rfl (Nat.zero_le _) ?_
    rw [hrouter]
    exact (by decide : 1 < 4)
  | received hrouter hrecv =>
    refine .router hs rfl rfl rfl rfl rfl ?_ ?_
    · rw [hrouter]
      exact Nat.le_refl 1
    · rw [hrouter]
      exact Nat.lt_succ_self 3
  | dispatched choice hrouter =>
    refine .router hs rfl rfl rfl rfl rfl (Nat.zero_le _) ?_
    rw [hrouter]
    exact Nat.lt_succ_self 2
  | telemetry hrouter =>
    refine .router hs rfl rfl rfl rfl rfl (Nat.zero_le _) ?_
    rw [hrouter]
    exact Nat.lt_succ_self 1
  | routerEnded hrouter hstopping =>
    refine .router hs rfl rfl rfl rfl rfl (Nat.zero_le _) ?_
    rw [hrouter]
    exact Nat.lt_succ_self 0
  | shutdown hrunning => exact absurd hrunning hnot
  | requested hopen hroom => exact .other hs rfl rfl rfl rfl rfl (Nat.le_refl _)
  | outside henv => exact .other hs rfl rfl rfl rfl rfl (Nat.le_refl _)

/-- The steps after a shutdown was requested, together. -/
structure Wound (config : MqttClientConfig) (s : MqttEngine σ)
    (fs : List (Edge (MqttEngine σ) EngineLabel)) (t : MqttEngine σ) : Prop where
  stopping : t.stopping = true
  polled : (logged EngineLabel.backoff? fs).length + t.mqtt.polls ≤ s.mqtt.polls
  received : (logged EngineLabel.received? fs).length + t.router.takes ≤ s.router.takes
  load : t.load config ≤ s.load config + (logged EngineLabel.requested? fs).length
  work : workerSteps fs + t.work config ≤ s.work config

theorem wound_run (h : Run (EngineStep config dispatch env) s fs t) (hs : s.stopping = true) :
    Wound config s fs t := by
  induction h with
  | nil s =>
    exact ⟨hs, Nat.le_of_eq (Nat.zero_add _), Nat.le_of_eq (Nat.zero_add _), Nat.le_refl _,
      Nat.le_of_eq (Nat.zero_add _)⟩
  | @cons s u t label fs hstep _ ih =>
    have hwinding := hstep.winding hs
    have hwound := ih hwinding.stopping
    refine ⟨hwound.stopping, ?_, ?_, ?_, ?_⟩
    · have hpolled := hwinding.polled
      have hpolled' := hwound.polled
      rw [logged_cons_length]
      omega
    · have hreceived := hwinding.received
      have hreceived' := hwound.received
      rw [logged_cons_length]
      omega
    · have hload := hwinding.load
      have hload' := hwound.load
      rw [logged_cons_length]
      omega
    · have hwork := hwound.work
      cases hlabel : label.isWorker with
      | true =>
        have hless := hwinding.work hlabel
        have hcount : workerSteps (⟨s, label, u⟩ :: fs) = workerSteps fs + 1 :=
          List.countP_cons_of_pos hlabel
        omega
      | false =>
        have hsame := hwinding.rest hlabel
        have hcount : workerSteps (⟨s, label, u⟩ :: fs) = workerSteps fs :=
          List.countP_cons_of_neg (Bool.eq_false_iff.mp hlabel)
        omega

/-! ## The end -/

/-- The router worker can take its next step once a shutdown was requested. -/
theorem exists_router_step [Inhabited ι] (hs : s.stopping = true) (hrouter : s.router ≠ .ended) :
    ∃ label u, label.isWorker = true ∧ EngineStep config dispatch env s label u := by
  cases h : s.router with
  | selecting => exact ⟨_, _, rfl, .routerEnded h hs⟩
  | receiving => exact ⟨_, _, rfl, .recvPending h⟩
  | dispatching message => exact ⟨_, _, rfl, .dispatched default h⟩
  | publishing event => exact ⟨_, _, rfl, .telemetry h⟩
  | ended => exact absurd h hrouter

/-- So can the MQTT worker, unless it waits for room in the queue of the client. -/
theorem exists_mqtt_step (hs : s.stopping = true) (hmqtt : s.mqtt ≠ .ended)
    (hblocked : ¬ s.Blocked config) :
    ∃ label u, label.isWorker = true ∧ EngineStep config dispatch env s label u := by
  cases h : s.mqtt with
  | selecting => exact ⟨_, _, rfl, .mqttEnded (.inl h) hs⟩
  | polling => exact ⟨_, _, rfl, .pollPending h _ (Nat.le_refl _)⟩
  | subscribing rest =>
    cases rest with
    | nil => exact ⟨_, _, rfl, .subscribed h⟩
    | cons subscription rest =>
      have hroom : s.requests < config.requestChannelCapacity := by
        refine Nat.lt_of_not_le fun hfull => hblocked ⟨hfull, subscription, rest, h⟩
      exact ⟨_, _, rfl, .subscribe h hroom⟩
  | waiting delay => exact ⟨_, _, rfl, .mqttEnded (.inr ⟨delay, h⟩) hs⟩
  | ended => exact absurd h hmqtt

/-- Nothing makes room for a worker that waits for it. -/
theorem MqttEngine.Blocked.step (hs : s.Blocked config)
    (h : EngineStep config dispatch env s label t) : t.Blocked config := by
  obtain ⟨hfull, subscription, rest, hmqtt⟩ := hs
  have hnot : ∀ {worker : MqttWorker}, worker = s.mqtt →
      worker ≠ .selecting ∧ worker ≠ .polling ∧ worker ≠ .subscribing [] ∧
        ∀ delay, worker ≠ .waiting delay := by
    rintro worker rfl
    rw [hmqtt]
    exact ⟨nofun, nofun, nofun, nofun⟩
  obtain ⟨hselecting, hpolling, hsubscribed, hwaiting⟩ := hnot rfl
  cases h with
  | mqttLooked h hrunning => exact absurd h hselecting
  | pollPending h left hleft => exact absurd h hpolling
  | connAck h left hleft => exact absurd h hpolling
  | publish publish now h left hleft => exact absurd h hpolling
  | otherEvent h left hleft => exact absurd h hpolling
  | pollError h left hleft => exact absurd h hpolling
  | subscribe h hroom => exact absurd hfull (Nat.not_le_of_lt hroom)
  | subscribed h => exact absurd h hsubscribed
  | waited h => exact absurd h (hwaiting _)
  | mqttEnded h hstopping =>
    rcases h with h | ⟨delay, h⟩
    · exact absurd h hselecting
    · exact absurd h (hwaiting delay)
  | requested hopen hroom => exact absurd hfull (Nat.not_le_of_lt hroom)
  | _ => exact ⟨hfull, subscription, rest, hmqtt⟩

theorem MqttEngine.Blocked.run (hs : s.Blocked config)
    (h : Run (EngineStep config dispatch env) s fs t) : t.Blocked config :=
  (h.invariant' (MqttEngine.Blocked config) (fun _ _ _ hstep hblocked => hblocked.step hstep) hs).1

theorem MqttEngine.Blocked.not_ended (hs : s.Blocked config) : ¬ s.Ended := by
  obtain ⟨-, subscription, rest, hmqtt⟩ := hs
  rintro ⟨hended, -⟩
  exact absurd (hmqtt.symm.trans hended) nofun

/-- A worker that waits for room does so because of all the requests that there are. -/
theorem MqttEngine.Blocked.lt_load (hs : s.Blocked config) :
    config.requestChannelCapacity < s.load config := by
  obtain ⟨hfull, subscription, rest, hmqtt⟩ := hs
  have hwanted : s.mqtt.wanted config = rest.length + 1 := by
    rw [hmqtt]
    rfl
  rw [MqttEngine.load, hwanted]
  omega

theorem SessionKept.work_le (hs : SessionKept config es s) :
    s.work config ≤ config.subscriptions.length + 7 := by
  have hmqtt : s.mqtt.work config ≤ config.subscriptions.length + 3 := by
    have hremaining := hs.remaining
    cases h : s.mqtt with
    | selecting => exact Nat.le_add_left_of_le (by decide : 1 ≤ 3)
    | polling => exact Nat.le_refl _
    | subscribing rest =>
      rw [h] at hremaining
      exact Nat.le_succ_of_le (Nat.add_le_add_right hremaining 2)
    | waiting delay => exact Nat.le_add_left_of_le (by decide : 2 ≤ 3)
    | ended => exact Nat.zero_le _
  have hrouter : s.router.work ≤ 4 := by
    cases s.router with
    | selecting => exact (by decide : 1 ≤ 4)
    | receiving => exact Nat.le_refl 4
    | dispatching message => exact (by decide : 3 ≤ 4)
    | publishing event => exact (by decide : 2 ≤ 4)
    | ended => exact Nat.zero_le 4
  rw [MqttEngine.work]
  omega

theorem MqttWorker.polls_le (worker : MqttWorker) : worker.polls ≤ 1 := by
  cases worker with
  | polling => exact Nat.le_refl 1
  | _ => exact Nat.zero_le 1

theorem RouterWorker.takes_le (worker : RouterWorker) : worker.takes ≤ 1 := by
  cases worker with
  | receiving => exact Nat.le_refl 1
  | _ => exact Nat.zero_le 1

end Shutdown

/-- What follows a shutdown that was requested in the state `s`, after the steps `es`. -/
structure ShutdownExact {σ ι : Type} (config : MqttClientConfig) (dispatch : Dispatch ι σ)
    (env : σ → σ → Prop) (es : List (Edge (MqttEngine σ) EngineLabel)) (s : MqttEngine σ) :
    Prop where
  /-- Only a poll that had begun returns an event, and only a receive that had begun a message. -/
  polled : ∀ fs t, Run (EngineStep config dispatch env) s fs t →
    (logged EngineLabel.backoff? fs).length ≤ 1 ∧
      (s.mqtt ≠ .polling → logged EngineLabel.backoff? fs = [])
  received : ∀ fs t, Run (EngineStep config dispatch env) s fs t →
    (logged EngineLabel.received? fs).length ≤ 1 ∧
      (s.router ≠ .receiving → logged EngineLabel.received? fs = [])
  /-- The workers take at most so many steps. -/
  bounded : ∀ fs t, Run (EngineStep config dispatch env) s fs t →
    workerSteps fs ≤ config.subscriptions.length + 7
  /-- One of them can take a step until both have ended, or until the router worker has ended and
  the MQTT worker waits for room in the queue of the client. -/
  progress : ∀ fs t, Run (EngineStep config dispatch env) s fs t →
    t.Ended ∨ (t.Blocked config ∧ t.router = .ended) ∨
      ∃ label u, label.isWorker = true ∧ EngineStep config dispatch env t label u
  /-- When it waits for room the workers never both end. -/
  blocked : ∀ fs t, Run (EngineStep config dispatch env) s fs t → t.Blocked config →
    ∀ gs u, Run (EngineStep config dispatch env) t gs u → ¬ u.Ended
  /-- It does not as long as all the requests have room. -/
  fits : ∀ fs t, Run (EngineStep config dispatch env) s fs t →
    s.load config + (logged EngineLabel.requested? fs).length ≤ config.requestChannelCapacity →
      ¬ t.Blocked config
  /-- Everything that was enqueued is dispatched and handed to the telemetry, but for what the
  channel held and a receive that had begun did not take. -/
  lost : s.router ≠ .ended → ∀ fs t, Run (EngineStep config dispatch env) s fs t →
    t.router = .ended → ∃ lost,
      logged EngineLabel.enqueued? (es ++ fs) =
          logged EngineLabel.dispatched? (es ++ fs) ++ lost ∧
        s.ingress.queue ++ logged EngineLabel.enqueued? fs =
          logged EngineLabel.received? fs ++ lost ∧
        (logged EngineLabel.dispatched? (es ++ fs)).map .fromMessage =
          logged EngineLabel.telemetry? (es ++ fs)

/-- **Shutdown of the engine.**  Once it was requested, each worker at most finishes the poll it is
in, and both end after a bounded number of steps, whatever the rest of the program does, unless the
subscriptions of a `ConnAck` find the queue of the client full: then the shutdown never ends.  What
is in the channel is lost. -/
theorem shutdown_exact {σ ι : Type} [Inhabited ι] (config : MqttClientConfig) (bus : BusConfig)
    (dispatch : Dispatch ι σ) (env : σ → σ → Prop) (app : σ)
    (es : List (Edge (MqttEngine σ) EngineLabel)) (s : MqttEngine σ)
    (h : Run (EngineStep config dispatch env) (.spawn config bus app) es s)
    (hs : s.stopping = true) : ShutdownExact config dispatch env es s := by
  refine ⟨fun fs t hrun => ?_, fun fs t hrun => ?_, fun fs t hrun => ?_, fun fs t hrun => ?_,
    fun fs t hrun hblocked gs u hrun' => (hblocked.run hrun').not_ended, fun fs t hrun hfits => ?_,
    ?_⟩
  · have hpolled := Nat.le_of_add_right_le (wound_run hrun hs).polled
    refine ⟨hpolled.trans s.mqtt.polls_le, fun hmqtt => ?_⟩
    have hnone : s.mqtt.polls = 0 := by
      cases hcase : s.mqtt with
      | polling => exact absurd hcase hmqtt
      | _ => rfl
    exact List.length_eq_zero_iff.mp (Nat.le_zero.mp (hnone ▸ hpolled))
  · have hreceived := Nat.le_of_add_right_le (wound_run hrun hs).received
    refine ⟨hreceived.trans s.router.takes_le, fun hrouter => ?_⟩
    have hnone : s.router.takes = 0 := by
      cases hcase : s.router with
      | receiving => exact absurd hcase hrouter
      | _ => rfl
    exact List.length_eq_zero_iff.mp (Nat.le_zero.mp (hnone ▸ hreceived))
  · exact Nat.le_trans (Nat.le_of_add_right_le (wound_run hrun hs).work) (SessionKept.run h).work_le
  · have hstopping := (wound_run hrun hs).stopping
    by_cases hrouter : t.router = .ended
    · by_cases hmqtt : t.mqtt = .ended
      · exact .inl ⟨hmqtt, hrouter⟩
      · by_cases hblocked : t.Blocked config
        · exact .inr (.inl ⟨hblocked, hrouter⟩)
        · exact .inr (.inr (exists_mqtt_step hstopping hmqtt hblocked))
    · exact .inr (.inr (exists_router_step hstopping hrouter))
  · intro hblocked
    exact absurd (((wound_run hrun hs).load.trans hfits)) (Nat.not_le_of_lt hblocked.lt_load)
  · intro hrunning fs t hrun hended
    have hkept := IngressKept.run (h.append hrun)
    have hdispatched := hkept.dispatched
    have htelemetry := hkept.telemetry
    rw [hended, RouterWorker.inHand_ended, List.append_nil] at hdispatched
    rw [hended, RouterWorker.unpublished_ended, List.append_nil] at htelemetry
    obtain ⟨lost, hlost⟩ := hkept.received
    have haccounts : logged EngineLabel.enqueued? es =
        logged EngineLabel.received? es ++ s.ingress.queue :=
      ((IngressKept.run h).running hrunning).2
    refine ⟨lost, ?_, ?_, htelemetry⟩
    · rw [← hdispatched]
      exact hlost.symm
    · rw [logged_append, logged_append, haccounts, List.append_assoc, List.append_assoc] at hlost
      exact (List.append_cancel_left hlost).symm

/-- Both workers are in a poll: the router worker still takes the reading that is in the channel,
and then both end. -/
theorem shutdown_exact_meter : ∃ es s fs t,
    Run (EngineStep meterConfig idleDispatch fun _ _ => False)
        (.spawn meterConfig meterBus ()) es s ∧
      ShutdownExact meterConfig idleDispatch (fun _ _ => False) es s ∧
      s.load meterConfig ≤ meterConfig.requestChannelCapacity ∧
      Run (EngineStep meterConfig idleDispatch fun _ _ => False) s fs t ∧ t.Ended ∧
      logged EngineLabel.received? fs = [meterMessage 44] := by
  obtain ⟨es, s, hrun, -, -, -, -, -, hmqtt, hrequests, hrouter, hstopping, hqueue⟩ := meter_run
  have hrecv : s.ingress.recv = some (meterMessage 44, { s.ingress with queue := [] }) :=
    Channel.recv_eq_some_iff.mpr ⟨hqueue, rfl, rfl⟩
  refine ⟨es, s, _, _, hrun, shutdown_exact _ _ _ _ _ _ _ hrun hstopping, ?_,
    .cons (.received hrouter hrecv) <| .cons (.dispatched () rfl) <| .cons (.telemetry rfl) <|
      .cons (.routerEnded rfl hstopping) <|
      .cons (.pollPending (by exact hmqtt) 0 (Nat.zero_le _)) <|
      .cons (.mqttEnded (.inl rfl) (by exact hstopping)) <| .nil _, ⟨rfl, rfl⟩, ?_⟩
  · rw [MqttEngine.load, hmqtt, hrequests]
    decide
  · rfl

end Core
end PipeBolt
