import PipeBolt.Core.MqttEngine

/-!
# The session of the MQTT engine

What the MQTT worker asks of the client: the subscriptions after every `ConnAck`, and the delays
between reconnects.

* `SessionKept`: what is requested so far, and what is still to be requested.
* `backoff_run`: to the backoff a run of the engine is a run of its own.
* `session_exact`: the subscriptions and the delays of every run.
-/

namespace PipeBolt
namespace Core

open Domain Rust BoundedChannel Transition

/-- The subscriptions that the MQTT worker is still to request. -/
def MqttWorker.remaining : MqttWorker → List MqttSubscription
  | subscribing rest => rest
  | _ => []

/-- What the steps taken so far say about the MQTT worker. -/
structure SessionKept {σ : Type} (config : MqttClientConfig)
    (es : List (Edge (MqttEngine σ) EngineLabel)) (s : MqttEngine σ) : Prop where
  /-- All subscriptions of the configuration are requested for each `ConnAck`. -/
  subscriptions : logged EngineLabel.subscribe? es ++ s.mqtt.remaining =
    (List.replicate (connAcks es) config.subscriptions).flatten
  remaining : s.mqtt.remaining.length ≤ config.subscriptions.length

section Session

variable {σ ι : Type} {config : MqttClientConfig} {dispatch : Dispatch ι σ} {env : σ → σ → Prop}
  {es : List (Edge (MqttEngine σ) EngineLabel)} {s t : MqttEngine σ} {label : EngineLabel}

/-- A step that requests nothing and after which the same is to be requested. -/
theorem SessionKept.silent (hs : SessionKept config es s) (hsubscribe : label.subscribe? = none)
    (hconnAck : label.connAck? = none) (hmqtt : t.mqtt.remaining = s.mqtt.remaining) :
    SessionKept config (es ++ [⟨s, label, t⟩]) t := by
  constructor
  · rw [logged_snoc_none hsubscribe, connAcks_snoc_none hconnAck, hmqtt]
    exact hs.subscriptions
  · rw [hmqtt]
    exact hs.remaining

theorem EngineStep.sessionKept (h : EngineStep config dispatch env s label t)
    (hs : SessionKept config es s) : SessionKept config (es ++ [⟨s, label, t⟩]) t := by
  cases h with
  | mqttLooked hmqtt hrunning => exact hs.silent rfl rfl (by rw [hmqtt]; rfl)
  | pollPending hmqtt left hleft => exact hs.silent rfl rfl (by rw [hmqtt]; rfl)
  | connAck hmqtt left hleft =>
    refine ⟨?_, Nat.le_refl _⟩
    have hnone : s.mqtt.remaining = [] := by
      rw [hmqtt]
      rfl
    have hrequested := hs.subscriptions
    rw [hnone, List.append_nil] at hrequested
    rw [connAcks_snoc, logged_snoc_none rfl, hrequested, List.replicate_succ', List.flatten_append,
      List.flatten_singleton]
    rfl
  | publish publish now hmqtt left hleft => exact hs.silent rfl rfl (by rw [hmqtt]; rfl)
  | otherEvent hmqtt left hleft => exact hs.silent rfl rfl (by rw [hmqtt]; rfl)
  | pollError hmqtt left hleft => exact hs.silent rfl rfl (by rw [hmqtt]; rfl)
  | @subscribe subscription rest hmqtt hroom =>
    have hremaining := hs.remaining
    have hrequested := hs.subscriptions
    rw [hmqtt] at hremaining hrequested
    refine ⟨?_, Nat.le_of_succ_le hremaining⟩
    rw [connAcks_snoc_none rfl, logged_snoc, List.append_assoc]
    exact hrequested
  | subscribed hmqtt => exact hs.silent rfl rfl (by rw [hmqtt]; rfl)
  | waited hmqtt => exact hs.silent rfl rfl (by rw [hmqtt]; rfl)
  | mqttEnded hmqtt hstopping =>
    rcases hmqtt with hmqtt | ⟨delay, hmqtt⟩
    · exact hs.silent rfl rfl (by rw [hmqtt]; rfl)
    · exact hs.silent rfl rfl (by rw [hmqtt]; rfl)
  | routerLooked hrouter hrunning => exact hs.silent rfl rfl rfl
  | recvPending hrouter => exact hs.silent rfl rfl rfl
  | received hrouter hrecv => exact hs.silent rfl rfl rfl
  | dispatched choice hrouter => exact hs.silent rfl rfl rfl
  | telemetry hrouter => exact hs.silent rfl rfl rfl
  | routerEnded hrouter hstopping => exact hs.silent rfl rfl rfl
  | shutdown hrunning => exact hs.silent rfl rfl rfl
  | requested hopen hroom => exact hs.silent rfl rfl rfl
  | outside henv => exact hs.silent rfl rfl rfl

theorem SessionKept.run {bus : BusConfig} {app : σ}
    (h : Run (EngineStep config dispatch env) (.spawn config bus app) es s) :
    SessionKept config es s :=
  h.history (SessionKept config) (fun _ _ _ _ hs hstep => hstep.sessionKept hs)
    ⟨rfl, Nat.zero_le _⟩

/-- To the backoff a step of the engine is one call, or none. -/
theorem EngineStep.backoff (h : EngineStep config dispatch env s label t) :
    label.backoff? = none ∧ t.backoff = s.backoff ∨
      ∃ call, label.backoff? = some call ∧ BackoffStep s.backoff call t.backoff := by
  cases h with
  | connAck hmqtt left hleft => exact .inr ⟨_, rfl, .reset _⟩
  | publish publish now hmqtt left hleft => exact .inr ⟨_, rfl, .reset _⟩
  | otherEvent hmqtt left hleft => exact .inr ⟨_, rfl, .reset _⟩
  | pollError hmqtt left hleft => exact .inr ⟨_, rfl, .nextDelay _⟩
  | _ => exact .inl ⟨rfl, rfl⟩

/-- The calls of the backoff in a run of the engine are a run of the backoff. -/
theorem backoff_run (h : Run (EngineStep config dispatch env) s es t) :
    ∃ fs, BackoffRun s.backoff fs t.backoff ∧
      fs.map Edge.label = logged EngineLabel.backoff? es := by
  have hskip : ∀ (e : Edge (MqttEngine σ) EngineLabel) (backoff : ExponentialBackoff),
      EngineStep config dispatch env e.source e.label e.target → e.source.backoff = backoff →
        e.label.backoff? = none → e.target.backoff = backoff := by
    rintro ⟨s, label, t⟩ backoff hstep rfl hnone
    rcases hstep.backoff with ⟨-, hbackoff⟩ | ⟨call, hsome, -⟩
    · exact hbackoff
    · exact absurd (hnone.symm.trans hsome) nofun
  have hmove : ∀ (e : Edge (MqttEngine σ) EngineLabel) (backoff : ExponentialBackoff)
      (call : BackoffCall), EngineStep config dispatch env e.source e.label e.target →
        e.source.backoff = backoff → e.label.backoff? = some call →
          ∃ backoff', BackoffStep backoff call backoff' ∧ e.target.backoff = backoff' := by
    rintro ⟨s, label, t⟩ backoff call hstep rfl hsome
    rcases hstep.backoff with ⟨hnone, -⟩ | ⟨call', hsome', hbackoff⟩
    · exact absurd (hnone.symm.trans hsome) nofun
    · obtain rfl := Option.some.inj (hsome.symm.trans hsome')
      exact ⟨t.backoff, hbackoff, rfl⟩
  obtain ⟨fs, backoff, hrun, rfl, hlabels⟩ :=
    h.simulate (fun s backoff => s.backoff = backoff) (fun e => e.label.backoff?) hskip hmove rfl
  exact ⟨fs, hrun, hlabels⟩

end Session

/-- How often the event loop failed in a row, at the end of some steps. -/
def errorsInARow (labels : List EngineLabel) : Nat :=
  delaysSinceReset (labels.filterMap EngineLabel.backoff?)

/-- What the MQTT worker asks of the client, up to the steps `es`. -/
structure SessionExact {σ : Type} (config : MqttClientConfig)
    (es : List (Edge (MqttEngine σ) EngineLabel)) (s : MqttEngine σ) : Prop where
  /-- For each `ConnAck` the subscriptions of the configuration, all of them and in order, before
  anything else is polled. -/
  subscriptions : logged EngineLabel.subscribe? es ++ s.mqtt.remaining =
    (List.replicate (connAcks es) config.subscriptions).flatten
  polling : s.mqtt = .selecting ∨ s.mqtt = .polling → logged EngineLabel.subscribe? es =
    (List.replicate (connAcks es) config.subscriptions).flatten
  /-- After a failure it waits for the smallest delay, doubled for every failure in a row before
  it, and cut at the largest. -/
  delays : ∀ before delay after, es.map Edge.label = before ++ .pollError delay :: after →
    delay.nanos = Nat.min (config.reconnect.minDelay.nanos * 2 ^ errorsInARow before)
      config.reconnect.maxDelay.nanos

/-- **The session of the engine.**  With a configuration that the engine starts with, all its
subscriptions are requested after every `ConnAck` before the next poll, and the delays between
reconnects are those of the failures in a row, however the workers interleave. -/
theorem session_exact {σ ι : Type} (config : MqttClientConfig) (bus : BusConfig)
    (dispatch : Dispatch ι σ) (env : σ → σ → Prop) (app : σ)
    (es : List (Edge (MqttEngine σ) EngineLabel)) (s : MqttEngine σ)
    (hconfig : config.validate = .ok ())
    (h : Run (EngineStep config dispatch env) (.spawn config bus app) es s) :
    SessionExact config es s := by
  have hkept := SessionKept.run h
  refine ⟨hkept.subscriptions, ?_, ?_⟩
  · intro hpolling
    have hnone : s.mqtt.remaining = [] := by
      rcases hpolling with hmqtt | hmqtt
      · rw [hmqtt]
        rfl
      · rw [hmqtt]
        rfl
    have hrequested := hkept.subscriptions
    rw [hnone, List.append_nil] at hrequested
    exact hrequested
  · intro before delay after hlabels
    have hvalid := MqttClientConfig.validate_eq_ok_iff.mp hconfig
    have hle := MqttReconnectConfig.min_le_max hvalid.reconnect
    obtain ⟨fs, hrun, hcalls⟩ := backoff_run h
    have hsplit : fs.map Edge.label = before.filterMap EngineLabel.backoff? ++
        .nextDelay delay :: after.filterMap EngineLabel.backoff? := by
      rw [hcalls, logged_eq, hlabels, List.filterMap_append]
      rfl
    exact BackoffKept.returned hle hrun hsplit

theorem session_exact_meter : ∃ es s,
    Run (EngineStep meterConfig idleDispatch fun _ _ => False)
        (.spawn meterConfig meterBus ()) es s ∧
      SessionExact meterConfig es s ∧ connAcks es = 2 ∧
      logged EngineLabel.backoff? es = [.reset, .reset, .reset, .reset,
        .nextDelay (.fromMillis 500), .nextDelay (.fromMillis 1000), .reset, .reset,
        .nextDelay (.fromMillis 500)] := by
  obtain ⟨es, s, hrun, -, -, -, hconnAcks, hbackoff, -⟩ := meter_run
  exact ⟨es, s, hrun, session_exact _ _ _ _ _ _ _ (by decide) hrun, hconnAcks, hbackoff⟩

end Core
end PipeBolt
