import PipeBolt.Core.ClientConfig
import PipeBolt.Lib.Transition

/-!
# The delays between reconnects

`pipe_bolt_core::mqtt::backoff`: the delay before the next attempt to connect, which doubles with
every failure up to a bound and starts again after a success.

The doubling is on durations that saturate, and the bound is a duration too, so that the saturation
is never seen: the delays are those of the doubling on natural numbers.

* `BackoffStep.keeps`: what one call does to the delay that is kept.
* `backoff_delays`: the delays of every sequence of calls.
-/

namespace PipeBolt
namespace Core

open Rust Fallible Transition

/-- `ExponentialBackoff`. -/
structure ExponentialBackoff where
  minDelay : Duration
  maxDelay : Duration
  currentDelay : Duration
  deriving DecidableEq, Repr

namespace ExponentialBackoff

/-- `ExponentialBackoff::new`. -/
def new (minDelay maxDelay : Duration) : ExponentialBackoff where
  minDelay := minDelay
  maxDelay := maxDelay
  currentDelay := minDelay

/-- `ExponentialBackoff::reset`. -/
def reset (backoff : ExponentialBackoff) : ExponentialBackoff :=
  { backoff with currentDelay := backoff.minDelay }

/-- `ExponentialBackoff::next_delay`: the delay it returns and what it leaves. -/
def nextDelay (backoff : ExponentialBackoff) : Duration × ExponentialBackoff :=
  let delay := backoff.currentDelay
  (delay, { backoff with
    currentDelay := (backoff.currentDelay.saturatingMul 2).min backoff.maxDelay })

end ExponentialBackoff

/-! ## Sequences of calls -/

/-- A call, with what it returns. -/
inductive BackoffCall where
  | reset
  | nextDelay (delay : Duration)
  deriving DecidableEq, Repr

/-- One call. -/
inductive BackoffStep : ExponentialBackoff → BackoffCall → ExponentialBackoff → Prop
  | reset (backoff : ExponentialBackoff) : BackoffStep backoff .reset backoff.reset
  | nextDelay (backoff : ExponentialBackoff) :
      BackoffStep backoff (.nextDelay backoff.nextDelay.1) backoff.nextDelay.2

/-- The calls of a run, in order. -/
abbrev BackoffRun := Run BackoffStep

/-- How many delays were returned since the last reset, or since the construction. -/
def delaysSinceReset (calls : List BackoffCall) : Nat :=
  calls.foldl (fun count call =>
    match call with
    | .reset => 0
    | .nextDelay _ => count + 1) 0

@[simp] theorem delaysSinceReset_snoc_reset (calls : List BackoffCall) :
    delaysSinceReset (calls ++ [.reset]) = 0 := by
  rw [delaysSinceReset, List.foldl_append]
  rfl

@[simp] theorem delaysSinceReset_snoc_nextDelay (calls : List BackoffCall) (delay : Duration) :
    delaysSinceReset (calls ++ [.nextDelay delay]) = delaysSinceReset calls + 1 := by
  rw [delaysSinceReset, List.foldl_append]
  rfl

/-- Calls without a reset only add to the count. -/
theorem delaysSinceReset_le_append {before calls : List BackoffCall} (h : .reset ∉ calls) :
    delaysSinceReset before ≤ delaysSinceReset (before ++ calls) := by
  induction calls using List.reverseRecOn with
  | nil => rw [List.append_nil]
  | append_singleton calls call ih =>
    obtain ⟨hcalls, hcall⟩ := not_or.mp (mt List.mem_append.mpr h)
    rw [← List.append_assoc]
    cases call with
    | reset => exact absurd (List.mem_singleton.mpr rfl) hcall
    | nextDelay delay =>
      rw [delaysSinceReset_snoc_nextDelay]
      exact Nat.le_succ_of_le (ih hcalls)

/-- The delay after `count` doublings, on the unbounded numbers of nanoseconds. -/
def MqttReconnectConfig.delayAfter (config : MqttReconnectConfig) (count : Nat) : Nat :=
  Nat.min (config.minDelay.nanos * 2 ^ count) config.maxDelay.nanos

/-! ## What is kept -/

/-- What is kept after some calls: the two bounds, and the delay that is returned next. -/
structure BackoffKept (config : MqttReconnectConfig) (calls : List BackoffCall)
    (backoff : ExponentialBackoff) : Prop where
  minDelay : backoff.minDelay = config.minDelay
  maxDelay : backoff.maxDelay = config.maxDelay
  current : backoff.currentDelay.nanos = config.delayAfter (delaysSinceReset calls)

/-- The delays that the check lets through are in order. -/
theorem MqttReconnectConfig.min_le_max {config : MqttReconnectConfig}
    (h : config.validate = .ok ()) : config.minDelay ≤ config.maxDelay := by
  rw [MqttReconnectConfig.validate, guard_eq_ok_iff, guard_eq_ok_iff] at h
  exact Nat.not_lt.mp h.2.1

section Kept

variable {config : MqttReconnectConfig}

theorem MqttReconnectConfig.delayAfter_zero (h : config.minDelay ≤ config.maxDelay) :
    config.delayAfter 0 = config.minDelay.nanos := by
  rw [delayAfter, pow_zero, Nat.mul_one]
  exact Nat.min_eq_left h

/-- A cut before the doubling is not seen after it. -/
theorem min_double_min {a b m : Nat} (h : b ≤ m) :
    Nat.min (Nat.min (Nat.min a b * 2) m) b = Nat.min (a * 2) b := by
  change min (min (min a b * 2) m) b = min (a * 2) b
  omega

/-- One more doubling.  The bound is itself a duration, so a product that saturates is above it. -/
theorem MqttReconnectConfig.delayAfter_succ (count : Nat) :
    config.delayAfter (count + 1) =
      Nat.min (Nat.min (config.delayAfter count * 2) Duration.MAX.nanos) config.maxDelay.nanos := by
  rw [delayAfter, delayAfter, pow_succ, ← Nat.mul_assoc]
  exact (min_double_min config.maxDelay.nanos_le_max).symm

theorem MqttReconnectConfig.delayAfter_mono {m n : Nat} (h : m ≤ n) :
    config.delayAfter m ≤ config.delayAfter n := by
  have hpow : 2 ^ m ≤ 2 ^ n := Nat.pow_le_pow_right (by omega) h
  exact min_le_min_right _ (Nat.mul_le_mul_left _ hpow)

/-- A new backoff returns the smallest delay next. -/
theorem BackoffKept.new (h : config.minDelay ≤ config.maxDelay) :
    BackoffKept config [] (.new config.minDelay config.maxDelay) where
  minDelay := rfl
  maxDelay := rfl
  current := (MqttReconnectConfig.delayAfter_zero h).symm

/-- What one call does to the delay that is kept. -/
theorem BackoffStep.keeps {calls : List BackoffCall} {backoff backoff' : ExponentialBackoff}
    {call : BackoffCall} (hle : config.minDelay ≤ config.maxDelay)
    (h : BackoffStep backoff call backoff') (hkept : BackoffKept config calls backoff) :
    BackoffKept config (calls ++ [call]) backoff' := by
  refine ⟨?_, ?_, ?_⟩
  · cases h with
    | reset => exact hkept.minDelay
    | nextDelay => exact hkept.minDelay
  · cases h with
    | reset => exact hkept.maxDelay
    | nextDelay => exact hkept.maxDelay
  · cases h with
    | reset =>
      rw [delaysSinceReset_snoc_reset, MqttReconnectConfig.delayAfter_zero hle, ← hkept.minDelay]
      rfl
    | nextDelay =>
      rw [delaysSinceReset_snoc_nextDelay, MqttReconnectConfig.delayAfter_succ, ← hkept.current,
        ← hkept.maxDelay]
      exact Duration.nanos_min _ _

/-- What is kept after a run. -/
theorem BackoffKept.run {es : List (Edge ExponentialBackoff BackoffCall)}
    {backoff : ExponentialBackoff} (hle : config.minDelay ≤ config.maxDelay)
    (h : BackoffRun (.new config.minDelay config.maxDelay) es backoff) :
    BackoffKept config (es.map Edge.label) backoff := by
  refine h.history (fun es backoff => BackoffKept config (es.map Edge.label) backoff) ?_
    (BackoffKept.new hle)
  intro es s call t hkept hstep
  rw [List.map_append]
  exact hstep.keeps hle hkept

end Kept

/-! ## The delays of a run -/

/-- What the delays of a sequence of calls are. -/
structure BackoffDelays (config : MqttReconnectConfig) (calls : List BackoffCall) : Prop where
  bounded : ∀ delay, .nextDelay delay ∈ calls → config.minDelay ≤ delay ∧ delay ≤ config.maxDelay
  closed : ∀ before delay after, calls = before ++ .nextDelay delay :: after →
    delay.nanos = Nat.min (config.minDelay.nanos * 2 ^ delaysSinceReset before)
      config.maxDelay.nanos
  ordered : ∀ before delay middle delay' after,
    calls = before ++ .nextDelay delay :: (middle ++ .nextDelay delay' :: after) →
      .reset ∉ middle → delay ≤ delay'

/-- The delay that a call returns is given by the calls before it. -/
theorem BackoffKept.returned {config : MqttReconnectConfig}
    {es : List (Edge ExponentialBackoff BackoffCall)} {backoff : ExponentialBackoff}
    {before after : List BackoffCall} {delay : Duration}
    (hle : config.minDelay ≤ config.maxDelay)
    (h : BackoffRun (.new config.minDelay config.maxDelay) es backoff)
    (hcalls : es.map Edge.label = before ++ .nextDelay delay :: after) :
    delay.nanos = config.delayAfter (delaysSinceReset before) := by
  obtain ⟨past, source, target, rest, hpast, rfl, hstep, -⟩ := h.cut_label hcalls
  have hkept := BackoffKept.run hle hpast
  cases hstep with
  | nextDelay => exact hkept.current

/-- **The delays between reconnects.**  With the bounds that the check lets through, every delay of
every sequence of calls lies between the bounds and is the smallest one doubled for each delay
since the last reset, cut at the largest; between resets the delays do not decrease. -/
theorem backoff_delays (config : MqttReconnectConfig)
    (hconfig : config.validate = .ok ()) (es : List (Edge ExponentialBackoff BackoffCall))
    (backoff : ExponentialBackoff)
    (h : BackoffRun (.new config.minDelay config.maxDelay) es backoff) :
    BackoffDelays config (es.map Edge.label) := by
  have hle := MqttReconnectConfig.min_le_max hconfig
  refine ⟨?_, fun before delay after hcalls => BackoffKept.returned hle h hcalls, ?_⟩
  · intro delay hmem
    obtain ⟨before, after, hcalls⟩ := List.append_of_mem hmem
    have hdelay := BackoffKept.returned hle h hcalls
    have hfirst : config.delayAfter 0 ≤ config.delayAfter (delaysSinceReset before) :=
      MqttReconnectConfig.delayAfter_mono (Nat.zero_le _)
    rw [MqttReconnectConfig.delayAfter_zero hle, ← hdelay] at hfirst
    refine ⟨hfirst, ?_⟩
    rw [Duration.le_iff, hdelay]
    exact Nat.min_le_right _ _
  · intro before delay middle delay' after hcalls hmiddle
    have hdelay := BackoffKept.returned hle h hcalls
    have hcalls' : es.map Edge.label =
        (before ++ .nextDelay delay :: middle) ++ .nextDelay delay' :: after := by
      rw [hcalls, List.append_assoc, List.cons_append]
    have hdelay' := BackoffKept.returned hle h hcalls'
    have hfree : BackoffCall.reset ∉ .nextDelay delay :: middle := by
      rw [List.mem_cons]
      rintro (h | h)
      · cases h
      · exact hmiddle h
    rw [Duration.le_iff, hdelay, hdelay']
    exact MqttReconnectConfig.delayAfter_mono (delaysSinceReset_le_append hfree)

/-- Two failures, a success and another failure, with the default bounds. -/
def reconnectCalls : List BackoffCall :=
  [.nextDelay (.fromMillis 500), .nextDelay (.fromSecs 1), .reset, .nextDelay (.fromMillis 500)]

theorem backoff_delays_default :
    ∃ es backoff, BackoffRun (.new (.fromMillis 500) (.fromSecs 30)) es backoff ∧
      es.map Edge.label = reconnectCalls ∧ BackoffDelays .default reconnectCalls := by
  have hrun : BackoffRun (.new (.fromMillis 500) (.fromSecs 30)) _ _ :=
    .cons (.nextDelay _) (.cons (.nextDelay _) (.cons (.reset _) (.cons (.nextDelay _) (.nil _))))
  have hdelays := backoff_delays .default (by decide) _ _ hrun
  exact ⟨_, _, hrun, by decide, hdelays⟩

end Core
end PipeBolt
