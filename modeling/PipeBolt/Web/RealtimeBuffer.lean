import Mathlib.Order.Bounds.Basic
import PipeBolt.Js.Number
import PipeBolt.Lib.Transition

/-!
# The buffer of realtime events

`RealtimeEventBuffer` of `realtime.buffer.ts`: the newest events of a stream, as many as two limits
leave room for.

The numbers of the buffer are natural numbers that a double holds exactly, but for the sum that the
loop of `push` compares with a limit: that one is rounded, and stays on its side of the limit.

* `evictLoop_spec`, `evictLoop_isSome`: the loop stops at the fewest events that make room.
* `BufferKept.step`: what one call keeps.
* `realtimeBuffer_kept`: what every sequence of calls keeps.
-/

namespace PipeBolt
namespace Web

open Js Binary64 Transition

/-! ## Numbers -/

theorem representable_double {n : Nat} (h : Representable n) : Representable (2 * n) := by
  obtain ⟨q, e, hq, hn⟩ := exists_roundRatio n 1
  rw [h] at hn
  have hdouble : 2 * n = q * 2 ^ (e + 1) := by
    rw [hn, Nat.pow_succ, Nat.mul_comm 2, Nat.mul_assoc]
  rw [hdouble]
  exact representable_mul hq

/-- `x * 2`. -/
def double : JsNumber → JsNumber
  | .nan => .nan
  | .infinity negative => .infinity negative
  | .finite negative magnitude =>
    .ofUnits negative (2 * magnitude.units) (representable_double magnitude.representable)

/-- `Math.max(1, x)`. -/
def maxOne : JsNumber → JsNumber
  | .nan => .nan
  | .infinity negative => if negative then .one else .infinity false
  | .finite true _ => .one
  | .finite false magnitude =>
    if 2 ^ UNIT_EXPONENT < magnitude.units then .finite false magnitude else .one

/-- The weight of a frame: `Math.max(1, frameLength * 2)`. -/
def frameWeight (frameLength : JsNumber) : JsNumber := maxOne (double frameLength)

/-- A frame with a length weighs twice as much. -/
theorem safeNat_frameWeight {n : Nat} (hpos : 1 ≤ n) (h : 2 * n < 2 ^ 53) :
    (frameWeight (.ofNat n (by omega))).safeNat = some (2 * n) := by
  have hdouble : double (.ofNat n (by omega)) = .ofNat (2 * n) (Nat.le_of_lt h) :=
    ofUnits_eq _ (Nat.mul_assoc 2 n _).symm
  have hmore : 1 * 2 ^ UNIT_EXPONENT < 2 * n * 2 ^ UNIT_EXPONENT :=
    Nat.mul_lt_mul_of_pos_right (by omega) (Nat.two_pow_pos _)
  rw [Nat.one_mul] at hmore
  have hmax : maxOne (.ofNat (2 * n) (Nat.le_of_lt h)) = .ofNat (2 * n) (Nat.le_of_lt h) :=
    if_pos hmore
  rw [frameWeight, hdouble, hmax]
  exact safeNat_ofNat h

/-- A positive safe integer. -/
structure PositiveSafe where
  value : Nat
  pos : 1 ≤ value
  safe : value < 2 ^ 53
  deriving DecidableEq, Repr

theorem safeNat_lt {x : JsNumber} {n : Nat} (h : x.safeNat = some n) : n < 2 ^ 53 := by
  match x, h with
  | .finite false magnitude, h =>
    rw [JsNumber.safeNat] at h
    split at h
    · rename_i hsafe
      rw [← Option.some.inj h, Nat.div_lt_iff_lt_mul (Nat.two_pow_pos _)]
      rw [JsNumber.isSafeInteger, Bool.and_eq_true, decide_eq_true_eq] at hsafe
      refine Nat.lt_of_le_of_lt hsafe.2 (Nat.mul_lt_mul_of_pos_right ?_ (Nat.two_pow_pos _))
      omega
    · cases h

/-- The check of the constructor on a limit. -/
def positiveSafe (x : JsNumber) : Option PositiveSafe :=
  match h : x.safeNat with
  | none => none
  | some n => if hpos : 1 ≤ n then some ⟨n, hpos, safeNat_lt h⟩ else none

theorem positiveSafe_eq_some {x : JsNumber} {n : Nat} (hx : x.safeNat = some n) (hpos : 1 ≤ n) :
    positiveSafe x = some ⟨n, hpos, safeNat_lt hx⟩ := by
  unfold positiveSafe
  split
  · rename_i hnone
    rw [hx] at hnone
    cases hnone
  · rename_i m hsome
    rw [hx] at hsome
    obtain rfl := Option.some.inj hsome
    exact dif_pos hpos

/-! ## The buffer -/

def REALTIME_EVENT_LIMIT : PositiveSafe := ⟨200, by decide, by decide⟩
def REALTIME_BUFFER_WEIGHT_LIMIT : PositiveSafe := ⟨16 * 1024 * 1024, by decide, by decide⟩

/-- `RealtimeBufferPushResult`. -/
structure RealtimeBufferPushResult where
  accepted : Bool
  dropped : Nat
  deriving DecidableEq, Repr

/-- `RealtimeEventBufferOptions`. -/
structure RealtimeEventBufferOptions where
  maxEvents : Option JsNumber
  maxWeight : Option JsNumber

/-- `RealtimeEventBuffer`. -/
structure RealtimeEventBuffer (E : Type) where
  events : List E
  weights : List Nat
  maxEvents : PositiveSafe
  maxWeight : PositiveSafe
  weight : Nat

namespace RealtimeEventBuffer

variable {E : Type}

/-- The constructor. -/
def new (options : RealtimeEventBufferOptions) : Except String (RealtimeEventBuffer E) :=
  match options.maxEvents.elim (some REALTIME_EVENT_LIMIT) positiveSafe with
  | none => .error "Realtime event limit must be a positive safe integer."
  | some maxEvents =>
    match options.maxWeight.elim (some REALTIME_BUFFER_WEIGHT_LIMIT) positiveSafe with
    | none => .error "Realtime buffer weight limit must be a positive safe integer."
    | some maxWeight => .ok ⟨[], [], maxEvents, maxWeight, 0⟩

/-- The loop of `push`: the number of events to remove, and their weight. -/
def evictLoop (buffer : RealtimeEventBuffer E) (weight : Nat) : Nat → Nat → Nat →
    Option (Nat × Nat)
  | 0, _, _ => none
  | fuel + 1, removeCount, removedWeight =>
    if buffer.maxEvents.value ≤ buffer.events.length - removeCount ∨
        buffer.maxWeight.value < addNat (buffer.weight - removedWeight) weight then
      evictLoop buffer weight fuel (removeCount + 1)
        (addNat removedWeight (buffer.weights[removeCount]?.getD 0))
    else some (removeCount, removedWeight)

/-- `splice(0, removeCount)` on both arrays, and the weight that is left. -/
def splice (buffer : RealtimeEventBuffer E) (removeCount removedWeight : Nat) :
    RealtimeEventBuffer E :=
  { buffer with
    events := buffer.events.drop removeCount
    weights := buffer.weights.drop removeCount
    weight := buffer.weight - removedWeight }

/-- `push`, whose loop runs for as long as there is fuel. -/
def push (buffer : RealtimeEventBuffer E) (fuel : Nat) (event : E) (frameLength : JsNumber) :
    Option (RealtimeBufferPushResult × RealtimeEventBuffer E) :=
  match (frameWeight frameLength).safeNat with
  | none => some (⟨false, 1⟩, buffer)
  | some weight =>
    if buffer.maxWeight.value < weight then some (⟨false, 1⟩, buffer)
    else do
      let (removeCount, removedWeight) ← buffer.evictLoop weight fuel 0 0
      let kept := if 0 < removeCount then buffer.splice removeCount removedWeight else buffer
      return (⟨true, removeCount⟩, { kept with
        events := kept.events ++ [event]
        weights := kept.weights ++ [weight]
        weight := addNat kept.weight weight })

/-- `clear`. -/
def clear (buffer : RealtimeEventBuffer E) : RealtimeEventBuffer E :=
  { buffer with events := [], weights := [], weight := 0 }

/-! ## What is consistent -/

/-- The arrays agree with each other and with the weight, within the limits. -/
structure Consistent (buffer : RealtimeEventBuffer E) : Prop where
  lengths : buffer.weights.length = buffer.events.length
  weight : buffer.weight = buffer.weights.sum
  few : buffer.events.length ≤ buffer.maxEvents.value
  light : buffer.weight ≤ buffer.maxWeight.value

/-- Without its oldest events the buffer has room for a weight. -/
def HasRoom (buffer : RealtimeEventBuffer E) (weight removeCount : Nat) : Prop :=
  buffer.events.length - removeCount < buffer.maxEvents.value ∧
    (buffer.weights.drop removeCount).sum + weight ≤ buffer.maxWeight.value

section Consistent

variable {buffer : RealtimeEventBuffer E} {weight : Nat}

theorem sum_take_add_sum_drop (weights : List Nat) (count : Nat) :
    (weights.take count).sum + (weights.drop count).sum = weights.sum := by
  rw [← List.sum_append, List.take_append_drop]

/-- The weight that is left. -/
theorem Consistent.weight_sub (h : buffer.Consistent) (count : Nat) :
    buffer.weight - (buffer.weights.take count).sum = (buffer.weights.drop count).sum := by
  have hsum := sum_take_add_sum_drop buffer.weights count
  rw [h.weight]
  omega

/-- The condition of the loop says that there is no room yet: the sum it compares is rounded only
past the limit. -/
theorem Consistent.loop_iff (h : buffer.Consistent) (count : Nat) :
    (buffer.maxEvents.value ≤ buffer.events.length - count ∨
      buffer.maxWeight.value < addNat (buffer.weight - (buffer.weights.take count).sum) weight) ↔
        ¬ buffer.HasRoom weight count := by
  rw [HasRoom, addNat, lt_roundRatio_iff buffer.maxWeight.safe, h.weight_sub, not_and_or,
    Nat.not_lt, Nat.not_le]

/-- An empty buffer has room. -/
theorem hasRoom_length (h : buffer.Consistent) (hweight : weight ≤ buffer.maxWeight.value) :
    buffer.HasRoom weight buffer.events.length := by
  have hempty : buffer.weights.drop buffer.events.length = [] :=
    List.drop_eq_nil_of_le (Nat.le_of_eq h.lengths)
  have hpos := buffer.maxEvents.pos
  rw [HasRoom, hempty, List.sum_nil]
  omega

/-- One round of the loop. -/
theorem Consistent.take_succ (h : buffer.Consistent) {count : Nat}
    (hcount : count < buffer.events.length) :
    addNat (buffer.weights.take count).sum (buffer.weights[count]?.getD 0) =
      (buffer.weights.take (count + 1)).sum := by
  have hlt : count < buffer.weights.length := by
    rw [h.lengths]
    exact hcount
  have hsum : (buffer.weights.take (count + 1)).sum =
      (buffer.weights.take count).sum + buffer.weights[count] := by
    rw [List.take_succ_eq_append_getElem hlt, List.sum_append, List.sum_singleton]
  have htotal := sum_take_add_sum_drop buffer.weights (count + 1)
  have hlight := h.light
  have hsafe := buffer.maxWeight.safe
  rw [h.weight] at hlight
  rw [List.getElem?_eq_getElem hlt, Option.getD_some, hsum]
  exact addNat_of_le (by omega)

/-- The loop stops at the fewest events that make room, if those it has passed make none. -/
theorem evictLoop_spec (h : buffer.Consistent) (hweight : weight ≤ buffer.maxWeight.value)
    {fuel count : Nat} {found : Nat × Nat} (hcount : count ≤ buffer.events.length)
    (hpassed : ∀ earlier < count, ¬ buffer.HasRoom weight earlier)
    (hloop : buffer.evictLoop weight fuel count (buffer.weights.take count).sum = some found) :
    found.1 ≤ buffer.events.length ∧ IsLeast {k | buffer.HasRoom weight k} found.1 ∧
      found.2 = (buffer.weights.take found.1).sum := by
  induction fuel generalizing count with
  | zero => cases hloop
  | succ fuel ih =>
    rw [evictLoop] at hloop
    by_cases hroom : buffer.HasRoom weight count
    · rw [if_neg (mt (h.loop_iff count).mp (not_not.mpr hroom))] at hloop
      obtain rfl := Option.some.inj hloop
      refine ⟨hcount, ⟨hroom, fun k hk => ?_⟩, rfl⟩
      exact Nat.not_lt.mp fun hlt => hpassed k hlt hk
    · rw [if_pos ((h.loop_iff count).mpr hroom)] at hloop
      have hlt : count < buffer.events.length := by
        refine Nat.lt_of_le_of_ne hcount ?_
        rintro rfl
        exact hroom (hasRoom_length h hweight)
      rw [h.take_succ hlt] at hloop
      refine ih hlt (fun earlier hearlier => ?_) hloop
      rcases Nat.lt_succ_iff_lt_or_eq.mp hearlier with hold | rfl
      · exact hpassed earlier hold
      · exact hroom

/-- The loop ends after at most one round for each event. -/
theorem evictLoop_isSome (h : buffer.Consistent) (hweight : weight ≤ buffer.maxWeight.value)
    {fuel count : Nat} (hcount : count ≤ buffer.events.length)
    (hfuel : buffer.events.length - count < fuel) :
    (buffer.evictLoop weight fuel count (buffer.weights.take count).sum).isSome = true := by
  induction fuel generalizing count with
  | zero => exact absurd hfuel (Nat.not_lt_zero _)
  | succ fuel ih =>
    rw [evictLoop]
    by_cases hroom : buffer.HasRoom weight count
    · rw [if_neg (mt (h.loop_iff count).mp (not_not.mpr hroom))]
      rfl
    · rw [if_pos ((h.loop_iff count).mpr hroom)]
      have hlt : count < buffer.events.length := by
        refine Nat.lt_of_le_of_ne hcount ?_
        rintro rfl
        exact hroom (hasRoom_length h hweight)
      rw [h.take_succ hlt]
      exact ih hlt (by omega)

end Consistent

/-! ## Calls -/

/-- The weight with which a frame is accepted. -/
def acceptedWeight (buffer : RealtimeEventBuffer E) (frameLength : JsNumber) : Option Nat :=
  (frameWeight frameLength).safeNat.filter fun weight => weight ≤ buffer.maxWeight.value

/-- What a call of `push` does: a rejected event changes nothing, and an accepted one takes the
place of the fewest oldest events that make room. -/
inductive PushEffect (buffer : RealtimeEventBuffer E) (event : E) (frameLength : JsNumber) :
    RealtimeBufferPushResult → RealtimeEventBuffer E → Prop
  | rejected (h : buffer.acceptedWeight frameLength = none) :
      PushEffect buffer event frameLength ⟨false, 1⟩ buffer
  | accepted (weight removeCount : Nat)
      (h : buffer.acceptedWeight frameLength = some weight)
      (hcount : removeCount ≤ buffer.events.length)
      (hleast : IsLeast {k | buffer.HasRoom weight k} removeCount) :
      PushEffect buffer event frameLength ⟨true, removeCount⟩ { buffer with
        events := buffer.events.drop removeCount ++ [event]
        weights := buffer.weights.drop removeCount ++ [weight]
        weight := (buffer.weights.drop removeCount).sum + weight }

section Calls

variable {buffer : RealtimeEventBuffer E} {event : E} {frameLength : JsNumber}

theorem acceptedWeight_eq_some_iff {weight : Nat} :
    buffer.acceptedWeight frameLength = some weight ↔
      (frameWeight frameLength).safeNat = some weight ∧ weight ≤ buffer.maxWeight.value := by
  rw [acceptedWeight, Option.filter_eq_some_iff, decide_eq_true_eq]

/-- What `push` does to a consistent buffer. -/
theorem push_effect (h : buffer.Consistent) {fuel : Nat} {result : RealtimeBufferPushResult}
    {after : RealtimeEventBuffer E}
    (hpush : buffer.push fuel event frameLength = some (result, after)) :
    PushEffect buffer event frameLength result after := by
  rw [push] at hpush
  cases hweight : (frameWeight frameLength).safeNat with
  | none =>
    rw [hweight] at hpush
    obtain ⟨rfl, rfl⟩ := Prod.mk.inj (Option.some.inj hpush)
    exact .rejected (by rw [acceptedWeight, hweight, Option.filter_none])
  | some weight =>
    rw [hweight] at hpush
    by_cases hheavy : buffer.maxWeight.value < weight
    · simp only [if_pos hheavy] at hpush
      obtain ⟨rfl, rfl⟩ := Prod.mk.inj (Option.some.inj hpush)
      refine .rejected ?_
      rw [acceptedWeight, hweight, Option.filter_some, if_neg]
      simpa using hheavy
    · simp only [if_neg hheavy] at hpush
      have hlight := Nat.not_lt.mp hheavy
      obtain ⟨⟨removeCount, removedWeight⟩, hloop, hrest⟩ := Option.bind_eq_some_iff.mp hpush
      obtain ⟨hcount, hleast, hremoved⟩ :=
        evictLoop_spec h hlight (Nat.zero_le _) (fun _ hk => absurd hk (Nat.not_lt_zero _)) hloop
      obtain rfl : removedWeight = (buffer.weights.take removeCount).sum := hremoved
      have hkept : (if 0 < removeCount then
            buffer.splice removeCount (buffer.weights.take removeCount).sum else buffer) =
          buffer.splice removeCount (buffer.weights.take removeCount).sum := by
        rcases Nat.eq_zero_or_pos removeCount with rfl | hpos
        · rfl
        · exact if_pos hpos
      have hsum : addNat (buffer.weight - (buffer.weights.take removeCount).sum) weight =
          (buffer.weights.drop removeCount).sum + weight := by
        have hroom : (buffer.weights.drop removeCount).sum + weight ≤ buffer.maxWeight.value :=
          hleast.1.2
        have hsafe := buffer.maxWeight.safe
        rw [h.weight_sub]
        exact addNat_of_le (by omega)
      simp only [hkept] at hrest
      obtain ⟨rfl, rfl⟩ := Prod.mk.inj (Option.some.inj hrest)
      rw [splice, hsum]
      exact .accepted weight removeCount (acceptedWeight_eq_some_iff.mpr ⟨hweight, hlight⟩) hcount
        hleast

/-- `push` returns: its loop ends, for any event. -/
theorem push_isSome (h : buffer.Consistent) {fuel : Nat} (hfuel : buffer.events.length < fuel) :
    (buffer.push fuel event frameLength).isSome = true := by
  rw [push]
  cases (frameWeight frameLength).safeNat with
  | none => rfl
  | some weight =>
    by_cases hheavy : buffer.maxWeight.value < weight
    · simp only [if_pos hheavy]
      rfl
    · simp only [if_neg hheavy]
      have hloop := evictLoop_isSome h (Nat.not_lt.mp hheavy) (Nat.zero_le _) hfuel
      obtain ⟨found, hfound⟩ := Option.isSome_iff_exists.mp hloop
      rw [List.take_zero, List.sum_nil] at hfound
      rw [hfound]
      rfl

/-- An accepted event leaves the buffer consistent. -/
theorem PushEffect.consistent {result : RealtimeBufferPushResult} {after : RealtimeEventBuffer E}
    (heffect : PushEffect buffer event frameLength result after) (h : buffer.Consistent) :
    after.Consistent := by
  cases heffect with
  | rejected => exact h
  | accepted weight removeCount hweight hcount hleast =>
    obtain ⟨hfew, hlight⟩ := hleast.1
    refine ⟨?_, ?_, ?_, hlight⟩
    · simp only [List.length_append, List.length_drop, List.length_singleton, h.lengths]
    · rw [List.sum_append, List.sum_singleton]
    · simp only [List.length_append, List.length_drop, List.length_singleton]
      omega

end Calls

end RealtimeEventBuffer

/-! ## Sequences of calls -/

/-- A call, with what it returns. -/
inductive RealtimeBufferCall (E : Type) where
  | push (event : E) (frameLength : JsNumber) (result : RealtimeBufferPushResult)
  | clear

/-- One call that returns. -/
inductive RealtimeBufferStep {E : Type} :
    RealtimeEventBuffer E → RealtimeBufferCall E → RealtimeEventBuffer E → Prop
  | push {buffer after : RealtimeEventBuffer E} {fuel : Nat} {event : E} {frameLength : JsNumber}
      {result : RealtimeBufferPushResult}
      (h : buffer.push fuel event frameLength = some (result, after)) :
      RealtimeBufferStep buffer (.push event frameLength result) after
  | clear (buffer : RealtimeEventBuffer E) : RealtimeBufferStep buffer .clear buffer.clear

section Runs

variable {E : Type}

/-- The events accepted since the last clear, each with its weight. -/
def acceptedSinceClear (calls : List (RealtimeBufferCall E)) : List (E × Nat) :=
  calls.foldl (fun accepted call =>
    match call with
    | .clear => []
    | .push event frameLength result =>
      if result.accepted then accepted ++ [(event, (frameWeight frameLength).safeNat.getD 0)]
      else accepted) []

/-- How many events were evicted since the last clear. -/
def evictedSinceClear (calls : List (RealtimeBufferCall E)) : Nat :=
  calls.foldl (fun evicted call =>
    match call with
    | .clear => 0
    | .push _ _ result => if result.accepted then evicted + result.dropped else evicted) 0

section Snoc

variable (calls : List (RealtimeBufferCall E)) (event : E) (frameLength : JsNumber)
  (result : RealtimeBufferPushResult)

@[simp] theorem acceptedSinceClear_snoc_clear : acceptedSinceClear (calls ++ [.clear]) = [] := by
  rw [acceptedSinceClear, List.foldl_append]
  rfl

@[simp] theorem acceptedSinceClear_snoc_push :
    acceptedSinceClear (calls ++ [.push event frameLength result]) =
      if result.accepted then
        acceptedSinceClear calls ++ [(event, (frameWeight frameLength).safeNat.getD 0)]
      else acceptedSinceClear calls := by
  rw [acceptedSinceClear, List.foldl_append]
  rfl

@[simp] theorem evictedSinceClear_snoc_clear : evictedSinceClear (calls ++ [.clear]) = 0 := by
  rw [evictedSinceClear, List.foldl_append]
  rfl

@[simp] theorem evictedSinceClear_snoc_push :
    evictedSinceClear (calls ++ [.push event frameLength result]) =
      if result.accepted then evictedSinceClear calls + result.dropped
      else evictedSinceClear calls := by
  rw [evictedSinceClear, List.foldl_append]
  rfl

end Snoc

/-- What is kept after some calls: the arrays agree within the limits, and hold the newest of the
events accepted since the last clear, those that were not evicted. -/
structure BufferKept (start : RealtimeEventBuffer E) (calls : List (RealtimeBufferCall E))
    (buffer : RealtimeEventBuffer E) : Prop where
  maxEvents : buffer.maxEvents = start.maxEvents
  maxWeight : buffer.maxWeight = start.maxWeight
  consistent : buffer.Consistent
  newest : buffer.events.zip buffer.weights =
    (acceptedSinceClear calls).drop (evictedSinceClear calls)
  conserved : (acceptedSinceClear calls).length = buffer.events.length + evictedSinceClear calls

theorem BufferKept.start {options : RealtimeEventBufferOptions} {start : RealtimeEventBuffer E}
    (h : RealtimeEventBuffer.new options = .ok start) : BufferKept start [] start := by
  rw [RealtimeEventBuffer.new] at h
  split at h
  · cases h
  · split at h
    · cases h
    · obtain rfl := Except.ok.inj h
      exact ⟨rfl, rfl, ⟨rfl, rfl, Nat.zero_le _, Nat.zero_le _⟩, rfl, rfl⟩

/-- What one call keeps. -/
theorem BufferKept.step {start buffer after : RealtimeEventBuffer E}
    {calls : List (RealtimeBufferCall E)} {call : RealtimeBufferCall E}
    (hkept : BufferKept start calls buffer) (hstep : RealtimeBufferStep buffer call after) :
    BufferKept start (calls ++ [call]) after := by
  cases hstep with
  | clear =>
    refine ⟨hkept.maxEvents, hkept.maxWeight, ⟨rfl, rfl, Nat.zero_le _, Nat.zero_le _⟩, ?_, ?_⟩
    · rw [acceptedSinceClear_snoc_clear, List.drop_nil]
      rfl
    · rw [acceptedSinceClear_snoc_clear, evictedSinceClear_snoc_clear]
      rfl
  | push h =>
    have heffect := RealtimeEventBuffer.push_effect hkept.consistent h
    have hconsistent := heffect.consistent hkept.consistent
    cases heffect with
    | rejected =>
      refine ⟨hkept.maxEvents, hkept.maxWeight, hconsistent, ?_, ?_⟩
      · rw [acceptedSinceClear_snoc_push, evictedSinceClear_snoc_push]
        exact hkept.newest
      · rw [acceptedSinceClear_snoc_push, evictedSinceClear_snoc_push]
        exact hkept.conserved
    | accepted weight removeCount hweight hcount hleast =>
      have hconserved := hkept.conserved
      have hvalue := (RealtimeEventBuffer.acceptedWeight_eq_some_iff.mp hweight).1
      refine ⟨hkept.maxEvents, hkept.maxWeight, hconsistent, ?_, ?_⟩
      · -- The events that are left are the newest of those that were there, and the new one.
        have hlengths : (buffer.events.drop removeCount).length =
            (buffer.weights.drop removeCount).length := by
          rw [List.length_drop, List.length_drop, hkept.consistent.lengths]
        have hleft : (buffer.events.drop removeCount).zip (buffer.weights.drop removeCount) =
            (acceptedSinceClear calls).drop (evictedSinceClear calls + removeCount) := by
          rw [← List.drop_drop, ← hkept.newest]
          exact List.drop_zipWith.symm
        simp only [acceptedSinceClear_snoc_push, evictedSinceClear_snoc_push, if_true, hvalue,
          Option.getD_some]
        rw [List.zip_append hlengths, hleft, List.drop_append_of_le_length (by omega)]
        rfl
      · simp only [acceptedSinceClear_snoc_push, evictedSinceClear_snoc_push, if_true,
          List.length_append, List.length_drop, List.length_singleton]
        omega

/-- **The buffer of realtime events.**  Along every sequence of calls the buffer stays within both
limits, its weight is that of its events, and these are the newest of the events accepted since the
last clear, in their order, the others having been evicted; every call of `push` returns, and
accepts an event by evicting the fewest oldest ones that make room, or rejects it and changes
nothing. -/
theorem realtimeBuffer_kept {options : RealtimeEventBufferOptions}
    {start buffer : RealtimeEventBuffer E}
    {es : List (Edge (RealtimeEventBuffer E) (RealtimeBufferCall E))}
    (hnew : RealtimeEventBuffer.new options = .ok start)
    (h : Run RealtimeBufferStep start es buffer) :
    BufferKept start (es.map Edge.label) buffer ∧
      (∀ e ∈ es, ∀ event frameLength result, e.label = .push event frameLength result →
        e.source.PushEffect event frameLength result e.target) ∧
      ∀ event frameLength fuel, buffer.events.length < fuel →
        (buffer.push fuel event frameLength).isSome = true := by
  have hkept : BufferKept start (es.map Edge.label) buffer := by
    refine h.history (fun es buffer => BufferKept start (es.map Edge.label) buffer) ?_
      (BufferKept.start hnew)
    intro es s call t hkept hstep
    rw [List.map_append]
    exact hkept.step hstep
  refine ⟨hkept, ?_, fun event frameLength fuel hfuel => ?_⟩
  · refine h.forall_edge (RealtimeEventBuffer.Consistent) _ ?_ ?_ (BufferKept.start hnew).consistent
    · intro s call t hstep hs
      cases hstep with
      | clear => exact ⟨rfl, rfl, Nat.zero_le _, Nat.zero_le _⟩
      | push h => exact (RealtimeEventBuffer.push_effect hs h).consistent hs
    · rintro ⟨s, call, t⟩ hstep hs event frameLength result rfl
      cases hstep with
      | push h => exact RealtimeEventBuffer.push_effect hs h
  · exact RealtimeEventBuffer.push_isSome hkept.consistent hfuel

end Runs

/-! ## A run -/

/-- Limits of ten events and eight units of weight. -/
def lightOptions : RealtimeEventBufferOptions where
  maxEvents := some (.ofNat 10 (by decide))
  maxWeight := some (.ofNat 8 (by decide))

/-- A buffer with these limits. -/
def lightBuffer (events : List String) (weights : List Nat) (weight : Nat) :
    RealtimeEventBuffer String where
  events := events
  weights := weights
  maxEvents := ⟨10, by decide, by decide⟩
  maxWeight := ⟨8, by decide, by decide⟩
  weight := weight

theorem lightBuffer_new : RealtimeEventBuffer.new lightOptions = .ok (lightBuffer [] [] 0) := by
  have hevents : positiveSafe (.ofNat 10 (by decide)) = some ⟨10, by decide, by decide⟩ :=
    positiveSafe_eq_some (safeNat_ofNat (by decide)) (by decide)
  have hweight : positiveSafe (.ofNat 8 (by decide)) = some ⟨8, by decide, by decide⟩ :=
    positiveSafe_eq_some (safeNat_ofNat (by decide)) (by decide)
  simp [RealtimeEventBuffer.new, lightOptions, hevents, hweight, lightBuffer]

/-- The third event takes the place of the first one. -/
theorem realtimeBuffer_kept_light :
    ∃ buffer : RealtimeEventBuffer String, ∃ es,
      Run RealtimeBufferStep (lightBuffer [] [] 0) es buffer ∧
        buffer.events = ["event-2", "event-3"] ∧
        BufferKept (lightBuffer [] [] 0) (es.map Edge.label) buffer := by
  have hfirst : (lightBuffer [] [] 0).push 1 "event-1" (.ofNat 2 (by decide)) =
      some (⟨true, 0⟩, lightBuffer ["event-1"] [4] 4) := by
    rw [RealtimeEventBuffer.push, safeNat_frameWeight (by decide) (by decide)]
    simp [lightBuffer, RealtimeEventBuffer.evictLoop, addNat_of_le]
  have hsecond : (lightBuffer ["event-1"] [4] 4).push 2 "event-2" (.ofNat 2 (by decide)) =
      some (⟨true, 0⟩, lightBuffer ["event-1", "event-2"] [4, 4] 8) := by
    rw [RealtimeEventBuffer.push, safeNat_frameWeight (by decide) (by decide)]
    simp [lightBuffer, RealtimeEventBuffer.evictLoop, addNat_of_le]
  have hthird :
      (lightBuffer ["event-1", "event-2"] [4, 4] 8).push 3 "event-3" (.ofNat 2 (by decide)) =
        some (⟨true, 1⟩, lightBuffer ["event-2", "event-3"] [4, 4] 8) := by
    rw [RealtimeEventBuffer.push, safeNat_frameWeight (by decide) (by decide)]
    simp [lightBuffer, RealtimeEventBuffer.evictLoop, RealtimeEventBuffer.splice, addNat_of_le]
  have hrun : Run RealtimeBufferStep (lightBuffer [] [] 0) _ _ :=
    .cons (.push hfirst) (.cons (.push hsecond) (.cons (.push hthird) (.nil _)))
  exact ⟨_, _, hrun, rfl, (realtimeBuffer_kept lightBuffer_new hrun).1⟩

end Web
end PipeBolt
