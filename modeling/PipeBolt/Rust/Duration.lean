import Mathlib.Algebra.Group.Nat.Defs

/-!
# Rust durations

`std::time::Duration` as a number of nanoseconds whose whole seconds fit a `u64`, with the
constructors and readers the program uses, and the two serde representations of a duration: whole
seconds and whole milliseconds.
-/

namespace PipeBolt
namespace Rust

/-- `std::time::Duration`. -/
structure Duration where
  nanos : Nat
  nanos_lt : nanos < 2 ^ 64 * 1000000000
  deriving DecidableEq, Repr

namespace Duration

/-- `Duration::from_secs`. -/
def fromSecs (secs : UInt64) : Duration where
  nanos := secs.toNat * 1000000000
  nanos_lt := Nat.mul_lt_mul_of_pos_right secs.toNat_lt (by omega)

/-- `Duration::from_millis`. -/
def fromMillis (millis : UInt64) : Duration where
  nanos := millis.toNat * 1000000
  nanos_lt := by
    have h := millis.toNat_lt
    omega

/-- `Duration::as_secs`. -/
def asSecs (d : Duration) : Nat := d.nanos / 1000000000

/-- `Duration::as_millis`. -/
def asMillis (d : Duration) : Nat := d.nanos / 1000000

/-- `Duration::is_zero`. -/
def isZero (d : Duration) : Bool := d.nanos == 0

instance : LT Duration := ⟨fun a b => a.nanos < b.nanos⟩

instance (a b : Duration) : Decidable (a < b) := inferInstanceAs (Decidable (a.nanos < b.nanos))

instance : LE Duration := ⟨fun a b => a.nanos ≤ b.nanos⟩

instance (a b : Duration) : Decidable (a ≤ b) := inferInstanceAs (Decidable (a.nanos ≤ b.nanos))

theorem le_iff {a b : Duration} : a ≤ b ↔ a.nanos ≤ b.nanos := Iff.rfl

/-- `Ord::min`. -/
def min (a b : Duration) : Duration := if b < a then b else a

@[simp] theorem nanos_min (a b : Duration) : (a.min b).nanos = Nat.min a.nanos b.nanos := by
  rw [min]
  split
  · rename_i h
    exact (Nat.min_eq_right (Nat.le_of_lt h)).symm
  · rename_i h
    exact (Nat.min_eq_left (Nat.not_lt.mp h)).symm

/-- `Duration::MAX`. -/
def MAX : Duration where
  nanos := 2 ^ 64 * 1000000000 - 1
  nanos_lt := by omega

theorem nanos_le_max (d : Duration) : d.nanos ≤ MAX.nanos := Nat.le_sub_one_of_lt d.nanos_lt

/-- `Duration::saturating_mul`. -/
def saturatingMul (d : Duration) (rhs : UInt32) : Duration where
  nanos := Nat.min (d.nanos * rhs.toNat) MAX.nanos
  nanos_lt := Nat.lt_of_le_of_lt (Nat.min_le_right _ _) MAX.nanos_lt

end Duration

/-! ## The serde representations -/

/-- `duration_seconds::serialize`. -/
def durationSecondsSerialize (d : Duration) : UInt64 := .ofNat d.asSecs

/-- `duration_seconds::deserialize`. -/
def durationSecondsDeserialize (secs : UInt64) : Duration := .fromSecs secs

/-- `duration_millis::serialize`: the milliseconds, clamped to a `u64`. -/
def durationMillisSerialize (d : Duration) : UInt64 := .ofNat (Nat.min d.asMillis (2 ^ 64 - 1))

/-- `duration_millis::deserialize`. -/
def durationMillisDeserialize (millis : UInt64) : Duration := .fromMillis millis

end Rust
end PipeBolt
