import Mathlib.Algebra.Group.Int.Defs
import Mathlib.Algebra.Group.Nat.Defs
import Mathlib.Data.Nat.Size

/-!
# Binary floating point numbers

The finite values of `f64`, in units of the smallest positive one, `2 ^ -1074`.  In this unit every
finite value is an integer, so the comparisons of `f64` are those of integers, and the two zeros are
one number, as for IEEE equality.
-/

namespace PipeBolt
namespace Rust

/-- A finite `f64`, in units of `2 ^ -1074`. -/
abbrev F64 := Int

/-- The value of the IEEE bits of a finite number. -/
def F64.ofBits (bits : UInt64) : F64 :=
  let exponent : Nat := bits.toNat / 2 ^ 52 % 2 ^ 11
  let fraction : Nat := bits.toNat % 2 ^ 52
  let magnitude : Nat :=
    if exponent = 0 then fraction else (2 ^ 52 + fraction) * 2 ^ (exponent - 1)
  if bits.toNat / 2 ^ 63 = 1 then -(magnitude : Int) else magnitude

/-- An integer rounded to 53 significant bits, ties to even. -/
def roundToEven (n : Nat) : Nat :=
  let excess := Nat.size n - 53
  let quotient := n / 2 ^ excess
  let remainder := n % 2 ^ excess
  let up := 2 ^ excess < 2 * remainder ∨ 2 ^ excess = 2 * remainder ∧ quotient % 2 = 1
  (if 0 < excess ∧ up then quotient + 1 else quotient) * 2 ^ excess

/-- Up to `2 ^ 53` nothing is rounded. -/
theorem roundToEven_of_le {n : Nat} (h : n ≤ 2 ^ 53) : roundToEven n = n := by
  rcases Nat.lt_or_eq_of_le h with hlt | rfl
  · have hexcess : Nat.size n - 53 = 0 := Nat.sub_eq_zero_of_le (Nat.size_le.mpr hlt)
    simp [roundToEven, hexcess]
  · decide +kernel

/-- `as f64` on an unsigned integer. -/
def F64.ofNat (n : Nat) : F64 := roundToEven n * 2 ^ 1074

/-- `as f64` on a signed integer. -/
def F64.ofInt (n : Int) : F64 := if n < 0 then -F64.ofNat n.natAbs else F64.ofNat n.natAbs

end Rust
end PipeBolt
