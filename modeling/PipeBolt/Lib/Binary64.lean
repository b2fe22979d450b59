import Mathlib.Algebra.Group.Nat.Defs
import Mathlib.Data.Nat.Size

/-!
# Rounding to 53 significant bits

Magnitudes in units of the smallest one, rounded to the nearest that has 53 significant bits, ties
to even.  In these units every magnitude is a natural number, and the gradual underflow of the
format is the rounding to a unit.

* `roundRatio`: the rounding of a ratio of natural numbers.
* `representable_roundRatio`: what was rounded is representable.
* `roundRatio_of_representable`: a ratio that is a representable magnitude is not changed.
-/

namespace Binary64

/-- A ratio rounded to 53 significant bits, ties to even. -/
def roundRatio (num den : Nat) : Nat :=
  let excess := Nat.size (num / den) - 53
  let scale := den * 2 ^ excess
  let quotient := num / scale
  let remainder := num % scale
  (if scale < 2 * remainder ∨ scale = 2 * remainder ∧ quotient % 2 = 1 then quotient + 1
    else quotient) * 2 ^ excess

/-- A magnitude that the rounding leaves as it is. -/
def Representable (m : Nat) : Prop := roundRatio m 1 = m

instance (m : Nat) : Decidable (Representable m) := inferInstanceAs (Decidable (_ = _))

/-- A ratio with the exact value of a multiple of its granularity is not rounded. -/
theorem roundRatio_mul {m den : Nat} (hden : 0 < den) (h : 2 ^ (Nat.size m - 53) ∣ m) :
    roundRatio (m * den) den = m := by
  obtain ⟨q, hq⟩ := h
  have hdiv : m * den / den = m := Nat.mul_div_cancel m hden
  have hscale : 0 < den * 2 ^ (Nat.size m - 53) := Nat.mul_pos hden (Nat.two_pow_pos _)
  have hnum : m * den = q * (den * 2 ^ (Nat.size m - 53)) := by
    calc m * den = 2 ^ (Nat.size m - 53) * q * den := by rw [← hq]
      _ = q * (den * 2 ^ (Nat.size m - 53)) := by
        rw [Nat.mul_comm (2 ^ _) q, Nat.mul_assoc, Nat.mul_comm (2 ^ _) den]
  have hquot : m * den / (den * 2 ^ (Nat.size m - 53)) = q := by
    rw [hnum, Nat.mul_div_cancel q hscale]
  have hrem : m * den % (den * 2 ^ (Nat.size m - 53)) = 0 := by
    rw [hnum, Nat.mul_mod_left]
  rw [roundRatio, hdiv, hquot, hrem, if_neg (by omega), Nat.mul_comm]
  exact hq.symm

/-- The granularity of a product of a 53-bit significand and a power of two divides it. -/
theorem granularity_dvd {q e : Nat} (hq : q ≤ 2 ^ 53) :
    2 ^ (Nat.size (q * 2 ^ e) - 53) ∣ q * 2 ^ e := by
  rcases Nat.lt_or_eq_of_le hq with hlt | heq
  · have hsize : Nat.size (q * 2 ^ e) ≤ 53 + e := by
      rw [Nat.size_le, Nat.pow_add]
      exact Nat.mul_lt_mul_of_pos_right hlt (Nat.two_pow_pos e)
    exact Nat.dvd_mul_left_of_dvd (Nat.pow_dvd_pow 2 (by omega)) q
  · have hsize : Nat.size (q * 2 ^ e) ≤ 54 + e := by
      rw [Nat.size_le, heq, ← Nat.pow_add]
      exact Nat.pow_lt_pow_right (by omega) (by omega)
    rw [heq, ← Nat.pow_add] at hsize ⊢
    exact Nat.pow_dvd_pow 2 (by omega)

theorem representable_mul {q e : Nat} (hq : q ≤ 2 ^ 53) : Representable (q * 2 ^ e) := by
  have h := roundRatio_mul Nat.one_pos (granularity_dvd (e := e) hq)
  rwa [Nat.mul_one] at h

/-- The rounding yields a significand of 53 bits. -/
theorem exists_roundRatio (num den : Nat) :
    ∃ q e, q ≤ 2 ^ 53 ∧ roundRatio num den = q * 2 ^ e := by
  refine ⟨_, Nat.size (num / den) - 53, ?_, rfl⟩
  have hlt : num / (den * 2 ^ (Nat.size (num / den) - 53)) < 2 ^ 53 := by
    rw [← Nat.div_div_eq_div_mul, Nat.div_lt_iff_lt_mul (Nat.two_pow_pos _), ← Nat.pow_add]
    exact Nat.size_le.mp (by omega)
  split
  · exact hlt
  · exact Nat.le_of_lt hlt

theorem representable_roundRatio (num den : Nat) : Representable (roundRatio num den) := by
  obtain ⟨q, e, hq, h⟩ := exists_roundRatio num den
  rw [h]
  exact representable_mul hq

/-- The rounding stays below a power of two that is not too small. -/
theorem roundRatio_le {n k : Nat} (hk : 53 ≤ k) (h : n < 2 ^ k) : roundRatio n 1 ≤ 2 ^ k := by
  have hsize : Nat.size n ≤ k := Nat.size_le.mpr h
  have hlt : n / 2 ^ (Nat.size n - 53) < 2 ^ 53 := by
    rw [Nat.div_lt_iff_lt_mul (Nat.two_pow_pos _), ← Nat.pow_add]
    exact Nat.size_le.mp (by omega)
  have hscale : 2 ^ 53 * 2 ^ (Nat.size n - 53) ≤ 2 ^ k := by
    rw [← Nat.pow_add]
    exact Nat.pow_le_pow_right (by decide) (by omega)
  rw [roundRatio, Nat.div_one, Nat.one_mul]
  refine Nat.le_trans (Nat.mul_le_mul_right _ ?_) hscale
  split
  · exact hlt
  · exact Nat.le_of_lt hlt

/-- Small integers are not rounded. -/
theorem roundRatio_of_le {n : Nat} (h : n ≤ 2 ^ 53) : roundRatio n 1 = n := by
  have hn : Representable (n * 2 ^ 0) := representable_mul h
  rwa [Nat.pow_zero, Nat.mul_one] at hn

/-- Large integers stay large. -/
theorem le_roundRatio {n : Nat} (h : 2 ^ 53 ≤ n) : 2 ^ 53 ≤ roundRatio n 1 := by
  have hsize : 53 < Nat.size n := Nat.lt_size.mpr h
  have hlow : 2 ^ (Nat.size n - 1) ≤ n := Nat.lt_size.mp (by omega)
  have hquot : 2 ^ 52 ≤ n / 2 ^ (Nat.size n - 53) := by
    rw [Nat.le_div_iff_mul_le (Nat.two_pow_pos _), ← Nat.pow_add]
    exact Nat.le_trans (Nat.pow_le_pow_right (by decide) (by omega)) hlow
  have hscale : 2 ^ 53 ≤ 2 ^ 52 * 2 ^ (Nat.size n - 53) := by
    rw [← Nat.pow_add]
    exact Nat.pow_le_pow_right (by decide) (by omega)
  rw [roundRatio, Nat.div_one, Nat.one_mul]
  refine Nat.le_trans hscale (Nat.mul_le_mul_right _ ?_)
  split
  · exact Nat.le_succ_of_le hquot
  · exact hquot

/-- The rounding stays above a power of two that is not too small. -/
theorem two_pow_le_roundRatio {n k : Nat} (hk : 53 ≤ k) (h : 2 ^ k ≤ n) :
    2 ^ k ≤ roundRatio n 1 := by
  have hsize : k < Nat.size n := Nat.lt_size.mpr h
  have hlow : 2 ^ (Nat.size n - 1) ≤ n := Nat.lt_size.mp (by omega)
  have hquot : 2 ^ 52 ≤ n / 2 ^ (Nat.size n - 53) := by
    rw [Nat.le_div_iff_mul_le (Nat.two_pow_pos _), ← Nat.pow_add]
    exact Nat.le_trans (Nat.pow_le_pow_right (by decide) (by omega)) hlow
  have hscale : 2 ^ k ≤ 2 ^ 52 * 2 ^ (Nat.size n - 53) := by
    rw [← Nat.pow_add]
    exact Nat.pow_le_pow_right (by decide) (by omega)
  rw [roundRatio, Nat.div_one, Nat.one_mul]
  refine Nat.le_trans hscale (Nat.mul_le_mul_right _ ?_)
  split
  · exact Nat.le_succ_of_le hquot
  · exact hquot

/-- A bound on integers is kept by the rounding. -/
theorem lt_roundRatio_iff {m n : Nat} (hm : m < 2 ^ 53) : m < roundRatio n 1 ↔ m < n := by
  rcases Nat.le_total n (2 ^ 53) with hn | hn
  · rw [roundRatio_of_le hn]
  · exact iff_of_true (Nat.lt_of_lt_of_le hm (le_roundRatio hn)) (Nat.lt_of_lt_of_le hm hn)

/-- A ratio with a representable value is not changed. -/
theorem roundRatio_of_representable {m den : Nat} (hden : 0 < den) (h : Representable m) :
    roundRatio (m * den) den = m := by
  obtain ⟨q, e, hq, hm⟩ := exists_roundRatio m 1
  rw [h] at hm
  refine roundRatio_mul hden ?_
  rw [hm]
  exact granularity_dvd hq

end Binary64
