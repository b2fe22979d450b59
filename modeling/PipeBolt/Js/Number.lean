import Mathlib.Data.Nat.Digits.Defs
import PipeBolt.Js.Text
import PipeBolt.Lib.Binary64

/-!
# JavaScript numbers

The Number type, the text of a number and the number of a text.  Magnitudes are in units of the
smallest positive one, `2 ^ -1074`.
-/

namespace PipeBolt
namespace Js

open Binary64

/-! ## Numbers -/

/-- A unit is `2 ^ -1074`. -/
@[irreducible]
def UNIT_EXPONENT : Nat := 1074

-- Powers of this exponent are never to be evaluated in a proof.
theorem unitExponent_pos : 0 < UNIT_EXPONENT := by
  rw [UNIT_EXPONENT]
  decide

/-- The first power of two past the finite numbers, `2 ^ 1024`. -/
def OVERFLOW_UNITS : Nat := 2 ^ (1024 + UNIT_EXPONENT)

/-- The magnitude of a finite number, in units. -/
structure Magnitude where
  units : Nat
  representable : Representable units
  finite : units < OVERFLOW_UNITS
  deriving DecidableEq

/-- A value of the Number type. -/
inductive JsNumber where
  | nan
  | infinity (negative : Bool)
  | finite (negative : Bool) (magnitude : Magnitude)
  deriving DecidableEq

/-- The number of a rounded magnitude: past the largest one it is an infinity. -/
def JsNumber.ofUnits (negative : Bool) (units : Nat) (h : Representable units) : JsNumber :=
  if hfinite : units < OVERFLOW_UNITS then .finite negative ⟨units, h, hfinite⟩ else .infinity negative

theorem ofUnits_eq {negative : Bool} {units : Nat} {magnitude : Magnitude}
    (hrepresentable : Representable units) (h : units = magnitude.units) :
    JsNumber.ofUnits negative units hrepresentable = .finite negative magnitude := by
  subst h
  exact dif_pos magnitude.finite

/-- `coefficient * 10 ^ exponent`, rounded. -/
def roundDecimal (coefficient : Nat) (exponent : Int) : Nat :=
  if 0 ≤ exponent then roundRatio (2 ^ UNIT_EXPONENT * (10 ^ exponent.toNat * coefficient)) 1
  else roundRatio (2 ^ UNIT_EXPONENT * coefficient) (10 ^ (-exponent).toNat)

theorem representable_roundDecimal (coefficient : Nat) (exponent : Int) :
    Representable (roundDecimal coefficient exponent) := by
  rw [roundDecimal]
  split
  · exact representable_roundRatio _ _
  · exact representable_roundRatio _ _

/-- The number of a decimal. -/
def JsNumber.ofDecimal (negative : Bool) (coefficient : Nat) (exponent : Int) : JsNumber :=
  .ofUnits negative (roundDecimal coefficient exponent)
    (representable_roundDecimal coefficient exponent)

/-- `Number.isFinite`. -/
def JsNumber.isFinite : JsNumber → Bool
  | .finite _ _ => true
  | .nan | .infinity _ => false

/-- `Number.isInteger`. -/
def JsNumber.isInteger : JsNumber → Bool
  | .finite _ magnitude => magnitude.units % 2 ^ UNIT_EXPONENT == 0
  | .nan | .infinity _ => false

/-- `Number.isSafeInteger`. -/
def JsNumber.isSafeInteger : JsNumber → Bool
  | .finite negative magnitude =>
    JsNumber.isInteger (.finite negative magnitude) &&
      magnitude.units ≤ (2 ^ 53 - 1) * 2 ^ UNIT_EXPONENT
  | .nan | .infinity _ => false

/-- The natural number that a safe integer is, unless it is negative. -/
def JsNumber.safeNat : JsNumber → Option Nat
  | .finite false magnitude =>
    if JsNumber.isSafeInteger (.finite false magnitude) then
      some (magnitude.units / 2 ^ UNIT_EXPONENT)
    else none
  | .finite true _ | .nan | .infinity _ => none

theorem mul_two_pow_lt {n a b c : Nat} (hn : n ≤ 2 ^ a) (hab : a < b) : n * 2 ^ c < 2 ^ (b + c) := by
  have hlt : n < 2 ^ b := Nat.lt_of_le_of_lt hn (Nat.pow_lt_pow_right (by decide) hab)
  rw [Nat.pow_add]
  exact Nat.mul_lt_mul_of_pos_right hlt (Nat.two_pow_pos _)

/-- The number of a natural number that a double holds. -/
def JsNumber.ofNat (n : Nat) (h : n ≤ 2 ^ 53) : JsNumber :=
  .finite false {
    units := n * 2 ^ UNIT_EXPONENT
    representable := representable_mul h
    finite := by
      rw [OVERFLOW_UNITS]
      exact mul_two_pow_lt h (by decide) }

/-- The number one. -/
def JsNumber.one : JsNumber := .ofNat 1 (by decide)

theorem safeNat_ofNat {n : Nat} (h : n < 2 ^ 53) :
    (JsNumber.ofNat n (Nat.le_of_lt h)).safeNat = some n := by
  have hinteger : n * 2 ^ UNIT_EXPONENT % 2 ^ UNIT_EXPONENT = 0 := Nat.mul_mod_left _ _
  have hsafe : n * 2 ^ UNIT_EXPONENT ≤ (2 ^ 53 - 1) * 2 ^ UNIT_EXPONENT :=
    Nat.mul_le_mul_right _ (by omega)
  have hvalue : n * 2 ^ UNIT_EXPONENT / 2 ^ UNIT_EXPONENT = n :=
    Nat.mul_div_cancel _ (Nat.two_pow_pos _)
  rw [JsNumber.ofNat, JsNumber.safeNat, JsNumber.isSafeInteger, JsNumber.isInteger, hinteger,
    hvalue, decide_eq_true hsafe]
  rfl

theorem roundDecimal_nat (n : Nat) : roundDecimal n 0 = roundRatio (n * 2 ^ UNIT_EXPONENT) 1 := by
  have hvalue : 2 ^ UNIT_EXPONENT * (10 ^ (0 : Int).toNat * n) = n * 2 ^ UNIT_EXPONENT := by
    rw [Int.toNat_zero, Nat.pow_zero, Nat.one_mul, Nat.mul_comm]
  rw [roundDecimal, if_pos (Int.le_refl 0), hvalue]

/-- The decimal of a natural number that a double holds. -/
theorem ofDecimal_nat {n : Nat} (h : n ≤ 2 ^ 53) : JsNumber.ofDecimal false n 0 = .ofNat n h :=
  ofUnits_eq _ ((roundDecimal_nat n).trans (representable_mul h))

/-- The decimals of natural numbers that are safe integers. -/
theorem isSafeInteger_ofDecimal_iff {n : Nat} :
    (JsNumber.ofDecimal false n 0).isSafeInteger = true ↔ n < 2 ^ 53 := by
  constructor
  · intro hsafe
    by_contra hlarge
    have hbig : 2 ^ (53 + UNIT_EXPONENT) ≤ n * 2 ^ UNIT_EXPONENT := by
      rw [Nat.pow_add]
      exact Nat.mul_le_mul_right _ (Nat.not_lt.mp hlarge)
    have hround : 2 ^ (53 + UNIT_EXPONENT) ≤ roundDecimal n 0 := by
      rw [roundDecimal_nat]
      exact two_pow_le_roundRatio (Nat.le_add_right 53 _) hbig
    have hpast : (2 ^ 53 - 1) * 2 ^ UNIT_EXPONENT < 2 ^ (53 + UNIT_EXPONENT) := by
      rw [Nat.pow_add]
      exact Nat.mul_lt_mul_of_pos_right (by omega) (Nat.two_pow_pos _)
    rw [JsNumber.ofDecimal, JsNumber.ofUnits] at hsafe
    split at hsafe
    · rw [JsNumber.isSafeInteger, Bool.and_eq_true, decide_eq_true_eq] at hsafe
      exact absurd (Nat.le_trans hround hsafe.2) (Nat.not_le.mpr hpast)
    · cases hsafe
  · intro h
    have hsome := safeNat_ofNat h
    rw [ofDecimal_nat (Nat.le_of_lt h)]
    rw [JsNumber.ofNat, JsNumber.safeNat] at hsome
    exact (Option.ite_none_right_eq_some.mp hsome).1

/-- `+` on natural numbers: past `2 ^ 53` the sum is rounded. -/
def addNat (m n : Nat) : Nat := roundRatio (m + n) 1

theorem addNat_of_le {m n : Nat} (h : m + n ≤ 2 ^ 53) : addNat m n = m + n := roundRatio_of_le h

/-! ## The shortest decimal -/

/-- The two integers around a ratio, the closer one first. -/
def closest (num den : Nat) : List Nat :=
  let quotient := num / den
  let remainder := num % den
  if 2 * remainder < den ∨ 2 * remainder = den ∧ quotient % 2 = 0 then [quotient, quotient + 1]
  else [quotient + 1, quotient]

/-- A decimal near `num * 10 ^ exponent` that is accepted, on the coarsest of `j` grids that has
one.  The finest grid has the decimal itself. -/
def coarsest (num : Nat) (exponent : Int) (accepts : Nat → Int → Bool) : Nat → Nat × Int
  | 0 => (num, exponent)
  | j + 1 =>
    let grid := exponent + (j + 1 : Nat)
    match (closest num (10 ^ (j + 1))).find? fun c => 0 < c && accepts c grid with
    | some c => (c, grid)
    | none => coarsest num exponent accepts j

theorem accepts_coarsest {num : Nat} {exponent : Int} {accepts : Nat → Int → Bool}
    (h : accepts num exponent = true) (j : Nat) :
    accepts (coarsest num exponent accepts j).1 (coarsest num exponent accepts j).2 = true := by
  induction j with
  | zero => exact h
  | succ j ih =>
    rw [coarsest]
    split
    · next c hfind =>
      have hc := List.find?_some hfind
      rw [Bool.and_eq_true] at hc
      exact hc.2
    · exact ih

theorem coarsest_pos {num : Nat} (h : 0 < num) (exponent : Int) (accepts : Nat → Int → Bool)
    (j : Nat) : 0 < (coarsest num exponent accepts j).1 := by
  induction j with
  | zero => exact h
  | succ j ih =>
    rw [coarsest]
    split
    · next c hfind =>
      have hc := List.find?_some hfind
      rw [Bool.and_eq_true, decide_eq_true_eq] at hc
      exact hc.1
    · exact ih

/-- A decimal is rounded to the magnitude. -/
def roundsTo (units coefficient : Nat) (exponent : Int) : Bool :=
  roundDecimal coefficient exponent == units

/-- The coefficient and the exponent of `Number::toString`: the fewest digits that are rounded to
the magnitude. -/
def shortestDecimal (units : Nat) : Nat × Int :=
  let num := 5 ^ UNIT_EXPONENT * units
  coarsest num (-UNIT_EXPONENT) (roundsTo units) (Nat.digits 10 num).length

theorem roundDecimal_neg (coefficient : Nat) {e : Nat} (h : 0 < e) :
    roundDecimal coefficient (-e) = roundRatio (2 ^ UNIT_EXPONENT * coefficient) (10 ^ e) := by
  rw [roundDecimal, if_neg (by omega), Int.neg_neg, Int.toNat_natCast]

theorem two_pow_mul_five_pow (n : Nat) : 2 ^ n * 5 ^ n = 10 ^ n := by
  rw [← Nat.mul_pow]

/-- Every magnitude is a decimal. -/
theorem roundsTo_exact {units : Nat} (h : Representable units) :
    roundsTo units (5 ^ UNIT_EXPONENT * units) (-UNIT_EXPONENT) = true := by
  rw [roundsTo, beq_iff_eq, roundDecimal_neg _ unitExponent_pos, ← Nat.mul_assoc,
    two_pow_mul_five_pow, Nat.mul_comm]
  exact roundRatio_of_representable (Nat.pow_pos (by decide)) h

/-- The shortest decimal of a magnitude is rounded to it. -/
theorem roundDecimal_shortestDecimal {units : Nat} (h : Representable units) :
    roundDecimal (shortestDecimal units).1 (shortestDecimal units).2 = units := by
  rw [shortestDecimal]
  exact beq_iff_eq.mp (accepts_coarsest (roundsTo_exact h) _)

theorem shortestDecimal_pos {units : Nat} (h : 0 < units) : 0 < (shortestDecimal units).1 := by
  rw [shortestDecimal]
  exact coarsest_pos (Nat.mul_pos (Nat.pow_pos (by decide)) h) _ _ _

end Js
end PipeBolt
