import PipeBolt.Core.RuleEvaluation

/-!
# Comparisons and equality of numbers

The comparisons of a condition go through `as_f64`; `Equals` compares JSON values, where numbers of
different representations differ.  So the two agree on numbers of one kind, and an integer and a
float of the same value are neither equal nor apart.

* `F64.ofNat_inj`, `F64.ofInt_inj`: integers up to `2 ^ 53` keep their value.
* `asF64_eq_iff`: numbers of one kind have the same value exactly when they are equal.
* `comparisons_coherent_iff`: when comparisons and equality are coherent.
-/

namespace PipeBolt
namespace Rust

/-! ## Integers as floats -/

theorem F64.unit_pos : (0 : Int) < 2 ^ 1074 := Int.pow_pos (by decide)

theorem F64.ofNat_of_le {n : Nat} (h : n ≤ 2 ^ 53) : F64.ofNat n = n * 2 ^ 1074 := by
  rw [F64.ofNat, roundToEven_of_le h]

theorem F64.ofNat_inj {m n : Nat} (hm : m ≤ 2 ^ 53) (hn : n ≤ 2 ^ 53) :
    F64.ofNat m = F64.ofNat n ↔ m = n := by
  rw [F64.ofNat_of_le hm, F64.ofNat_of_le hn]
  constructor
  · intro h
    exact Int.ofNat_inj.mp (Int.eq_of_mul_eq_mul_right (Int.ne_of_gt F64.unit_pos) h)
  · rintro rfl
    rfl

theorem F64.ofNat_nonneg (n : Nat) : 0 ≤ F64.ofNat n :=
  Int.mul_nonneg (Int.natCast_nonneg _) (Int.le_of_lt F64.unit_pos)

theorem F64.ofInt_neg {n : Int} (hneg : n < 0) (hn : n.natAbs ≤ 2 ^ 53) : F64.ofInt n < 0 := by
  rw [F64.ofInt, if_pos hneg, F64.ofNat_of_le hn]
  have hpos : (0 : Int) < n.natAbs * 2 ^ 1074 :=
    Int.mul_pos (by omega) F64.unit_pos
  exact Int.neg_neg_of_pos hpos

theorem F64.ofInt_inj {m n : Int} (hm : m < 0) (hn : n < 0) (hmabs : m.natAbs ≤ 2 ^ 53)
    (hnabs : n.natAbs ≤ 2 ^ 53) : F64.ofInt m = F64.ofInt n ↔ m = n := by
  rw [F64.ofInt, F64.ofInt, if_pos hm, if_pos hn, Int.neg_inj, F64.ofNat_inj hmabs hnabs]
  omega

end Rust

namespace Domain

open Rust

/-! ## Kinds of numbers -/

/-- Whether `serde_json` keeps a number as a float. -/
def Number.isFloat : Number → Bool
  | .float _ => true
  | .posInt _ | .negInt _ => false

/-- A number as `serde_json` builds it, whose value `as_f64` keeps: a negative integer is negative, a
float is finite, and an integer is at most `2 ^ 53` in magnitude. -/
def Number.Exact : Number → Prop
  | .posInt value => value.toNat ≤ 2 ^ 53
  | .negInt value => value.toInt < 0 ∧ value.toInt.natAbs ≤ 2 ^ 53
  | .float bits => bits.toNat / 2 ^ 52 % 2 ^ 11 ≠ 2 ^ 11 - 1

instance : DecidablePred Number.Exact
  | .posInt value => inferInstanceAs (Decidable (value.toNat ≤ 2 ^ 53))
  | .negInt value => inferInstanceAs (Decidable (value.toInt < 0 ∧ value.toInt.natAbs ≤ 2 ^ 53))
  | .float bits => inferInstanceAs (Decidable (bits.toNat / 2 ^ 52 % 2 ^ 11 ≠ 2 ^ 11 - 1))

end Domain

namespace Core

open Domain Rust

section Numbers

variable {left right : Number}

/-- Equal numbers have the same value. -/
theorem asF64_eq_of_eq (h : left.eq right = true) : left.asF64 = right.asF64 := by
  cases left with
  | posInt m =>
    cases right with
    | posInt n => rw [show m = n from beq_iff_eq.mp h]
    | negInt n => cases h
    | float bits => cases h
  | negInt m =>
    cases right with
    | posInt n => cases h
    | negInt n => rw [show m = n from beq_iff_eq.mp h]
    | float bits => cases h
  | float m =>
    cases right with
    | posInt n => cases h
    | negInt n => cases h
    | float n => exact beq_iff_eq.mp h

/-- Numbers of different kinds are not equal. -/
theorem eq_eq_false (hkind : left.isFloat ≠ right.isFloat) : left.eq right = false := by
  cases left with
  | posInt m =>
    cases right with
    | posInt n => exact absurd rfl hkind
    | negInt n => rfl
    | float n => rfl
  | negInt m =>
    cases right with
    | posInt n => rfl
    | negInt n => exact absurd rfl hkind
    | float n => rfl
  | float m =>
    cases right with
    | posInt n => rfl
    | negInt n => rfl
    | float n => exact absurd rfl hkind

/-- Numbers of one kind have the same value exactly when they are equal. -/
theorem asF64_eq_iff (hleft : left.Exact) (hright : right.Exact)
    (hkind : left.isFloat = right.isFloat) :
    left.asF64 = right.asF64 ↔ left.eq right = true := by
  refine ⟨fun h => ?_, asF64_eq_of_eq⟩
  cases left with
  | posInt m =>
    cases right with
    | posInt n => exact beq_iff_eq.mpr (UInt64.toNat_inj.mp ((F64.ofNat_inj hleft hright).mp h))
    | negInt n =>
      have hvalue : F64.ofNat m.toNat = F64.ofInt n.toInt := h
      have hneg : F64.ofInt n.toInt < 0 := F64.ofInt_neg hright.1 hright.2
      rw [← hvalue] at hneg
      exact absurd hneg (Int.not_lt.mpr (F64.ofNat_nonneg _))
    | float bits => cases hkind
  | negInt m =>
    cases right with
    | posInt n =>
      have hvalue : F64.ofInt m.toInt = F64.ofNat n.toNat := h
      have hneg : F64.ofInt m.toInt < 0 := F64.ofInt_neg hleft.1 hleft.2
      rw [hvalue] at hneg
      exact absurd hneg (Int.not_lt.mpr (F64.ofNat_nonneg _))
    | negInt n =>
      exact beq_iff_eq.mpr (Int64.toInt_inj.mp
        ((F64.ofInt_inj hleft.1 hright.1 hleft.2 hright.2).mp h))
    | float bits => cases hkind
  | float m =>
    cases right with
    | posInt n => cases hkind
    | negInt n => cases hkind
    | float n => exact beq_iff_eq.mpr h

end Numbers

/-! ## Coherence -/

/-- A condition holds on an event. -/
def Holds (rule : RuleDefinition) (event : NormalizedEvent) (condition : ConditionExpr) : Prop :=
  evaluateCondition rule event condition = .ok true

/-- Exactly one of `LessThan`, `Equals` and `GreaterThan` holds of two values, and
`GreaterThanOrEqual` and `LessThanOrEqual` both hold only when `Equals` does. -/
structure Coherent (rule : RuleDefinition) (event : NormalizedEvent) (left right : ValueExpr) :
    Prop where
  one : Holds rule event (.lessThan left right) ∨ Holds rule event (.equals left right) ∨
    Holds rule event (.greaterThan left right)
  less_or_equal : ¬ (Holds rule event (.lessThan left right) ∧
    Holds rule event (.equals left right))
  less_or_greater : ¬ (Holds rule event (.lessThan left right) ∧
    Holds rule event (.greaterThan left right))
  equal_or_greater : ¬ (Holds rule event (.equals left right) ∧
    Holds rule event (.greaterThan left right))
  both : Holds rule event (.greaterThanOrEqual left right) →
    Holds rule event (.lessThanOrEqual left right) → Holds rule event (.equals left right)

section Coherence

variable {rule : RuleDefinition} {event : NormalizedEvent} {left right : ValueExpr} {l r : Number}

/-- A comparison of two numbers. -/
theorem compareNumbers_eq (hleft : resolveOptionalValue left event = some (.number l))
    (hright : resolveOptionalValue right event = some (.number r)) (compare : F64 → F64 → Bool) :
    compareNumbers rule left right event compare = .ok (compare l.asF64 r.asF64) := by
  rw [compareNumbers, hleft, hright]
  rfl

theorem holds_lessThan_iff (hleft : resolveOptionalValue left event = some (.number l))
    (hright : resolveOptionalValue right event = some (.number r)) :
    Holds rule event (.lessThan left right) ↔ l.asF64 < r.asF64 := by
  rw [Holds, evaluateCondition, compareNumbers_eq hleft hright, Except.ok.injEq,
    decide_eq_true_iff]

theorem holds_greaterThan_iff (hleft : resolveOptionalValue left event = some (.number l))
    (hright : resolveOptionalValue right event = some (.number r)) :
    Holds rule event (.greaterThan left right) ↔ r.asF64 < l.asF64 := by
  rw [Holds, evaluateCondition, compareNumbers_eq hleft hright, Except.ok.injEq,
    decide_eq_true_iff]

theorem holds_greaterThanOrEqual_iff (hleft : resolveOptionalValue left event = some (.number l))
    (hright : resolveOptionalValue right event = some (.number r)) :
    Holds rule event (.greaterThanOrEqual left right) ↔ r.asF64 ≤ l.asF64 := by
  rw [Holds, evaluateCondition, compareNumbers_eq hleft hright, Except.ok.injEq,
    decide_eq_true_iff]

theorem holds_lessThanOrEqual_iff (hleft : resolveOptionalValue left event = some (.number l))
    (hright : resolveOptionalValue right event = some (.number r)) :
    Holds rule event (.lessThanOrEqual left right) ↔ l.asF64 ≤ r.asF64 := by
  rw [Holds, evaluateCondition, compareNumbers_eq hleft hright, Except.ok.injEq,
    decide_eq_true_iff]

theorem holds_equals_iff (hleft : resolveOptionalValue left event = some (.number l))
    (hright : resolveOptionalValue right event = some (.number r)) :
    Holds rule event (.equals left right) ↔ l.eq r = true := by
  rw [Holds, evaluateCondition, resolveValue, resolveValue, hleft, hright, Except.ok.injEq]
  exact Iff.rfl

/-- Comparisons and equality of two numbers are coherent exactly when the numbers differ in value or
are equal. -/
theorem coherent_iff (hleft : resolveOptionalValue left event = some (.number l))
    (hright : resolveOptionalValue right event = some (.number r)) :
    Coherent rule event left right ↔ (l.asF64 = r.asF64 → l.eq r = true) := by
  have hlt : Holds rule event (.lessThan left right) ↔ l.asF64 < r.asF64 :=
    holds_lessThan_iff hleft hright
  have hgt : Holds rule event (.greaterThan left right) ↔ r.asF64 < l.asF64 :=
    holds_greaterThan_iff hleft hright
  have heq : Holds rule event (.equals left right) ↔ l.eq r = true :=
    holds_equals_iff hleft hright
  have hge : Holds rule event (.greaterThanOrEqual left right) ↔ r.asF64 ≤ l.asF64 :=
    holds_greaterThanOrEqual_iff hleft hright
  have hle : Holds rule event (.lessThanOrEqual left right) ↔ l.asF64 ≤ r.asF64 :=
    holds_lessThanOrEqual_iff hleft hright
  constructor
  · intro h hvalue
    refine heq.mp (h.both (hge.mpr ?_) (hle.mpr ?_))
    · exact Int.le_of_eq hvalue.symm
    · exact Int.le_of_eq hvalue
  · intro h
    refine ⟨?_, ?_, ?_, ?_, ?_⟩
    · rw [hlt, heq, hgt]
      rcases Int.lt_trichotomy l.asF64 r.asF64 with hvalue | hvalue | hvalue
      · exact .inl hvalue
      · exact .inr (.inl (h hvalue))
      · exact .inr (.inr hvalue)
    · rw [hlt, heq]
      rintro ⟨hvalue, hequal⟩
      exact Int.ne_of_lt hvalue (asF64_eq_of_eq hequal)
    · rw [hlt, hgt]
      rintro ⟨hvalue, hvalue'⟩
      exact Int.lt_irrefl _ (Int.lt_trans hvalue hvalue')
    · rw [heq, hgt]
      rintro ⟨hequal, hvalue⟩
      exact Int.ne_of_gt hvalue (asF64_eq_of_eq hequal)
    · rw [hge, hle, heq]
      exact fun hvalue hvalue' => h (Int.le_antisymm hvalue' hvalue)

/-- Where two expressions resolve to numbers whose values `as_f64` keeps, comparisons and equality
are coherent exactly when the numbers are both integers or both floats, or differ in value.  An
integer and a float of the same value are neither less, equal nor greater, and both
`GreaterThanOrEqual` and `LessThanOrEqual` hold of them. -/
theorem comparisons_coherent_iff (hleft : resolveOptionalValue left event = some (.number l))
    (hright : resolveOptionalValue right event = some (.number r)) (hl : l.Exact) (hr : r.Exact) :
    (Coherent rule event left right ↔ l.isFloat = r.isFloat ∨ l.asF64 ≠ r.asF64) ∧
    (l.isFloat ≠ r.isFloat → l.asF64 = r.asF64 →
      ¬ Holds rule event (.lessThan left right) ∧ ¬ Holds rule event (.equals left right) ∧
        ¬ Holds rule event (.greaterThan left right) ∧
          Holds rule event (.greaterThanOrEqual left right) ∧
            Holds rule event (.lessThanOrEqual left right)) := by
  constructor
  · rw [coherent_iff hleft hright]
    by_cases hkind : l.isFloat = r.isFloat
    · exact iff_of_true (asF64_eq_iff hl hr hkind).mp (.inl hkind)
    · rw [eq_eq_false hkind]
      constructor
      · exact fun h => .inr fun hvalue => nomatch h hvalue
      · rintro (hsame | hvalue) heq
        · exact absurd hsame hkind
        · exact absurd heq hvalue
  · intro hkind hvalue
    rw [holds_lessThan_iff hleft hright, holds_equals_iff hleft hright,
      holds_greaterThan_iff hleft hright, holds_greaterThanOrEqual_iff hleft hright,
      holds_lessThanOrEqual_iff hleft hright, eq_eq_false hkind, hvalue]
    exact ⟨Int.lt_irrefl _, Bool.false_ne_true, Int.lt_irrefl _, Int.le_refl _, Int.le_refl _⟩

end Coherence

/-- The bits of `1.0`. -/
def oneFloat : Number := .float 0x3FF0000000000000

theorem comparisons_coherent_iff_one :
    (Coherent hotRule hotEvent (.literal (.number (.posInt 1))) (.literal (.number oneFloat)) ↔
      Number.isFloat (.posInt 1) = oneFloat.isFloat ∨
        Number.asF64 (.posInt 1) ≠ oneFloat.asF64) ∧
    (Number.isFloat (.posInt 1) ≠ oneFloat.isFloat →
      Number.asF64 (.posInt 1) = oneFloat.asF64 →
        ¬ Holds hotRule hotEvent
            (.lessThan (.literal (.number (.posInt 1))) (.literal (.number oneFloat))) ∧
          ¬ Holds hotRule hotEvent
            (.equals (.literal (.number (.posInt 1))) (.literal (.number oneFloat))) ∧
          ¬ Holds hotRule hotEvent
            (.greaterThan (.literal (.number (.posInt 1))) (.literal (.number oneFloat))) ∧
          Holds hotRule hotEvent
            (.greaterThanOrEqual (.literal (.number (.posInt 1))) (.literal (.number oneFloat))) ∧
          Holds hotRule hotEvent
            (.lessThanOrEqual (.literal (.number (.posInt 1))) (.literal (.number oneFloat)))) :=
  comparisons_coherent_iff rfl rfl (by decide) (by decide)

/-- `1` and `1.0` are neither less, equal nor greater. -/
theorem one_not_coherent :
    ¬ Coherent hotRule hotEvent (.literal (.number (.posInt 1))) (.literal (.number oneFloat)) := by
  have hvalue : Number.asF64 (.posInt 1) = oneFloat.asF64 := by decide +kernel
  intro h
  exact nomatch (coherent_iff rfl rfl).mp h hvalue

end Core
end PipeBolt
