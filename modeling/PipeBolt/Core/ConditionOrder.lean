import Mathlib.Logic.Relation
import PipeBolt.Core.RuleEvaluation
import PipeBolt.Lib.Kleene

/-!
# The order of conditions

The groups of a condition are evaluated from left to right and not further than needed, and a
comparison of numbers may fail.  So the order of the members decides whether an evaluation fails; it
decides nothing else.

`truth` is the truth value of a condition in the logic of Kleene, where a comparison that fails has
none.  It knows no order, and an evaluation that does not fail yields it.

* `Rewritten`: members of groups permuted and negations moved by De Morgan, at any depth.
* `truth_rewritten`: rewriting does not change the truth value.
* `evaluateCondition_rewritten`: what evaluations of rewritten conditions have in common.
-/

namespace PipeBolt
namespace Core

open Domain Fallible Kleene

/-! ## Rewriting -/

/-- One rewriting of a condition, at its root or below. -/
inductive Rewrites : ConditionExpr → ConditionExpr → Prop
  | permAnd {conditions conditions' : List ConditionExpr} : conditions.Perm conditions' →
      Rewrites (.and conditions) (.and conditions')
  | permOr {conditions conditions' : List ConditionExpr} : conditions.Perm conditions' →
      Rewrites (.or conditions) (.or conditions')
  | notAnd (conditions : List ConditionExpr) :
      Rewrites (.not (.and conditions)) (.or (conditions.map .not))
  | notOr (conditions : List ConditionExpr) :
      Rewrites (.not (.or conditions)) (.and (conditions.map .not))
  | inAnd (before after : List ConditionExpr) {condition condition' : ConditionExpr} :
      Rewrites condition condition' →
      Rewrites (.and (before ++ condition :: after)) (.and (before ++ condition' :: after))
  | inOr (before after : List ConditionExpr) {condition condition' : ConditionExpr} :
      Rewrites condition condition' →
      Rewrites (.or (before ++ condition :: after)) (.or (before ++ condition' :: after))
  | inNot {condition condition' : ConditionExpr} : Rewrites condition condition' →
      Rewrites (.not condition) (.not condition')

/-- Any number of rewritings, in either direction. -/
def Rewritten : ConditionExpr → ConditionExpr → Prop := Relation.EqvGen Rewrites

/-! ## Truth values -/

section Truth

variable (rule : RuleDefinition) (event : NormalizedEvent)

mutual

/-- The truth value of a condition, whatever the order of its groups. -/
def truth : ConditionExpr → Option Bool
  | .and conditions => all (truths conditions)
  | .or conditions => any (truths conditions)
  | .not condition => Kleene.not (truth condition)
  | .exists field => (evaluateCondition rule event (.exists field)).toOption
  | .equals left right => (evaluateCondition rule event (.equals left right)).toOption
  | .notEquals left right => (evaluateCondition rule event (.notEquals left right)).toOption
  | .greaterThan left right => (evaluateCondition rule event (.greaterThan left right)).toOption
  | .greaterThanOrEqual left right =>
    (evaluateCondition rule event (.greaterThanOrEqual left right)).toOption
  | .lessThan left right => (evaluateCondition rule event (.lessThan left right)).toOption
  | .lessThanOrEqual left right =>
    (evaluateCondition rule event (.lessThanOrEqual left right)).toOption
  | .contains left right => (evaluateCondition rule event (.contains left right)).toOption

def truths : List ConditionExpr → List (Option Bool)
  | [] => []
  | condition :: conditions => truth condition :: truths conditions

end

variable {rule event}

theorem truths_eq (conditions : List ConditionExpr) :
    truths rule event conditions = conditions.map (truth rule event) := by
  induction conditions with
  | nil => rfl
  | cons condition conditions ih => rw [truths, ih, List.map_cons]

/-- The loops of the evaluation are the short-circuit connectives. -/
theorem evaluateAnd_eq (conditions : List ConditionExpr) :
    evaluateAnd rule event conditions =
      evalAll (conditions.map (evaluateCondition rule event)) := by
  induction conditions with
  | nil => rfl
  | cons condition conditions ih => rw [evaluateAnd, ih, List.map_cons, evalAll]

theorem evaluateOr_eq (conditions : List ConditionExpr) :
    evaluateOr rule event conditions =
      evalAny (conditions.map (evaluateCondition rule event)) := by
  induction conditions with
  | nil => rfl
  | cons condition conditions ih => rw [evaluateOr, ih, List.map_cons, evalAny]

mutual

/-- An evaluation that does not fail yields the truth value. -/
theorem evaluateCondition_agrees : ∀ condition,
    Agrees (evaluateCondition rule event condition) (truth rule event condition)
  | .and conditions => by
    rw [evaluateCondition, evaluateAnd_eq, truth]
    exact agrees_evalAll (evaluateConditions_agree conditions)
  | .or conditions => by
    rw [evaluateCondition, evaluateOr_eq, truth]
    exact agrees_evalAny (evaluateConditions_agree conditions)
  | .not condition => by
    rw [evaluateCondition, truth]
    exact (evaluateCondition_agrees condition).not
  | .exists _ | .equals _ _ | .notEquals _ _ | .greaterThan _ _ | .greaterThanOrEqual _ _
  | .lessThan _ _ | .lessThanOrEqual _ _ | .contains _ _ => by
    rw [truth]
    exact .toOption _

theorem evaluateConditions_agree : ∀ conditions,
    List.Forall₂ Agrees (conditions.map (evaluateCondition rule event))
      (truths rule event conditions)
  | [] => .nil
  | condition :: conditions =>
    .cons (evaluateCondition_agrees condition) (evaluateConditions_agree conditions)

end

/-- One rewriting does not change the truth value. -/
theorem truth_rewrites {condition condition' : ConditionExpr} (h : Rewrites condition condition') :
    truth rule event condition = truth rule event condition' := by
  induction h with
  | permAnd hperm =>
    rw [truth, truth, truths_eq, truths_eq]
    exact all_perm (hperm.map _)
  | permOr hperm =>
    rw [truth, truth, truths_eq, truths_eq]
    exact any_perm (hperm.map _)
  | notAnd conditions =>
    have hnot : truth rule event ∘ ConditionExpr.not = Kleene.not ∘ truth rule event := by
      ext condition : 1
      rw [Function.comp_apply, truth]
      rfl
    rw [truth, truth, truth, truths_eq, truths_eq, not_all, List.map_map, List.map_map, hnot]
  | notOr conditions =>
    have hnot : truth rule event ∘ ConditionExpr.not = Kleene.not ∘ truth rule event := by
      ext condition : 1
      rw [Function.comp_apply, truth]
      rfl
    rw [truth, truth, truth, truths_eq, truths_eq, not_any, List.map_map, List.map_map, hnot]
  | inAnd before after _ ih => simp only [truth, truths_eq, List.map_append, List.map_cons, ih]
  | inOr before after _ ih => simp only [truth, truths_eq, List.map_append, List.map_cons, ih]
  | inNot _ ih => rw [truth, truth, ih]

/-- Rewriting does not change the truth value. -/
theorem truth_rewritten {condition condition' : ConditionExpr}
    (h : Rewritten condition condition') :
    truth rule event condition = truth rule event condition' := by
  induction h with
  | rel _ _ h => exact truth_rewrites h
  | refl _ => rfl
  | symm _ _ _ ih => exact ih.symm
  | trans _ _ _ _ _ ih ih' => exact ih.trans ih'

end Truth

/-! ## The operands of comparisons -/

mutual

/-- The operands of the comparisons of numbers in a condition. -/
def comparisonOperands : ConditionExpr → List ValueExpr
  | .greaterThan left right | .greaterThanOrEqual left right | .lessThan left right
  | .lessThanOrEqual left right => [left, right]
  | .exists _ | .equals _ _ | .notEquals _ _ | .contains _ _ => []
  | .and conditions | .or conditions => comparisonOperandsList conditions
  | .not condition => comparisonOperands condition

def comparisonOperandsList : List ConditionExpr → List ValueExpr
  | [] => []
  | condition :: conditions => comparisonOperands condition ++ comparisonOperandsList conditions

end

theorem comparisonOperandsList_eq (conditions : List ConditionExpr) :
    comparisonOperandsList conditions = conditions.flatMap comparisonOperands := by
  induction conditions with
  | nil => rfl
  | cons condition conditions ih => rw [comparisonOperandsList, ih, List.flatMap_cons]

/-- No comparison of numbers in a condition has an operand that is present and no number. -/
def ComparesNumbers (event : NormalizedEvent) (condition : ConditionExpr) : Prop :=
  ∀ operand ∈ comparisonOperands condition, ∀ value,
    resolveOptionalValue operand event = some value → value.asF64.isSome

/-- One rewriting keeps the comparisons. -/
theorem mem_comparisonOperands_rewrites {condition condition' : ConditionExpr}
    (h : Rewrites condition condition') (operand : ValueExpr) :
    operand ∈ comparisonOperands condition ↔ operand ∈ comparisonOperands condition' := by
  induction h with
  | permAnd hperm | permOr hperm =>
    simp only [comparisonOperands, comparisonOperandsList_eq, List.mem_flatMap, hperm.mem_iff]
  | notAnd conditions | notOr conditions =>
    simp only [comparisonOperands, comparisonOperandsList_eq, List.flatMap_map]
  | inAnd before after _ ih | inOr before after _ ih =>
    simp only [comparisonOperands, comparisonOperandsList_eq, List.flatMap_append,
      List.flatMap_cons, List.mem_append, ih]
  | inNot _ ih =>
    rw [comparisonOperands, comparisonOperands]
    exact ih

theorem comparesNumbers_rewritten {event : NormalizedEvent} {condition condition' : ConditionExpr}
    (h : Rewritten condition condition') :
    ComparesNumbers event condition ↔ ComparesNumbers event condition' := by
  induction h with
  | rel _ _ h => simp only [ComparesNumbers, mem_comparisonOperands_rewrites h]
  | refl _ => exact Iff.rfl
  | symm _ _ _ ih => exact ih.symm
  | trans _ _ _ _ _ ih ih' => exact ih.trans ih'

section Evaluation

variable {rule : RuleDefinition} {event : NormalizedEvent}

theorem compareNumbers_isOk {left right : ValueExpr} {compare : Rust.F64 → Rust.F64 → Bool}
    (hleft : ∀ value, resolveOptionalValue left event = some value → value.asF64.isSome)
    (hright : ∀ value, resolveOptionalValue right event = some value → value.asF64.isSome) :
    ∃ b, compareNumbers rule left right event compare = .ok b := by
  unfold compareNumbers
  split
  · next l r hl hr =>
    obtain ⟨x, hx⟩ := Option.isSome_iff_exists.mp (hleft l hl)
    obtain ⟨y, hy⟩ := Option.isSome_iff_exists.mp (hright r hr)
    rw [hx, hy]
    exact ⟨_, rfl⟩
  · exact ⟨false, rfl⟩

mutual

/-- A condition that compares numbers only does not fail. -/
theorem evaluateCondition_isOk : ∀ condition, ComparesNumbers event condition →
    ∃ b, evaluateCondition rule event condition = .ok b
  | .and conditions, h => by
    rw [evaluateCondition, evaluateAnd_eq]
    exact evalAll_isOk (evaluateConditions_isOk conditions h)
  | .or conditions, h => by
    rw [evaluateCondition, evaluateOr_eq]
    exact evalAny_isOk (evaluateConditions_isOk conditions h)
  | .not condition, h => by
    obtain ⟨b, hb⟩ := evaluateCondition_isOk condition h
    rw [evaluateCondition, hb]
    exact ⟨!b, rfl⟩
  | .greaterThan left right, h | .greaterThanOrEqual left right, h | .lessThan left right, h
  | .lessThanOrEqual left right, h => by
    rw [evaluateCondition]
    exact compareNumbers_isOk (h left (by simp [comparisonOperands]))
      (h right (by simp [comparisonOperands]))
  | .exists _, _ | .equals _ _, _ | .notEquals _ _, _ | .contains _ _, _ => by
    rw [evaluateCondition]
    exact ⟨_, rfl⟩

theorem evaluateConditions_isOk : ∀ conditions,
    (∀ operand ∈ comparisonOperandsList conditions, ∀ value,
      resolveOptionalValue operand event = some value → value.asF64.isSome) →
    ∀ x ∈ conditions.map (evaluateCondition rule event), ∃ b, x = .ok b
  | [], _ => fun _ hmem => (nomatch hmem)
  | condition :: conditions, h => by
    rw [comparisonOperandsList, List.forall_mem_append] at h
    rw [List.map_cons, List.forall_mem_cons]
    exact ⟨evaluateCondition_isOk condition h.1, evaluateConditions_isOk conditions h.2⟩

end

end Evaluation

/-- The evaluations of a condition and of a rewritten one yield the same truth value where neither
fails, and neither fails where no comparison of numbers has an operand that is present and no
number. -/
theorem evaluateCondition_rewritten (rule : RuleDefinition) (event : NormalizedEvent)
    {condition condition' : ConditionExpr} (h : Rewritten condition condition') :
    (∀ b b', evaluateCondition rule event condition = .ok b →
      evaluateCondition rule event condition' = .ok b' → b = b') ∧
    (ComparesNumbers event condition →
      (∃ b, evaluateCondition rule event condition = .ok b) ∧
        ∃ b', evaluateCondition rule event condition' = .ok b') := by
  constructor
  · intro b b' hb hb'
    have htruth : truth rule event condition = some b := evaluateCondition_agrees condition b hb
    have htruth' : truth rule event condition' = some b' :=
      evaluateCondition_agrees condition' b' hb'
    rw [truth_rewritten h, htruth'] at htruth
    exact (Option.some.inj htruth).symm
  · intro hnumbers
    exact ⟨evaluateCondition_isOk condition hnumbers,
      evaluateCondition_isOk condition' ((comparesNumbers_rewritten h).mp hnumbers)⟩

/-- A device is known and it is hot. -/
def knownAndHot : ConditionExpr :=
  .and [.exists .deviceId,
    .greaterThan (.field (.extracted "temperature")) (.literal (.number (.posInt 40)))]

/-- It is hot and the device is known: on `hotEvent` this fails, and `knownAndHot` is false. -/
def hotAndKnown : ConditionExpr :=
  .and [.greaterThan (.field (.extracted "temperature")) (.literal (.number (.posInt 40))),
    .exists .deviceId]

/-- `hotEvent` of a known device, with a temperature that is a number. -/
def measuredEvent : NormalizedEvent :=
  { hotEvent with
    deviceId := some "boiler-7"
    payload := .json (.object [("temperature", .number (.posInt 95))])
    fields := [("temperature", .number (.posInt 95))] }

theorem measuredEvent_comparesNumbers : ComparesNumbers measuredEvent knownAndHot := by
  intro operand hmem value hvalue
  have hoperands : operand = .field (.extracted "temperature") ∨
      operand = .literal (.number (.posInt 40)) := by
    simpa [knownAndHot, comparisonOperands, comparisonOperandsList] using hmem
  rcases hoperands with rfl | rfl
  · obtain rfl : Value.number (.posInt 95) = value := Option.some.inj hvalue
    rfl
  · obtain rfl : Value.number (.posInt 40) = value := Option.some.inj hvalue
    rfl

theorem evaluateCondition_rewritten_measured :
    evaluateCondition hotRule measuredEvent knownAndHot = .ok true ∧
      evaluateCondition hotRule measuredEvent hotAndKnown = .ok true := by
  have hrewritten : Rewritten knownAndHot hotAndKnown := .rel _ _ (.permAnd (.swap _ _ []))
  obtain ⟨hsame, htotal⟩ := evaluateCondition_rewritten hotRule measuredEvent hrewritten
  obtain ⟨-, b, hb⟩ := htotal measuredEvent_comparesNumbers
  have hknown : evaluateCondition hotRule measuredEvent knownAndHot = .ok true := by
    decide +kernel
  refine ⟨hknown, ?_⟩
  rw [hsame true b hknown hb]
  exact hb

end Core
end PipeBolt
