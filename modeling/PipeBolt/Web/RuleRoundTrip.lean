import PipeBolt.Js.JsonRoundTrip
import PipeBolt.Web.RuleJson

/-!
# The round trip of a rule through its draft

A rule of the backend is opened in the rule builder and saved without a change.  Within the limits
of the import the mapper gives back the rule `edited`: its texts are trimmed, a zero has lost its
sign, and of an `execute_command` only the type is left.

* `mapRuleDraft_ruleToDraft`: what the round trip makes of a rule.
* `RuleDefinition.toBackend_edited_iff`: from which of these the backend reads the rule again.
* `rule_roundTrip_iff`: which rules of the backend are saved as they were.
-/

namespace PipeBolt
namespace Web

open Js Generated

/-! ## Received values -/

theorem finite_ofUnits {negative : Bool} {units : Nat} {h : Binary64.Representable units}
    (hlt : units < OVERFLOW_UNITS) : (JsNumber.ofUnits negative units h).isFinite = true := by
  rw [JsNumber.ofUnits, dif_pos hlt]
  rfl

/-- An integer of 64 bits is not rounded past the finite numbers. -/
theorem roundDecimal_lt {n : Nat} (h : n < 2 ^ 64) : roundDecimal n 0 < OVERFLOW_UNITS := by
  have hunits : 2 ^ UNIT_EXPONENT * (10 ^ (0 : Int).toNat * n) < 2 ^ (64 + UNIT_EXPONENT) := by
    rw [Int.toNat_zero, Nat.pow_zero, Nat.one_mul, Nat.mul_comm, Nat.pow_add]
    exact Nat.mul_lt_mul_of_pos_right h (Nat.two_pow_pos _)
  rw [roundDecimal, if_pos (Int.le_refl 0), OVERFLOW_UNITS]
  exact Nat.lt_of_le_of_lt (Binary64.roundRatio_le (by omega) hunits)
    (Nat.pow_lt_pow_right (by decide) (by omega))

/-- The magnitude of a finite float is not rounded. -/
theorem roundRatio_float {exponent fraction : Nat} (hexponent : exponent < 2047)
    (hfraction : fraction < 2 ^ 52) :
    Binary64.roundRatio
        (if exponent = 0 then fraction else (2 ^ 52 + fraction) * 2 ^ (exponent - 1)) 1 <
      OVERFLOW_UNITS := by
  have hunit : UNIT_EXPONENT = 1074 := by rw [UNIT_EXPONENT]
  rw [OVERFLOW_UNITS]
  split
  · refine Nat.lt_of_le_of_lt (Binary64.roundRatio_le (k := 53) (Nat.le_refl _) ?_)
      (Nat.pow_lt_pow_right (by decide) (by omega))
    omega
  · have hmantissa : 2 ^ 52 + fraction < 2 ^ 53 := by omega
    have hexact : Binary64.roundRatio ((2 ^ 52 + fraction) * 2 ^ (exponent - 1)) 1 =
        (2 ^ 52 + fraction) * 2 ^ (exponent - 1) :=
      Binary64.representable_mul (Nat.le_of_lt hmantissa)
    rw [hexact]
    calc (2 ^ 52 + fraction) * 2 ^ (exponent - 1)
        < 2 ^ 53 * 2 ^ (exponent - 1) :=
          Nat.mul_lt_mul_of_pos_right hmantissa (Nat.two_pow_pos _)
      _ = 2 ^ (53 + (exponent - 1)) := (Nat.pow_add 2 53 (exponent - 1)).symm
      _ ≤ 2 ^ (1024 + UNIT_EXPONENT) := Nat.pow_le_pow_right (by decide) (by omega)

/-- A number of the backend is a finite one, or `null`. -/
theorem wellFormed_ofNumber (value : Domain.Number) : (ofNumber value).WellFormed := by
  cases value with
  | posInt value => exact .number (finite_ofUnits (roundDecimal_lt value.toNat_lt))
  | negInt value =>
    refine .number (finite_ofUnits (roundDecimal_lt ?_))
    have hlow := value.le_toInt
    have hhigh := value.toInt_lt
    omega
  | float bits =>
    rw [ofNumber]
    split
    · exact .null
    · next hexponent =>
      have hsmall : bits.toNat / 2 ^ 52 % 2 ^ 11 < 2 ^ 11 := Nat.mod_lt _ (Nat.two_pow_pos _)
      exact .number (finite_ofUnits (roundRatio_float (by omega)
        (Nat.mod_lt _ (Nat.two_pow_pos _))))

mutual

/-- The browser reads well formed values. -/
theorem wellFormed_ofValue : ∀ value : Domain.Value, (ofValue value).WellFormed
  | .null => .null
  | .bool value => .bool value
  | .number value => by
    rw [ofValue]
    exact wellFormed_ofNumber value
  | .string value => .string _
  | .array values => by
    rw [ofValue]
    exact .array (wellFormed_ofValues values)
  | .object entries => by
    rw [ofValue]
    exact .object (inOrder_setProperties _) fun property hp =>
      wellFormed_ofEntries entries property (mem_setProperties hp)

theorem wellFormed_ofValues : ∀ (values : List Domain.Value),
    ∀ value ∈ ofValues values, value.WellFormed
  | [], _, h => by
    rw [ofValues] at h
    cases h
  | value :: values, _, h => by
    rw [ofValues] at h
    rcases List.mem_cons.mp h with rfl | h
    · exact wellFormed_ofValue value
    · exact wellFormed_ofValues values _ h

theorem wellFormed_ofEntries : ∀ (entries : List (String × Domain.Value)),
    ∀ property ∈ ofEntries entries, property.2.WellFormed
  | [], _, h => by
    rw [ofEntries] at h
    cases h
  | (key, value) :: entries, _, h => by
    rw [ofEntries] at h
    rcases List.mem_cons.mp h with rfl | h
    · exact wellFormed_ofValue value
    · exact wellFormed_ofEntries entries _ h

end

/-! ## What is saved -/

namespace Generated

/-- The field with its text trimmed. -/
def FieldRef.edited : FieldRef → FieldRef
  | .event path => .event (trim path)
  | .payload path => .payload (trim path)
  | .extracted name => .extracted (trim name)
  | .deviceId => .deviceId
  | .eventType => .eventType
  | .topic => .topic

/-- The operand with its text trimmed, or without the signs of its zeros. -/
def ValueExpr.edited : ValueExpr → ValueExpr
  | .field ref => .field ref.edited
  | .literal value => .literal value.dropZeroSigns

mutual

/-- The condition with its operands edited. -/
def ConditionExpr.edited : ConditionExpr → ConditionExpr
  | .exists field => .exists field.edited
  | .comparison op left right => .comparison op left.edited right.edited
  | .group op conditions => .group op (editedAll conditions)
  | .not condition => .not condition.edited

/-- The conditions of a group. -/
def ConditionExpr.editedAll : List ConditionExpr → List ConditionExpr
  | [] => []
  | condition :: conditions => condition.edited :: editedAll conditions

end

/-- The action: of an `execute_command` the type is left. -/
def ActionIntentTemplate.edited : ActionIntentTemplate → ActionIntentTemplate
  | .executeCommand _ _ => .executeCommand none none
  | .streamToUi => .streamToUi
  | .forwardToSink sinkId => .forwardToSink sinkId
  | .publishCommand templateId => .publishCommand templateId
  | .dropEvent => .dropEvent
  | .addMetadata key value => .addMetadata key value

/-- The rule that is saved when nothing is changed. -/
def RuleDefinition.edited (rule : RuleDefinition) : RuleDefinition where
  actions := rule.actions.map .edited
  condition := rule.condition.map .edited
  enabled := rule.enabled
  id := trim rule.id
  name := trim rule.name
  trigger := rule.trigger

/-! ## The limits of the import -/

mutual

/-- The depth of a condition. -/
def ConditionExpr.depth : ConditionExpr → Nat
  | .exists _ | .comparison _ _ _ => 1
  | .group _ conditions => depthAll conditions + 1
  | .not condition => condition.depth + 1

/-- The depth of the deepest condition of a group. -/
def ConditionExpr.depthAll : List ConditionExpr → Nat
  | [] => 0
  | condition :: conditions => max condition.depth (depthAll conditions)

end

mutual

/-- The number of the nodes of a condition. -/
def ConditionExpr.nodes : ConditionExpr → Nat
  | .exists _ | .comparison _ _ _ => 1
  | .group _ conditions => nodesAll conditions + 1
  | .not condition => condition.nodes + 1

/-- The nodes of the conditions of a group. -/
def ConditionExpr.nodesAll : List ConditionExpr → Nat
  | [] => 0
  | condition :: conditions => condition.nodes + nodesAll conditions

end

/-- An array or an object has a text that is not too long. -/
def ShortLiteral : JsValue → Prop
  | .array values => byteLength (stringifyJson (.array values)) ≤ MAX_IMPORTED_JSON_LITERAL_BYTES
  | .object properties =>
    byteLength (stringifyJson (.object properties)) ≤ MAX_IMPORTED_JSON_LITERAL_BYTES
  | .null | .bool _ | .number _ | .string _ => True

/-- What holds of the literals of an operand. -/
def ValueExpr.Literals (p : JsValue → Prop) : ValueExpr → Prop
  | .field _ => True
  | .literal value => p value

mutual

/-- What holds of the literals of a condition. -/
def ConditionExpr.Literals (p : JsValue → Prop) : ConditionExpr → Prop
  | .exists _ => True
  | .comparison _ left right => left.Literals p ∧ right.Literals p
  | .group _ conditions => LiteralsAll p conditions
  | .not condition => condition.Literals p

/-- What holds of the literals of the conditions of a group. -/
def ConditionExpr.LiteralsAll (p : JsValue → Prop) : List ConditionExpr → Prop
  | [] => True
  | condition :: conditions => condition.Literals p ∧ LiteralsAll p conditions

end

/-- The limits of `ruleToDraft`. -/
structure RuleDefinition.WithinImport (rule : RuleDefinition) : Prop where
  actions : rule.actions.length ≤ MAX_IMPORTED_ACTIONS
  depth : ∀ condition ∈ rule.condition, condition.depth ≤ MAX_IMPORTED_CONDITION_DEPTH
  nodes : ∀ condition ∈ rule.condition, condition.nodes ≤ MAX_IMPORTED_CONDITION_NODES
  literals : ∀ condition ∈ rule.condition, condition.Literals ShortLiteral

end Generated

/-! ## The round trip -/

theorem fieldFromDraft_fieldToDraft (field : FieldRef) :
    fieldFromDraft (fieldToDraft field) = field.edited := by
  cases field <;> rfl

/-- The text of a number is not blank. -/
theorem trim_toText_ne_nil {x : JsNumber} (hx : x.isFinite = true) : trim x.toText ≠ [] := by
  match x with
  | .finite negative magnitude =>
    rcases Nat.eq_zero_or_pos magnitude.units with hzero | hpos
    · rw [JsNumber.toText_of_zero hzero]
      decide
    · have hspace : ∀ u ∈ unitsText magnitude.units, isWhitespace u = false :=
        not_isWhitespace_decimalText _ fun _ => isDigit_of_mem_natText
      obtain ⟨d, tail, htext, -, -⟩ := head_unitsText hpos
      rw [JsNumber.toText_of_pos hpos]
      cases negative with
      | false =>
        rw [if_neg Bool.false_ne_true, trim_eq_self hspace, htext]
        exact List.cons_ne_nil _ _
      | true =>
        rw [if_pos rfl, trim_eq_self (List.forall_mem_cons.mpr ⟨by decide, hspace⟩)]
        exact List.cons_ne_nil _ _

/-- A literal comes back without the signs of its zeros. -/
theorem literal_roundTrip {value : JsValue} (hwell : value.WellFormed) (hshort : ShortLiteral value) :
    ∃ literalKind literalValue, literalToDraft value = .ok (literalKind, literalValue) ∧
      ∀ draft : RuleValueDraft, draft.literalKind = literalKind →
        draft.literalValue = literalValue → literalFromDraft draft = .ok value.dropZeroSigns := by
  cases hwell with
  | null => exact ⟨.null, [], rfl, fun draft hkind _ => by rw [literalFromDraft, hkind]; rfl⟩
  | bool value =>
    refine ⟨.boolean, _, rfl, fun draft hkind hvalue => ?_⟩
    rw [literalFromDraft, hkind]
    cases value <;> simp only [hvalue] <;> rfl
  | @number x hx =>
    refine ⟨.number, x.toText, rfl, fun draft hkind hvalue => ?_⟩
    have hfinite : x.dropZeroSign.isFinite = true := by
      cases x with
      | finite negative magnitude => rfl
      | nan => cases hx
      | infinity negative => cases hx
    have hguard : ¬ (trim x.toText = [] ∨ (toNumber x.toText).isFinite = false) := by
      rw [toNumber_toText hx, hfinite]
      rintro (hblank | hinfinite)
      · exact trim_toText_ne_nil hx hblank
      · cases hinfinite
    rw [literalFromDraft, hkind]
    simp only [hvalue]
    rw [if_neg hguard, toNumber_toText hx]
    rfl
  | string value =>
    refine ⟨.string, value, rfl, fun draft hkind hvalue => ?_⟩
    rw [literalFromDraft, hkind]
    simp only [hvalue]
    rfl
  | @array values h =>
    refine ⟨.json, stringifyJson (.array values), if_neg (Nat.not_lt.mpr hshort),
      fun draft hkind hvalue => ?_⟩
    rw [literalFromDraft, hkind]
    simp only [hvalue, parseJson_stringifyJson (.array h)]
  | @object properties horder h =>
    refine ⟨.json, stringifyJson (.object properties), if_neg (Nat.not_lt.mpr hshort),
      fun draft hkind hvalue => ?_⟩
    rw [literalFromDraft, hkind]
    simp only [hvalue, parseJson_stringifyJson (.object horder h)]

/-- An operand comes back edited. -/
theorem value_roundTrip {value : ValueExpr} (hwell : value.Literals JsValue.WellFormed)
    (hshort : value.Literals ShortLiteral) :
    ∃ draft, valueToDraft value = .ok draft ∧ valueFromDraft draft = .ok value.edited := by
  cases value with
  | field ref =>
    refine ⟨{ createValueDraft with field := fieldToDraft ref }, rfl, ?_⟩
    show Except.ok (ValueExpr.field (fieldFromDraft (fieldToDraft ref))) = _
    rw [fieldFromDraft_fieldToDraft]
    rfl
  | literal value =>
    obtain ⟨literalKind, literalValue, hto, hfrom⟩ := literal_roundTrip hwell hshort
    refine ⟨{ createValueDraft with literalKind, literalValue, type := .literal }, ?_, ?_⟩
    · rw [valueToDraft, hto]
      rfl
    · rw [valueFromDraft, hfrom _ rfl rfl]
      rfl

mutual

/-- **A condition comes back edited**, when it is within what is left of the limits. -/
theorem condition_roundTrip : ∀ (condition : ConditionExpr) (depth nodeCount : Nat),
    condition.Literals JsValue.WellFormed → condition.Literals ShortLiteral →
    condition.depth + depth ≤ MAX_IMPORTED_CONDITION_DEPTH + 1 →
    condition.nodes + nodeCount ≤ MAX_IMPORTED_CONDITION_NODES →
    ∃ draft, conditionToDraft condition depth nodeCount =
        .ok (draft, nodeCount + condition.nodes) ∧
      conditionFromDraft draft = .ok condition.edited
  | .exists field, depth, nodeCount, hwell, hshort, hdepth, hnodes => by
    simp only [ConditionExpr.depth, ConditionExpr.nodes] at hdepth hnodes ⊢
    refine ⟨{ createConditionDraft .exists with field := fieldToDraft field }, ?_, ?_⟩
    · rw [conditionToDraft, if_neg (by omega)]
    · show Except.ok (ConditionExpr.exists (fieldFromDraft (fieldToDraft field))) = _
      rw [fieldFromDraft_fieldToDraft, ConditionExpr.edited]
  | .comparison op left right, depth, nodeCount, hwell, hshort, hdepth, hnodes => by
    simp only [ConditionExpr.depth, ConditionExpr.nodes] at hdepth hnodes ⊢
    obtain ⟨leftDraft, hleftTo, hleftFrom⟩ := value_roundTrip hwell.1 hshort.1
    obtain ⟨rightDraft, hrightTo, hrightFrom⟩ := value_roundTrip hwell.2 hshort.2
    refine ⟨{ createConditionDraft (.comparison op) with left := leftDraft, right := rightDraft },
      ?_, ?_⟩
    · rw [conditionToDraft, if_neg (by omega)]
      simp only [hleftTo, hrightTo]
      rfl
    · show (do
        let left ← valueFromDraft leftDraft
        let right ← valueFromDraft rightDraft
        return ConditionExpr.comparison op left right) = _
      rw [hleftFrom, hrightFrom, ConditionExpr.edited]
      rfl
  | .group op conditions, depth, nodeCount, hwell, hshort, hdepth, hnodes => by
    simp only [ConditionExpr.depth, ConditionExpr.nodes] at hdepth hnodes ⊢
    obtain ⟨children, hto, hfrom⟩ := conditions_roundTrip conditions (depth + 1) (nodeCount + 1) hwell
      hshort (by omega) (by omega)
    refine ⟨{ createConditionDraft (.group op) with children }, ?_, ?_⟩
    · rw [conditionToDraft, if_neg (by omega), hto]
      have hcount : nodeCount + 1 + ConditionExpr.nodesAll conditions =
          nodeCount + (ConditionExpr.nodesAll conditions + 1) := by omega
      rw [← hcount]
      rfl
    · show (conditionsFromDraft children).map (ConditionExpr.group op) = _
      rw [hfrom, ConditionExpr.edited]
      rfl
  | .not condition, depth, nodeCount, hwell, hshort, hdepth, hnodes => by
    simp only [ConditionExpr.depth, ConditionExpr.nodes] at hdepth hnodes ⊢
    obtain ⟨child, hto, hfrom⟩ := condition_roundTrip condition (depth + 1) (nodeCount + 1) hwell
      hshort (by omega) (by omega)
    refine ⟨{ createConditionDraft .not with children := [child] }, ?_, ?_⟩
    · rw [conditionToDraft, if_neg (by omega), hto]
      have hcount : nodeCount + 1 + condition.nodes = nodeCount + (condition.nodes + 1) := by omega
      rw [← hcount]
      rfl
    · show (conditionFromDraft child).map ConditionExpr.not = _
      rw [hfrom, ConditionExpr.edited]
      rfl

/-- The conditions of a group come back edited. -/
theorem conditions_roundTrip : ∀ (conditions : List ConditionExpr) (depth nodeCount : Nat),
    ConditionExpr.LiteralsAll JsValue.WellFormed conditions →
    ConditionExpr.LiteralsAll ShortLiteral conditions →
    ConditionExpr.depthAll conditions + depth ≤ MAX_IMPORTED_CONDITION_DEPTH + 1 →
    ConditionExpr.nodesAll conditions + nodeCount ≤ MAX_IMPORTED_CONDITION_NODES →
    ∃ drafts, conditionsToDraft conditions depth nodeCount =
        .ok (drafts, nodeCount + ConditionExpr.nodesAll conditions) ∧
      conditionsFromDraft drafts = .ok (ConditionExpr.editedAll conditions)
  | [], depth, nodeCount, hwell, hshort, hdepth, hnodes => by
    refine ⟨[], ?_, ?_⟩
    · rw [conditionsToDraft, ConditionExpr.nodesAll, Nat.add_zero]
    · rw [conditionsFromDraft, ConditionExpr.editedAll]
  | condition :: conditions, depth, nodeCount, hwell, hshort, hdepth, hnodes => by
    simp only [ConditionExpr.depthAll, ConditionExpr.nodesAll] at hdepth hnodes ⊢
    obtain ⟨child, hto, hfrom⟩ := condition_roundTrip condition depth nodeCount hwell.1 hshort.1
      (by omega) (by omega)
    obtain ⟨children, htoAll, hfromAll⟩ := conditions_roundTrip conditions depth
      (nodeCount + condition.nodes) hwell.2 hshort.2 (by omega) (by omega)
    refine ⟨child :: children, ?_, ?_⟩
    · rw [conditionsToDraft, hto]
      show (do
        let (children, nodeCount) ← conditionsToDraft conditions depth (nodeCount + condition.nodes)
        return (child :: children, nodeCount)) = _
      rw [htoAll, ← Nat.add_assoc]
      rfl
    · rw [conditionsFromDraft, hfrom, ConditionExpr.editedAll]
      show (do
        let conditions ← conditionsFromDraft children
        return condition.edited :: conditions) = _
      rw [hfromAll]
      rfl

end

/-- An action comes back edited. -/
theorem actionFromDraft_actionToDraft (action : ActionIntentTemplate) :
    actionFromDraft (actionToDraft action) = action.edited := by
  cases action <;> rfl

/-- What the round trip makes of a rule within the limits of the import. -/
theorem mapRuleDraft_ruleToDraft {rule : RuleDefinition} (hlimits : rule.WithinImport)
    (hwell : ∀ condition ∈ rule.condition, condition.Literals JsValue.WellFormed) :
    ∃ draft, ruleToDraft rule = .ok draft ∧ mapRuleDraft draft = .ok rule.edited := by
  obtain ⟨actions, condition, enabled, id, name, trigger⟩ := rule
  have hactions : (actions.map actionToDraft).map actionFromDraft =
      actions.map ActionIntentTemplate.edited := by
    rw [List.map_map]
    exact List.map_congr_left fun action _ => actionFromDraft_actionToDraft action
  have htrigger : ∀ draft : RuleFormDraft, draft.triggerType = triggerType trigger →
      draft.triggerTargetId = triggerTargetId trigger → triggerFromDraft draft = trigger := by
    intro draft htype htarget
    rw [triggerFromDraft, htype, htarget]
    cases trigger <;> rfl
  cases condition with
  | none =>
    refine ⟨_, if_neg (Nat.not_lt.mpr hlimits.actions), ?_⟩
    show Except.ok (RuleDefinition.mk _ _ _ _ _ _) = _
    rw [hactions, htrigger _ rfl rfl]
    rfl
  | some condition =>
    have hdepth : condition.depth ≤ 16 := hlimits.depth condition rfl
    obtain ⟨draft, hto, hfrom⟩ := condition_roundTrip condition 1 0 (hwell condition rfl)
      (hlimits.literals condition rfl) (Nat.succ_le_succ hdepth) (hlimits.nodes condition rfl)
    refine ⟨⟨actions.map actionToDraft, draft, true, enabled, id, name, triggerTargetId trigger,
      triggerType trigger⟩, ?_, ?_⟩
    · rw [ruleToDraft, if_neg (Nat.not_lt.mpr hlimits.actions)]
      simp only [hto]
      rfl
    · rw [mapRuleDraft, if_pos rfl, hfrom]
      show Except.ok (RuleDefinition.mk _ _ _ _ _ _) = _
      rw [hactions, htrigger _ rfl rfl]
      rfl

/-! ## Rules that are saved as they were -/

/-- The text that `String.prototype.trim` makes of a text. -/
def trimText (text : String) : String := toText (trim (ofString text))

/-- The backend reads a literal as it was from what the browser writes: `JSON.parse` has rounded its
numbers, `JSON.stringify` has written them, and a zero has no sign. -/
def LiteralKept (number : JsNumber → Domain.Number) (value : Domain.Value) : Prop :=
  toValue number (ofValue value).dropZeroSigns = value

section Kept

variable (number : JsNumber → Domain.Number)

/-- The text of a field has no white space at its ends. -/
def FieldKept : Domain.FieldRef → Prop
  | .event path | .payload path => trimText path.raw = path.raw
  | .extracted name => trimText name = name
  | .deviceId | .eventType | .topic => True

/-- An operand that is saved as it was. -/
def OperandKept : Domain.ValueExpr → Prop
  | .field ref => FieldKept ref
  | .literal value => LiteralKept number value

mutual

/-- A condition all of whose operands are saved as they were. -/
def ConditionKept : Domain.ConditionExpr → Prop
  | .exists field => FieldKept field
  | .equals left right | .notEquals left right | .greaterThan left right
  | .greaterThanOrEqual left right | .lessThan left right | .lessThanOrEqual left right
  | .contains left right => OperandKept number left ∧ OperandKept number right
  | .and conditions | .or conditions => ConditionsKept conditions
  | .not condition => ConditionKept condition

/-- The conditions of a group. -/
def ConditionsKept : List Domain.ConditionExpr → Prop
  | [] => True
  | condition :: conditions => ConditionKept condition ∧ ConditionsKept conditions

end

/-- The action is no `execute_command`. -/
def ActionKept : Domain.ActionIntentTemplate → Prop
  | .executeCommand _ _ => False
  | .streamToUi | .forwardToSink _ | .dropEvent | .addMetadata _ _ => True

/-- A rule that is saved as it was. -/
structure RuleKept (rule : Domain.RuleDefinition) : Prop where
  actions : ∀ action ∈ rule.actions, ActionKept action
  condition : ∀ condition ∈ rule.condition, ConditionKept number condition
  id : trimText rule.id.raw = rule.id.raw
  name : trimText rule.name = rule.name

end Kept

namespace Generated

section Edited

variable {number : JsNumber → Domain.Number}

theorem FieldRef.toBackend_edited_iff (field : Domain.FieldRef) :
    (FieldRef.ofBackend field).edited.toBackend = field ↔ FieldKept field := by
  cases field with
  | event path | payload path =>
    obtain ⟨raw⟩ := path
    simp [FieldRef.ofBackend, FieldRef.edited, FieldRef.toBackend, FieldKept, trimText]
  | _ => simp [FieldRef.ofBackend, FieldRef.edited, FieldRef.toBackend, FieldKept, trimText]

theorem ValueExpr.toBackend_edited_iff (value : Domain.ValueExpr) :
    (ValueExpr.ofBackend value).edited.toBackend number = value ↔ OperandKept number value := by
  cases value with
  | field ref =>
    rw [ValueExpr.ofBackend, ValueExpr.edited, ValueExpr.toBackend, OperandKept,
      Domain.ValueExpr.field.injEq, FieldRef.toBackend_edited_iff]
  | literal value =>
    rw [ValueExpr.ofBackend, ValueExpr.edited, ValueExpr.toBackend, OperandKept,
      Domain.ValueExpr.literal.injEq, LiteralKept]

mutual

theorem ConditionExpr.toBackend_edited_iff : ∀ condition : Domain.ConditionExpr,
    (ConditionExpr.ofBackend condition).edited.toBackend number = condition ↔
      ConditionKept number condition
  | .exists field => by
    rw [ConditionExpr.ofBackend, ConditionExpr.edited, ConditionExpr.toBackend, ConditionKept,
      Domain.ConditionExpr.exists.injEq, FieldRef.toBackend_edited_iff]
  | .equals left right | .notEquals left right | .greaterThan left right
  | .greaterThanOrEqual left right | .lessThan left right | .lessThanOrEqual left right
  | .contains left right => by
    rw [ConditionExpr.ofBackend, ConditionExpr.edited, ConditionExpr.toBackend, ConditionKept,
      ← ValueExpr.toBackend_edited_iff left, ← ValueExpr.toBackend_edited_iff right]
    simp [Comparison.toBackend]
  | .and conditions | .or conditions => by
    rw [ConditionExpr.ofBackend, ConditionExpr.edited, ConditionExpr.toBackend, ConditionKept,
      ← ConditionExpr.conditionsToBackend_edited_iff conditions]
    simp [Group.toBackend]
  | .not condition => by
    rw [ConditionExpr.ofBackend, ConditionExpr.edited, ConditionExpr.toBackend, ConditionKept,
      Domain.ConditionExpr.not.injEq, ConditionExpr.toBackend_edited_iff condition]

theorem ConditionExpr.conditionsToBackend_edited_iff : ∀ conditions : List Domain.ConditionExpr,
    ConditionExpr.conditionsToBackend number
        (ConditionExpr.editedAll (ConditionExpr.ofBackends conditions)) = conditions ↔
      ConditionsKept number conditions
  | [] => by
    rw [ConditionExpr.ofBackends, ConditionExpr.editedAll, ConditionExpr.conditionsToBackend,
      ConditionsKept]
    exact iff_of_true rfl trivial
  | condition :: conditions => by
    rw [ConditionExpr.ofBackends, ConditionExpr.editedAll, ConditionExpr.conditionsToBackend,
      ConditionsKept, List.cons.injEq, ConditionExpr.toBackend_edited_iff condition,
      ConditionExpr.conditionsToBackend_edited_iff conditions]

end

theorem ActionIntentTemplate.toBackend_edited_iff (action : Domain.ActionIntentTemplate) :
    (ActionIntentTemplate.ofBackend action).edited.toBackend number = some action ↔
      ActionKept action := by
  cases action <;>
    simp [ActionIntentTemplate.ofBackend, ActionIntentTemplate.edited,
      ActionIntentTemplate.toBackend, ActionKept, toText_ofString]

theorem RuleTrigger.toBackend_ofBackend (trigger : Domain.RuleTrigger) :
    (RuleTrigger.ofBackend trigger).toBackend = trigger := by
  cases trigger <;> simp [RuleTrigger.ofBackend, RuleTrigger.toBackend, toText_ofString]

theorem actions_toBackend_edited_iff (actions : List Domain.ActionIntentTemplate) :
    ((actions.map ActionIntentTemplate.ofBackend).map ActionIntentTemplate.edited).mapM
        (ActionIntentTemplate.toBackend number) = some actions ↔
      ∀ action ∈ actions, ActionKept action := by
  rw [Fallible.mapM_eq_some_iff, List.map_map, List.map_map, List.map_inj_left]
  exact forall₂_congr fun action _ => ActionIntentTemplate.toBackend_edited_iff action

/-- The rules that the backend reads again from what is saved. -/
theorem RuleDefinition.toBackend_edited_iff (rule : Domain.RuleDefinition) :
    (RuleDefinition.ofBackend rule).edited.toBackend number = some rule ↔ RuleKept number rule := by
  obtain ⟨⟨id⟩, name, enabled, trigger, condition, actions⟩ := rule
  have hcondition : ((condition.map ConditionExpr.ofBackend).map ConditionExpr.edited).map
      (ConditionExpr.toBackend number) = condition ↔
        ∀ c ∈ condition, ConditionKept number c := by
    cases condition with
    | none => simp
    | some condition => simp [ConditionExpr.toBackend_edited_iff]
  rw [RuleDefinition.toBackend, Option.bind_eq_bind, Option.bind_eq_some_iff]
  constructor
  · rintro ⟨read, hread, hrule⟩
    have hrule := Option.some.inj hrule
    simp only [Domain.RuleDefinition.mk.injEq, Domain.Identifier.mk.injEq] at hrule
    obtain ⟨hid, hname, -, -, hcond, rfl⟩ := hrule
    exact ⟨(actions_toBackend_edited_iff _).mp hread, hcondition.mp hcond, hid, hname⟩
  · rintro ⟨hactions, hcond, hid, hname⟩
    refine ⟨actions, (actions_toBackend_edited_iff _).mpr hactions, ?_⟩
    refine congrArg some ?_
    simp only [Domain.RuleDefinition.mk.injEq, Domain.Identifier.mk.injEq]
    exact ⟨hid, hname, rfl, RuleTrigger.toBackend_ofBackend trigger, hcondition.mpr hcond, trivial⟩

end Edited

end Generated

/-! ## Rules of the backend -/

namespace Generated

theorem ValueExpr.wellFormed_ofBackend (value : Domain.ValueExpr) :
    (ValueExpr.ofBackend value).Literals JsValue.WellFormed := by
  cases value with
  | field ref => trivial
  | literal value => exact wellFormed_ofValue value

mutual

theorem ConditionExpr.wellFormed_ofBackend : ∀ condition : Domain.ConditionExpr,
    (ConditionExpr.ofBackend condition).Literals JsValue.WellFormed
  | .exists _ => by
    rw [ofBackend]
    trivial
  | .equals left right | .notEquals left right | .greaterThan left right
  | .greaterThanOrEqual left right | .lessThan left right | .lessThanOrEqual left right
  | .contains left right => by
    rw [ofBackend]
    exact ⟨ValueExpr.wellFormed_ofBackend left, ValueExpr.wellFormed_ofBackend right⟩
  | .and conditions | .or conditions => by
    rw [ofBackend]
    exact ConditionExpr.wellFormed_ofBackends conditions
  | .not condition => by
    rw [ofBackend]
    exact ConditionExpr.wellFormed_ofBackend condition

theorem ConditionExpr.wellFormed_ofBackends : ∀ conditions : List Domain.ConditionExpr,
    ConditionExpr.LiteralsAll JsValue.WellFormed (ConditionExpr.ofBackends conditions)
  | [] => by
    rw [ofBackends]
    trivial
  | condition :: conditions => by
    rw [ofBackends]
    exact ⟨ConditionExpr.wellFormed_ofBackend condition,
      ConditionExpr.wellFormed_ofBackends conditions⟩

end

end Generated

/-- **The rules that are saved as they were.**  A rule of the backend within the limits of the import
is opened, and the backend reads the same rule from what is saved without a change exactly when it
has no `execute_command`, no white space at the ends of its texts, and literals that JavaScript
keeps. -/
theorem rule_roundTrip_iff (number : JsNumber → Domain.Number) (rule : Domain.RuleDefinition)
    (hlimits : (RuleDefinition.ofBackend rule).WithinImport) :
    ∃ draft, ruleToDraft (.ofBackend rule) = .ok draft ∧
      ((∃ saved, mapRuleDraft draft = .ok saved ∧
          Domain.RuleDefinition.deserialize (toValue number saved.toJs) = some rule) ↔
        RuleKept number rule) := by
  have hwell : ∀ condition ∈ (RuleDefinition.ofBackend rule).condition,
      condition.Literals JsValue.WellFormed := by
    intro condition hcondition
    obtain ⟨source, -, rfl⟩ := Option.map_eq_some_iff.mp hcondition
    exact ConditionExpr.wellFormed_ofBackend source
  obtain ⟨draft, hto, hfrom⟩ := mapRuleDraft_ruleToDraft hlimits hwell
  refine ⟨draft, hto, ?_⟩
  simp only [hfrom, Except.ok.injEq, exists_eq_left', RuleDefinition.deserialize_toJs]
  exact RuleDefinition.toBackend_edited_iff rule

/-- Of two integers that JavaScript does not tell apart at most one is kept, however the backend
reads numbers. -/
theorem rounded_literal (number : JsNumber → Domain.Number) :
    ¬ (LiteralKept number (.number (.posInt 9007199254740992)) ∧
      LiteralKept number (.number (.posInt 9007199254740993))) := by
  have hround : roundDecimal 9007199254740992 0 = roundDecimal 9007199254740993 0 := by
    decide +kernel
  have hsame : ofNumber (.posInt 9007199254740992) = ofNumber (.posInt 9007199254740993) := by
    show JsValue.number (.ofUnits false (roundDecimal 9007199254740992 0) _) =
      .number (.ofUnits false (roundDecimal 9007199254740993 0) _)
    simp only [hround]
  rintro ⟨hfirst, hsecond⟩
  rw [LiteralKept, ofValue] at hfirst hsecond
  rw [hsame, hsecond] at hfirst
  simp at hfirst

/-! ## A rule that is kept and one that is not -/

/-- A rule that reports high temperatures. -/
def hotRule : Domain.RuleDefinition where
  id := ⟨"hot"⟩
  name := "Hot"
  enabled := true
  trigger := .routeMatched ⟨"telemetry"⟩
  condition := some (.and [
    .greaterThan (.field (.payload ⟨"reading.temperature"⟩)) (.literal (.number (.posInt 80))),
    .not (.equals (.field (.extracted "state")) (.literal (.string "off")))])
  actions := [.streamToUi, .forwardToSink ⟨"hook"⟩, .addMetadata "level" "high"]

/-- `serde_json` on the one number of the rule. -/
def eighty (_ : JsNumber) : Domain.Number := .posInt 80

theorem hotRule_withinImport : (RuleDefinition.ofBackend hotRule).WithinImport where
  actions := by decide
  depth := by
    intro condition hcondition
    obtain rfl := Option.some.inj hcondition
    decide
  nodes := by
    intro condition hcondition
    obtain rfl := Option.some.inj hcondition
    decide
  literals := by
    intro condition hcondition
    obtain rfl := Option.some.inj hcondition
    exact ⟨⟨trivial, trivial⟩, ⟨trivial, trivial⟩, trivial⟩

theorem hotRule_kept : RuleKept eighty hotRule where
  actions := List.forall_mem_cons.mpr ⟨trivial, List.forall_mem_cons.mpr
    ⟨trivial, List.forall_mem_singleton.mpr trivial⟩⟩
  condition := by
    intro condition hcondition
    obtain rfl := Option.some.inj hcondition
    have hpath : trimText "reading.temperature" = "reading.temperature" := by decide +kernel
    have hname : trimText "state" = "state" := by decide +kernel
    have hnumber : LiteralKept eighty (.number (.posInt 80)) := by
      have hfinite : (JsNumber.ofDecimal false 80 0).dropZeroSign.isFinite = true := by
        decide +kernel
      exact congrArg (fun x => if x = true then Domain.Value.number (.posInt 80) else .null) hfinite
    have htext : LiteralKept eighty (.string "off") :=
      congrArg Domain.Value.string (toText_ofString "off")
    exact ⟨⟨hpath, hnumber⟩, ⟨hname, htext⟩, trivial⟩
  id := by decide +kernel
  name := by decide +kernel

theorem rule_roundTrip_iff_hot :
    ∃ draft saved, ruleToDraft (.ofBackend hotRule) = .ok draft ∧ mapRuleDraft draft = .ok saved ∧
      Domain.RuleDefinition.deserialize (toValue eighty saved.toJs) = some hotRule := by
  obtain ⟨draft, hto, hiff⟩ := rule_roundTrip_iff eighty hotRule hotRule_withinImport
  obtain ⟨saved, hfrom, hread⟩ := hiff.mpr hotRule_kept
  exact ⟨draft, saved, hto, hfrom, hread⟩

/-- A rule that restarts a device on every event. -/
def restartRule : Domain.RuleDefinition where
  id := ⟨"restart"⟩
  name := "Restart"
  enabled := true
  trigger := .eventReceived
  condition := none
  actions := [.executeCommand ⟨"restart"⟩ []]

theorem restartRule_withinImport : (RuleDefinition.ofBackend restartRule).WithinImport where
  actions := by decide
  depth := by
    intro condition hcondition
    cases hcondition
  nodes := by
    intro condition hcondition
    cases hcondition
  literals := by
    intro condition hcondition
    cases hcondition

/-- The rule is valid, and what is saved has lost its command. -/
theorem restartRule_loses_command :
    restartRule.validate = .ok () ∧ (RuleDefinition.ofBackend restartRule).WithinImport ∧
      ∃ draft, ruleToDraft (.ofBackend restartRule) = .ok draft ∧
        mapRuleDraft draft ≠ .ok (.ofBackend restartRule) ∧
        ∀ number saved, mapRuleDraft draft = .ok saved →
          Domain.RuleDefinition.deserialize (toValue number saved.toJs) ≠ some restartRule := by
  have hwell : ∀ condition ∈ (RuleDefinition.ofBackend restartRule).condition,
      condition.Literals JsValue.WellFormed := by
    intro condition hcondition
    cases hcondition
  obtain ⟨draft, hto, hfrom⟩ := mapRuleDraft_ruleToDraft restartRule_withinImport hwell
  refine ⟨by rfl, restartRule_withinImport, draft, hto, fun hsame => ?_,
    fun number saved hsaved hread => ?_⟩
  · rw [hfrom] at hsame
    have hactions := congrArg RuleDefinition.actions (Except.ok.inj hsame)
    simp [RuleDefinition.edited, RuleDefinition.ofBackend, restartRule,
      ActionIntentTemplate.ofBackend, ActionIntentTemplate.edited] at hactions
  · obtain rfl := Except.ok.inj (hfrom.symm.trans hsaved)
    rw [RuleDefinition.deserialize_toJs, RuleDefinition.toBackend_edited_iff] at hread
    exact hread.actions _ List.mem_cons_self

end Web
end PipeBolt
