import PipeBolt.Core.RuleEngine
import PipeBolt.Web.RuleJson
import PipeBolt.Web.RuleValidation

/-!
# The rule builder and the rule engine

A draft without issues compiles to a rule that is sent to the backend.

* `isText_toText`: a text that the builder accepts is one that the backend accepts.
* `condition_accepted`: so is a condition.
* `compileRuleDraft_sound_iff`: when the rule is read and accepted by the engine.
-/

namespace PipeBolt
namespace Web

open Js Rust Fallible

/-! ## Texts -/

/-- The trimmed text starts with a code point that is no white space. -/
theorem exists_codePoint_of_trim {value : JsString} (h : trim value ≠ []) :
    ∃ c ∈ codePoints value, 0x10000 ≤ c ∨ ∃ u, Js.isWhitespace u = false ∧ c = u.toNat := by
  obtain ⟨before, after, hparts⟩ := codePoints_trim value
  rw [hparts]
  obtain ⟨u, units, htrim⟩ := List.exists_cons_of_ne_nil h
  have hu := trim_head htrim
  obtain ⟨c, rest, hcodes, hc⟩ : ∃ c rest, codePoints (u :: units) = c :: rest ∧
      (0x10000 ≤ c ∨ ∃ u, Js.isWhitespace u = false ∧ c = u.toNat) := by
    cases units with
    | nil => exact ⟨_, _, rfl, Or.inr ⟨u, hu, rfl⟩⟩
    | cons v units =>
      rw [codePoints]
      split
      · exact ⟨_, _, rfl, Or.inl (by omega)⟩
      · exact ⟨_, _, rfl, Or.inr ⟨u, hu, rfl⟩⟩
  rw [htrim, hcodes]
  exact ⟨c, by simp, hc⟩

/-- What the backend takes for white space, the builder does as well, unless it is a control. -/
theorem not_isWhitespace_of_unit {c : Char} {u : UInt16} (hu : Js.isWhitespace u = false)
    (hc : c.toNat = u.toNat) (hcontrol : isControlCodePoint c.toNat = false) :
    Rust.isWhitespace c = false := by
  rw [Bool.eq_false_iff] at hu hcontrol ⊢
  intro hspace
  simp only [Rust.isWhitespace, Js.isWhitespace, isControlCodePoint, Bool.or_eq_true,
    Bool.and_eq_true, decide_eq_true_eq, beq_iff_eq, ne_eq] at hu hcontrol hspace
  rw [← hc] at hu
  omega

theorem isControl_eq {c : Char} (h : isControlCodePoint c.toNat = false) : isControl c = false := by
  rw [Bool.eq_false_iff] at h ⊢
  intro hcontrol
  simp only [isControl, isControlCodePoint, Bool.or_eq_true, Bool.and_eq_true,
    decide_eq_true_eq, ne_eq] at h hcontrol
  omega

/-- A text that the builder accepts is one that the backend accepts. -/
theorem isText_toText {value : JsString} {maxBytes : Nat} (h : IsTextDraft value maxBytes)
    (hwell : isWellFormed value = true) : Domain.IsText (toText value) maxBytes := by
  have hcodes := codePoints_eq hwell
  have hprint : ∀ c ∈ (toText value).toList, isControlCodePoint c.toNat = false :=
    fun c hc => h.printable _ (hcodes ▸ List.mem_map_of_mem hc)
  refine ⟨?_, ?_, fun c hc => isControl_eq (hprint c hc)⟩
  · obtain ⟨point, hpoint, hkind⟩ := exists_codePoint_of_trim h.nonblank
    rw [← hcodes] at hpoint
    obtain ⟨c, hc, rfl⟩ := List.mem_map.mp hpoint
    have hspace : Rust.isWhitespace c = false := by
      rcases hkind with hastral | ⟨u, hu, hcu⟩
      · rw [Bool.eq_false_iff]
        intro hspace
        simp only [Rust.isWhitespace, Bool.or_eq_true, Bool.and_eq_true, decide_eq_true_eq,
          beq_iff_eq] at hspace
        omega
      · exact not_isWhitespace_of_unit hu hcu (hprint c hc)
    rw [Bool.eq_false_iff]
    intro hblank
    rw [trim_isEmpty_iff.mp hblank c hc] at hspace
    cases hspace
  · rw [Rust.len, len_toText hwell]
    exact h.short

/-- A trimmed text is left as it is. -/
theorem trim_trim (value : JsString) : Js.trim (Js.trim value) = Js.trim value := by
  cases htrim : Js.trim value with
  | nil => rfl
  | cons u units =>
    have hu := trim_head htrim
    have hdrop : (u :: units).dropWhile Js.isWhitespace = u :: units :=
      List.dropWhile_cons_of_neg (by simp [hu])
    have hrdrop : (u :: units).rdropWhile Js.isWhitespace = u :: units := by
      rw [← htrim]
      exact List.rdropWhile_idempotent _ _
    rw [Js.trim, hdrop]
    exact hrdrop

/-- A text that is trimmed before it is sent. -/
theorem IsTextDraft.trim {value : JsString} {maxBytes : Nat} (h : IsTextDraft value maxBytes) :
    IsTextDraft (Js.trim value) maxBytes := by
  obtain ⟨before, after, hparts⟩ := codePoints_trim value
  refine ⟨?_, Nat.le_trans (byteLength_trim_le value) h.short, fun c hc => h.printable c ?_⟩
  · rw [trim_trim]
    exact h.nonblank
  · rw [hparts]
    simp [hc]

/-- A text that starts with a prefix is sent by a string that does. -/
theorem startsWith_of_toText {value : JsString} {p : String} (hwell : isWellFormed value = true)
    (h : Rust.startsWith (toText value) p = true) : Js.startsWith value (ofString p) = true := by
  obtain ⟨rest, hrest⟩ := List.isPrefixOf_iff_prefix.mp h
  rw [Js.startsWith, List.isPrefixOf_iff_prefix]
  refine ⟨rest.flatMap encodeChar, ?_⟩
  calc ofString p ++ rest.flatMap encodeChar = (p.toList ++ rest).flatMap encodeChar :=
        List.flatMap_append.symm
    _ = ofString (toText value) := by rw [hrest, ofString]
    _ = value := ofString_toText hwell

theorem usesReservedPrefix_toText {value : JsString} (hwell : isWellFormed value = true)
    (hfree : Js.startsWith value (ofString "pipe_bolt.") = false ∧
      Js.startsWith value (ofString "_pipe_bolt.") = false) :
    Core.usesReservedPrefix (toText value) = false := by
  rw [Bool.eq_false_iff]
  intro hreserved
  obtain ⟨p, hp, hstart⟩ := List.any_eq_true.mp hreserved
  have hsent := startsWith_of_toText hwell hstart
  rcases List.mem_cons.mp hp with rfl | hp
  · rw [hfree.1] at hsent
    cases hsent
  · obtain rfl := List.mem_singleton.mp hp
    rw [hfree.2] at hsent
    cases hsent

/-! ## What a draft sends -/

/-- The texts that a field of a draft sends. -/
def RuleFieldDraft.texts (field : RuleFieldDraft) : List JsString :=
  match field.source with
  | .event | .payload | .extracted => [Js.trim field.value]
  | .deviceId | .eventType | .topic => []

/-- The strings of a literal of a draft. -/
def RuleValueDraft.literalTexts (value : RuleValueDraft) : List JsString :=
  match value.literalKind with
  | .string => [value.literalValue]
  | .json => (parseJson value.literalValue).elim [] jsonStrings
  | .number | .boolean | .null => []

/-- The texts that a value of a draft sends. -/
def RuleValueDraft.texts (value : RuleValueDraft) : List JsString :=
  match value.type with
  | .field => value.field.texts
  | .literal => value.literalTexts

/-- The arrays and objects that are nested in a literal of a draft. -/
def RuleValueDraft.literalNesting (value : RuleValueDraft) : Nat :=
  match value.literalKind with
  | .json => (parseJson value.literalValue).elim 0 jsonNesting
  | .string | .number | .boolean | .null => 0

/-- The arrays and objects that are nested in what a value of a draft sends. -/
def RuleValueDraft.nesting (value : RuleValueDraft) : Nat :=
  match value.type with
  | .field => 2
  | .literal => value.literalNesting + 1

mutual

/-- The texts that a condition of a draft sends. -/
def RuleConditionDraft.texts : RuleConditionDraft → List JsString
  | ⟨children, field, left, op, right⟩ =>
    match op with
    | .exists => field.texts
    | .group _ => RuleConditionDraft.allTexts children
    | .not =>
      match children with
      | [] => []
      | child :: _ => child.texts
    | .comparison _ => left.texts ++ right.texts

/-- The texts that the conditions of a group send. -/
def RuleConditionDraft.allTexts : List RuleConditionDraft → List JsString
  | [] => []
  | child :: children => child.texts ++ RuleConditionDraft.allTexts children

end

mutual

/-- The arrays and objects that are nested in what a condition of a draft sends. -/
def RuleConditionDraft.nesting : RuleConditionDraft → Nat
  | ⟨children, _, left, op, right⟩ =>
    match op with
    | .exists => 2
    | .group _ => RuleConditionDraft.nestingAll children + 2
    | .not =>
      match children with
      | [] => 1
      | child :: _ => child.nesting + 1
    | .comparison _ => max left.nesting right.nesting + 1

/-- Of the conditions of a group, the deepest nesting. -/
def RuleConditionDraft.nestingAll : List RuleConditionDraft → Nat
  | [] => 0
  | child :: children => max child.nesting (RuleConditionDraft.nestingAll children)

end

/-- The texts that an action of a draft sends. -/
def RuleActionDraft.texts (action : RuleActionDraft) : List JsString :=
  match action.type with
  | .forwardToSink | .publishCommand => [action.targetId]
  | .addMetadata => [action.metadataKey, action.metadataValue]
  | .streamToUi | .dropEvent | .executeCommand => []

/-- The texts that a draft sends. -/
def RuleFormDraft.texts (draft : RuleFormDraft) : List JsString :=
  draft.actions.flatMap RuleActionDraft.texts ++
    (if draft.conditionEnabled then draft.condition.texts else []) ++
    [Js.trim draft.id, Js.trim draft.name] ++
    if draft.triggerType = .eventReceived then [] else [draft.triggerTargetId]

/-! ## The JSON of a draft -/

@[simp]
theorem allWellFormed_jsonObject {fields : List (String × JsValue)} :
    AllWellFormed (jsonStrings (jsonObject fields)) ↔
      ∀ field ∈ fields, AllWellFormed (jsonStrings field.2) := by
  rw [jsonObject, jsonStrings]
  induction fields with
  | nil => simp [propertyStrings, AllWellFormed]
  | cons field fields ih =>
    rw [List.map_cons, propertyStrings, List.cons_append, allWellFormed_cons, allWellFormed_append,
      ih, List.forall_mem_cons]
    exact and_iff_right (isWellFormed_ofString _)

@[simp]
theorem allWellFormed_jsonText (text : String) : AllWellFormed (jsonStrings (jsonText text)) := by
  rw [jsonText, jsonStrings]
  exact allWellFormed_cons.mpr ⟨isWellFormed_ofString text, fun _ h => absurd h List.not_mem_nil⟩

@[simp]
theorem jsonNesting_jsonObject (fields : List (String × JsValue)) :
    jsonNesting (jsonObject fields) =
      fields.foldr (fun field nesting => max (jsonNesting field.2) nesting) 0 + 1 := by
  rw [jsonObject, jsonNesting, Nat.add_right_cancel_iff]
  induction fields with
  | nil => rfl
  | cons field fields ih => rw [List.map_cons, propertyNesting, ih, List.foldr_cons]

@[simp]
theorem jsonNesting_jsonText (text : String) : jsonNesting (jsonText text) = 0 := rfl

/-- A value whose strings are well formed when the texts are, and that nests as deep. -/
structure Sends (json : JsValue) (texts : List JsString) (nesting : Nat) : Prop where
  strings : AllWellFormed (jsonStrings json) ↔ AllWellFormed texts
  nests : jsonNesting json = nesting

theorem fieldFromDraft_sends (field : RuleFieldDraft) :
    Sends (fieldFromDraft field).toJs field.texts 1 := by
  obtain ⟨source, value⟩ := field
  constructor
  · cases source <;>
      simp [fieldFromDraft, Generated.FieldRef.toJs, RuleFieldDraft.texts, jsonStrings]
  · cases source <;> rfl

theorem literalFromDraft_sends {value : RuleValueDraft} {literal : JsValue}
    (h : literalFromDraft value = .ok literal) :
    Sends literal value.literalTexts value.literalNesting := by
  rw [literalFromDraft] at h
  rw [RuleValueDraft.literalTexts, RuleValueDraft.literalNesting]
  cases hkind : value.literalKind with
  | string | boolean | null =>
    rw [hkind] at h
    obtain rfl := Except.ok.inj h
    exact ⟨by simp [jsonStrings], rfl⟩
  | number =>
    rw [hkind] at h
    obtain ⟨-, h⟩ := guard_eq_ok_iff.mp h
    obtain rfl := Except.ok.inj h
    exact ⟨by simp [jsonStrings], rfl⟩
  | json =>
    rw [hkind] at h
    cases hparse : parseJson value.literalValue with
    | none =>
      rw [hparse] at h
      cases h
    | some parsed =>
      rw [hparse] at h
      obtain rfl := Except.ok.inj h
      exact ⟨Iff.rfl, rfl⟩

theorem valueFromDraft_sends {value : RuleValueDraft} {expr : Generated.ValueExpr}
    (h : valueFromDraft value = .ok expr) : Sends expr.toJs value.texts value.nesting := by
  rw [valueFromDraft] at h
  rw [RuleValueDraft.texts, RuleValueDraft.nesting]
  cases htype : value.type with
  | field =>
    rw [htype] at h
    obtain rfl := Except.ok.inj h
    obtain ⟨hstrings, hnests⟩ := fieldFromDraft_sends value.field
    constructor
    · simp [Generated.ValueExpr.toJs, hstrings]
    · simp [Generated.ValueExpr.toJs, hnests]
  | literal =>
    rw [htype] at h
    obtain ⟨literal, hliteral, rfl⟩ := map_eq_ok_iff.mp h
    obtain ⟨hstrings, hnests⟩ := literalFromDraft_sends hliteral
    constructor
    · simp [Generated.ValueExpr.toJs, hstrings]
    · simp [Generated.ValueExpr.toJs, hnests]

mutual

theorem conditionFromDraft_sends : ∀ {draft : RuleConditionDraft}
    {condition : Generated.ConditionExpr}, conditionFromDraft draft = .ok condition →
      Sends condition.toJs draft.texts draft.nesting
  | ⟨children, field, left, op, right⟩, condition, h => by
    cases op with
    | «exists» =>
      rw [conditionFromDraft] at h
      rw [RuleConditionDraft.texts, RuleConditionDraft.nesting]
      obtain rfl := Except.ok.inj h
      obtain ⟨hstrings, hnests⟩ := fieldFromDraft_sends field
      constructor
      · simp [Generated.ConditionExpr.toJs, hstrings]
      · simp [Generated.ConditionExpr.toJs, hnests]
    | group op =>
      rw [conditionFromDraft] at h
      rw [RuleConditionDraft.texts, RuleConditionDraft.nesting]
      obtain ⟨conditions, hconditions, rfl⟩ := map_eq_ok_iff.mp h
      obtain ⟨hstrings, hnests⟩ := conditionsFromDraft_sends hconditions
      constructor
      · simp [Generated.ConditionExpr.toJs, jsonStrings, hstrings]
      · simp [Generated.ConditionExpr.toJs, jsonNesting, hnests]
    | not =>
      cases children with
      | nil =>
        rw [conditionFromDraft] at h
        cases h
      | cons child children =>
        rw [conditionFromDraft] at h
        rw [RuleConditionDraft.texts, RuleConditionDraft.nesting]
        obtain ⟨condition, hcondition, rfl⟩ := map_eq_ok_iff.mp h
        obtain ⟨hstrings, hnests⟩ := conditionFromDraft_sends hcondition
        constructor
        · simp [Generated.ConditionExpr.toJs, hstrings]
        · simp [Generated.ConditionExpr.toJs, hnests]
    | comparison op =>
      rw [conditionFromDraft] at h
      rw [RuleConditionDraft.texts, RuleConditionDraft.nesting]
      obtain ⟨left, hleft, h⟩ := bind_eq_ok_iff.mp h
      obtain ⟨right, hright, h⟩ := bind_eq_ok_iff.mp h
      obtain rfl := Except.ok.inj h
      obtain ⟨hleft, hleftNests⟩ := valueFromDraft_sends hleft
      obtain ⟨hright, hrightNests⟩ := valueFromDraft_sends hright
      constructor
      · simp [Generated.ConditionExpr.toJs, hleft, hright]
      · simp [Generated.ConditionExpr.toJs, hleftNests, hrightNests]

theorem conditionsFromDraft_sends : ∀ {drafts : List RuleConditionDraft}
    {conditions : List Generated.ConditionExpr}, conditionsFromDraft drafts = .ok conditions →
      (AllWellFormed (itemStrings (Generated.ConditionExpr.conditionsToJs conditions)) ↔
          AllWellFormed (RuleConditionDraft.allTexts drafts)) ∧
        itemNesting (Generated.ConditionExpr.conditionsToJs conditions) =
          RuleConditionDraft.nestingAll drafts
  | [], conditions, h => by
    rw [conditionsFromDraft] at h
    obtain rfl := Except.ok.inj h
    exact ⟨Iff.rfl, rfl⟩
  | draft :: drafts, conditions, h => by
    rw [conditionsFromDraft] at h
    obtain ⟨condition, hcondition, h⟩ := bind_eq_ok_iff.mp h
    obtain ⟨conditions, hconditions, h⟩ := bind_eq_ok_iff.mp h
    obtain rfl := Except.ok.inj h
    obtain ⟨hstrings, hnests⟩ := conditionFromDraft_sends hcondition
    obtain ⟨hrest, hrestNests⟩ := conditionsFromDraft_sends hconditions
    rw [Generated.ConditionExpr.conditionsToJs, RuleConditionDraft.allTexts,
      RuleConditionDraft.nestingAll, itemStrings, itemNesting, allWellFormed_append,
      allWellFormed_append, hstrings, hrest, hnests, hrestNests]
    exact ⟨Iff.rfl, rfl⟩

end

theorem actionFromDraft_sends (action : RuleActionDraft) :
    Sends (actionFromDraft action).toJs action.texts 1 := by
  rw [actionFromDraft, RuleActionDraft.texts]
  constructor
  · cases action.type <;> simp [Generated.ActionIntentTemplate.toJs, jsonStrings]
  · cases action.type <;> rfl

theorem triggerFromDraft_sends (draft : RuleFormDraft) :
    Sends (triggerFromDraft draft).toJs
      (if draft.triggerType = .eventReceived then [] else [draft.triggerTargetId]) 1 := by
  rw [triggerFromDraft]
  constructor
  · cases draft.triggerType <;> simp [Generated.RuleTrigger.toJs, jsonStrings]
  · cases draft.triggerType <;> rfl

theorem actionsFromDraft_sends (actions : List RuleActionDraft) :
    (AllWellFormed (itemStrings (actions.map (Generated.ActionIntentTemplate.toJs ∘
        actionFromDraft))) ↔ AllWellFormed (actions.flatMap RuleActionDraft.texts)) ∧
      itemNesting (actions.map (Generated.ActionIntentTemplate.toJs ∘ actionFromDraft)) ≤ 1 := by
  induction actions with
  | nil => exact ⟨Iff.rfl, Nat.zero_le 1⟩
  | cons action actions ih =>
    obtain ⟨hstrings, hnests⟩ := actionFromDraft_sends action
    rw [List.map_cons, Function.comp_apply, itemStrings, itemNesting, List.flatMap_cons,
      allWellFormed_append, allWellFormed_append, hstrings, ih.1, hnests]
    exact ⟨Iff.rfl, Nat.max_le.mpr ⟨Nat.le_refl 1, ih.2⟩⟩

/-- The rule of a draft: it has a condition when the draft has one that is enabled. -/
theorem mapRuleDraft_eq_ok {draft : RuleFormDraft} {rule : Generated.RuleDefinition}
    (h : mapRuleDraft draft = .ok rule) :
    ∃ condition,
      (draft.conditionEnabled = false ∧ condition = none ∨
        draft.conditionEnabled = true ∧
          ∃ expr, conditionFromDraft draft.condition = .ok expr ∧ condition = some expr) ∧
        rule = {
          actions := draft.actions.map actionFromDraft
          condition
          enabled := draft.enabled
          id := Js.trim draft.id
          name := Js.trim draft.name
          trigger := triggerFromDraft draft } := by
  rw [mapRuleDraft] at h
  cases henabled : draft.conditionEnabled with
  | false =>
    rw [henabled, if_neg Bool.false_ne_true] at h
    exact ⟨none, Or.inl ⟨rfl, rfl⟩, (Except.ok.inj h).symm⟩
  | true =>
    rw [henabled, if_pos rfl] at h
    cases hcondition : conditionFromDraft draft.condition with
    | error message =>
      rw [hcondition] at h
      cases h
    | ok expr =>
      rw [hcondition] at h
      exact ⟨some expr, Or.inr ⟨rfl, expr, rfl, rfl⟩, (Except.ok.inj h).symm⟩

/-- The text of the rule of a draft is read when the texts of the draft are well formed and its
condition is not nested too deep. -/
theorem mapRuleDraft_sends {draft : RuleFormDraft} {rule : Generated.RuleDefinition}
    (h : mapRuleDraft draft = .ok rule) :
    (AllWellFormed (jsonStrings rule.toJs) ↔ AllWellFormed draft.texts) ∧
      (jsonNesting rule.toJs ≤ MAX_NESTING ↔
        (draft.conditionEnabled = true → draft.condition.nesting ≤ 126)) := by
  obtain ⟨hactions, hactionsNest⟩ := actionsFromDraft_sends draft.actions
  obtain ⟨htrigger, htriggerNests⟩ := triggerFromDraft_sends draft
  rw [RuleFormDraft.texts, MAX_NESTING]
  rcases mapRuleDraft_eq_ok h with
      ⟨condition, ⟨hdisabled, rfl⟩ | ⟨henabled, expr, hcondition, rfl⟩, rfl⟩
  · rw [hdisabled]
    constructor
    · simp [Generated.RuleDefinition.toJs, jsonStrings, hactions, htrigger]
    · simp only [Generated.RuleDefinition.toJs, jsonNesting_jsonObject, List.foldr_cons,
        List.foldr_nil, jsonNesting, List.map_map, Option.map_none, Option.getD_none,
        htriggerNests, Bool.false_eq_true, IsEmpty.forall_iff, iff_true]
      omega
  · obtain ⟨hstrings, hnests⟩ := conditionFromDraft_sends hcondition
    rw [henabled]
    constructor
    · simp [Generated.RuleDefinition.toJs, jsonStrings, hactions, htrigger, hstrings]
    · simp only [Generated.RuleDefinition.toJs, jsonNesting_jsonObject, List.foldr_cons,
        List.foldr_nil, jsonNesting, List.map_map, Option.map_some, Option.getD_some,
        htriggerNests, hnests, forall_const]
      omega

/-! ## What the backend checks -/

section Backend

variable {number : JsNumber → Domain.Number} {reader : SerdeReader}

theorem validateText_toText {field : String} {value : JsString} {maxBytes : Nat}
    (h : IsTextDraft value maxBytes) (hwell : isWellFormed value = true) :
    Domain.validateText field (toText value) maxBytes = .ok () :=
  Domain.validateText_eq_ok_iff.mpr (isText_toText h hwell)

theorem field_accepted {field : RuleFieldDraft} (hchecked : field.Checked)
    (hwell : AllWellFormed field.texts) :
    Domain.validateFieldRef (fieldFromDraft field).toBackend = .ok () := by
  rw [RuleFieldDraft.Checked] at hchecked
  rw [RuleFieldDraft.texts] at hwell
  rw [fieldFromDraft]
  cases hsource : field.source with
  | extracted =>
    rw [hsource] at hwell
    exact validateText_toText (hchecked hsource).trim (allWellFormed_cons.mp hwell).1
  | _ => rfl

theorem value_accepted {value : RuleValueDraft} {expr : Generated.ValueExpr}
    (h : valueFromDraft value = .ok expr) (hchecked : value.Checked)
    (hwell : AllWellFormed value.texts) :
    Domain.validateValueExpr (expr.toBackend number) = .ok () := by
  rw [valueFromDraft] at h
  rw [RuleValueDraft.texts] at hwell
  cases htype : value.type with
  | field =>
    rw [htype] at h hwell
    obtain rfl := Except.ok.inj h
    exact field_accepted (hchecked htype) hwell
  | literal =>
    rw [htype] at h
    obtain ⟨literal, -, rfl⟩ := map_eq_ok_iff.mp h
    rfl

/-- What the engine asks of a condition that starts at a depth of the builder. -/
structure ConditionAccepted (condition : Domain.ConditionExpr) (depth nodes : Nat) : Prop where
  valid : Domain.validateCondition condition = .ok ()
  shallow : Core.conditionDepth condition + depth ≤ MAX_CONDITION_DEPTH + 1
  counted : Core.conditionNodes condition = nodes

theorem comparison_accepted {op : Generated.Comparison} {left right : Domain.ValueExpr}
    {depth : Nat} (hdepth : depth ≤ MAX_CONDITION_DEPTH)
    (hleft : Domain.validateValueExpr left = .ok ())
    (hright : Domain.validateValueExpr right = .ok ()) :
    ConditionAccepted (op.toBackend left right) depth 1 := by
  have hvalid : (do Domain.validateValueExpr left; Domain.validateValueExpr right) = .ok () :=
    check_eq_ok_iff.mpr ⟨hleft, hright⟩
  have hshallow : 1 + depth ≤ MAX_CONDITION_DEPTH + 1 := by omega
  cases op with
  | _ =>
    constructor
    · rw [Generated.Comparison.toBackend, Domain.validateCondition]
      exact hvalid
    · rw [Generated.Comparison.toBackend, Core.conditionDepth]
      exact hshallow
    · rw [Generated.Comparison.toBackend, Core.conditionNodes]

theorem group_accepted {op : Generated.Group} {conditions : List Domain.ConditionExpr}
    {depth nodes : Nat} (hsome : conditions ≠ [])
    (hvalid : Domain.validateConditions conditions = .ok ())
    (hshallow : Core.conditionsDepth conditions + (depth + 1) ≤ MAX_CONDITION_DEPTH + 1)
    (hcounted : Core.conditionsNodes conditions = nodes) :
    ConditionAccepted (op.toBackend conditions) depth (nodes + 1) := by
  have hgroup : ¬ conditions.isEmpty = true := fun h => hsome (List.isEmpty_iff.mp h)
  have hdepth : Core.conditionsDepth conditions + 1 + depth ≤ MAX_CONDITION_DEPTH + 1 := by omega
  cases op with
  | _ =>
    constructor
    · rw [Generated.Group.toBackend, Domain.validateCondition, if_neg hgroup]
      exact hvalid
    · rw [Generated.Group.toBackend, Core.conditionDepth]
      exact hdepth
    · rw [Generated.Group.toBackend, Core.conditionNodes, hcounted]

mutual

/-- The backend accepts a condition that the builder accepts, and counts the same nodes. -/
theorem condition_accepted : ∀ {draft : RuleConditionDraft} {condition : Generated.ConditionExpr}
    {depth : Nat}, conditionFromDraft draft = .ok condition → draft.Checked depth →
      AllWellFormed draft.texts →
        ConditionAccepted (condition.toBackend number) depth draft.nodes
  | ⟨children, field, left, op, right⟩, condition, depth, h, hchecked, hwell => by
    cases op with
    | «exists» =>
      rw [conditionFromDraft] at h
      rw [RuleConditionDraft.Checked] at hchecked
      rw [RuleConditionDraft.texts] at hwell
      obtain rfl := Except.ok.inj h
      rw [Generated.ConditionExpr.toBackend, RuleConditionDraft.nodes]
      constructor
      · rw [Domain.validateCondition]
        exact field_accepted hchecked.2 hwell
      · rw [Core.conditionDepth]
        have hdepth := hchecked.1
        omega
      · rw [Core.conditionNodes]
    | comparison op =>
      rw [conditionFromDraft] at h
      rw [RuleConditionDraft.Checked] at hchecked
      rw [RuleConditionDraft.texts, allWellFormed_append] at hwell
      obtain ⟨left, hleft, h⟩ := bind_eq_ok_iff.mp h
      obtain ⟨right, hright, h⟩ := bind_eq_ok_iff.mp h
      obtain rfl := Except.ok.inj h
      obtain ⟨hdepth, hleftChecked, hrightChecked⟩ := hchecked
      rw [Generated.ConditionExpr.toBackend, RuleConditionDraft.nodes]
      exact comparison_accepted hdepth (value_accepted hleft hleftChecked hwell.1)
        (value_accepted hright hrightChecked hwell.2)
    | group op =>
      rw [conditionFromDraft] at h
      rw [RuleConditionDraft.Checked] at hchecked
      rw [RuleConditionDraft.texts] at hwell
      obtain ⟨conditions, hconditions, rfl⟩ := map_eq_ok_iff.mp h
      obtain ⟨hdepth, hsome, hchildren⟩ := hchecked
      obtain ⟨hlength, hvalid, hshallow, hcounted⟩ :=
        conditions_accepted hconditions (Nat.succ_le_succ hdepth) hchildren hwell
      rw [Generated.ConditionExpr.toBackend, RuleConditionDraft.nodes]
      refine group_accepted ?_ hvalid hshallow hcounted
      intro hnil
      rw [hnil] at hlength
      exact hsome (List.eq_nil_of_length_eq_zero hlength.symm)
    | not =>
      cases children with
      | nil =>
        rw [conditionFromDraft] at h
        cases h
      | cons child children =>
        rw [conditionFromDraft] at h
        rw [RuleConditionDraft.Checked] at hchecked
        rw [RuleConditionDraft.texts] at hwell
        obtain ⟨condition, hcondition, rfl⟩ := map_eq_ok_iff.mp h
        obtain ⟨hdepth, hlength, hchild, -⟩ := hchecked
        obtain rfl := List.eq_nil_of_length_eq_zero (Nat.succ.inj hlength)
        obtain ⟨hvalid, hshallow, hcounted⟩ := condition_accepted hcondition hchild hwell
        rw [Generated.ConditionExpr.toBackend, RuleConditionDraft.nodes,
          RuleConditionDraft.nodesAll, RuleConditionDraft.nodesAll]
        constructor
        · rw [Domain.validateCondition]
          exact hvalid
        · rw [Core.conditionDepth]
          omega
        · rw [Core.conditionNodes, hcounted, Nat.add_zero]

theorem conditions_accepted : ∀ {drafts : List RuleConditionDraft}
    {conditions : List Generated.ConditionExpr} {depth : Nat},
    conditionsFromDraft drafts = .ok conditions → depth ≤ MAX_CONDITION_DEPTH + 1 →
      RuleConditionDraft.AllChecked drafts depth →
        AllWellFormed (RuleConditionDraft.allTexts drafts) →
          (Generated.ConditionExpr.conditionsToBackend number conditions).length = drafts.length ∧
            Domain.validateConditions
              (Generated.ConditionExpr.conditionsToBackend number conditions) = .ok () ∧
            Core.conditionsDepth (Generated.ConditionExpr.conditionsToBackend number conditions) +
              depth ≤ MAX_CONDITION_DEPTH + 1 ∧
            Core.conditionsNodes (Generated.ConditionExpr.conditionsToBackend number conditions) =
              RuleConditionDraft.nodesAll drafts
  | [], conditions, depth, h, hdepth, hchecked, hwell => by
    rw [conditionsFromDraft] at h
    obtain rfl := Except.ok.inj h
    rw [Generated.ConditionExpr.conditionsToBackend, Core.conditionsDepth, Core.conditionsNodes,
      RuleConditionDraft.nodesAll, Nat.zero_add]
    exact ⟨rfl, rfl, hdepth, rfl⟩
  | draft :: drafts, conditions, depth, h, hdepth, hchecked, hwell => by
    rw [conditionsFromDraft] at h
    rw [RuleConditionDraft.AllChecked] at hchecked
    rw [RuleConditionDraft.allTexts, allWellFormed_append] at hwell
    obtain ⟨condition, hcondition, h⟩ := bind_eq_ok_iff.mp h
    obtain ⟨conditions, hconditions, h⟩ := bind_eq_ok_iff.mp h
    obtain rfl := Except.ok.inj h
    obtain ⟨hvalid, hshallow, hcounted⟩ := condition_accepted hcondition hchecked.1 hwell.1
    obtain ⟨hlength, hvalids, hshallows, hcounteds⟩ :=
      conditions_accepted hconditions hdepth hchecked.2 hwell.2
    rw [Generated.ConditionExpr.conditionsToBackend, Core.conditionsDepth, Core.conditionsNodes,
      RuleConditionDraft.nodesAll, Domain.validateConditions, List.length_cons, List.length_cons,
      hlength, hcounted, hcounteds]
    exact ⟨rfl, check_eq_ok_iff.mpr ⟨hvalid, hvalids⟩, by omega, rfl⟩

end

/-- The types of actions that the backend has. -/
def IsBackendAction (action : RuleActionDraft) : Prop :=
  action.type ≠ .publishCommand ∧ action.type ≠ .executeCommand

theorem action_read_iff (action : RuleActionDraft) :
    (∃ backend, (actionFromDraft action).toBackend number = some backend) ↔
      IsBackendAction action := by
  rw [actionFromDraft, IsBackendAction]
  cases action.type <;> simp [Generated.ActionIntentTemplate.toBackend]

theorem action_accepted {action : RuleActionDraft} {backend : Domain.ActionIntentTemplate}
    (hread : (actionFromDraft action).toBackend number = some backend)
    (hchecked : action.type = .addMetadata → action.MetadataChecked)
    (hwell : AllWellFormed action.texts) :
    Domain.validateActionTemplate backend = .ok () ∧
      ∀ key value, backend = .addMetadata key value → Core.usesReservedPrefix key = false := by
  rw [actionFromDraft] at hread
  rw [RuleActionDraft.texts] at hwell
  cases htype : action.type with
  | addMetadata =>
    rw [htype] at hread hwell
    obtain rfl := Option.some.inj hread
    obtain ⟨hkey, hvalue⟩ := allWellFormed_cons.mp hwell
    have hvalue := (allWellFormed_cons.mp hvalue).1
    have hmetadata := hchecked htype
    constructor
    · exact check_eq_ok_iff.mpr
        ⟨validateText_toText hmetadata.key hkey, validateText_toText hmetadata.value hvalue⟩
    · intro key value heq
      obtain ⟨rfl, -⟩ := Domain.ActionIntentTemplate.addMetadata.inj heq
      exact usesReservedPrefix_toText hkey hmetadata.free
  | publishCommand | executeCommand =>
    rw [htype] at hread
    cases hread
  | streamToUi | forwardToSink | dropEvent =>
    rw [htype] at hread
    obtain rfl := Option.some.inj hread
    exact ⟨rfl, fun _ _ h => by cases h⟩

/-- The engine takes the rule that is read from the text of the builder, when it is enabled. -/
def Accepted (reader : SerdeReader) (rule : Generated.RuleDefinition) : Prop :=
  ∃ definition engine,
    (reader.fromStr MAX_NESTING rule.toJs).bind Domain.RuleDefinition.deserialize =
        some definition ∧
      Core.RuleEngine.withLimits [{ definition with enabled := true }] .default = .ok engine

/-- A draft whose rule the backend takes. -/
structure RuleFormDraft.Supported (draft : RuleFormDraft) : Prop where
  trigger : draft.triggerType ≠ .commandRequested
  actions : ∀ action ∈ draft.actions, IsBackendAction action
  texts : AllWellFormed draft.texts
  shallow : draft.conditionEnabled = true → draft.condition.nesting ≤ 126

/-- The rule that is read. -/
theorem mapRuleDraft_read_iff {draft : RuleFormDraft} {rule : Generated.RuleDefinition}
    (h : mapRuleDraft draft = .ok rule) {definition : Domain.RuleDefinition} :
    (reader.fromStr MAX_NESTING rule.toJs).bind Domain.RuleDefinition.deserialize =
        some definition ↔
      AllWellFormed draft.texts ∧
        (draft.conditionEnabled = true → draft.condition.nesting ≤ 126) ∧
          rule.toBackend reader.number = some definition := by
  obtain ⟨hstrings, hnests⟩ := mapRuleDraft_sends h
  rw [Option.bind_eq_some_iff, ← hstrings, ← hnests]
  constructor
  · rintro ⟨value, hread, hdefinition⟩
    obtain ⟨hwell, hdepth, rfl⟩ := reader.fromStr_eq_some_iff.mp hread
    exact ⟨hwell, hdepth, (Generated.RuleDefinition.deserialize_toJs rule) ▸ hdefinition⟩
  · rintro ⟨hwell, hdepth, hdefinition⟩
    exact ⟨_, reader.fromStr_eq_some_iff.mpr ⟨hwell, hdepth, rfl⟩,
      (Generated.RuleDefinition.deserialize_toJs rule).trans hdefinition⟩

theorem trigger_supported_iff (draft : RuleFormDraft) :
    Core.isCommandRequested (triggerFromDraft draft).toBackend = false ↔
      draft.triggerType ≠ .commandRequested := by
  rw [triggerFromDraft]
  cases draft.triggerType <;>
    simp [Generated.RuleTrigger.toBackend, Core.isCommandRequested]

/-- The domain accepts the rule that is read, and the engine does unless a command triggers it. -/
theorem rule_accepted {draft : RuleFormDraft} {rule : Generated.RuleDefinition}
    {definition : Domain.RuleDefinition} (h : mapRuleDraft draft = .ok rule)
    (hchecked : draft.Checked) (hwell : AllWellFormed draft.texts)
    (hread : rule.toBackend number = some definition) :
    definition.validate = .ok () ∧
      (Core.RuleFits .default definition ↔ draft.triggerType ≠ .commandRequested) := by
  simp only [RuleFormDraft.texts, allWellFormed_append, allWellFormed_cons] at hwell
  obtain ⟨⟨⟨hactionTexts, hconditionTexts⟩, -, hname, -⟩, -⟩ := hwell
  obtain ⟨condition, hcondition, rfl⟩ := mapRuleDraft_eq_ok h
  obtain ⟨actions, hactions, hdefinition⟩ := Option.bind_eq_some_iff.mp hread
  obtain rfl := Option.some.inj hdefinition
  have hactions := mapM_eq_some_iff.mp hactions
  rw [List.map_map] at hactions
  -- Every action that is read is one of the draft.
  have haction : ∀ backend ∈ actions, Domain.validateActionTemplate backend = .ok () ∧
      ∀ key value, backend = .addMetadata key value → Core.usesReservedPrefix key = false := by
    intro backend hbackend
    have hmem := List.mem_map_of_mem (f := some) hbackend
    rw [← hactions] at hmem
    obtain ⟨action, haction, hsome⟩ := List.mem_map.mp hmem
    exact action_accepted hsome (hchecked.metadata action haction)
      fun text htext => hactionTexts text (List.mem_flatMap_of_mem haction htext)
  have hlength : actions.length = draft.actions.length := by
    have hlengths := congrArg List.length hactions
    rw [List.length_map, List.length_map] at hlengths
    exact hlengths.symm
  have hexpr : ∀ backend ∈ condition.map (Generated.ConditionExpr.toBackend number),
      ConditionAccepted backend 1 draft.condition.nodes ∧
        draft.condition.nodes ≤ MAX_CONDITION_NODES := by
    intro backend hbackend
    rcases hcondition with ⟨-, rfl⟩ | ⟨henabled, expr, hexpr, rfl⟩
    · cases hbackend
    · obtain rfl := Option.some.inj hbackend
      rw [henabled, if_pos rfl] at hconditionTexts
      obtain ⟨hroot, hnodes⟩ := hchecked.condition henabled
      exact ⟨condition_accepted hexpr hroot hconditionTexts, hnodes⟩
  constructor
  · have hsome : ¬ actions.isEmpty = true := by
      intro hempty
      rw [List.isEmpty_iff.mp hempty] at hlength
      exact hchecked.some_action (List.eq_nil_of_length_eq_zero hlength.symm)
    refine check_eq_ok_iff.mpr ⟨validateText_toText hchecked.name.trim hname, ?_⟩
    refine guard_eq_ok_iff.mpr ⟨hsome, check_eq_ok_iff.mpr ⟨?_, ?_⟩⟩
    · exact option_forM_eq_ok_iff.mpr fun backend hbackend => (hexpr backend hbackend).1.valid
    · exact forM_eq_ok_iff.mpr fun backend hbackend => (haction backend hbackend).1
  · constructor
    · exact fun hfits => (trigger_supported_iff draft).mp hfits.trigger_supported
    · intro htrigger
      refine ⟨(trigger_supported_iff draft).mpr htrigger, ?_, ?_, ?_, ?_⟩
      · exact hlength ▸ hchecked.few_actions
      · exact fun key value hmem => (haction _ hmem).2 key value rfl
      · intro backend hbackend
        have hshallow := (hexpr backend hbackend).1.shallow
        rw [MAX_CONDITION_DEPTH] at hshallow
        show Core.conditionDepth backend ≤ 16
        omega
      · intro backend hbackend
        obtain ⟨haccepted, hnodes⟩ := hexpr backend hbackend
        rw [MAX_CONDITION_NODES] at hnodes
        show Core.conditionNodes backend ≤ 256
        rw [haccepted.counted]
        omega

/-- The backend takes the rule of a draft without issues exactly when it has the actions and the
trigger of the draft and can read its text. -/
theorem compileRuleDraft_sound_iff {draft : RuleFormDraft} {resources : RuleDraftResources}
    {originalRuleId : Option JsString}
    (hissues : (compileRuleDraft draft resources originalRuleId).issues = []) :
    (∃ rule, (compileRuleDraft draft resources originalRuleId).rule = some rule ∧
      Accepted reader rule) ↔ draft.Supported := by
  obtain ⟨hchecked, rule, hmap, hrule⟩ := compileRuleDraft_eq_nil hissues
  have hlimits : Core.RuleEngineLimits.default.CoverDomain := ⟨Nat.le_refl 128, Nat.le_refl 1024⟩
  -- The backend has every action of the draft when it reads the rule.
  have hactions : (∃ definition, rule.toBackend reader.number = some definition) ↔
      ∀ action ∈ draft.actions, IsBackendAction action := by
    obtain ⟨condition, -, rfl⟩ := mapRuleDraft_eq_ok hmap
    have hread : (∃ actions, (draft.actions.map actionFromDraft).mapM
        (Generated.ActionIntentTemplate.toBackend reader.number) = some actions) ↔
          ∀ action ∈ draft.actions, IsBackendAction action := by
      rw [mapM_isSome_iff, List.forall_mem_map]
      exact forall₂_congr fun action _ => action_read_iff action
    rw [← hread]
    constructor
    · rintro ⟨definition, h⟩
      obtain ⟨actions, hactions, -⟩ := Option.bind_eq_some_iff.mp h
      exact ⟨actions, hactions⟩
    · rintro ⟨actions, hactions⟩
      exact ⟨_, Option.bind_eq_some_iff.mpr ⟨actions, hactions, rfl⟩⟩
  have hengine : ∀ definition, rule.toBackend reader.number = some definition →
      AllWellFormed draft.texts →
        ((∃ engine, Core.RuleEngine.withLimits [{ definition with enabled := true }] .default =
            .ok engine) ↔ draft.triggerType ≠ .commandRequested) := by
    intro definition hread hwell
    obtain ⟨hvalid, hfits⟩ := rule_accepted hmap hchecked hwell hread
    have hfits' : Core.RuleFits .default { definition with enabled := true } ↔
        Core.RuleFits .default definition :=
      ⟨fun h => ⟨h.1, h.2, h.3, h.4, h.5⟩, fun h => ⟨h.1, h.2, h.3, h.4, h.5⟩⟩
    have hvalids : ∀ definition' ∈ [{ definition with enabled := true }],
        definition'.validate = .ok () := by
      intro definition' hmem
      obtain rfl := List.mem_singleton.mp hmem
      exact hvalid
    rw [Core.RuleEngine.withLimits_isOk_iff hlimits hvalids, List.forall_mem_singleton, ← hfits,
      ← hfits']
    exact forall_prop_of_true rfl
  constructor
  · rintro ⟨rule', hrule', definition, engine, hread, hbuilt⟩
    obtain rfl := Option.some.inj (hrule.symm.trans hrule')
    obtain ⟨hwell, hnests, hread⟩ := (mapRuleDraft_read_iff hmap).mp hread
    exact ⟨(hengine definition hread hwell).mp ⟨engine, hbuilt⟩, hactions.mp ⟨definition, hread⟩,
      hwell, hnests⟩
  · intro hsupported
    obtain ⟨definition, hread⟩ := hactions.mpr hsupported.actions
    obtain ⟨engine, hbuilt⟩ :=
      (hengine definition hread hsupported.texts).mpr hsupported.trigger
    exact ⟨rule, hrule, definition, engine,
      (mapRuleDraft_read_iff hmap).mpr ⟨hsupported.texts, hsupported.shallow, hread⟩, hbuilt⟩

end Backend

/-- A draft that tags the events with an extracted temperature. -/
def taggingDraft : RuleFormDraft where
  actions := [⟨ofString "kind", ofString "climate", [], .addMetadata⟩]
  condition := { createConditionDraft .exists with field := ⟨.extracted, ofString "temperature"⟩ }
  conditionEnabled := true
  enabled := true
  id := ofString "climate"
  name := ofString "Climate"
  triggerTargetId := []
  triggerType := .eventReceived

theorem taggingDraft_sound :
    ∃ rule, (compileRuleDraft taggingDraft ⟨[], [], [], []⟩ none).rule = some rule ∧
      Accepted (.ofNumber fun _ => .posInt 0) rule :=
  (compileRuleDraft_sound_iff (by decide)).mpr
    ⟨by decide, by unfold IsBackendAction; decide, by unfold AllWellFormed; decide, by decide⟩

/-- A draft that publishes a command with an enabled template. -/
def publishingDraft : RuleFormDraft where
  actions := [⟨[], [], ofString "reboot", .publishCommand⟩]
  condition := createConditionDraft (.comparison .equals)
  conditionEnabled := false
  enabled := true
  id := ofString "restart"
  name := ofString "Restart"
  triggerTargetId := []
  triggerType := .eventReceived

/-- The builder has no issue with the draft, and the backend cannot read its rule. -/
theorem publishingDraft_refused :
    (compileRuleDraft publishingDraft ⟨[⟨ofString "reboot", true⟩], [], [], []⟩ none).issues = [] ∧
      ¬ ∃ rule,
        (compileRuleDraft publishingDraft ⟨[⟨ofString "reboot", true⟩], [], [], []⟩ none).rule =
            some rule ∧ Accepted (.ofNumber fun _ => .posInt 0) rule := by
  refine ⟨by decide, ?_⟩
  rintro ⟨rule, hrule, definition, engine, hread, -⟩
  have hmap : mapRuleDraft publishingDraft = .ok rule := by
    rw [← Option.some.inj hrule]
    rfl
  obtain ⟨-, -, hbackend⟩ := (mapRuleDraft_read_iff hmap).mp hread
  rw [← Option.some.inj hrule] at hbackend
  cases hbackend

end Web
end PipeBolt
