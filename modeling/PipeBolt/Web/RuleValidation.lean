import PipeBolt.Js.Utf16
import PipeBolt.Web.RuleMapper

/-!
# The validation of the rule builder

`rules.validation.ts` of the web application: the issues of a draft, and the rule that it compiles
to.

Every check adds its issues to a list, so a draft without issues has passed every check.

* `validateConditionLoop_eq_nil`: the conditions that the loop over the stack accepts.
* `compileRuleDraft_eq_nil`: what a draft without issues is like.
-/

namespace PipeBolt
namespace Web

open Js

/-! ## Issues -/

def MAX_ISSUES : Nat := 100
def MAX_CONDITION_DEPTH : Nat := 3
def MAX_CONDITION_NODES : Nat := 64
def MAX_ACTIONS : Nat := 16
def MAX_JSON_LITERAL_BYTES : Nat := 8192

abbrev Issues := List RuleValidationIssue

/-- `addIssue`. -/
def addIssue (issues : Issues) (path : String) (message : IssueMessage) : Issues :=
  if issues.length < MAX_ISSUES then issues ++ [⟨message, path⟩] else issues

/-! ## Texts -/

/-- `ID_PATTERN`. -/
def isIdUnit (u : UInt16) : Bool :=
  (unit 'A' ≤ u && u ≤ unit 'Z') || (unit 'a' ≤ u && u ≤ unit 'z') ||
  (unit '0' ≤ u && u ≤ unit '9') || u == unit '_' || u == unit '.' || u == unit ':' ||
  u == unit '-'

/-- A unit of a segment of `FIELD_PATH_PATTERN`. -/
def isFieldPathUnit (u : UInt16) : Bool :=
  (unit 'A' ≤ u && u ≤ unit 'Z') || (unit 'a' ≤ u && u ≤ unit 'z') ||
  (unit '0' ≤ u && u ≤ unit '9') || u == unit '_' || u == unit '-'

/-- `ID_PATTERN.test`. -/
def testIdPattern (value : JsString) : Bool := !value.isEmpty && value.all isIdUnit

/-- `FIELD_PATH_PATTERN.test`. -/
def testFieldPathPattern (value : JsString) : Bool :=
  (value.splitOn (unit '.')).all fun segment => !segment.isEmpty && segment.all isFieldPathUnit

/-- The code points that `validateText` calls control characters. -/
def isControlCodePoint (codePoint : Nat) : Bool :=
  codePoint ≤ 0x1f || (0x7f ≤ codePoint && codePoint ≤ 0x9f)

/-- `validateText`. -/
def validateText (issues : Issues) (path : String) (value : JsString) (maxBytes : Nat) : Issues :=
  let issues :=
    if trim value = [] then addIssue issues path (.text "Value is required.") else issues
  let issues :=
    if maxBytes < byteLength value then
      addIssue issues path (.text s!"Value must not exceed {maxBytes} UTF-8 bytes.")
    else issues
  if (codePoints value).any isControlCodePoint then
    addIssue issues path (.text "Value must not contain control characters.")
  else issues

/-- `validateId`. -/
def validateId (issues : Issues) (path : String) (value : JsString) : Issues :=
  let issues := validateText issues path value 128
  if value ≠ [] ∧ testIdPattern value = false then
    addIssue issues path (.text "Use only letters, numbers, underscore, dash, dot, or colon.")
  else issues

/-! ## Values -/

/-- `validateField`. -/
def validateField (field : RuleFieldDraft) (path : String) (issues : Issues) : Issues :=
  match field.source with
  | .event | .payload =>
    let issues := validateText issues s!"{path}.path" field.value 256
    if field.value ≠ [] ∧ testFieldPathPattern field.value = false then
      addIssue issues s!"{path}.path" (.text "Use non-empty dot-separated field path segments.")
    else issues
  | .extracted => validateText issues s!"{path}.name" field.value 160
  | .deviceId | .eventType | .topic => issues

/-- The loop of `validateValue` over the stack of a parsed literal: `remaining` nodes may still be
visited. -/
def validateJsonLoop (path : String) : Nat → List JsValue → Issues → Issues
  | _, [], issues => issues
  | 0, _ :: _, issues =>
    addIssue issues path (.text "JSON literal must not exceed 256 nodes.")
  | remaining + 1, current :: stack, issues =>
    match current with
    | .number x =>
      if x.isFinite = false ∨ (x.isInteger = true ∧ x.isSafeInteger = false) then
        addIssue issues path (.text "JSON numbers must be finite and safely representable.")
      else validateJsonLoop path remaining stack issues
    | .array values =>
      if 256 < (256 - remaining) + stack.length + values.length then
        addIssue issues path (.text "JSON literal must not exceed 256 nodes.")
      else validateJsonLoop path remaining (values.reverse ++ stack) issues
    | .object properties =>
      if 256 < (256 - remaining) + stack.length + properties.length then
        addIssue issues path (.text "JSON literal must not exceed 256 nodes.")
      else validateJsonLoop path remaining ((properties.map Prod.snd).reverse ++ stack) issues
    | .null | .bool _ | .string _ => validateJsonLoop path remaining stack issues

/-- `validateValue`. -/
def validateValue (value : RuleValueDraft) (path : String) (issues : Issues) : Issues :=
  match value.type with
  | .field => validateField value.field s!"{path}.field" issues
  | .literal =>
    let number := toNumber value.literalValue
    let issues :=
      if value.literalKind ≠ .number then issues
      else if trim value.literalValue = [] ∨ number.isFinite = false then
        addIssue issues path (.text "Literal number must be finite.")
      else if number.isInteger = true ∧ number.isSafeInteger = false then
        addIssue issues path (.text "Integer literal must be safely representable.")
      else issues
    if value.literalKind ≠ .json then issues
    else if MAX_JSON_LITERAL_BYTES < byteLength value.literalValue then
      addIssue issues path
        (.text s!"JSON literal must not exceed {MAX_JSON_LITERAL_BYTES} UTF-8 bytes.")
    else
      match parseJson value.literalValue with
      | some parsed => validateJsonLoop path 256 [parsed] issues
      | none => addIssue issues path (.text "Literal must contain valid JSON.")

/-! ## Conditions -/

/-- The operators whose literals must be numbers. -/
def isNumericComparison : Generated.Comparison → Bool
  | .greaterThan | .greaterThanOrEqual | .lessThan | .lessThanOrEqual => true
  | .equals | .notEquals | .contains => false

/-- The check of one side of a numeric comparison. -/
def validateNumericSide (value : RuleValueDraft) (path : String) (issues : Issues) : Issues :=
  if value.type = .literal ∧ value.literalKind ≠ .number then
    addIssue issues path (.text "Numeric comparison literals must be numbers.")
  else issues

/-- The last case of `validateCondition`. -/
def validateComparison (op : Generated.Comparison) (left right : RuleValueDraft) (path : String)
    (issues : Issues) : Issues :=
  let issues := validateValue left s!"{path}.left" issues
  let issues := validateValue right s!"{path}.right" issues
  let issues :=
    if isNumericComparison op then
      validateNumericSide right s!"{path}.right" (validateNumericSide left s!"{path}.left" issues)
    else issues
  if op = .contains ∧ right.type = .literal ∧ right.literalKind ≠ .string then
    addIssue issues s!"{path}.right" (.text "Contains operand must use a string literal.")
  else issues

/-- An element of the stack of `validateCondition`. -/
structure PendingCondition where
  condition : RuleConditionDraft
  depth : Nat
  path : String

/-- The loop of `validateCondition` over its stack: `remaining` nodes may still be visited. -/
def validateConditionLoop : Nat → List PendingCondition → Issues → Issues
  | _, [], issues => issues
  | 0, _ :: _, issues =>
    addIssue issues "condition"
      (.text s!"Condition must not exceed {MAX_CONDITION_NODES} nodes.")
  | remaining + 1, ⟨⟨children, field, left, op, right⟩, depth, path⟩ :: stack, issues =>
    let issues :=
      if MAX_CONDITION_DEPTH < depth then
        addIssue issues path
          (.text s!"Condition nesting must not exceed depth {MAX_CONDITION_DEPTH}.")
      else issues
    match op with
    | .exists => validateConditionLoop remaining stack (validateField field s!"{path}.field" issues)
    | .group _ =>
      let issues :=
        if children.isEmpty then
          addIssue issues path (.text "Condition group must not be empty.")
        else issues
      let pending := children.zipIdx.map fun (child, index) =>
        ⟨child, depth + 1, s!"{path}.{index}"⟩
      validateConditionLoop remaining (pending.reverse ++ stack) issues
    | .not =>
      let issues :=
        if children.length ≠ 1 then
          addIssue issues path (.text "Not condition must contain exactly one child.")
        else issues
      let pending := children.head?.toList.map fun child => ⟨child, depth + 1, s!"{path}.not"⟩
      validateConditionLoop remaining (pending ++ stack) issues
    | .comparison op =>
      validateConditionLoop remaining stack (validateComparison op left right path issues)

/-- `validateCondition`. -/
def validateCondition (root : RuleConditionDraft) (issues : Issues) : Issues :=
  validateConditionLoop MAX_CONDITION_NODES [⟨root, 1, "condition"⟩] issues

/-! ## References -/

/-- The fields of a `PipeBoltDomainConfigCommandTemplate` that the builder reads. -/
structure CommandTemplateResource where
  id : JsString
  enabled : Bool
  deriving DecidableEq, Repr

/-- `kind.type` of a sink. -/
inductive SinkKindType where
  | webhook
  | database
  deriving DecidableEq, Repr

/-- The fields of a `PipeBoltDomainConfigSinkDefinition` that the builder reads. -/
structure SinkResource where
  id : JsString
  enabled : Bool
  kindType : SinkKindType
  deriving DecidableEq, Repr

/-- `RuleDraftResources`: of the routes and of the rules, their identifiers. -/
structure RuleDraftResources where
  commandTemplates : List CommandTemplateResource
  routes : List JsString
  rules : List JsString
  sinks : List SinkResource

/-- One round of the loop of `validateReferences` over the actions. -/
def validateActionReference (resources : RuleDraftResources) (issues : Issues)
    (entry : Generated.ActionIntentTemplate × Nat) : Issues :=
  match entry.1 with
  | .forwardToSink sinkId =>
    let sink := resources.sinks.find? fun candidate => candidate.id == sinkId
    if sink.all fun sink => !sink.enabled || sink.kindType != .webhook then
      addIssue issues s!"actions.{entry.2}.sink_id"
        (.text "Forward action requires an enabled webhook sink.")
    else issues
  | .publishCommand templateId =>
    let template := resources.commandTemplates.find? fun candidate => candidate.id == templateId
    if template.all fun template => !template.enabled then
      addIssue issues s!"actions.{entry.2}.template_id"
        (.text "Publish action requires an enabled command template.")
    else issues
  | .streamToUi | .dropEvent | .addMetadata _ _ | .executeCommand _ _ => issues

/-- `validateReferences`. -/
def validateReferences (rule : Generated.RuleDefinition) (resources : RuleDraftResources)
    (issues : Issues) : Issues :=
  let issues :=
    match rule.trigger with
    | .routeMatched routeId =>
      if resources.routes.contains routeId then issues
      else addIssue issues "trigger.route_id" (.text "Referenced route does not exist.")
    | .commandRequested templateId =>
      if resources.commandTemplates.any fun template => template.id == templateId then issues
      else
        addIssue issues "trigger.template_id"
          (.text "Referenced command template does not exist.")
    | .eventReceived => issues
  rule.actions.zipIdx.foldl (validateActionReference resources) issues

/-! ## Drafts -/

/-- One round of the loop of `compileRuleDraft` over the actions. -/
def validateActionDraft (issues : Issues) (entry : RuleActionDraft × Nat) : Issues :=
  match entry.1.type with
  | .forwardToSink | .publishCommand =>
    if entry.1.targetId = [] then
      addIssue issues s!"actions.{entry.2}" (.text "Action target is required.")
    else issues
  | .addMetadata =>
    let issues := validateText issues s!"actions.{entry.2}.key" entry.1.metadataKey 128
    let issues :=
      if startsWith entry.1.metadataKey (ofString "pipe_bolt.") ∨
          startsWith entry.1.metadataKey (ofString "_pipe_bolt.") then
        addIssue issues s!"actions.{entry.2}.key" (.text "Metadata key uses a reserved prefix.")
      else issues
    validateText issues s!"actions.{entry.2}.value" entry.1.metadataValue 1024
  | .streamToUi | .dropEvent | .executeCommand => issues

/-- `RuleCompileResult`. -/
structure RuleCompileResult where
  issues : Issues
  rule : Option Generated.RuleDefinition

/-- The checks of `compileRuleDraft` before the draft is mapped. -/
def validateDraft (draft : RuleFormDraft) (resources : RuleDraftResources)
    (originalRuleId : Option JsString) : Issues :=
  let issues := validateId [] "id" draft.id
  let issues := validateText issues "name" draft.name 160
  let issues :=
    if resources.rules.any fun id => id == trim draft.id && some id != originalRuleId then
      addIssue issues "id" (.text "Rule ID must be unique.")
    else issues
  let issues :=
    if draft.triggerType ≠ .eventReceived ∧ draft.triggerTargetId = [] then
      addIssue issues "trigger" (.text "Trigger target is required.")
    else issues
  let issues :=
    if draft.actions.isEmpty then
      addIssue issues "actions" (.text "Rule must define at least one action.")
    else issues
  let issues :=
    if MAX_ACTIONS < draft.actions.length then
      addIssue issues "actions" (.text s!"Rule must not exceed {MAX_ACTIONS} actions.")
    else issues
  let issues := draft.actions.zipIdx.foldl validateActionDraft issues
  if draft.conditionEnabled then validateCondition draft.condition issues else issues

/-- `compileRuleDraft`. -/
def compileRuleDraft (draft : RuleFormDraft) (resources : RuleDraftResources)
    (originalRuleId : Option JsString) : RuleCompileResult :=
  let issues := validateDraft draft resources originalRuleId
  match mapRuleDraft draft with
  | .error issue => ⟨addIssue issues issue.path issue.message, none⟩
  | .ok rule => ⟨validateReferences rule resources issues, some rule⟩

/-! ## Drafts without issues -/

theorem addIssue_ne_nil (issues : Issues) (path : String) (message : IssueMessage) :
    addIssue issues path message ≠ [] := by
  intro h
  rw [addIssue] at h
  split at h
  · simp at h
  · next hfull =>
    rw [h] at hfull
    exact hfull (by decide)

/-- A check that adds an issue has none to add, and there were none before. -/
theorem ite_addIssue_eq_nil_iff {p : Prop} [Decidable p] {issues : Issues} {path : String}
    {message : IssueMessage} :
    (if p then addIssue issues path message else issues) = [] ↔ issues = [] ∧ ¬ p := by
  by_cases hp : p
  · simp [hp, addIssue_ne_nil]
  · simp [hp]

/-- What `validateText` asks of a text. -/
structure IsTextDraft (value : JsString) (maxBytes : Nat) : Prop where
  nonblank : trim value ≠ []
  short : byteLength value ≤ maxBytes
  printable : ∀ c ∈ codePoints value, isControlCodePoint c = false

theorem validateText_eq_nil_iff {issues : Issues} {path : String} {value : JsString}
    {maxBytes : Nat} :
    validateText issues path value maxBytes = [] ↔ issues = [] ∧ IsTextDraft value maxBytes := by
  rw [validateText, ite_addIssue_eq_nil_iff, ite_addIssue_eq_nil_iff, ite_addIssue_eq_nil_iff,
    Nat.not_lt, Bool.not_eq_true, List.any_eq_false]
  constructor
  · rintro ⟨⟨⟨hissues, hblank⟩, hshort⟩, hprint⟩
    exact ⟨hissues, hblank, hshort, fun c hc => Bool.eq_false_iff.mpr (hprint c hc)⟩
  · rintro ⟨hissues, hblank, hshort, hprint⟩
    exact ⟨⟨⟨hissues, hblank⟩, hshort⟩, fun c hc => Bool.eq_false_iff.mp (hprint c hc)⟩

/-- What is asked of the fields that the engine checks. -/
def RuleFieldDraft.Checked (field : RuleFieldDraft) : Prop :=
  field.source = .extracted → IsTextDraft field.value 160

theorem validateField_eq_nil {field : RuleFieldDraft} {path : String} {issues : Issues}
    (h : validateField field path issues = []) : issues = [] ∧ field.Checked := by
  rw [validateField] at h
  rw [RuleFieldDraft.Checked]
  split at h
  · next hsource =>
    obtain ⟨h, -⟩ := ite_addIssue_eq_nil_iff.mp h
    exact ⟨(validateText_eq_nil_iff.mp h).1, fun hextracted => by simp [hextracted] at hsource⟩
  · next hsource =>
    obtain ⟨h, -⟩ := ite_addIssue_eq_nil_iff.mp h
    exact ⟨(validateText_eq_nil_iff.mp h).1, fun hextracted => by simp [hextracted] at hsource⟩
  · obtain ⟨hissues, htext⟩ := validateText_eq_nil_iff.mp h
    exact ⟨hissues, fun _ => htext⟩
  · next hsource => exact ⟨h, fun hextracted => by simp [hextracted] at hsource⟩
  · next hsource => exact ⟨h, fun hextracted => by simp [hextracted] at hsource⟩
  · next hsource => exact ⟨h, fun hextracted => by simp [hextracted] at hsource⟩

theorem validateJsonLoop_eq_nil {path : String} {remaining : Nat} {stack : List JsValue}
    {issues : Issues} (h : validateJsonLoop path remaining stack issues = []) : issues = [] := by
  fun_induction validateJsonLoop path remaining stack issues with
  | case1 => exact h
  | case2 | case3 | case5 | case7 => exact absurd h (addIssue_ne_nil _ _ _)
  | case4 _ _ _ _ _ ih | case6 _ _ _ _ _ ih | case8 _ _ _ _ _ ih => exact ih h
  | case9 _ _ _ ih | case10 _ _ _ _ ih | case11 _ _ _ _ ih => exact ih h

/-- What is asked of the fields of a value. -/
def RuleValueDraft.Checked (value : RuleValueDraft) : Prop :=
  value.type = .field → value.field.Checked

theorem validateValue_eq_nil {value : RuleValueDraft} {path : String} {issues : Issues}
    (h : validateValue value path issues = []) : issues = [] ∧ value.Checked := by
  rw [validateValue] at h
  rw [RuleValueDraft.Checked]
  cases htype : value.type with
  | field =>
    rw [htype] at h
    obtain ⟨hissues, hfield⟩ := validateField_eq_nil h
    exact ⟨hissues, fun _ => hfield⟩
  | literal =>
    rw [htype] at h
    refine ⟨?_, fun hfield => by cases hfield⟩
    dsimp only at h
    -- The checks of a literal only add issues.
    have hnumber : ∀ number : JsNumber,
        (if value.literalKind ≠ .number then issues
          else if trim value.literalValue = [] ∨ number.isFinite = false then
            addIssue issues path (.text "Literal number must be finite.")
          else if number.isInteger = true ∧ number.isSafeInteger = false then
            addIssue issues path (.text "Integer literal must be safely representable.")
          else issues) = [] → issues = [] := by
      intro number h
      split at h
      · exact h
      · split at h
        · exact absurd h (addIssue_ne_nil _ _ _)
        · exact (ite_addIssue_eq_nil_iff.mp h).1
    split at h
    · exact hnumber _ h
    · split at h
      · exact absurd h (addIssue_ne_nil _ _ _)
      · split at h
        · exact hnumber _ (validateJsonLoop_eq_nil h)
        · exact absurd h (addIssue_ne_nil _ _ _)

theorem validateComparison_eq_nil {op : Generated.Comparison} {left right : RuleValueDraft}
    {path : String} {issues : Issues} (h : validateComparison op left right path issues = []) :
    issues = [] ∧ left.Checked ∧ right.Checked := by
  rw [validateComparison] at h
  obtain ⟨h, -⟩ := ite_addIssue_eq_nil_iff.mp h
  have hsides : validateValue right s!"{path}.right" (validateValue left s!"{path}.left" issues) =
      [] := by
    split at h
    · rw [validateNumericSide, ite_addIssue_eq_nil_iff, validateNumericSide,
        ite_addIssue_eq_nil_iff] at h
      exact h.1.1
    · exact h
  obtain ⟨hleft, hright⟩ := validateValue_eq_nil hsides
  obtain ⟨hissues, hleft⟩ := validateValue_eq_nil hleft
  exact ⟨hissues, hleft, hright⟩

mutual

/-- A condition that the builder accepts at a depth. -/
def RuleConditionDraft.Checked : RuleConditionDraft → Nat → Prop
  | ⟨children, field, left, op, right⟩, depth =>
    depth ≤ MAX_CONDITION_DEPTH ∧
      match op with
      | .exists => field.Checked
      | .group _ => children ≠ [] ∧ RuleConditionDraft.AllChecked children (depth + 1)
      | .not => children.length = 1 ∧ RuleConditionDraft.AllChecked children (depth + 1)
      | .comparison _ => left.Checked ∧ right.Checked

/-- The conditions of a group, all at one depth. -/
def RuleConditionDraft.AllChecked : List RuleConditionDraft → Nat → Prop
  | [], _ => True
  | child :: children, depth =>
    child.Checked depth ∧ RuleConditionDraft.AllChecked children depth

end

mutual

/-- The nodes of a condition. -/
def RuleConditionDraft.nodes : RuleConditionDraft → Nat
  | ⟨children, _, _, op, _⟩ =>
    match op with
    | .exists | .comparison _ => 1
    | .group _ | .not => RuleConditionDraft.nodesAll children + 1

/-- The nodes of all conditions of a group. -/
def RuleConditionDraft.nodesAll : List RuleConditionDraft → Nat
  | [] => 0
  | child :: children => child.nodes + RuleConditionDraft.nodesAll children

end

namespace RuleConditionDraft

theorem allChecked_iff {children : List RuleConditionDraft} {depth : Nat} :
    AllChecked children depth ↔ ∀ child ∈ children, child.Checked depth := by
  induction children with
  | nil => simp [AllChecked]
  | cons child children ih => rw [AllChecked, ih, List.forall_mem_cons]

theorem nodesAll_append (children children' : List RuleConditionDraft) :
    nodesAll (children ++ children') = nodesAll children + nodesAll children' := by
  induction children with
  | nil => rw [List.nil_append, nodesAll, Nat.zero_add]
  | cons child children ih => rw [List.cons_append, nodesAll, nodesAll, ih, Nat.add_assoc]

theorem nodesAll_reverse (children : List RuleConditionDraft) :
    nodesAll children.reverse = nodesAll children := by
  induction children with
  | nil => rfl
  | cons child children ih =>
    rw [List.reverse_cons, nodesAll_append, ih, nodesAll, nodesAll, nodesAll]
    omega

end RuleConditionDraft

/-- The loop accepts conditions that are checked at their depths and that it has nodes left for. -/
theorem validateConditionLoop_eq_nil {remaining : Nat} {stack : List PendingCondition}
    {issues : Issues} (h : validateConditionLoop remaining stack issues = []) :
    issues = [] ∧ (∀ pending ∈ stack, pending.condition.Checked pending.depth) ∧
      RuleConditionDraft.nodesAll (stack.map PendingCondition.condition) ≤ remaining := by
  induction remaining generalizing stack issues with
  | zero =>
    cases stack with
    | nil => exact ⟨h, fun _ hmem => absurd hmem List.not_mem_nil, Nat.le_refl 0⟩
    | cons current stack => exact absurd h (addIssue_ne_nil _ _ _)
  | succ remaining ih =>
    cases stack with
    | nil => exact ⟨h, fun _ hmem => absurd hmem List.not_mem_nil, Nat.zero_le _⟩
    | cons current stack =>
      obtain ⟨⟨children, field, left, op, right⟩, depth, path⟩ := current
      rw [List.forall_mem_cons, List.map_cons, RuleConditionDraft.nodesAll]
      cases op with
      | «exists» =>
        rw [validateConditionLoop] at h
        rw [RuleConditionDraft.Checked, RuleConditionDraft.nodes]
        obtain ⟨h, hstack, hnodes⟩ := ih h
        obtain ⟨h, hfield⟩ := validateField_eq_nil h
        obtain ⟨hissues, hdepth⟩ := ite_addIssue_eq_nil_iff.mp h
        exact ⟨hissues, ⟨⟨Nat.not_lt.mp hdepth, hfield⟩, hstack⟩, by omega⟩
      | comparison op =>
        rw [validateConditionLoop] at h
        rw [RuleConditionDraft.Checked, RuleConditionDraft.nodes]
        obtain ⟨h, hstack, hnodes⟩ := ih h
        obtain ⟨h, hleft, hright⟩ := validateComparison_eq_nil h
        obtain ⟨hissues, hdepth⟩ := ite_addIssue_eq_nil_iff.mp h
        exact ⟨hissues, ⟨⟨Nat.not_lt.mp hdepth, hleft, hright⟩, hstack⟩, by omega⟩
      | group op =>
        rw [validateConditionLoop] at h
        rw [RuleConditionDraft.Checked, RuleConditionDraft.nodes]
        obtain ⟨h, hstack, hnodes⟩ := ih h
        obtain ⟨h, hempty⟩ := ite_addIssue_eq_nil_iff.mp h
        obtain ⟨hissues, hdepth⟩ := ite_addIssue_eq_nil_iff.mp h
        have hpending : (children.zipIdx.map fun entry : RuleConditionDraft × Nat =>
            (⟨entry.1, depth + 1, s!"{path}.{entry.2}"⟩ : PendingCondition)).map
              PendingCondition.condition = children := by
          rw [List.map_map]
          exact List.zipIdx_map_fst 0 children
        rw [List.map_append, List.map_reverse, hpending, RuleConditionDraft.nodesAll_append,
          RuleConditionDraft.nodesAll_reverse] at hnodes
        refine ⟨hissues, ⟨⟨Nat.not_lt.mp hdepth, ?_, ?_⟩, ?_⟩, by omega⟩
        · rwa [List.isEmpty_iff] at hempty
        · rw [RuleConditionDraft.allChecked_iff]
          intro child hchild
          obtain ⟨entry, hentry, rfl⟩ :=
            List.mem_map.mp ((List.zipIdx_map_fst 0 children).symm ▸ hchild)
          exact hstack ⟨entry.1, depth + 1, s!"{path}.{entry.2}"⟩ (List.mem_append_left _
            (List.mem_reverse.mpr (List.mem_map_of_mem hentry)))
        · exact fun pending hmem => hstack pending (List.mem_append_right _ hmem)
      | not =>
        rw [validateConditionLoop] at h
        rw [RuleConditionDraft.Checked, RuleConditionDraft.nodes]
        obtain ⟨h, hstack, hnodes⟩ := ih h
        obtain ⟨h, hlength⟩ := ite_addIssue_eq_nil_iff.mp h
        obtain ⟨hissues, hdepth⟩ := ite_addIssue_eq_nil_iff.mp h
        obtain ⟨child, rfl⟩ := List.length_eq_one_iff.mp (not_not.mp hlength)
        have hchild := hstack ⟨child, depth + 1, s!"{path}.not"⟩ (List.mem_append_left _
          (List.mem_singleton_self _))
        have hnodes' : RuleConditionDraft.nodesAll
            (child :: stack.map PendingCondition.condition) ≤ remaining := hnodes
        rw [RuleConditionDraft.nodesAll] at hnodes'
        refine ⟨hissues, ⟨⟨Nat.not_lt.mp hdepth, rfl, ?_⟩, ?_⟩, ?_⟩
        · rw [RuleConditionDraft.allChecked_iff]
          intro other hother
          obtain rfl := List.mem_singleton.mp hother
          exact hchild
        · exact fun pending hmem => hstack pending (List.mem_append_right _ hmem)
        · rw [RuleConditionDraft.nodesAll, RuleConditionDraft.nodesAll]
          omega

/-- A loop of checks leaves no issues when no round does. -/
theorem foldl_eq_nil {α : Type} {check : Issues → α → Issues} {p : α → Prop}
    (hcheck : ∀ issues x, check issues x = [] → issues = [] ∧ p x) {xs : List α}
    {issues : Issues} (h : xs.foldl check issues = []) : issues = [] ∧ ∀ x ∈ xs, p x := by
  induction xs generalizing issues with
  | nil => exact ⟨h, fun _ hmem => absurd hmem List.not_mem_nil⟩
  | cons x xs ih =>
    obtain ⟨h, hrest⟩ := ih h
    obtain ⟨hissues, hx⟩ := hcheck issues x h
    exact ⟨hissues, List.forall_mem_cons.mpr ⟨hx, hrest⟩⟩

theorem validateReferences_eq_nil {rule : Generated.RuleDefinition}
    {resources : RuleDraftResources} {issues : Issues}
    (h : validateReferences rule resources issues = []) : issues = [] := by
  rw [validateReferences] at h
  have hround : ∀ (issues : Issues) (entry : Generated.ActionIntentTemplate × Nat),
      validateActionReference resources issues entry = [] → issues = [] ∧ True := by
    intro issues entry h
    rw [validateActionReference] at h
    refine ⟨?_, trivial⟩
    split at h
    · exact (ite_addIssue_eq_nil_iff.mp h).1
    · exact (ite_addIssue_eq_nil_iff.mp h).1
    all_goals exact h
  obtain ⟨h, -⟩ := foldl_eq_nil hround h
  split at h
  · split at h
    · exact h
    · exact absurd h (addIssue_ne_nil _ _ _)
  · split at h
    · exact h
    · exact absurd h (addIssue_ne_nil _ _ _)
  · exact h

/-- What is asked of an action that adds metadata. -/
structure RuleActionDraft.MetadataChecked (action : RuleActionDraft) : Prop where
  key : IsTextDraft action.metadataKey 128
  free : startsWith action.metadataKey (ofString "pipe_bolt.") = false ∧
    startsWith action.metadataKey (ofString "_pipe_bolt.") = false
  value : IsTextDraft action.metadataValue 1024

theorem validateActionDraft_eq_nil {issues : Issues} {entry : RuleActionDraft × Nat}
    (h : validateActionDraft issues entry = []) :
    issues = [] ∧ (entry.1.type = .addMetadata → entry.1.MetadataChecked) := by
  rw [validateActionDraft] at h
  cases htype : entry.1.type with
  | addMetadata =>
    rw [htype] at h
    obtain ⟨h, hvalue⟩ := validateText_eq_nil_iff.mp h
    obtain ⟨h, hfree⟩ := ite_addIssue_eq_nil_iff.mp h
    obtain ⟨hissues, hkey⟩ := validateText_eq_nil_iff.mp h
    rw [not_or, Bool.not_eq_true, Bool.not_eq_true] at hfree
    exact ⟨hissues, fun _ => ⟨hkey, hfree, hvalue⟩⟩
  | forwardToSink =>
    rw [htype] at h
    exact ⟨(ite_addIssue_eq_nil_iff.mp h).1, fun h => by cases h⟩
  | publishCommand =>
    rw [htype] at h
    exact ⟨(ite_addIssue_eq_nil_iff.mp h).1, fun h => by cases h⟩
  | streamToUi =>
    rw [htype] at h
    exact ⟨h, fun h => by cases h⟩
  | dropEvent =>
    rw [htype] at h
    exact ⟨h, fun h => by cases h⟩
  | executeCommand =>
    rw [htype] at h
    exact ⟨h, fun h => by cases h⟩

/-- A draft that has passed the checks of the builder. -/
structure RuleFormDraft.Checked (draft : RuleFormDraft) : Prop where
  name : IsTextDraft draft.name 160
  some_action : draft.actions ≠ []
  few_actions : draft.actions.length ≤ MAX_ACTIONS
  metadata : ∀ action ∈ draft.actions, action.type = .addMetadata → action.MetadataChecked
  condition : draft.conditionEnabled = true →
    draft.condition.Checked 1 ∧ draft.condition.nodes ≤ MAX_CONDITION_NODES

theorem validateDraft_eq_nil {draft : RuleFormDraft} {resources : RuleDraftResources}
    {originalRuleId : Option JsString} (h : validateDraft draft resources originalRuleId = []) :
    draft.Checked := by
  rw [validateDraft] at h
  obtain ⟨h, hcondition⟩ : draft.actions.zipIdx.foldl validateActionDraft _ = [] ∧
      (draft.conditionEnabled = true →
        draft.condition.Checked 1 ∧ draft.condition.nodes ≤ MAX_CONDITION_NODES) := by
    split at h
    · obtain ⟨h, hroot, hnodes⟩ := validateConditionLoop_eq_nil h
      refine ⟨h, fun _ => ⟨hroot _ (List.mem_singleton_self _), ?_⟩⟩
      rw [List.map_singleton, RuleConditionDraft.nodesAll, RuleConditionDraft.nodesAll] at hnodes
      exact hnodes
    · next hdisabled => exact ⟨h, fun henabled => absurd henabled hdisabled⟩
  have hround : ∀ (issues : Issues) (entry : RuleActionDraft × Nat),
      validateActionDraft issues entry = [] →
        issues = [] ∧ (entry.1.type = .addMetadata → entry.1.MetadataChecked) :=
    fun _ _ => validateActionDraft_eq_nil
  obtain ⟨h, hactions⟩ := foldl_eq_nil hround h
  obtain ⟨h, hfew⟩ := ite_addIssue_eq_nil_iff.mp h
  obtain ⟨h, hsome⟩ := ite_addIssue_eq_nil_iff.mp h
  obtain ⟨h, -⟩ := ite_addIssue_eq_nil_iff.mp h
  obtain ⟨h, -⟩ := ite_addIssue_eq_nil_iff.mp h
  obtain ⟨-, hname⟩ := validateText_eq_nil_iff.mp h
  refine ⟨hname, fun hnil => hsome (List.isEmpty_iff.mpr hnil), Nat.not_lt.mp hfew, ?_, hcondition⟩
  intro action haction
  obtain ⟨entry, hentry, rfl⟩ :=
    List.mem_map.mp ((List.zipIdx_map_fst 0 draft.actions).symm ▸ haction)
  exact hactions entry hentry

/-- A draft without issues is checked and mapped. -/
theorem compileRuleDraft_eq_nil {draft : RuleFormDraft} {resources : RuleDraftResources}
    {originalRuleId : Option JsString}
    (h : (compileRuleDraft draft resources originalRuleId).issues = []) :
    draft.Checked ∧ ∃ rule, mapRuleDraft draft = .ok rule ∧
      (compileRuleDraft draft resources originalRuleId).rule = some rule := by
  rw [compileRuleDraft] at h ⊢
  cases hmap : mapRuleDraft draft with
  | error issue =>
    rw [hmap] at h
    exact absurd h (addIssue_ne_nil _ _ _)
  | ok rule =>
    rw [hmap] at h
    exact ⟨validateDraft_eq_nil (validateReferences_eq_nil h), rule, rfl, rfl⟩

end Web
end PipeBolt
