import PipeBolt.Lib.VersionedCell
import PipeBolt.Web.RuleValidation

/-!
# The rule editor

`RuleBuilderView.vue` on a stored rule, with `useRuleDraft` and `useRulesConfig`: the page reads the
configuration through a query that other parts of the application share, makes a draft of the rule,
and saves the configuration with the rule of the draft in the place of the stored one.

The server keeps the configuration in a versioned cell (`PipeBolt.Storage.Versions`).  Other
operators write to it at any time, answers to refetches arrive at any time and in any order, and a
save that the page gives up may still reach the server.

* `Consistent`: what the page has read is what the store held at the version it names.
* `EditStep.stored_of_commit`: a save that succeeds replaces the rule it was made over.
* `commits_replace_baseline_iff`: when that is the rule that the draft was made from.
* `baseline_taken_last`: which rule that is.
-/

namespace PipeBolt
namespace Web

open Js Transition VersionedCell

/-! ## Configurations -/

/-- The parts of a `PipeBoltApiDtoProjectConfigDocumentV1` that the builder reads. -/
structure ConfigDocument where
  commandTemplates : List CommandTemplateResource
  routes : List JsString
  rules : List Generated.RuleDefinition
  sinks : List SinkResource

/-- `PipeBoltApiDtoProjectConfigResponse`. -/
structure ConfigResponse where
  config : ConfigDocument
  version : Nat

/-- `config.rules.find`. -/
def ConfigDocument.rule (config : ConfigDocument) (ruleId : JsString) :
    Option Generated.RuleDefinition :=
  config.rules.find? fun rule => rule.id == ruleId

/-- The `resources` of the page. -/
def ConfigDocument.resources (config : ConfigDocument) : RuleDraftResources where
  commandTemplates := config.commandTemplates
  routes := config.routes
  rules := config.rules.map Generated.RuleDefinition.id
  sinks := config.sinks

/-! ## The page -/

/-- A save: what is sent, with the compiled rule, the rule that it replaces and the baseline of the
draft. -/
structure SaveRequest where
  nextConfig : ConfigDocument
  expectedVersion : Nat
  rule : Generated.RuleDefinition
  original : Generated.RuleDefinition
  baseline : Option Generated.RuleDefinition

/-- How far a save has come: it is on its way to the server, the server has answered it with a
version or with a conflict, or the answer is in the query cache. -/
inductive SavePhase where
  | sent
  | answered (version : Option Nat)
  | cached
  deriving DecidableEq, Repr

/-- The state of the page: `query.data`, the state of `useRuleDraft` and the save that
`isSaving` is about.  The baseline is the rule whose text `baseline` holds. -/
structure RuleEditor where
  data : Option ConfigResponse
  draft : Option RuleFormDraft
  baseline : Option Generated.RuleDefinition
  hydrated : Bool
  saving : Option (SaveRequest × SavePhase)

/-- `createRuleDraft`, with the uuid that it draws. -/
def createRuleDraft (uuid : JsString) : RuleFormDraft where
  actions := [createActionDraft .streamToUi]
  condition := createConditionDraft (.comparison .equals)
  conditionEnabled := false
  enabled := false
  id := ofString "rule-" ++ uuid
  name := ofString "New rule"
  triggerTargetId := []
  triggerType := .eventReceived

namespace RuleEditor

variable (ruleId : JsString) (editor : RuleEditor)

/-- `originalRule`. -/
def originalRule : Option Generated.RuleDefinition :=
  editor.data.bind fun data => data.config.rule ruleId

/-- `compiled`. -/
def compiled : RuleCompileResult :=
  match editor.draft with
  | none => ⟨[], none⟩
  | some draft =>
    let resources := (editor.data.map fun data => data.config.resources).getD ⟨[], [], [], []⟩
    compileRuleDraft draft resources ((editor.originalRule ruleId).map Generated.RuleDefinition.id)

/-- The callback of the `watch` in `useRuleDraft`, for the identity of the page. -/
def hydrate : RuleEditor :=
  if editor.hydrated then editor
  else
    match editor.originalRule ruleId with
    | none => editor
    | some source =>
      match ruleToDraft source with
      | .ok draft =>
        { editor with draft := some draft, baseline := some source, hydrated := true }
      | .error _ => editor

/-- `reset`.  When `ruleToDraft` throws, nothing has changed yet. -/
def reset (uuid : JsString) : RuleEditor :=
  match editor.originalRule ruleId with
  | none => { editor with draft := some (createRuleDraft uuid), baseline := none }
  | some source =>
    match ruleToDraft source with
    | .ok draft => { editor with draft := some draft, baseline := some source }
    | .error _ => editor

/-- What `save` sends, with `saveRules`.  The page shows the form only while it finds the rule, and
the audit reason is not refused. -/
def saveRequest : Option SaveRequest :=
  match editor.saving, editor.data, editor.originalRule ruleId, (editor.compiled ruleId).rule with
  | none, some current, some original, some rule =>
    if (editor.compiled ruleId).issues = [] then
      some {
        nextConfig := { current.config with
          rules := current.config.rules.map fun candidate =>
            if candidate.id == original.id then rule else candidate }
        expectedVersion := current.version
        rule
        original
        baseline := editor.baseline }
    else none
  | _, _, _, _ => none

variable {ruleId} {editor}

/-- A save is made over the rule of the query and from the baseline. -/
theorem saveRequest_eq_some {request : SaveRequest}
    (h : editor.saveRequest ruleId = some request) :
    editor.originalRule ruleId = some request.original ∧ editor.baseline = request.baseline ∧
      ∃ data, editor.data = some data ∧ data.version = request.expectedVersion := by
  rw [saveRequest] at h
  split at h
  · next current original rule hsaving hdata horiginal hrule =>
    split at h
    · obtain rfl := Option.some.inj h
      exact ⟨horiginal, rfl, current, hdata, rfl⟩
    · cases h
  · cases h

/-- A hydration reads nothing and sends nothing. -/
theorem hydrate_frame (ruleId : JsString) (editor : RuleEditor) :
    (editor.hydrate ruleId).data = editor.data ∧
      (editor.hydrate ruleId).saving = editor.saving := by
  rw [hydrate]
  split
  · exact ⟨rfl, rfl⟩
  · split
    · exact ⟨rfl, rfl⟩
    · split <;> exact ⟨rfl, rfl⟩

/-- Neither does a reset. -/
theorem reset_frame (ruleId : JsString) (editor : RuleEditor) (uuid : JsString) :
    (editor.reset ruleId uuid).data = editor.data ∧
      (editor.reset ruleId uuid).saving = editor.saving := by
  rw [reset]
  split
  · exact ⟨rfl, rfl⟩
  · split <;> exact ⟨rfl, rfl⟩

end RuleEditor

/-! ## The page and the server -/

/-- The store, the answers to refetches that are on their way to the page, the page, and the saves
that it has given up and that the server has not handled. -/
structure EditSystem where
  store : Cell ConfigDocument
  answers : List ConfigResponse
  editor : RuleEditor
  abandoned : List SaveRequest

/-- What the server answers to a read. -/
def EditSystem.stored (s : EditSystem) : Option ConfigResponse :=
  (s.store.at? s.store.version).map fun config => ⟨config, s.store.version⟩

/-- The rule in the store. -/
def EditSystem.storedRule (s : EditSystem) (ruleId : JsString) : Option Generated.RuleDefinition :=
  s.stored.bind fun response => response.config.rule ruleId

/-- `update_project_config`: a compare-and-set on the version. -/
def updateProjectConfig (store : Cell ConfigDocument) (config : ConfigDocument)
    (expectedVersion : Nat) : Option (Cell ConfigDocument) :=
  if store.version = expectedVersion then some (store.push config) else none

/-- What happens: another operator writes, a refetch is answered, its answer arrives, the `watch`
runs, the draft is edited or reset, a save is sent, the server commits or refuses it, its answer
arrives, the page is done with it or gives it up. -/
inductive EditLabel where
  | write
  | read
  | arrive
  | hydrate
  | edit
  | reset
  | save (request : SaveRequest)
  | commit (request : SaveRequest)
  | conflict (request : SaveRequest)
  | respond
  | refuse
  | accept
  | giveUp

/-- The steps of the page on a rule, of the server and of other operators. -/
inductive EditStep (ruleId : JsString) : EditSystem → EditLabel → EditSystem → Prop
  | write (s : EditSystem) (config : ConfigDocument) :
    EditStep ruleId s .write { s with store := s.store.push config }
  | read {s : EditSystem} {response : ConfigResponse} (h : s.stored = some response) :
    EditStep ruleId s .read { s with answers := response :: s.answers }
  | arrive {s : EditSystem} {response : ConfigResponse} (before after : List ConfigResponse)
    (h : s.answers = before ++ response :: after) :
    EditStep ruleId s .arrive
      { s with answers := before ++ after, editor := { s.editor with data := some response } }
  | hydrate (s : EditSystem) :
    EditStep ruleId s .hydrate { s with editor := s.editor.hydrate ruleId }
  -- `update`, while there is a draft.
  | edit {s : EditSystem} {old : RuleFormDraft} (h : s.editor.draft = some old)
    (new : RuleFormDraft) :
    EditStep ruleId s .edit { s with editor := { s.editor with draft := some new } }
  -- The button, or the end of `reloadLatest`.
  | reset (s : EditSystem) (uuid : JsString) :
    EditStep ruleId s .reset { s with editor := s.editor.reset ruleId uuid }
  | save {s : EditSystem} (request : SaveRequest) (h : s.editor.saveRequest ruleId = some request) :
    EditStep ruleId s (.save request)
      { s with editor := { s.editor with saving := some (request, .sent) } }
  | commit {s : EditSystem} {request : SaveRequest} {store : Cell ConfigDocument}
    (h : s.editor.saving = some (request, .sent))
    (hstore : updateProjectConfig s.store request.nextConfig request.expectedVersion =
      some store) :
    EditStep ruleId s (.commit request)
      { s with
        store
        editor := { s.editor with saving := some (request, .answered (some store.version)) } }
  | commitAbandoned {s : EditSystem} {request : SaveRequest} {store : Cell ConfigDocument}
    (before after : List SaveRequest) (h : s.abandoned = before ++ request :: after)
    (hstore : updateProjectConfig s.store request.nextConfig request.expectedVersion =
      some store) :
    EditStep ruleId s (.commit request) { s with store, abandoned := before ++ after }
  | conflict {s : EditSystem} {request : SaveRequest} (h : s.editor.saving = some (request, .sent))
    (hstore : updateProjectConfig s.store request.nextConfig request.expectedVersion = none) :
    EditStep ruleId s (.conflict request)
      { s with editor := { s.editor with saving := some (request, .answered none) } }
  -- `setQueryData`; the catalog of the commands is invalidated before the save is over.
  | respond {s : EditSystem} {request : SaveRequest} {version : Nat}
    (h : s.editor.saving = some (request, .answered (some version))) :
    EditStep ruleId s .respond
      { s with
        editor := { s.editor with
          data := some ⟨request.nextConfig, version⟩
          saving := some (request, .cached) } }
  | refuse {s : EditSystem} {request : SaveRequest}
    (h : s.editor.saving = some (request, .answered none)) :
    EditStep ruleId s .refuse { s with editor := { s.editor with saving := none } }
  -- `acceptSaved`.
  | accept {s : EditSystem} {request : SaveRequest}
    (h : s.editor.saving = some (request, .cached)) :
    EditStep ruleId s .accept
      { s with editor := { s.editor with baseline := some request.rule, saving := none } }
  -- An error of the network, or one that the server answers with before it writes.
  | giveUp {s : EditSystem} {request : SaveRequest} {phase : SavePhase}
    (h : s.editor.saving = some (request, phase)) :
    EditStep ruleId s .giveUp
      { s with
        editor := { s.editor with saving := none }
        abandoned := if phase = .sent then request :: s.abandoned else s.abandoned }

/-! ## What the page has read -/

/-- The store held the configuration at the version that the answer names. -/
def ConfigResponse.HeldBy (response : ConfigResponse) (store : Cell ConfigDocument) : Prop :=
  store.at? response.version = some response.config

/-- The rule that a save replaces is the one of the version that it expects. -/
def SaveRequest.MadeOver (request : SaveRequest) (ruleId : JsString)
    (store : Cell ConfigDocument) : Prop :=
  ∃ config, store.at? request.expectedVersion = some config ∧
    config.rule ruleId = some request.original

variable {ruleId : JsString} {store : Cell ConfigDocument}

theorem ConfigResponse.HeldBy.push {response : ConfigResponse} (h : response.HeldBy store)
    (config : ConfigDocument) : response.HeldBy (store.push config) :=
  Cell.at?_push_of_eq_some h config

theorem SaveRequest.MadeOver.push {request : SaveRequest} (h : request.MadeOver ruleId store)
    (config : ConfigDocument) : request.MadeOver ruleId (store.push config) := by
  obtain ⟨old, hold, hrule⟩ := h
  exact ⟨old, Cell.at?_push_of_eq_some hold config, hrule⟩

theorem updateProjectConfig_eq_some_iff {config : ConfigDocument} {expectedVersion : Nat}
    {store' : Cell ConfigDocument} :
    updateProjectConfig store config expectedVersion = some store' ↔
      store.version = expectedVersion ∧ store' = store.push config := by
  rw [updateProjectConfig, Option.ite_none_right_eq_some, Option.some_inj,
    eq_comm (a := store.push config)]

/-- Whatever the page has read is a version of the store, and so is what it will be told of. -/
structure Consistent (ruleId : JsString) (s : EditSystem) : Prop where
  answers : ∀ response ∈ s.answers, response.HeldBy s.store
  data : ∀ response, s.editor.data = some response → response.HeldBy s.store
  saving : ∀ request phase, s.editor.saving = some (request, phase) →
    request.MadeOver ruleId s.store
  answered : ∀ request version, s.editor.saving = some (request, .answered (some version)) →
    (⟨request.nextConfig, version⟩ : ConfigResponse).HeldBy s.store
  abandoned : ∀ request ∈ s.abandoned, request.MadeOver ruleId s.store

/-- The page has just been opened: no draft, and no save. -/
structure Opened (s : EditSystem) : Prop where
  answers : ∀ response ∈ s.answers, response.HeldBy s.store
  data : ∀ response, s.editor.data = some response → response.HeldBy s.store
  draft : s.editor.draft = none
  saving : s.editor.saving = none
  abandoned : s.abandoned = []

variable {s t : EditSystem} {l : EditLabel} {es : List (Edge EditSystem EditLabel)}

theorem Opened.consistent (h : Opened s) : Consistent ruleId s where
  answers := h.answers
  data := h.data
  saving _ _ hsaving := by
    rw [h.saving] at hsaving
    cases hsaving
  answered _ _ hsaving := by
    rw [h.saving] at hsaving
    cases hsaving
  abandoned _ hmem := by
    rw [h.abandoned] at hmem
    cases hmem

/-- A write, of whomever, leaves what was read in the history of the store. -/
theorem Consistent.push (h : Consistent ruleId s) (config : ConfigDocument) :
    Consistent ruleId { s with store := s.store.push config } where
  answers response hmem := (h.answers response hmem).push config
  data response hdata := (h.data response hdata).push config
  saving request phase hsaving := (h.saving request phase hsaving).push config
  answered request version hsaving := (h.answered request version hsaving).push config
  abandoned request hmem := (h.abandoned request hmem).push config

/-- The page with another draft. -/
theorem Consistent.redraft (h : Consistent ruleId s) {editor : RuleEditor}
    (hdata : editor.data = s.editor.data) (hsaving : editor.saving = s.editor.saving) :
    Consistent ruleId { s with editor } where
  answers := h.answers
  data response hresponse := h.data response (hdata ▸ hresponse)
  saving request phase hsome := h.saving request phase (hsaving ▸ hsome)
  answered request version hsome := h.answered request version (hsaving ▸ hsome)
  abandoned := h.abandoned

/-- The page without a save. -/
theorem Consistent.settle (h : Consistent ruleId s) {editor : RuleEditor}
    (hdata : editor.data = s.editor.data) (hsaving : editor.saving = none) :
    Consistent ruleId { s with editor } where
  answers := h.answers
  data response hresponse := h.data response (hdata ▸ hresponse)
  saving _ _ hsome := nomatch hsaving.symm.trans hsome
  answered _ _ hsome := nomatch hsaving.symm.trans hsome
  abandoned := h.abandoned

/-- The page with a save that has come to a phase. -/
theorem Consistent.proceed (h : Consistent ruleId s) {editor : RuleEditor} {request : SaveRequest}
    {phase : SavePhase} (hmade : request.MadeOver ruleId s.store)
    (hdata : ∀ response, editor.data = some response → response.HeldBy s.store)
    (hsaving : editor.saving = some (request, phase))
    (hanswered : ∀ version, phase = .answered (some version) →
      (⟨request.nextConfig, version⟩ : ConfigResponse).HeldBy s.store) :
    Consistent ruleId { s with editor } where
  answers := h.answers
  data := hdata
  saving _ _ hsome := by
    obtain ⟨rfl, -⟩ := Prod.mk.inj (Option.some.inj (hsaving.symm.trans hsome))
    exact hmade
  answered _ version hsome := by
    obtain ⟨rfl, hphase⟩ := Prod.mk.inj (Option.some.inj (hsaving.symm.trans hsome))
    exact hanswered version hphase
  abandoned := h.abandoned

theorem EditStep.consistent (hstep : EditStep ruleId s l t) (h : Consistent ruleId s) :
    Consistent ruleId t := by
  cases hstep with
  | write config => exact h.push config
  | read hread =>
    rw [EditSystem.stored, Option.map_eq_some_iff] at hread
    obtain ⟨config, hconfig, rfl⟩ := hread
    exact { h with answers := List.forall_mem_cons.mpr ⟨hconfig, h.answers⟩ }
  | arrive before after hanswers =>
    have hall := h.answers
    rw [hanswers, List.forall_mem_append, List.forall_mem_cons] at hall
    obtain ⟨hbefore, hresponse, hafter⟩ := hall
    exact { h with
      answers := List.forall_mem_append.mpr ⟨hbefore, hafter⟩
      data := fun _ hsome => Option.some.inj hsome ▸ hresponse }
  | hydrate =>
    obtain ⟨hdata, hsaving⟩ := s.editor.hydrate_frame ruleId
    exact h.redraft hdata hsaving
  | edit => exact h.redraft rfl rfl
  | reset uuid =>
    obtain ⟨hdata, hsaving⟩ := s.editor.reset_frame ruleId uuid
    exact h.redraft hdata hsaving
  | save request hrequest =>
    obtain ⟨horiginal, -, data, hdata, hversion⟩ := RuleEditor.saveRequest_eq_some hrequest
    rw [RuleEditor.originalRule, hdata] at horiginal
    exact h.proceed ⟨data.config, hversion ▸ h.data data hdata, horiginal⟩ h.data rfl
      fun _ hphase => nomatch hphase
  | @commit request store hsaving hstore =>
    obtain ⟨-, rfl⟩ := updateProjectConfig_eq_some_iff.mp hstore
    have hpush := h.push request.nextConfig
    refine hpush.proceed (hpush.saving request .sent hsaving) hpush.data rfl fun version hphase => ?_
    obtain rfl := Option.some.inj (SavePhase.answered.inj hphase)
    exact Cell.at?_push_version s.store request.nextConfig
  | @commitAbandoned request store before after habandoned hstore =>
    obtain ⟨-, rfl⟩ := updateProjectConfig_eq_some_iff.mp hstore
    have hpush := h.push request.nextConfig
    have hall := hpush.abandoned
    rw [habandoned, List.forall_mem_append, List.forall_mem_cons] at hall
    exact { hpush with abandoned := List.forall_mem_append.mpr ⟨hall.1, hall.2.2⟩ }
  | conflict hsaving hstore =>
    exact h.proceed (h.saving _ .sent hsaving) h.data rfl fun _ hphase => nomatch hphase
  | @respond request version hsaving =>
    refine h.proceed (h.saving request _ hsaving) (fun _ hsome => ?_) rfl
      fun _ hphase => nomatch hphase
    exact Option.some.inj hsome ▸ h.answered request version hsaving
  | refuse hsaving => exact h.settle rfl rfl
  | accept hsaving => exact h.settle rfl rfl
  | @giveUp request phase hsaving =>
    have hrest : Consistent ruleId { s with editor := { s.editor with saving := none } } :=
      h.settle rfl rfl
    refine { hrest with abandoned := ?_ }
    show ∀ request' ∈ if phase = .sent then request :: s.abandoned else s.abandoned, _
    split
    · exact List.forall_mem_cons.mpr ⟨h.saving request phase hsaving, h.abandoned⟩
    · exact h.abandoned

/-- What the store holds is what it holds at its version. -/
theorem EditSystem.storedRule_eq {config : ConfigDocument}
    (h : s.store.at? s.store.version = some config) :
    s.storedRule ruleId = config.rule ruleId := by
  rw [EditSystem.storedRule, EditSystem.stored, h]
  rfl

theorem SaveRequest.MadeOver.storedRule_eq {request : SaveRequest}
    (h : request.MadeOver ruleId s.store) (hversion : s.store.version = request.expectedVersion) :
    s.storedRule ruleId = some request.original := by
  obtain ⟨config, hconfig, hrule⟩ := h
  rw [EditSystem.storedRule_eq (hversion ▸ hconfig), hrule]

/-- A save that succeeds replaces the rule it was made over, whatever happened in between. -/
theorem EditStep.stored_of_commit {request : SaveRequest}
    (hstep : EditStep ruleId s (.commit request) t) (h : Consistent ruleId s) :
    s.storedRule ruleId = some request.original := by
  cases hstep with
  | commit hsaving hstore =>
    exact (h.saving request .sent hsaving).storedRule_eq
      (updateProjectConfig_eq_some_iff.mp hstore).1
  | commitAbandoned before after habandoned hstore =>
    have hmem : request ∈ s.abandoned := by
      rw [habandoned]
      exact List.mem_append_right _ List.mem_cons_self
    exact (h.abandoned request hmem).storedRule_eq (updateProjectConfig_eq_some_iff.mp hstore).1

/-! ## The baseline -/

/-- The step makes the draft from a rule, or takes the rule that was saved for it: that is the
baseline from then on.  A draft of a rule that is not found is a new one and has none. -/
inductive TakesBaseline (ruleId : JsString) (e : Edge EditSystem EditLabel) :
    Option Generated.RuleDefinition → Prop
  | hydrate {source : Generated.RuleDefinition} {draft : RuleFormDraft} (hlabel : e.label = .hydrate)
    (hfirst : e.source.editor.hydrated = false)
    (hrule : e.source.editor.originalRule ruleId = some source)
    (hdraft : ruleToDraft source = .ok draft) : TakesBaseline ruleId e (some source)
  | reset {source : Generated.RuleDefinition} {draft : RuleFormDraft} (hlabel : e.label = .reset)
    (hrule : e.source.editor.originalRule ruleId = some source)
    (hdraft : ruleToDraft source = .ok draft) : TakesBaseline ruleId e (some source)
  | create (hlabel : e.label = .reset) (hrule : e.source.editor.originalRule ruleId = none) :
    TakesBaseline ruleId e none
  | accept {request : SaveRequest} (hlabel : e.label = .accept)
    (hsaved : e.source.editor.saving = some (request, .cached)) :
    TakesBaseline ruleId e (some request.rule)

/-- A step that is neither a hydration nor a reset nor an acceptance takes no baseline. -/
theorem not_takesBaseline {e : Edge EditSystem EditLabel} (hhydrate : e.label ≠ .hydrate)
    (hreset : e.label ≠ .reset) (haccept : e.label ≠ .accept) (rule) :
    ¬ TakesBaseline ruleId e rule := by
  intro h
  cases h with
  | hydrate hlabel => exact hhydrate hlabel
  | reset hlabel => exact hreset hlabel
  | create hlabel => exact hreset hlabel
  | accept hlabel => exact haccept hlabel

/-- A hydration that takes a baseline is the first, and finds a rule that has a draft. -/
theorem TakesBaseline.of_hydrate {rule : Option Generated.RuleDefinition}
    (h : TakesBaseline ruleId ⟨s, .hydrate, t⟩ rule) :
    s.editor.hydrated = false ∧ ∃ source draft, s.editor.originalRule ruleId = some source ∧
      ruleToDraft source = .ok draft := by
  cases h with
  | hydrate hlabel hfirst hrule hdraft => exact ⟨hfirst, _, _, hrule, hdraft⟩
  | reset hlabel | create hlabel | accept hlabel => cases hlabel

/-- So has the rule that a reset finds, where it takes a baseline. -/
theorem TakesBaseline.of_reset {rule : Option Generated.RuleDefinition}
    {source : Generated.RuleDefinition} (h : TakesBaseline ruleId ⟨s, .reset, t⟩ rule)
    (hsource : s.editor.originalRule ruleId = some source) :
    ∃ draft, ruleToDraft source = .ok draft := by
  cases h with
  | reset hlabel hrule hdraft =>
    obtain rfl := Option.some.inj (hsource.symm.trans hrule)
    exact ⟨_, hdraft⟩
  | create hlabel hnone => cases hsource.symm.trans hnone
  | hydrate hlabel | accept hlabel => cases hlabel

/-- A hydration takes the rule that the page finds, unless there is a draft already. -/
theorem takesBaseline_hydrate_or (s t : EditSystem)
    (ht : t = { s with editor := s.editor.hydrate ruleId }) :
    TakesBaseline ruleId ⟨s, .hydrate, t⟩ t.editor.baseline ∨
      t.editor.baseline = s.editor.baseline ∧
        ∀ rule, ¬ TakesBaseline ruleId ⟨s, .hydrate, t⟩ rule := by
  have hbaseline : t.editor.baseline = (s.editor.hydrate ruleId).baseline := by rw [ht]
  rw [hbaseline, RuleEditor.hydrate]
  split
  · next hhydrated =>
    refine .inr ⟨rfl, fun rule h => ?_⟩
    rw [h.of_hydrate.1] at hhydrated
    cases hhydrated
  · next hhydrated =>
    split
    · next hnone =>
      refine .inr ⟨rfl, fun rule h => ?_⟩
      obtain ⟨-, source, draft, hsource, -⟩ := h.of_hydrate
      cases hnone.symm.trans hsource
    · next source hsource =>
      split
      · next draft hdraft =>
        exact .inl (.hydrate rfl (Bool.eq_false_iff.mpr hhydrated) hsource hdraft)
      · next error herror =>
        refine .inr ⟨rfl, fun rule h => ?_⟩
        obtain ⟨-, source', draft, hsource', hdraft⟩ := h.of_hydrate
        obtain rfl := Option.some.inj (hsource.symm.trans hsource')
        cases herror.symm.trans hdraft

/-- A reset takes the rule that the page finds, or makes a new draft. -/
theorem takesBaseline_reset_or (s t : EditSystem) (uuid : JsString)
    (ht : t = { s with editor := s.editor.reset ruleId uuid }) :
    TakesBaseline ruleId ⟨s, .reset, t⟩ t.editor.baseline ∨
      t.editor.baseline = s.editor.baseline ∧
        ∀ rule, ¬ TakesBaseline ruleId ⟨s, .reset, t⟩ rule := by
  have hbaseline : t.editor.baseline = (s.editor.reset ruleId uuid).baseline := by rw [ht]
  rw [hbaseline, RuleEditor.reset]
  split
  · next hnone => exact .inl (.create rfl hnone)
  · next source hsource =>
    split
    · next draft hdraft => exact .inl (.reset rfl hsource hdraft)
    · next error herror =>
      refine .inr ⟨rfl, fun rule h => ?_⟩
      obtain ⟨draft, hdraft⟩ := h.of_reset hsource
      cases herror.symm.trans hdraft

/-- A step takes the baseline that the page then has, or leaves the one it had. -/
theorem EditStep.takesBaseline_or (hstep : EditStep ruleId s l t) :
    TakesBaseline ruleId ⟨s, l, t⟩ t.editor.baseline ∨
      t.editor.baseline = s.editor.baseline ∧ ∀ rule, ¬ TakesBaseline ruleId ⟨s, l, t⟩ rule := by
  cases hstep with
  | hydrate => exact takesBaseline_hydrate_or s _ rfl
  | reset uuid => exact takesBaseline_reset_or s _ _ rfl
  | accept hsaving => exact .inl (.accept rfl hsaving)
  | _ => exact .inr ⟨rfl, not_takesBaseline nofun nofun nofun⟩

/-- In every run the baseline is the one that was taken last, and the first one where none was. -/
theorem baseline_taken_last (hrun : Run (EditStep ruleId) s es t) :
    (t.editor.baseline = s.editor.baseline ∧ ∀ e ∈ es, ∀ rule, ¬ TakesBaseline ruleId e rule) ∨
      ∃ before e after, es = before ++ e :: after ∧ TakesBaseline ruleId e t.editor.baseline ∧
        ∀ e' ∈ after, ∀ rule, ¬ TakesBaseline ruleId e' rule := by
  refine hrun.history (fun es t =>
    (t.editor.baseline = s.editor.baseline ∧ ∀ e ∈ es, ∀ rule, ¬ TakesBaseline ruleId e rule) ∨
      ∃ before e after, es = before ++ e :: after ∧ TakesBaseline ruleId e t.editor.baseline ∧
        ∀ e' ∈ after, ∀ rule, ¬ TakesBaseline ruleId e' rule) ?_
    (.inl ⟨rfl, fun e h => absurd h List.not_mem_nil⟩)
  intro past a l b hpast hstep
  rcases hstep.takesBaseline_or with htaken | ⟨hsame, hnone⟩
  · exact .inr ⟨past, _, [], rfl, htaken, fun e h => absurd h List.not_mem_nil⟩
  · rcases hpast with ⟨hfirst, hnever⟩ | ⟨before, e, after, rfl, htaken, hlater⟩
    · refine .inl ⟨hsame.trans hfirst, List.forall_mem_append.mpr ⟨hnever, ?_⟩⟩
      exact List.forall_mem_singleton.mpr hnone
    · refine .inr ⟨before, e, after ++ [⟨a, l, b⟩], by simp, hsame ▸ htaken, ?_⟩
      exact List.forall_mem_append.mpr ⟨hlater, List.forall_mem_singleton.mpr hnone⟩

/-! ## Runs -/

/-- A save that the page waits for, or that it has given up. -/
def EditSystem.InFlight (s : EditSystem) (request : SaveRequest) : Prop :=
  (∃ phase, s.editor.saving = some (request, phase)) ∨ request ∈ s.abandoned

theorem EditStep.inFlight_of_commit {request : SaveRequest}
    (hstep : EditStep ruleId s (.commit request) t) : s.InFlight request := by
  cases hstep with
  | commit hsaving hstore => exact Or.inl ⟨.sent, hsaving⟩
  | commitAbandoned before after habandoned hstore =>
    rw [EditSystem.InFlight, habandoned]
    exact Or.inr (List.mem_append_right _ List.mem_cons_self)

theorem EditStep.saveRequest_of_save {request : SaveRequest}
    (hstep : EditStep ruleId s (.save request) t) :
    s.editor.saveRequest ruleId = some request := by
  cases hstep with
  | save _ hrequest => exact hrequest

/-- A step sends a save or leaves those there are. -/
theorem EditStep.inFlight {request : SaveRequest} (hstep : EditStep ruleId s l t)
    (h : t.InFlight request) : l = .save request ∨ s.InFlight request := by
  -- A new phase of a save is one of the save that the page waits for.
  have hphase : ∀ {pending : SaveRequest} {phase phase' : SavePhase},
      s.editor.saving = some (pending, phase) →
        (∃ phase'', some (pending, phase') = some (request, phase'')) → s.InFlight request := by
    rintro pending phase phase' hsaving ⟨phase'', hsome⟩
    obtain ⟨rfl, -⟩ := Prod.mk.inj (Option.some.inj hsome)
    exact Or.inl ⟨phase, hsaving⟩
  have hnone : ¬ ∃ phase, (none : Option (SaveRequest × SavePhase)) = some (request, phase) := by
    rintro ⟨phase, hsome⟩
    cases hsome
  cases hstep with
  | write | read | arrive | edit => exact Or.inr h
  | hydrate =>
    rw [EditSystem.InFlight, (s.editor.hydrate_frame ruleId).2] at h
    exact Or.inr h
  | reset uuid =>
    rw [EditSystem.InFlight, (s.editor.reset_frame ruleId uuid).2] at h
    exact Or.inr h
  | save =>
    rcases h with ⟨phase, hsome⟩ | hmem
    · obtain ⟨rfl, -⟩ := Prod.mk.inj (Option.some.inj hsome)
      exact Or.inl rfl
    · exact Or.inr (Or.inr hmem)
  | commit hsaving | conflict hsaving | respond hsaving =>
    exact Or.inr (h.elim (hphase hsaving) Or.inr)
  | commitAbandoned before after habandoned =>
    refine Or.inr (h.imp_right fun hmem => ?_)
    rw [habandoned]
    exact (List.mem_append.mp hmem).elim (List.mem_append_left _)
      fun hafter => List.mem_append_right _ (List.mem_cons_of_mem _ hafter)
  | refuse | accept => exact Or.inr (Or.inr (h.resolve_left hnone))
  | @giveUp pending phase hsaving =>
    have hmem : request ∈ if phase = .sent then pending :: s.abandoned else s.abandoned :=
      h.resolve_left hnone
    split at hmem
    · rcases List.mem_cons.mp hmem with rfl | hmem
      · exact Or.inr (Or.inl ⟨phase, hsaving⟩)
      · exact Or.inr (Or.inr hmem)
    · exact Or.inr (Or.inr hmem)

/-- Every save in flight was sent in the run. -/
theorem sent_of_inFlight (hopened : Opened s) (hrun : Run (EditStep ruleId) s es t) :
    ∀ request, t.InFlight request → ∃ e ∈ es, e.label = .save request := by
  refine hrun.history (fun es t => ∀ request, t.InFlight request →
    ∃ e ∈ es, e.label = .save request) ?_ ?_
  · intro es s l t hsent hstep request hflight
    rcases hstep.inFlight hflight with rfl | hflight
    · exact ⟨_, List.mem_append_right _ (List.mem_singleton_self _), rfl⟩
    · obtain ⟨e, he, hlabel⟩ := hsent request hflight
      exact ⟨e, List.mem_append_left _ he, hlabel⟩
  · rintro request (⟨phase, hsaving⟩ | hmem)
    · rw [hopened.saving] at hsaving
      cases hsaving
    · rw [hopened.abandoned] at hmem
      cases hmem

/-- In a run of the page, the saves that succeed all replace the rule that the draft was last
hydrated, reset or saved from exactly when each of them was sent while that was the rule of the
query. -/
theorem commits_replace_baseline_iff (hopened : Opened s) (hrun : Run (EditStep ruleId) s es t) :
    (∀ e ∈ es, ∀ request, e.label = .commit request →
      e.source.storedRule ruleId = request.baseline) ↔
    ∀ e ∈ es, ∀ request, e.label = .save request → (∃ e' ∈ es, e'.label = .commit request) →
      e.source.editor.originalRule ruleId = e.source.editor.baseline := by
  have hconsistent := (hrun.invariant' (Consistent ruleId)
    (fun _ _ _ hstep h => hstep.consistent h) hopened.consistent).2
  have hcommit : ∀ e ∈ es, ∀ request, e.label = .commit request →
      e.source.storedRule ruleId = some request.original := by
    intro e he request hlabel
    have hstep := hrun.step_of_mem e he
    rw [hlabel] at hstep
    exact hstep.stored_of_commit (hconsistent e he).1
  have hsave : ∀ e ∈ es, ∀ request, e.label = .save request →
      e.source.editor.originalRule ruleId = some request.original ∧
        e.source.editor.baseline = request.baseline := by
    intro e he request hlabel
    have hstep := hrun.step_of_mem e he
    rw [hlabel] at hstep
    obtain ⟨horiginal, hbaseline, -⟩ :=
      RuleEditor.saveRequest_eq_some hstep.saveRequest_of_save
    exact ⟨horiginal, hbaseline⟩
  constructor
  · rintro h e he request hlabel ⟨e', he', hcommitted⟩
    obtain ⟨horiginal, hbaseline⟩ := hsave e he request hlabel
    rw [horiginal, hbaseline, ← hcommit e' he' request hcommitted, h e' he' request hcommitted]
  · intro h e he request hlabel
    obtain ⟨before, after, hsplit, hbefore, hstep, -⟩ := hrun.split_of_mem he
    rw [hlabel] at hstep
    obtain ⟨e', he', hsent⟩ := sent_of_inFlight hopened hbefore request hstep.inFlight_of_commit
    have he' : e' ∈ es := hsplit ▸ List.mem_append_left _ he'
    obtain ⟨horiginal, hbaseline⟩ := hsave e' he' request hsent
    rw [hcommit e he request hlabel, ← horiginal, ← hbaseline]
    exact h e' he' request hsent ⟨e, he, hlabel⟩

/-- A rule of the name. -/
def climateRule (name : String) : Generated.RuleDefinition where
  actions := [.streamToUi]
  condition := none
  enabled := true
  id := ofString "climate"
  name := ofString name
  trigger := .eventReceived

/-- The draft of the rule. -/
def climateDraft (name : String) : RuleFormDraft where
  actions := [createActionDraft .streamToUi]
  condition := createConditionDraft (.comparison .equals)
  conditionEnabled := false
  enabled := true
  id := ofString "climate"
  name := ofString name
  triggerTargetId := []
  triggerType := .eventReceived

/-- The configuration with that rule alone. -/
def climateConfig (name : String) : ConfigDocument := ⟨[], [], [climateRule name], []⟩

/-- The page that has been opened on the first version. -/
def climatePage : EditSystem where
  store := ⟨1, climateConfig "Climate", []⟩
  answers := []
  editor := ⟨some ⟨climateConfig "Climate", 1⟩, none, none, false, none⟩
  abandoned := []

/-- The save of a draft that was made from the first version. -/
def climateSave (stored : String) (version : Nat) : SaveRequest where
  nextConfig := climateConfig "Heating"
  expectedVersion := version
  rule := climateRule "Heating"
  original := climateRule stored
  baseline := some (climateRule "Climate")

theorem climatePage_opened : Opened climatePage where
  answers _ hmem := nomatch hmem
  data _ hsome := Option.some.inj hsome ▸ rfl
  draft := rfl
  saving := rfl
  abandoned := rfl

/-- The draft is opened, edited and saved. -/
theorem commits_replace_baseline_iff_climate :
    ∃ es t, Run (EditStep (ofString "climate")) climatePage es t ∧
      (∃ e ∈ es, e.label = .commit (climateSave "Climate" 1)) ∧
      ∀ e ∈ es, ∀ request, e.label = .commit request →
        e.source.storedRule (ofString "climate") = request.baseline := by
  have hhydrate : EditStep (ofString "climate") climatePage .hydrate _ := .hydrate climatePage
  have hrun := Run.cons hhydrate <|
    .cons (.edit rfl (climateDraft "Heating")) <|
    .cons (.save (climateSave "Climate" 1) rfl) <|
    .cons (.commit rfl rfl) (.nil _)
  refine ⟨_, _, hrun, ⟨_, .tail _ (.tail _ (.tail _ (.head _))), rfl⟩,
    (commits_replace_baseline_iff climatePage_opened hrun).mpr ?_⟩
  intro e he request hlabel _
  rcases List.mem_cons.mp he with rfl | he
  · cases hlabel
  rcases List.mem_cons.mp he with rfl | he
  · cases hlabel
  rcases List.mem_cons.mp he with rfl | he
  · rfl
  obtain rfl := List.mem_singleton.mp he
  cases hlabel

/-- Another operator renames the rule, and a refetch brings the change, while the draft is edited:
the save replaces a rule that the draft was not made from. -/
theorem refetched_change_overwritten :
    ¬ ∀ es t, Run (EditStep (ofString "climate")) climatePage es t →
      ∀ e ∈ es, ∀ request, e.label = .commit request →
        e.source.storedRule (ofString "climate") = request.baseline := by
  intro h
  have hhydrate : EditStep (ofString "climate") climatePage .hydrate _ := .hydrate climatePage
  have hrun := Run.cons hhydrate <|
    .cons (.edit rfl (climateDraft "Heating")) <|
    .cons (.write _ (climateConfig "Cooling")) <|
    .cons (.read rfl) <|
    .cons (.arrive [] [] rfl) <|
    .cons (.save (climateSave "Cooling" 2) rfl) <|
    .cons (.commit rfl rfl) (.nil _)
  have hbaseline := h _ _ hrun _
    (.tail _ (.tail _ (.tail _ (.tail _ (.tail _ (.tail _ (.head _))))))) _ rfl
  have hname : ofString "Cooling" = ofString "Climate" :=
    congrArg Generated.RuleDefinition.name (Option.some.inj hbaseline)
  exact absurd hname (by decide)

end Web
end PipeBolt
