import Mathlib.Logic.Function.Basic
import PipeBolt.Lib.VersionedCell
import PipeBolt.Web.ConfigStore
import PipeBolt.Web.RuleRoundTrip

/-!
# The configuration editor

The page of `useConfigDraft.ts` and the server, which keeps a versioned cell for each project.
Other operators write to any of them at any time, answers to reads and to saves arrive in any order,
the active project changes at any time, and a save outlives the page that sent it.

* `HeldAt`: a baseline is what the server held at a version.
* `ConfigStep`: the steps of the page, of the server and of other operators.
* `ConfigStep.consistent`: a step keeps the store consistent with the server.
-/

namespace PipeBolt
namespace Web

open Js Transition VersionedCell

/-! ## The page and the server -/

/-- The configurations of the server, by project. -/
abbrev ConfigStores := Domain.ProjectId → Option (Cell Api.ProjectConfigDocumentV1)

/-- Who waits for the answer to a save: the page, a page that was left, or nobody. -/
inductive SaveOwner where
  | page
  | left
  | nobody
  deriving DecidableEq, Repr

/-- A save that is not over: the answer of the server, if it has handled it, is a response or a
refusal. -/
structure PendingSave where
  request : ConfigSave
  answer : Option (Option Generated.ProjectConfigWriteResponse)
  owner : SaveOwner

/-- An answer to a read of a project, by the query or by `reloadLatest`. -/
structure Fetched where
  projectId : JsString
  reload : Bool
  response : Generated.ProjectConfigResponse

/-- The server, the answers on their way, `activeProjectId`, the query cache, the store of the page
and the saves. -/
structure ConfigSystem where
  stores : ConfigStores
  fetched : List Fetched
  activeProjectId : Option JsString
  data : JsString → Option Generated.ProjectConfigResponse
  config : ConfigStore
  saves : List PendingSave

/-- `PROJECT_CONFIG_DOCUMENT_SCHEMA_VERSION`. -/
def PROJECT_CONFIG_DOCUMENT_SCHEMA_VERSION : Nat := 1

/-- What the server answers to a read of a project. -/
def ConfigStores.serve (stores : ConfigStores) (projectId : JsString) :
    Option Generated.ProjectConfigResponse := do
  let id ← readString projectId
  let cell ← stores ⟨id⟩
  let document ← cell.at? cell.version
  return {
    config := .ofBackend document
    schemaVersion := PROJECT_CONFIG_DOCUMENT_SCHEMA_VERSION
    version := cell.version }

/-- A write of another operator: a new version of a project, or its first. -/
def ConfigStores.write (stores : ConfigStores) (id : Domain.ProjectId) (first : Nat)
    (document : Api.ProjectConfigDocumentV1) : ConfigStores :=
  Function.update stores id <| some <|
    match stores id with
    | none => ⟨first, document, []⟩
    | some cell => cell.push document

/-- `put_project_config_inner` with the configuration that it has loaded, as far as it may succeed:
the document is read, its secrets are merged, and the version is compared and set. -/
def ConfigStores.put (reader : SerdeReader) (existing : Domain.ProjectConfig)
    (stores : ConfigStores) (request : ConfigSave) : Option (ConfigStores × Nat) := do
  let id ← readString request.projectId
  let submitted ← request.candidate.read reader
  let nextVersion := request.expectedVersion + 1
  let merged ← (Api.mergeRedactedSecrets existing
    (submitted.intoDomain (.ofNat nextVersion))).toOption
  let cell ← stores ⟨id⟩
  if submitted.projectId = ⟨id⟩ ∧ cell.version = request.expectedVersion then
    some (Function.update stores ⟨id⟩ (some (cell.push (.fromDomain merged))), nextVersion)
  else none

namespace ConfigSystem

variable (s : ConfigSystem)

/-- `isSaving`. -/
def isSaving : Bool := s.saves.any fun save => save.owner == .page

/-- The answer to a read arrives. -/
def arrive (fetched : Fetched) : ConfigSystem :=
  { s with
    data := Function.update s.data fetched.projectId (some fetched.response)
    config :=
      if fetched.reload ∧ s.activeProjectId = some fetched.projectId then
        s.config.hydrate fetched.response true
      else s.config }

/-- The answer to a save arrives. -/
def respond (request : ConfigSave) (response : Generated.ProjectConfigWriteResponse) :
    ConfigSystem :=
  { s with
    config :=
      if s.activeProjectId = some request.projectId ∧
          s.config.projectId = some request.projectId ∧
          s.config.version = some request.expectedVersion then
        s.config.markSaved response request.candidate
      else s.config }

/-- The page is left, and may be opened again. -/
def leave : ConfigSystem :=
  { s with
    saves := s.saves.map fun save =>
      if save.owner = .page then { save with owner := .left } else save }

end ConfigSystem

/-- What happens. -/
inductive ConfigLabel where
  | write
  | fetch
  | arrive
  | hydrate
  | select
  | clear
  | leave
  | edit
  | discard
  | reloaded
  | validate
  | save (request : ConfigSave)
  | commit (request : ConfigSave)
  | refuse (request : ConfigSave)
  | respond (request : ConfigSave)
  | fail (request : ConfigSave)

/-- The steps of the page, of the server and of other operators. -/
inductive ConfigStep (reader : SerdeReader) (checks : ConfigChecks)
    (toLowerCase : JsString → JsString) : ConfigSystem → ConfigLabel → ConfigSystem → Prop
  | write (s : ConfigSystem) (id : Domain.ProjectId) (first : Nat)
    (document : Api.ProjectConfigDocumentV1) :
    ConfigStep reader checks toLowerCase s .write
      { s with stores := s.stores.write id first document }
  -- The server reads the project; the answer is one that `fetchProjectConfig` returns.
  | fetch {s : ConfigSystem} {projectId : JsString} {response : Generated.ProjectConfigResponse}
    (reload : Bool) (hserve : s.stores.serve projectId = some response)
    (haccepts : acceptsResponse checks projectId response = true) :
    ConfigStep reader checks toLowerCase s .fetch
      { s with fetched := ⟨projectId, reload, response⟩ :: s.fetched }
  | arrive {s : ConfigSystem} {fetched : Fetched} (before after : List Fetched)
    (h : s.fetched = before ++ fetched :: after) :
    ConfigStep reader checks toLowerCase s .arrive
      { s.arrive fetched with fetched := before ++ after }
  -- The `watch` of the data of the query.
  | hydrate {s : ConfigSystem} {projectId : JsString} {response : Generated.ProjectConfigResponse}
    (hactive : s.activeProjectId = some projectId) (hdata : s.data projectId = some response)
    (hproject : response.config.projectId = projectId) :
    ConfigStep reader checks toLowerCase s .hydrate
      { s with config := s.config.hydrate response false }
  | select (s : ConfigSystem) (projectId : Option JsString) :
    ConfigStep reader checks toLowerCase s .select { s with activeProjectId := projectId }
  -- The `watch` of the active project, or the guard before a page is left.
  | clear (s : ConfigSystem) :
    ConfigStep reader checks toLowerCase s .clear { s with config := .clear }
  | leave (s : ConfigSystem) : ConfigStep reader checks toLowerCase s .leave s.leave
  | edit {s : ConfigSystem} (h : s.isSaving = false) (edit : ConfigEdit) :
    ConfigStep reader checks toLowerCase s .edit
      { s with config := s.config.edit checks toLowerCase edit }
  | discard (s : ConfigSystem) :
    ConfigStep reader checks toLowerCase s .discard { s with config := s.config.discardChanges }
  | reloaded (s : ConfigSystem) :
    ConfigStep reader checks toLowerCase s .reloaded { s with config := s.config.markReloaded }
  -- The button, or a save that is not sent.
  | validate (s : ConfigSystem) :
    ConfigStep reader checks toLowerCase s .validate
      { s with config := (s.config.validate checks toLowerCase s.activeProjectId).1 }
  | save {s : ConfigSystem} {request : ConfigSave} (h : s.isSaving = false)
    (hrequest : s.config.saveRequest checks toLowerCase s.activeProjectId = some request) :
    ConfigStep reader checks toLowerCase s (.save request)
      { s with
        config := (s.config.validate checks toLowerCase s.activeProjectId).1
        saves := ⟨request, none, .page⟩ :: s.saves }
  | commit {s : ConfigSystem} {request : ConfigSave} {owner : SaveOwner} {stores : ConfigStores}
    (before after : List PendingSave) (h : s.saves = before ++ ⟨request, none, owner⟩ :: after)
    (existing : Domain.ProjectConfig) (response : Generated.ProjectConfigWriteResponse)
    (hput : s.stores.put reader existing request = some (stores, response.version)) :
    ConfigStep reader checks toLowerCase s (.commit request)
      { s with stores, saves := before ++ ⟨request, some (some response), owner⟩ :: after }
  | refuse {s : ConfigSystem} {request : ConfigSave} {owner : SaveOwner}
    (before after : List PendingSave) (h : s.saves = before ++ ⟨request, none, owner⟩ :: after) :
    ConfigStep reader checks toLowerCase s (.refuse request)
      { s with saves := before ++ ⟨request, some none, owner⟩ :: after }
  | respond {s : ConfigSystem} {request : ConfigSave} {owner : SaveOwner}
    {response : Generated.ProjectConfigWriteResponse} (before after : List PendingSave)
    (h : s.saves = before ++ ⟨request, some (some response), owner⟩ :: after)
    (howner : owner ≠ .nobody)
    (haccepts : acceptsWriteResponse request.projectId response = true) :
    ConfigStep reader checks toLowerCase s (.respond request)
      { s.respond request response with saves := before ++ after }
  -- A refusal, an error of the network or a response that is not accepted.
  | fail {s : ConfigSystem} {save : PendingSave} (before after : List PendingSave)
    (h : s.saves = before ++ save :: after) :
    ConfigStep reader checks toLowerCase s (.fail save.request)
      { s with saves := before ++ { save with owner := .nobody } :: after }

/-! ## Baselines -/

/-- A document of the browser is the redacted document of the server: as the browser reads it, or
as a document that the server reads as it. -/
def BaselineOf (reader : SerdeReader) (stored : Api.ProjectConfigDocumentV1)
    (baseline : Generated.ProjectConfigDocumentV1) : Prop :=
  baseline = .ofBackend stored ∨ baseline.read reader = some (Api.redactSecrets stored)

/-- The server held the redacted document at a version of a project. -/
def HeldAt (reader : SerdeReader) (stores : ConfigStores) (projectId : JsString)
    (version : Nat) (baseline : Generated.ProjectConfigDocumentV1) : Prop :=
  ∃ id cell stored, readString projectId = some id ∧ stores ⟨id⟩ = some cell ∧
    cell.at? version = some stored ∧ BaselineOf reader stored baseline

/-- The store is not loaded, or it holds a version of a project. -/
structure ConfigStore.Kept (reader : SerdeReader) (stores : ConfigStores)
    (store : ConfigStore) : Prop where
  loaded : ∀ version, store.version = some version → ∃ projectId baseline draft,
    store.projectId = some projectId ∧ store.baseline = some baseline ∧ store.draft = some draft ∧
      baseline.projectId = projectId ∧ draft.projectId = projectId ∧
      HeldAt reader stores projectId version baseline
  clean : store.isDirty = false → store.draft = store.baseline

/-- A save is made from a version of its project, and what it has stored is what it sent. -/
structure PendingSave.Kept (reader : SerdeReader) (stores : ConfigStores)
    (save : PendingSave) : Prop where
  baseline : ∃ baseline, save.request.baseline = some baseline ∧
    HeldAt reader stores save.request.projectId save.request.expectedVersion baseline
  project : save.request.candidate.projectId = save.request.projectId
  answered : ∀ response, save.answer = some (some response) →
    HeldAt reader stores save.request.projectId response.version
      (redactConfigSecrets save.request.candidate)

/-- A response is what the server held. -/
def Served (reader : SerdeReader) (stores : ConfigStores) (projectId : JsString)
    (response : Generated.ProjectConfigResponse) : Prop :=
  response.config.projectId = projectId ∧
    HeldAt reader stores projectId response.version response.config

/-- Whatever the page has read or is told is what the server held. -/
structure ConfigSystem.Consistent (reader : SerdeReader) (s : ConfigSystem) :
    Prop where
  fetched : ∀ fetched ∈ s.fetched, Served reader s.stores fetched.projectId fetched.response
  data : ∀ projectId response, s.data projectId = some response →
    Served reader s.stores projectId response
  config : s.config.Kept reader s.stores
  saves : ∀ save ∈ s.saves, save.Kept reader s.stores

/-- Nothing has been read yet. -/
structure ConfigSystem.Opened (s : ConfigSystem) : Prop where
  fetched : s.fetched = []
  data : ∀ projectId, s.data projectId = none
  config : s.config = .clear
  saves : s.saves = []

variable {reader : SerdeReader} {checks : ConfigChecks}
  {toLowerCase : JsString → JsString} {stores stores' : ConfigStores}

/-! ## The server keeps what it held -/

/-- Every version there was is still there. -/
def KeepsVersions (stores stores' : ConfigStores) : Prop :=
  ∀ id cell, stores id = some cell → ∃ cell', stores' id = some cell' ∧
    ∀ n document, cell.at? n = some document → cell'.at? n = some document

theorem HeldAt.mono {projectId : JsString} {version : Nat}
    {baseline : Generated.ProjectConfigDocumentV1}
    (h : HeldAt reader stores projectId version baseline) (hkeeps : KeepsVersions stores stores') :
    HeldAt reader stores' projectId version baseline := by
  obtain ⟨id, cell, stored, hid, hcell, hstored, hbaseline⟩ := h
  obtain ⟨cell', hcell', hat⟩ := hkeeps ⟨id⟩ cell hcell
  exact ⟨id, cell', stored, hid, hcell', hat version stored hstored, hbaseline⟩

theorem Served.mono {projectId : JsString} {response : Generated.ProjectConfigResponse}
    (h : Served reader stores projectId response) (hkeeps : KeepsVersions stores stores') :
    Served reader stores' projectId response :=
  ⟨h.1, h.2.mono hkeeps⟩

theorem ConfigStore.Kept.mono {store : ConfigStore} (h : store.Kept reader stores)
    (hkeeps : KeepsVersions stores stores') : store.Kept reader stores' where
  loaded version hversion := by
    obtain ⟨projectId, baseline, draft, hproject, hbaseline, hdraft, hsame, hsame', hheld⟩ :=
      h.loaded version hversion
    exact ⟨projectId, baseline, draft, hproject, hbaseline, hdraft, hsame, hsame',
      hheld.mono hkeeps⟩
  clean := h.clean

theorem PendingSave.Kept.mono {save : PendingSave} (h : save.Kept reader stores)
    (hkeeps : KeepsVersions stores stores') : save.Kept reader stores' where
  baseline := by
    obtain ⟨baseline, hbaseline, hheld⟩ := h.baseline
    exact ⟨baseline, hbaseline, hheld.mono hkeeps⟩
  project := h.project
  answered response hresponse := (h.answered response hresponse).mono hkeeps

theorem ConfigSystem.Consistent.mono {s : ConfigSystem} (h : s.Consistent reader)
    (hkeeps : KeepsVersions s.stores stores') :
    ({ s with stores := stores' } : ConfigSystem).Consistent reader where
  fetched fetched hmem := (h.fetched fetched hmem).mono hkeeps
  data projectId response hdata := (h.data projectId response hdata).mono hkeeps
  config := h.config.mono hkeeps
  saves save hmem := (h.saves save hmem).mono hkeeps

/-- A cell with a new version is put in its place. -/
theorem keepsVersions_push {id : Domain.ProjectId} {cell : Cell Api.ProjectConfigDocumentV1}
    (h : stores id = some cell) (document : Api.ProjectConfigDocumentV1) :
    KeepsVersions stores (Function.update stores id (some (cell.push document))) := by
  intro id' cell' hcell'
  by_cases hid : id' = id
  · subst hid
    obtain rfl := Option.some.inj (h.symm.trans hcell')
    exact ⟨_, Function.update_self .., fun n old hold => Cell.at?_push_of_eq_some hold document⟩
  · exact ⟨cell', by rw [Function.update_of_ne hid, hcell'], fun _ _ hold => hold⟩

theorem keepsVersions_write (id : Domain.ProjectId) (first : Nat)
    (document : Api.ProjectConfigDocumentV1) :
    KeepsVersions stores (stores.write id first document) := by
  cases hstores : stores id with
  | some cell =>
    simp only [ConfigStores.write, hstores]
    exact keepsVersions_push hstores document
  | none =>
    intro id' cell' hcell'
    have hid : id' ≠ id := by
      rintro rfl
      rw [hstores] at hcell'
      cases hcell'
    refine ⟨cell', ?_, fun _ _ hold => hold⟩
    rw [ConfigStores.write, Function.update_of_ne hid, hcell']

/-- What a save replaces and what it stores. -/
theorem ConfigStores.put_eq_some {existing : Domain.ProjectConfig} {request : ConfigSave}
    {version : Nat} (h : stores.put reader existing request = some (stores', version)) :
    ∃ id cell stored, readString request.projectId = some id ∧ stores ⟨id⟩ = some cell ∧
      cell.version = request.expectedVersion ∧ version = cell.version + 1 ∧
      stores' = Function.update stores ⟨id⟩ (some (cell.push stored)) ∧
      (redactConfigSecrets request.candidate).read reader = some (Api.redactSecrets stored) := by
  rw [put] at h
  obtain ⟨id, hid, h⟩ := Option.bind_eq_some_iff.mp h
  obtain ⟨submitted, hsubmitted, h⟩ := Option.bind_eq_some_iff.mp h
  obtain ⟨merged, hmerged, h⟩ := Option.bind_eq_some_iff.mp h
  obtain ⟨cell, hcell, h⟩ := Option.bind_eq_some_iff.mp h
  split at h
  · next hguard =>
    obtain ⟨rfl, rfl⟩ := Prod.mk.inj (Option.some.inj h)
    refine ⟨id, cell, .fromDomain merged, hid, hcell, hguard.2, by rw [hguard.2], rfl, ?_⟩
    rw [Generated.ProjectConfigDocumentV1.read_redact hsubmitted,
      Api.redactSecrets_of_merge (Fallible.toOption_eq_some_iff.mp hmerged)]
    rfl
  · cases h

/-! ## The store keeps its baseline -/

/-- A document without issues is one of the project. -/
theorem projectId_of_validateConfigDocument {input : Generated.ProjectConfigDocumentV1}
    {projectId : JsString} {baseline : Option Generated.ProjectConfigDocumentV1}
    (h : (validateConfigDocument checks input projectId baseline).isEmpty = true) :
    input.projectId = projectId := by
  by_contra hne
  rw [List.isEmpty_iff, validateConfigDocument] at h
  split at h
  · rw [if_pos hne, List.take_eq_nil_iff] at h
    simp [ConfigEditor.MAX_ISSUES] at h
  · next hissues =>
    rcases List.take_eq_nil_iff.mp h with hzero | hnil
    · cases hzero
    · exact hissues hnil

theorem projectId_of_applyRaw {config input value : Generated.ProjectConfigDocumentV1}
    (h : applyRaw checks toLowerCase config input = some value) :
    value.projectId = config.projectId := by
  rw [applyRaw] at h
  split at h
  · cases h
  · split at h
    · cases h
    · split at h
      · next hvalid =>
        obtain rfl := Option.some.inj h
        exact projectId_of_validateConfigDocument hvalid
      · cases h

namespace ConfigStore

variable {store store' : ConfigStore}

/-- A store with the project, the version, the baseline and a draft of the project. -/
theorem Kept.redraft (h : store.Kept reader stores) (hproject : store'.projectId = store.projectId)
    (hversion : store'.version = store.version) (hbaseline : store'.baseline = store.baseline)
    (hdraft : ∀ draft, store.draft = some draft → ∃ draft', store'.draft = some draft' ∧
      draft'.projectId = draft.projectId)
    (hclean : store'.isDirty = false → store'.draft = store'.baseline) :
    store'.Kept reader stores where
  loaded version hsome := by
    obtain ⟨projectId, baseline, draft, hproject', hbaseline', hdraft', hsame, hsame', hheld⟩ :=
      h.loaded version (hversion ▸ hsome)
    obtain ⟨draft', hnew, hnew'⟩ := hdraft draft hdraft'
    exact ⟨projectId, baseline, draft', hproject.trans hproject', hbaseline.trans hbaseline', hnew,
      hsame, hnew'.trans hsame', hheld⟩
  clean := hclean

/-- A store that is loaded with a document that the server held. -/
theorem kept_of_loaded {projectId : JsString} {version : Nat}
    {config : Generated.ProjectConfigDocumentV1} (hproject : store.projectId = some projectId)
    (hversion : store.version = some version) (hbaseline : store.baseline = some config)
    (hdraft : store.draft = some config) (hconfig : config.projectId = projectId)
    (hheld : HeldAt reader stores projectId version config) : store.Kept reader stores where
  loaded version' hsome := by
    obtain rfl := Option.some.inj (hversion.symm.trans hsome)
    exact ⟨projectId, config, config, hproject, hbaseline, hdraft, hconfig, hconfig, hheld⟩
  clean _ := hdraft.trans hbaseline.symm

theorem kept_clear : clear.Kept reader stores where
  loaded _ hsome := by cases hsome
  clean _ := rfl

theorem Kept.hydrate (h : store.Kept reader stores) {projectId : JsString}
    {response : Generated.ProjectConfigResponse} (hserved : Served reader stores projectId response)
    (force : Bool) : (store.hydrate response force).Kept reader stores := by
  obtain ⟨rfl, hheld⟩ := hserved
  rw [ConfigStore.hydrate]
  split
  · exact h
  · split
    · exact h
    · exact kept_of_loaded rfl rfl rfl rfl rfl hheld

/-- A draft that is marked as dirty. -/
theorem Kept.markDirty (h : store.Kept reader stores) {draft : Generated.ProjectConfigDocumentV1}
    {value : Generated.ProjectConfigDocumentV1} (hdraft : store.draft = some draft)
    (hproject : value.projectId = draft.projectId) (changed : ConfigSection) :
    ({ store with draft := some value }.markDirty changed).Kept reader stores := by
  refine h.redraft rfl rfl rfl (fun draft' hsome => ?_) fun hclean => ?_
  · obtain rfl := Option.some.inj (hdraft.symm.trans hsome)
    exact ⟨value, rfl, hproject⟩
  · have hmem : changed ∈ store.dirtySections.insert changed := List.mem_insert_self
    rw [isDirty, Bool.not_eq_false', List.isEmpty_iff] at hclean
    have hnil : store.dirtySections.insert changed = [] := hclean
    rw [hnil] at hmem
    exact absurd hmem List.not_mem_nil

theorem Kept.edit (h : store.Kept reader stores) (edit : ConfigEdit) :
    (store.edit checks toLowerCase edit).Kept reader stores := by
  cases edit with
  | updateGeneral values =>
    rw [ConfigStore.edit, ConfigStore.updateGeneral]
    split
    · exact h
    · next draft hdraft =>
      have hproject : ({ draft with
          description := values.description
          enabled := values.enabled
          name := values.name } : Generated.ProjectConfigDocumentV1).projectId = draft.projectId :=
        rfl
      exact h.markDirty hdraft hproject .general
  | updateSection value =>
    rw [ConfigStore.edit, ConfigStore.updateSection]
    split
    · exact h
    · next draft hdraft => exact h.markDirty hdraft (value.projectId_put draft) value.kind
  | applyRaw input =>
    rw [ConfigStore.edit]
    split
    · exact h
    · next value hvalue =>
      obtain ⟨draft, hdraft, happly⟩ := Option.bind_eq_some_iff.mp hvalue
      exact h.markDirty hdraft (projectId_of_applyRaw happly) .raw

theorem Kept.discardChanges (h : store.Kept reader stores) :
    store.discardChanges.Kept reader stores := by
  rw [ConfigStore.discardChanges]
  split
  · exact h
  · next baseline hbaseline =>
    refine ⟨fun version hversion => ?_, fun _ => hbaseline.symm⟩
    obtain ⟨projectId, baseline', -, hproject, hbaseline', -, hsame, -, hheld⟩ :=
      h.loaded version hversion
    obtain rfl := Option.some.inj (hbaseline.symm.trans hbaseline')
    exact ⟨projectId, baseline, baseline, hproject, hbaseline, rfl, hsame, hsame, hheld⟩

theorem Kept.setValidation (h : store.Kept reader stores) (issues : List ConfigValidationIssue) :
    (store.setValidation issues).Kept reader stores :=
  h.redraft rfl rfl rfl (fun draft hdraft => ⟨draft, hdraft, rfl⟩) h.clean

theorem Kept.validate (h : store.Kept reader stores) (activeProjectId : Option JsString) :
    (store.validate checks toLowerCase activeProjectId).1.Kept reader stores := by
  unfold ConfigStore.validate
  split
  · split
    · exact h.setValidation _
    · exact h.setValidation _
  · exact h

/-- A save is made from the draft and the baseline of the store, for the active project, and what it
sends is of that project. -/
theorem saveRequest_eq_some {activeProjectId : Option JsString} {request : ConfigSave}
    (h : store.saveRequest checks toLowerCase activeProjectId = some request) :
    store.draft = some request.draft ∧ store.version = some request.expectedVersion ∧
      store.baseline = request.baseline ∧ request.candidate.projectId = request.projectId ∧
      request.candidate.projectId = request.draft.projectId := by
  unfold saveRequest at h
  split at h
  · next draft version projectId hdraft hversion =>
    split at h
    · next hvalid =>
      split at h
      · cases h
      · next candidate hcandidate =>
        obtain rfl := Option.some.inj h
        simp only [ConfigStore.validate, hdraft, hcandidate] at hvalid
        exact ⟨hdraft, hversion, rfl, projectId_of_validateConfigDocument hvalid,
          restoreConfigSecrets_projectId hcandidate⟩
    · cases h
  · cases h

end ConfigStore

/-! ## The page keeps to the server -/

namespace ConfigSystem

variable {s t : ConfigSystem} {l : ConfigLabel}

theorem Opened.consistent (h : s.Opened) : s.Consistent reader where
  fetched _ hmem := by
    rw [h.fetched] at hmem
    cases hmem
  data projectId _ hdata := by
    rw [h.data projectId] at hdata
    cases hdata
  config := h.config ▸ ConfigStore.kept_clear
  saves _ hmem := by
    rw [h.saves] at hmem
    cases hmem

/-- The page with another store. -/
theorem Consistent.configure (h : s.Consistent reader) {config : ConfigStore}
    (hconfig : config.Kept reader s.stores) :
    ({ s with config } : ConfigSystem).Consistent reader :=
  { h with config := hconfig }

/-- The page with other saves. -/
theorem Consistent.settle (h : s.Consistent reader) {saves : List PendingSave}
    (hsaves : ∀ save ∈ saves, save.Kept reader s.stores) :
    ({ s with saves } : ConfigSystem).Consistent reader :=
  { h with saves := hsaves }

theorem Consistent.arrive (h : s.Consistent reader) {fetched : Fetched}
    (hserved : Served reader s.stores fetched.projectId fetched.response) :
    (s.arrive fetched).Consistent reader where
  fetched := h.fetched
  data projectId response hdata := by
    have hupdate : Function.update s.data fetched.projectId (some fetched.response) projectId =
        some response := hdata
    by_cases hproject : projectId = fetched.projectId
    · subst hproject
      rw [Function.update_self] at hupdate
      exact Option.some.inj hupdate ▸ hserved
    · rw [Function.update_of_ne hproject] at hupdate
      exact h.data projectId response hupdate
  config := by
    show (if fetched.reload ∧ s.activeProjectId = some fetched.projectId then
      s.config.hydrate fetched.response true else s.config).Kept reader s.stores
    split
    · exact h.config.hydrate hserved true
    · exact h.config
  saves := h.saves

theorem Consistent.respond (h : s.Consistent reader) {request : ConfigSave}
    {response : Generated.ProjectConfigWriteResponse}
    (hproject : request.candidate.projectId = request.projectId)
    (hheld : HeldAt reader s.stores request.projectId response.version
      (redactConfigSecrets request.candidate)) :
    (s.respond request response).Consistent reader where
  fetched := h.fetched
  data := h.data
  config := by
    show (if s.activeProjectId = some request.projectId ∧
        s.config.projectId = some request.projectId ∧
        s.config.version = some request.expectedVersion then
      s.config.markSaved response request.candidate else s.config).Kept reader s.stores
    split
    · next hsame => exact ConfigStore.kept_of_loaded hsame.2.1 rfl rfl rfl hproject hheld
    · exact h.config
  saves := h.saves

end ConfigSystem

variable {s t : ConfigSystem} {l : ConfigLabel}

/-- A save that is sent is made from the version of its project. -/
theorem ConfigSystem.Consistent.save (h : s.Consistent reader) {request : ConfigSave}
    (hrequest : s.config.saveRequest checks toLowerCase s.activeProjectId = some request) :
    s.config.projectId = some request.projectId ∧
      PendingSave.Kept reader s.stores ⟨request, none, .page⟩ := by
  obtain ⟨hdraft, hversion, hbaseline, hproject, hproject'⟩ :=
    ConfigStore.saveRequest_eq_some hrequest
  obtain ⟨projectId, baseline, draft, hsome, hbaseline', hdraft', -, hsame, hheld⟩ :=
    h.config.loaded request.expectedVersion hversion
  obtain rfl := Option.some.inj (hdraft.symm.trans hdraft')
  have hprojectId : projectId = request.projectId :=
    hsame.symm.trans (hproject'.symm.trans hproject)
  subst hprojectId
  refine ⟨hsome, ⟨baseline, hbaseline.symm.trans hbaseline', hheld⟩, hproject, fun _ hanswer => ?_⟩
  cases hanswer

theorem ConfigStep.consistent (hstep : ConfigStep reader checks toLowerCase s l t)
    (h : s.Consistent reader) : t.Consistent reader := by
  -- A save that is put in the place of another among those that are not over.
  have hreplace : ∀ {before after : List PendingSave} {old new : PendingSave},
      s.saves = before ++ old :: after → (old.Kept reader s.stores → new.Kept reader s.stores) →
        ∀ save ∈ before ++ new :: after, save.Kept reader s.stores := by
    intro before after old new hsaves hnew
    have hall := h.saves
    rw [hsaves, List.forall_mem_append, List.forall_mem_cons] at hall
    exact List.forall_mem_append.mpr ⟨hall.1, List.forall_mem_cons.mpr ⟨hnew hall.2.1, hall.2.2⟩⟩
  cases hstep with
  | write id first document => exact h.mono (keepsVersions_write id first document)
  | @fetch projectId response reload hserve haccepts =>
    obtain ⟨id, hid, hserve⟩ := Option.bind_eq_some_iff.mp hserve
    obtain ⟨cell, hcell, hserve⟩ := Option.bind_eq_some_iff.mp hserve
    obtain ⟨document, hdocument, hserve⟩ := Option.bind_eq_some_iff.mp hserve
    obtain rfl := Option.some.inj hserve
    simp only [acceptsResponse, Bool.and_eq_true, beq_iff_eq] at haccepts
    refine { h with fetched := List.forall_mem_cons.mpr ⟨⟨haccepts.1.1.1.2, ?_⟩, h.fetched⟩ }
    exact ⟨id, cell, document, hid, hcell, hdocument, Or.inl rfl⟩
  | arrive before after hfetched =>
    have hall := h.fetched
    rw [hfetched, List.forall_mem_append, List.forall_mem_cons] at hall
    obtain ⟨hbefore, hserved, hafter⟩ := hall
    exact { h.arrive hserved with fetched := List.forall_mem_append.mpr ⟨hbefore, hafter⟩ }
  | hydrate hactive hdata => exact h.configure (h.config.hydrate (h.data _ _ hdata) false)
  | select projectId => exact { h with }
  | clear => exact h.configure ConfigStore.kept_clear
  | leave =>
    refine h.settle fun save hmem => ?_
    obtain ⟨old, hold, rfl⟩ := List.mem_map.mp hmem
    have hkept := h.saves old hold
    split
    · exact ⟨hkept.baseline, hkept.project, hkept.answered⟩
    · exact hkept
  | edit hsaving edit => exact h.configure (h.config.edit edit)
  | discard => exact h.configure h.config.discardChanges
  | reloaded =>
    exact h.configure <| h.config.redraft rfl rfl rfl (fun draft hdraft => ⟨draft, hdraft, rfl⟩)
      h.config.clean
  | validate => exact h.configure (h.config.validate s.activeProjectId)
  | save hsaving hrequest =>
    exact (h.configure (h.config.validate s.activeProjectId)).settle
      (List.forall_mem_cons.mpr ⟨(h.save hrequest).2, h.saves⟩)
  | @commit request owner stores before after hsaves existing response hput =>
    obtain ⟨id, cell, stored, hid, hcell, -, hnext, rfl, hread⟩ := ConfigStores.put_eq_some hput
    have hkeeps := keepsVersions_push hcell stored
    refine (h.mono hkeeps).settle ?_
    have hall := (h.mono hkeeps).saves
    rw [show ({ s with stores := _ } : ConfigSystem).saves = s.saves from rfl, hsaves,
      List.forall_mem_append, List.forall_mem_cons] at hall
    refine List.forall_mem_append.mpr ⟨hall.1, List.forall_mem_cons.mpr ⟨?_, hall.2.2⟩⟩
    refine ⟨hall.2.1.baseline, hall.2.1.project, fun response' hanswer => ?_⟩
    obtain rfl := Option.some.inj (Option.some.inj hanswer)
    refine ⟨id, cell.push stored, stored, hid, Function.update_self .., ?_, Or.inr hread⟩
    rw [hnext, ← Cell.version_push cell stored]
    exact Cell.at?_push_version cell stored
  | refuse before after hsaves =>
    refine h.settle (hreplace hsaves fun hold => ⟨hold.baseline, hold.project, fun _ hanswer => ?_⟩)
    cases hanswer
  | respond before after hsaves howner haccepts =>
    have hall := h.saves
    rw [hsaves, List.forall_mem_append, List.forall_mem_cons] at hall
    obtain ⟨hbefore, hsave, hafter⟩ := hall
    exact (h.respond hsave.project (hsave.answered _ rfl)).settle
      (List.forall_mem_append.mpr ⟨hbefore, hafter⟩)
  | fail before after hsaves =>
    exact h.settle (hreplace hsaves fun hold => ⟨hold.baseline, hold.project, hold.answered⟩)

end Web
end PipeBolt
