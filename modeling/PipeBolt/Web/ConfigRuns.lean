import PipeBolt.Web.ConfigDraft

/-!
# Runs of the configuration editor

A draft is based on the version that it was taken over from: which one that is can be read off the
run, and a save that succeeds replaces it.

* `BasedOn`: at a point of the run the draft was the document of a version, and since then it has
  only been edited.
* `basedOn_of_loaded`: the draft of a loaded store is based on its version.
* `config_kept`: what holds of the store in every run.
-/

namespace PipeBolt
namespace Web

open Js Transition VersionedCell

variable {reader : SerdeReader} {checks : ConfigChecks}
  {toLowerCase : JsString → JsString} {stores stores' : ConfigStores}
  {s t : ConfigSystem} {l : ConfigLabel} {es : List (Edge ConfigSystem ConfigLabel)}

/-! ## Runs -/

/-- A save that is not over. -/
def ConfigSystem.InFlight (s : ConfigSystem) (request : ConfigSave) : Prop :=
  ∃ save ∈ s.saves, save.request = request

/-- A step sends a save or leaves those there are. -/
theorem ConfigStep.inFlight {request : ConfigSave}
    (hstep : ConfigStep reader checks toLowerCase s l t) (h : t.InFlight request) :
    l = .save request ∨ s.InFlight request := by
  -- A save that takes the place of another one has its request.
  have hreplace : ∀ {before after : List PendingSave} {old new : PendingSave},
      s.saves = before ++ old :: after → new.request = old.request →
        (∃ save ∈ before ++ new :: after, save.request = request) → s.InFlight request := by
    rintro before after old new hsaves hnew ⟨save, hmem, rfl⟩
    rw [ConfigSystem.InFlight, hsaves]
    rcases List.mem_append.mp hmem with hbefore | hmem
    · exact ⟨save, List.mem_append_left _ hbefore, rfl⟩
    · rcases List.mem_cons.mp hmem with rfl | hafter
      · exact ⟨old, List.mem_append_right _ List.mem_cons_self, hnew.symm⟩
      · exact ⟨save, List.mem_append_right _ (List.mem_cons_of_mem _ hafter), rfl⟩
  cases hstep with
  | write | fetch | arrive | hydrate | select | clear | edit | discard | reloaded | validate =>
    exact Or.inr h
  | leave =>
    obtain ⟨save, hmem, rfl⟩ := h
    obtain ⟨old, hold, rfl⟩ := List.mem_map.mp hmem
    refine Or.inr ⟨old, hold, ?_⟩
    split <;> rfl
  | save hsaving hrequest =>
    obtain ⟨save, hmem, rfl⟩ := h
    rcases List.mem_cons.mp hmem with rfl | hmem
    · exact Or.inl rfl
    · exact Or.inr ⟨save, hmem, rfl⟩
  | commit before after hsaves | refuse before after hsaves | fail before after hsaves =>
    refine Or.inr (hreplace hsaves ?_ h)
    rfl
  | respond before after hsaves =>
    obtain ⟨save, hmem, rfl⟩ := h
    rw [ConfigSystem.InFlight, hsaves]
    refine Or.inr ⟨save, ?_, rfl⟩
    exact (List.mem_append.mp hmem).elim (List.mem_append_left _)
      fun hafter => List.mem_append_right _ (List.mem_cons_of_mem _ hafter)

/-- A save is sent from the store: of its project, from its draft, with its version and with its
baseline. -/
def SentFrom (config : ConfigStore) (request : ConfigSave) : Prop :=
  config.projectId = some request.projectId ∧ config.version = some request.expectedVersion ∧
    config.draft = some request.draft ∧ config.baseline = request.baseline

/-- A save replaces the version that it expects, of its project, which is the one of its baseline,
and no other. -/
def Replaces (reader : SerdeReader) (stores stores' : ConfigStores)
    (request : ConfigSave) : Prop :=
  ∃ id cell baseline stored, readString request.projectId = some id ∧ stores ⟨id⟩ = some cell ∧
    cell.version = request.expectedVersion ∧ request.baseline = some baseline ∧
    HeldAt reader stores request.projectId cell.version baseline ∧
    stores' = Function.update stores ⟨id⟩ (some (cell.push stored)) ∧
    (redactConfigSecrets request.candidate).read reader = some (Api.redactSecrets stored)

theorem ConfigStep.sentFrom {request : ConfigSave}
    (hstep : ConfigStep reader checks toLowerCase s (.save request) t) (h : s.Consistent reader) :
    SentFrom s.config request := by
  cases hstep with
  | save hsaving hrequest =>
    obtain ⟨hdraft, hversion, hbaseline, -⟩ := ConfigStore.saveRequest_eq_some hrequest
    exact ⟨(h.save hrequest).1, hversion, hdraft, hbaseline⟩

theorem ConfigStep.replaces {request : ConfigSave}
    (hstep : ConfigStep reader checks toLowerCase s (.commit request) t) (h : s.Consistent reader) :
    s.InFlight request ∧ Replaces reader s.stores t.stores request := by
  cases hstep with
  | @commit _ owner stores before after hsaves existing response hput =>
    have hmem : (⟨request, none, owner⟩ : PendingSave) ∈ s.saves := by
      rw [hsaves]
      exact List.mem_append_right _ List.mem_cons_self
    obtain ⟨id, cell, stored, hid, hcell, hversion, -, hstores, hread⟩ :=
      ConfigStores.put_eq_some hput
    obtain ⟨baseline, hbaseline, hheld⟩ := (h.saves _ hmem).baseline
    exact ⟨⟨_, hmem, rfl⟩, id, cell, baseline, stored, hid, hcell, hversion, hbaseline,
      hversion ▸ hheld, hstores, hread⟩

/-- The draft is based on a version of a project: at a point of the run it was the redacted document
of that version, and since then it has only been edited. -/
def BasedOn (reader : SerdeReader) (es : List (Edge ConfigSystem ConfigLabel))
    (projectId : JsString) (version : Nat) : Prop :=
  ∃ before e after document, es = before ++ e :: after ∧ e.target.config.draft = some document ∧
    HeldAt reader e.target.stores projectId version document ∧
    ∀ e' ∈ after, e'.label = .edit ∨ e'.target.config.draft = e'.source.config.draft

/-- The draft of a store is the redacted document of its version. -/
def ConfigStore.TakenOver (reader : SerdeReader) (stores : ConfigStores)
    (store : ConfigStore) : Prop :=
  ∀ projectId version, store.projectId = some projectId → store.version = some version →
    ∃ document, store.draft = some document ∧ HeldAt reader stores projectId version document

theorem ConfigStore.takenOver_hydrate {store : ConfigStore} {projectId : JsString}
    {response : Generated.ProjectConfigResponse} (hserved : Served reader stores projectId response)
    (force : Bool) :
    store.hydrate response force = store ∨
      (store.hydrate response force).TakenOver reader stores := by
  obtain ⟨rfl, hheld⟩ := hserved
  rw [ConfigStore.hydrate]
  split
  · exact Or.inl rfl
  · split
    · exact Or.inl rfl
    · refine Or.inr fun projectId version hproject hversion => ?_
      obtain rfl := Option.some.inj hproject
      obtain rfl := Option.some.inj hversion
      exact ⟨response.config, rfl, hheld⟩

theorem ConfigStore.Kept.takenOver_discardChanges {store : ConfigStore}
    (h : store.Kept reader stores) :
    store.discardChanges = store ∨ store.discardChanges.TakenOver reader stores := by
  rw [ConfigStore.discardChanges]
  split
  · exact Or.inl rfl
  · next baseline hbaseline =>
    refine Or.inr fun projectId version hproject hversion => ?_
    obtain ⟨projectId', baseline', -, hproject', hbaseline', -, -, -, hheld⟩ :=
      h.loaded version hversion
    obtain rfl := Option.some.inj (hproject'.symm.trans hproject)
    obtain rfl := Option.some.inj (hbaseline.symm.trans hbaseline')
    exact ⟨baseline, rfl, hheld⟩

theorem ConfigStore.edit_frame (store : ConfigStore) (edit : ConfigEdit) :
    (store.edit checks toLowerCase edit).projectId = store.projectId ∧
      (store.edit checks toLowerCase edit).version = store.version := by
  cases edit with
  | updateGeneral values =>
    rw [ConfigStore.edit, ConfigStore.updateGeneral]
    split <;> exact ⟨rfl, rfl⟩
  | updateSection value =>
    rw [ConfigStore.edit, ConfigStore.updateSection]
    split <;> exact ⟨rfl, rfl⟩
  | applyRaw input =>
    rw [ConfigStore.edit]
    split <;> exact ⟨rfl, rfl⟩

theorem ConfigStore.validate_frame (store : ConfigStore) (activeProjectId : Option JsString) :
    let validated := (store.validate checks toLowerCase activeProjectId).1
    validated.projectId = store.projectId ∧ validated.version = store.version ∧
      validated.draft = store.draft := by
  unfold ConfigStore.validate
  split
  · split <;> exact ⟨rfl, rfl, rfl⟩
  · exact ⟨rfl, rfl, rfl⟩

/-- A step edits the draft, leaves it, or takes it over from the server; the first two leave the
version. -/
theorem ConfigStep.draft_cases (hstep : ConfigStep reader checks toLowerCase s l t)
    (h : s.Consistent reader) :
    ((l = .edit ∨ t.config.draft = s.config.draft) ∧ t.config.projectId = s.config.projectId ∧
        t.config.version = s.config.version) ∨ t.config.TakenOver reader t.stores := by
  -- The steps that leave the store.
  have hsame : t.config = s.config →
      ((l = .edit ∨ t.config.draft = s.config.draft) ∧ t.config.projectId = s.config.projectId ∧
        t.config.version = s.config.version) ∨ t.config.TakenOver reader t.stores := by
    intro hconfig
    rw [hconfig]
    exact Or.inl ⟨Or.inr rfl, rfl, rfl⟩
  cases hstep with
  | write | fetch | select | leave | commit | refuse | fail => exact hsame rfl
  | @arrive fetched before after hfetched =>
    have hserved : Served reader s.stores fetched.projectId fetched.response :=
      h.fetched fetched (hfetched ▸ List.mem_append_right before List.mem_cons_self)
    by_cases hreload : fetched.reload ∧ s.activeProjectId = some fetched.projectId
    · have hconfig : (s.arrive fetched).config = s.config.hydrate fetched.response true :=
        if_pos hreload
      rcases s.config.takenOver_hydrate hserved true with hkept | htaken
      · exact hsame (hconfig.trans hkept)
      · exact Or.inr (hconfig.symm ▸ htaken)
    · exact hsame (if_neg hreload)
  | hydrate hactive hdata =>
    rcases s.config.takenOver_hydrate (h.data _ _ hdata) false with hkept | htaken
    · exact hsame hkept
    · exact Or.inr htaken
  | clear =>
    refine Or.inr fun _ _ hproject _ => ?_
    cases hproject
  | edit hsaving edit =>
    exact Or.inl ⟨Or.inl rfl, s.config.edit_frame edit⟩
  | discard =>
    rcases h.config.takenOver_discardChanges with hkept | htaken
    · exact hsame hkept
    · exact Or.inr htaken
  | reloaded => exact Or.inl ⟨Or.inr rfl, rfl, rfl⟩
  | validate =>
    obtain ⟨hproject, hversion, hdraft⟩ := s.config.validate_frame s.activeProjectId
    exact Or.inl ⟨Or.inr hdraft, hproject, hversion⟩
  | save hsaving hrequest =>
    obtain ⟨hproject, hversion, hdraft⟩ := s.config.validate_frame s.activeProjectId
    exact Or.inl ⟨Or.inr hdraft, hproject, hversion⟩
  | @respond request owner response before after hsaves howner haccepts =>
    have hsave := h.saves ⟨request, some (some response), owner⟩
      (hsaves ▸ List.mem_append_right before List.mem_cons_self)
    by_cases hsent : s.activeProjectId = some request.projectId ∧
        s.config.projectId = some request.projectId ∧
        s.config.version = some request.expectedVersion
    · have hconfig : (s.respond request response).config =
          s.config.markSaved response request.candidate := if_pos hsent
      refine Or.inr fun projectId version hproject hversion => ?_
      change (s.respond request response).config.projectId = _ at hproject
      change (s.respond request response).config.version = _ at hversion
      rw [hconfig] at hproject hversion
      obtain rfl := Option.some.inj (hsent.2.1.symm.trans hproject)
      obtain rfl := Option.some.inj hversion
      refine ⟨redactConfigSecrets request.candidate, ?_, hsave.answered response rfl⟩
      show (s.respond request response).config.draft = _
      rw [hconfig]
      rfl
    · exact hsame (if_neg hsent)

/-- A loaded store has a draft that is based on its version. -/
theorem basedOn_of_loaded (hopened : s.Opened)
    (hrun : Run (ConfigStep reader checks toLowerCase) s es t) :
    ∀ projectId version, t.config.projectId = some projectId →
      t.config.version = some version → BasedOn reader es projectId version := by
  refine (hrun.history (fun es t => (∀ projectId version, t.config.projectId = some projectId →
    t.config.version = some version → BasedOn reader es projectId version) ∧
      t.Consistent reader) ?_ ⟨?_, hopened.consistent⟩).1
  · rintro es s l t ⟨hbased, hconsistent⟩ hstep
    refine ⟨fun projectId version hproject hversion => ?_, hstep.consistent hconsistent⟩
    rcases hstep.draft_cases hconsistent with ⟨hdraft, hsameProject, hsameVersion⟩ | htaken
    · obtain ⟨before, e, after, document, rfl, htarget, hheld, hafter⟩ :=
        hbased projectId version (hsameProject ▸ hproject) (hsameVersion ▸ hversion)
      refine ⟨before, e, after ++ [⟨s, l, t⟩], document, by simp, htarget, hheld, ?_⟩
      exact List.forall_mem_append.mpr ⟨hafter, List.forall_mem_singleton.mpr hdraft⟩
    · obtain ⟨document, hdraft, hheld⟩ := htaken projectId version hproject hversion
      exact ⟨es, ⟨s, l, t⟩, [], document, rfl, hdraft, hheld, fun _ hmem => nomatch hmem⟩
  · intro projectId version hproject
    rw [hopened.config] at hproject
    cases hproject

/-- Every save in flight was sent from the store in the run, and the draft that it was made from was
based on the version that it expects. -/
theorem sentFrom_of_inFlight (hopened : s.Opened)
    (hrun : Run (ConfigStep reader checks toLowerCase) s es t) :
    ∀ request, t.InFlight request →
      ∃ before e after, es = before ++ e :: after ∧ e.label = .save request ∧
        SentFrom e.source.config request ∧
          BasedOn reader before request.projectId request.expectedVersion := by
  have hsent : (∀ request, t.InFlight request → ∃ e ∈ es, e.label = .save request ∧
      SentFrom e.source.config request) ∧ t.Consistent reader := by
    refine hrun.history (fun es t => (∀ request, t.InFlight request →
      ∃ e ∈ es, e.label = .save request ∧ SentFrom e.source.config request) ∧
        t.Consistent reader) ?_ ⟨?_, hopened.consistent⟩
    · rintro es s l t ⟨hsent, hconsistent⟩ hstep
      refine ⟨fun request hflight => ?_, hstep.consistent hconsistent⟩
      rcases hstep.inFlight hflight with rfl | hflight
      · exact ⟨_, List.mem_append_right _ (List.mem_singleton_self _), rfl,
          hstep.sentFrom hconsistent⟩
      · obtain ⟨e, he, hlabel⟩ := hsent request hflight
        exact ⟨e, List.mem_append_left _ he, hlabel⟩
    · rintro request ⟨save, hmem, -⟩
      rw [hopened.saves] at hmem
      cases hmem
  intro request hflight
  obtain ⟨e, he, hlabel, hfrom⟩ := hsent.1 request hflight
  obtain ⟨before, after, hsplit, hbefore, -, -⟩ := hrun.split_of_mem he
  exact ⟨before, e, after, hsplit, hlabel, hfrom,
    basedOn_of_loaded hopened hbefore _ _ hfrom.1 hfrom.2.1⟩

/-- In every run, a loaded store has the redacted configuration of its version as its baseline, as
the browser reads it or as a document that the server reads as it, a store that is not dirty has its
baseline as its draft, and a save that succeeds was sent before from the store, and it replaces the
version that the draft it was sent from was based on. -/
theorem config_kept (hopened : s.Opened)
    (hrun : Run (ConfigStep reader checks toLowerCase) s es t) :
    (t.config.isLoaded = true → ∃ projectId version baseline,
      t.config.projectId = some projectId ∧ t.config.version = some version ∧
        t.config.baseline = some baseline ∧ HeldAt reader t.stores projectId version baseline) ∧
    (t.config.isDirty = false → t.config.draft = t.config.baseline) ∧
    ∀ before after e, es = before ++ e :: after → ∀ request, e.label = .commit request →
      (∃ sent e' rest, before = sent ++ e' :: rest ∧ e'.label = .save request ∧
        SentFrom e'.source.config request ∧
          BasedOn reader sent request.projectId request.expectedVersion) ∧
        Replaces reader e.source.stores e.target.stores request := by
  have hconsistent := hrun.invariant' (ConfigSystem.Consistent reader)
    (fun _ _ _ hstep h => hstep.consistent h) hopened.consistent
  refine ⟨fun hloaded => ?_, hconsistent.1.config.clean, ?_⟩
  · rw [ConfigStore.isLoaded, Bool.and_eq_true, Option.isSome_iff_exists,
      Option.isSome_iff_exists] at hloaded
    obtain ⟨-, version, hversion⟩ := hloaded
    obtain ⟨projectId, baseline, -, hproject, hbaseline, -, -, -, hheld⟩ :=
      hconsistent.1.config.loaded version hversion
    exact ⟨projectId, version, baseline, hproject, hversion, hbaseline, hheld⟩
  · rintro before after e rfl request hlabel
    obtain ⟨r, hbefore, hafter⟩ := hrun.cut
    obtain _ | ⟨hstep, -⟩ := hafter
    obtain rfl : _ = ConfigLabel.commit request := hlabel
    have hr := (hbefore.invariant' (ConfigSystem.Consistent reader)
      (fun _ _ _ hstep h => hstep.consistent h) hopened.consistent).1
    obtain ⟨hflight, hreplaces⟩ := hstep.replaces hr
    exact ⟨sentFrom_of_inFlight hopened hbefore request hflight, hreplaces⟩

/-! ## A field without a default -/

/-- The server writes a default for every field. -/
theorem default_ofBackend (document : Api.ProjectConfigDocumentV1) :
    ∀ mapping ∈ (Generated.ProjectConfigDocumentV1.ofBackend document).schemaMappings,
      ∀ field ∈ mapping.fields, field.default ≠ none := by
  intro mapping hmapping field hfield
  obtain ⟨mapping, -, rfl⟩ := List.mem_map.mp hmapping
  obtain ⟨field, -, rfl⟩ := List.mem_map.mp hfield
  exact Option.some_ne_none _

/-- A project with a mapping of the fields. -/
def mappedDocument (fields : List Domain.FieldMapping) : Api.ProjectConfigDocumentV1 where
  projectId := ⟨"plant"⟩
  tenantId := none
  name := "Plant"
  description := none
  enabled := true
  brokers := [{
    id := ⟨"main"⟩
    name := "Main"
    host := "localhost"
    port := 30
    tls := .disabled
    credentials := none
    keepAlive := .fromSecs 30
    cleanSession := true
    clientId := "gateway"
    reconnect := { minDelay := .fromMillis 30, maxDelay := .fromMillis 30 }
    enabled := true }]
  routes := [{
    id := ⟨"telemetry"⟩
    brokerId := ⟨"main"⟩
    name := "Telemetry"
    topicFilter := ⟨"devices/+/telemetry"⟩
    codec := .json
    schemaMappingId := some ⟨"readings"⟩
    deviceId := .none
    eventType := "telemetry"
    qos := .atLeastOnce
    enabled := true
    backpressure := .reject }]
  schemaMappings := [{ id := ⟨"readings"⟩, name := "Readings", fields }]
  rules := []
  commandTemplates := []
  sinks := []

/-- The field that the editor adds. -/
def addedField : Generated.FieldMapping where
  default := none
  required := false
  source := ofString "value"
  target := ofString "value"
  valueType := .string

/-- The field as the server has it. -/
def addedBackendField : Domain.FieldMapping where
  source := ⟨"value"⟩
  target := "value"
  valueType := .string
  required := false
  default := none

/-- The draft with the field. -/
def addedDraft : Generated.ProjectConfigDocumentV1 :=
  { Generated.ProjectConfigDocumentV1.ofBackend (mappedDocument []) with
    schemaMappings := [{ fields := [addedField], id := ofString "readings",
                         name := ofString "Readings" }] }

/-- The save of the draft. -/
def addedSave : ConfigSave where
  projectId := ofString "plant"
  draft := addedDraft
  baseline := some (.ofBackend (mappedDocument []))
  candidate := addedDraft
  expectedVersion := 1

/-- Checks without issues. -/
def noChecks : ConfigChecks := ⟨fun _ => [], fun _ => [], fun _ _ => []⟩

/-- `serde_json` on the one number of the project. -/
def thirty : SerdeReader := .ofNumber fun _ => .posInt 30

/-- The page before it has read anything. -/
def openedPage : ConfigSystem where
  stores := Function.update (fun _ => none) ⟨"plant"⟩ (some ⟨1, mappedDocument [], []⟩)
  fetched := []
  activeProjectId := some (ofString "plant")
  data _ := none
  config := .clear
  saves := []

theorem openedPage_opened : openedPage.Opened where
  fetched := rfl
  data _ := rfl
  config := rfl
  saves := rfl

theorem readU64_thirty (value : UInt64) :
    readU64 thirty (Generated.integerOfBackend value) = some 30 := by
  rw [readU64, Generated.integerOfBackend, JsNumber.ofDecimal,
    if_pos (finite_ofUnits (roundDecimal_lt value.toNat_lt))]
  rfl

theorem readU16_thirty (value : UInt64) :
    readU16 thirty (Generated.integerOfBackend value) = some 30 := by
  rw [readU16, readU64_thirty]
  rfl

theorem addedDraft_read : addedDraft.read thirty = some (mappedDocument [addedBackendField]) := by
  simp [addedDraft, addedField, mappedDocument, addedBackendField,
    Generated.ProjectConfigDocumentV1.ofBackend, Generated.BrokerConnectionConfig.ofBackend,
    Generated.ReconnectPolicy.ofBackend, Generated.TopicRouteConfig.ofBackend,
    Generated.DeviceIdExtraction.ofBackend, Generated.ProjectConfigDocumentV1.read,
    Generated.BrokerConnectionConfig.read, Generated.ReconnectPolicy.read,
    Generated.TopicRouteConfig.read, Generated.DeviceIdExtraction.read,
    Generated.PayloadSchemaMapping.read, Generated.FieldMapping.read,
    Generated.FieldMapping.readDefault, readU64_thirty, readU16_thirty,
    Rust.durationMillisDeserialize, Rust.durationSecondsDeserialize]

/-- The answer to the save. -/
def addedResponse : Generated.ProjectConfigWriteResponse where
  configHash := ofString "hash"
  projectId := ofString "plant"
  reloadRequired := true
  revisionId := ofString "revision"
  version := 2

/-- The store with the draft that has the field. -/
def addedStore : ConfigStore where
  projectId := some (ofString "plant")
  version := some 1
  schemaVersion := some 1
  baseline := some (.ofBackend (mappedDocument []))
  draft := some addedDraft
  dirtySections := [.schemaMappings]
  validationIssues := []
  validationCurrent := false
  reloadRequired := false

theorem addedStore_saveRequest :
    addedStore.saveRequest noChecks id (some (ofString "plant")) = some addedSave := by
  have hrestore : restoreConfigSecrets id addedDraft
      (some (.ofBackend (mappedDocument []))) = .ok addedDraft := rfl
  have hproject : addedDraft.projectId = ofString "plant" := rfl
  simp [ConfigStore.saveRequest, ConfigStore.validate, addedStore, hrestore, validateConfigDocument,
    noChecks, addedSave, hproject]

theorem openedPage_put :
    openedPage.stores.put thirty ((mappedDocument []).intoDomain 1) addedSave =
      some (Function.update openedPage.stores ⟨"plant"⟩
        (some (Cell.push ⟨1, mappedDocument [], []⟩ (mappedDocument [addedBackendField]))), 2) := by
  have hmerge : Api.mergeRedactedSecrets ((mappedDocument []).intoDomain 1)
      ((mappedDocument [addedBackendField]).intoDomain 2) =
        .ok ((mappedDocument [addedBackendField]).intoDomain 2) := rfl
  simp [ConfigStores.put, addedSave, addedDraft_read, openedPage]
  rw [hmerge]
  rfl

/-- The answer to the read of the project. -/
def addedFetched : Fetched where
  projectId := ofString "plant"
  reload := false
  response := ⟨.ofBackend (mappedDocument []), 1, 1⟩

/-- The page reads the project, adds the field and saves the draft. -/
theorem addedField_run : ∃ es t, Run (ConfigStep thirty noChecks id) openedPage es t ∧
    t.config.isLoaded = true ∧ t.config.isDirty = false ∧
    t.config.baseline = some (redactConfigSecrets addedDraft) ∧
    ∃ before after e, es = before ++ e :: after ∧ e.label = .commit addedSave := by
  have hserve : openedPage.stores.serve (ofString "plant") = some addedFetched.response := by
    simp [ConfigStores.serve, openedPage, Cell.at?, Cell.version,
      PROJECT_CONFIG_DOCUMENT_SCHEMA_VERSION, addedFetched]
  have hdata : (openedPage.arrive addedFetched).data (ofString "plant") =
      some addedFetched.response := by
    simp [ConfigSystem.arrive, addedFetched]
  have hfetch : ConfigStep thirty noChecks id openedPage .fetch
      { openedPage with fetched := [addedFetched] } := .fetch false hserve rfl
  have harrive : ConfigStep thirty noChecks id { openedPage with fetched := [addedFetched] }
      .arrive (openedPage.arrive addedFetched) := .arrive [] [] rfl
  have hhydrate : ConfigStep thirty noChecks id (openedPage.arrive addedFetched) .hydrate
      { openedPage.arrive addedFetched with
        config := ConfigStore.clear.hydrate addedFetched.response false } :=
    .hydrate rfl hdata rfl
  have hedit : ConfigStep thirty noChecks id
      { openedPage.arrive addedFetched with
        config := ConfigStore.clear.hydrate addedFetched.response false } .edit
      { openedPage.arrive addedFetched with config := addedStore } :=
    .edit rfl (.updateSection (.schemaMappings addedDraft.schemaMappings))
  have hsave : ConfigStep thirty noChecks id
      { openedPage.arrive addedFetched with config := addedStore } (.save addedSave) _ :=
    .save rfl addedStore_saveRequest
  have hrun := Run.cons hfetch <| .cons harrive <| .cons hhydrate <| .cons hedit <| .cons hsave <|
    .cons (.commit [] [] rfl ((mappedDocument []).intoDomain 1) addedResponse openedPage_put) <|
    .cons (.respond [] [] rfl (by decide) (by decide)) (.nil _)
  exact ⟨_, _, hrun, rfl, rfl, rfl, [_, _, _, _, _], _, _, rfl, rfl⟩

/-- The run has a save that succeeds, sent from a draft of the first version, which it replaces, and
its store is loaded and not dirty. -/
theorem config_kept_addedField : ∃ es t, Run (ConfigStep thirty noChecks id) openedPage es t ∧
    t.config.draft = t.config.baseline ∧
    (∃ projectId version baseline, t.config.projectId = some projectId ∧
      t.config.version = some version ∧ t.config.baseline = some baseline ∧
        HeldAt thirty t.stores projectId version baseline) ∧
    ∃ sent e' rest e after, es = sent ++ e' :: rest ++ e :: after ∧ e'.label = .save addedSave ∧
      e'.source.config.draft = some addedDraft ∧ BasedOn thirty sent (ofString "plant") 1 ∧
        e.label = .commit addedSave ∧ Replaces thirty e.source.stores e.target.stores addedSave := by
  obtain ⟨es, t, hrun, hloaded, hclean, -, before, after, e, hsplit, hlabel⟩ := addedField_run
  obtain ⟨hheld, hdraft, hcommits⟩ := config_kept openedPage_opened hrun
  obtain ⟨⟨sent, e', rest, rfl, hsave, hfrom, hbased⟩, hreplaces⟩ :=
    hcommits before after e hsplit addedSave hlabel
  exact ⟨es, t, hrun, hdraft hclean, hheld hloaded, sent, e', rest, e, after, hsplit, hsave,
    hfrom.2.2.1, hbased, hlabel, hreplaces⟩

/-- The baseline after a save has a field without a default, which no configuration that the browser
reads from the server has. -/
theorem saved_default_absent :
    ¬ ∀ es t, Run (ConfigStep thirty noChecks id) openedPage es t → t.config.isLoaded = true →
      ∃ projectId cell version stored, t.stores projectId = some cell ∧
        t.config.version = some version ∧ cell.at? version = some stored ∧
          t.config.baseline = some (.ofBackend stored) := by
  intro h
  obtain ⟨es, t, hrun, hloaded, -, hbaseline, -⟩ := addedField_run
  obtain ⟨-, -, -, stored, -, -, -, hstored⟩ := h es t hrun hloaded
  rw [hbaseline] at hstored
  have hmapping : (⟨[addedField], ofString "readings", ofString "Readings"⟩ :
      Generated.PayloadSchemaMapping) ∈
        (Generated.ProjectConfigDocumentV1.ofBackend stored).schemaMappings := by
    rw [← Option.some.inj hstored]
    exact List.mem_singleton_self _
  exact default_ofBackend stored _ hmapping addedField (List.mem_singleton_self _) rfl

end Web
end PipeBolt
