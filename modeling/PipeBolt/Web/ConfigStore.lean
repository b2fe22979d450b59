import PipeBolt.Web.ConfigDocument
import PipeBolt.Web.TopicFilterValidation

/-!
# The configuration store

`config.store.ts`, `config.api.ts` and the functions of `useConfigDraft.ts` and of the raw editor:
the store has a configuration as it was read or saved last, its version and a draft, which a page
edits, checks and saves.

The checks of `config.validation.ts` are parameters, apart from the one of the project.
-/

namespace PipeBolt
namespace Web

open Js

/-! ## Responses -/

namespace Generated

/-- `PipeBoltApiDtoProjectConfigResponse`. -/
structure ProjectConfigResponse where
  config : ProjectConfigDocumentV1
  schemaVersion : Nat
  version : Nat

/-- `PipeBoltApiDtoProjectConfigWriteResponse`. -/
structure ProjectConfigWriteResponse where
  configHash : JsString
  projectId : JsString
  reloadRequired : Bool
  revisionId : JsString
  version : Nat

end Generated

/-- `ConfigValidationIssue`. -/
structure ConfigValidationIssue where
  message : JsString
  path : JsString
  deriving DecidableEq

/-- What `config.validation.ts` checks of a document apart from its project: its structure, its
identifier as an identifier, and the rest, with the baseline. -/
structure ConfigChecks where
  parseStructure : Generated.ProjectConfigDocumentV1 → List ConfigValidationIssue
  validateId : JsString → List ConfigValidationIssue
  validateRest : Generated.ProjectConfigDocumentV1 → Option Generated.ProjectConfigDocumentV1 →
    List ConfigValidationIssue

variable (checks : ConfigChecks)

/-- `validateConfigDocument`. -/
def validateConfigDocument (input : Generated.ProjectConfigDocumentV1)
    (expectedProjectId : JsString) (baseline : Option Generated.ProjectConfigDocumentV1) :
    List ConfigValidationIssue :=
  match checks.parseStructure input with
  | [] =>
    let project :=
      if input.projectId ≠ expectedProjectId then
        [⟨ofString "Project ID must match the active route context.", ofString "project_id"⟩]
      else []
    (checks.validateId input.projectId ++ project ++ checks.validateRest input baseline).take
      ConfigEditor.MAX_ISSUES
  | issues => issues.take ConfigEditor.MAX_ISSUES

/-- `Number.isSafeInteger`, of a version. -/
def isSafeInteger (value : Nat) : Bool := value < 2 ^ 53

/-- What `assertSecretsRedacted` asserts. -/
def secretsRedacted (config : Generated.ProjectConfigDocumentV1) : Bool :=
  (config.brokers.all fun broker =>
    broker.credentials.all fun credentials => credentials.password == REDACTED_SECRET) &&
  config.sinks.all fun sink =>
    match sink.kind with
    | .webhook headers _ _ _ => headers.all fun header => header.value == REDACTED_SECRET
    | .database _ _ => true

/-- Whether `fetchProjectConfig` returns a response. -/
def acceptsResponse (projectId : JsString) (data : Generated.ProjectConfigResponse) : Bool :=
  (checks.parseStructure data.config).isEmpty && data.config.projectId == projectId &&
    isSafeInteger data.version && isSafeInteger data.schemaVersion && secretsRedacted data.config

/-- Whether `saveProjectConfig` returns a response. -/
def acceptsWriteResponse (projectId : JsString) (data : Generated.ProjectConfigWriteResponse) :
    Bool :=
  data.projectId == projectId && isSafeInteger data.version && !data.revisionId.isEmpty &&
    !data.configHash.isEmpty

/-! ## The store -/

/-- `ConfigSection`. -/
inductive ConfigSection where
  | brokers
  | commandTemplates
  | routes
  | schemaMappings
  | sinks
  | general
  | raw
  deriving DecidableEq, Repr

/-- The state of `useConfigStore`. -/
structure ConfigStore where
  projectId : Option JsString
  version : Option Nat
  schemaVersion : Option Nat
  baseline : Option Generated.ProjectConfigDocumentV1
  draft : Option Generated.ProjectConfigDocumentV1
  dirtySections : List ConfigSection
  validationIssues : List ConfigValidationIssue
  validationCurrent : Bool
  reloadRequired : Bool

/-- The values of `updateGeneral`. -/
structure GeneralConfig where
  description : Option JsString
  enabled : Bool
  name : JsString

/-- The arguments of `updateSection`. -/
inductive SectionValue where
  | brokers (value : List Generated.BrokerConnectionConfig)
  | commandTemplates (value : List Generated.CommandTemplate)
  | routes (value : List Generated.TopicRouteConfig)
  | schemaMappings (value : List Generated.PayloadSchemaMapping)
  | sinks (value : List Generated.SinkDefinition)

/-- The section of the arguments. -/
def SectionValue.kind : SectionValue → ConfigSection
  | .brokers _ => .brokers
  | .commandTemplates _ => .commandTemplates
  | .routes _ => .routes
  | .schemaMappings _ => .schemaMappings
  | .sinks _ => .sinks

/-- The document with the value for its section. -/
def SectionValue.put (draft : Generated.ProjectConfigDocumentV1) :
    SectionValue → Generated.ProjectConfigDocumentV1
  | .brokers value => { draft with brokers := value }
  | .commandTemplates value => { draft with commandTemplates := value }
  | .routes value => { draft with routes := value }
  | .schemaMappings value => { draft with schemaMappings := value }
  | .sinks value => { draft with sinks := value }

theorem SectionValue.projectId_put (draft : Generated.ProjectConfigDocumentV1)
    (value : SectionValue) : (value.put draft).projectId = draft.projectId := by
  cases value <;> rfl

namespace ConfigStore

variable (store : ConfigStore)

/-- `isDirty`. -/
def isDirty : Bool := !store.dirtySections.isEmpty

/-- `isLoaded`. -/
def isLoaded : Bool := store.draft.isSome && store.version.isSome

/-- `hydrate`; nothing looks at its result. -/
def hydrate (response : Generated.ProjectConfigResponse) (force : Bool) : ConfigStore :=
  let same := store.projectId == some response.config.projectId
  if !force && same && store.isDirty then store
  else if !force && same && store.version.any fun version => response.version < version then store
  else
    { store with
      projectId := some response.config.projectId
      version := some response.version
      schemaVersion := some response.schemaVersion
      baseline := some response.config
      draft := some response.config
      dirtySections := []
      validationIssues := []
      validationCurrent := false }

/-- `markDirty`. -/
def markDirty (changed : ConfigSection) : ConfigStore :=
  { store with
    dirtySections := store.dirtySections.insert changed
    validationCurrent := false
    validationIssues := [] }

/-- `updateGeneral`. -/
def updateGeneral (values : GeneralConfig) : ConfigStore :=
  match store.draft with
  | none => store
  | some draft =>
    { store with
      draft := some { draft with
        description := values.description
        enabled := values.enabled
        name := values.name } }.markDirty .general

/-- `updateSection`. -/
def updateSection (value : SectionValue) : ConfigStore :=
  match store.draft with
  | none => store
  | some draft => { store with draft := some (value.put draft) }.markDirty value.kind

/-- `replaceDraft`. -/
def replaceDraft (value : Generated.ProjectConfigDocumentV1) : ConfigStore :=
  { store with draft := some value }.markDirty .raw

/-- `discardChanges`. -/
def discardChanges : ConfigStore :=
  match store.baseline with
  | none => store
  | some baseline =>
    { store with
      draft := some baseline
      dirtySections := []
      validationIssues := []
      validationCurrent := false }

/-- `setValidation`. -/
def setValidation (issues : List ConfigValidationIssue) : ConfigStore :=
  { store with validationIssues := issues, validationCurrent := true }

/-- `markSaved`. -/
def markSaved (response : Generated.ProjectConfigWriteResponse)
    (submittedConfig : Generated.ProjectConfigDocumentV1) : ConfigStore :=
  let sanitized := redactConfigSecrets submittedConfig
  { store with
    baseline := some sanitized
    draft := some sanitized
    version := some response.version
    dirtySections := []
    validationIssues := []
    validationCurrent := false
    reloadRequired := response.reloadRequired }

/-- `markReloaded`. -/
def markReloaded : ConfigStore := { store with reloadRequired := false }

/-- `clear`, and the store as it is made. -/
def clear : ConfigStore where
  projectId := none
  version := none
  schemaVersion := none
  baseline := none
  draft := none
  dirtySections := []
  validationIssues := []
  validationCurrent := false
  reloadRequired := false

end ConfigStore

/-! ## The page -/

/-- A save: the project, the draft and the baseline it was made from, and what is sent. -/
structure ConfigSave where
  projectId : JsString
  draft : Generated.ProjectConfigDocumentV1
  baseline : Option Generated.ProjectConfigDocumentV1
  candidate : Generated.ProjectConfigDocumentV1
  expectedVersion : Nat

section Page

-- `String.prototype.toLowerCase`.
variable (toLowerCase : JsString → JsString)

/-- `findUnmaskedSecret` of the raw editor: where there is one. -/
def findUnmaskedSecret (config : Generated.ProjectConfigDocumentV1) : Option JsString :=
  let broker := config.brokers.find? fun broker =>
    broker.credentials.any fun credentials => credentials.password != MASKED_SECRET
  match broker with
  | some broker => some (ofString "brokers." ++ broker.id ++ ofString ".credentials.password")
  | none =>
    config.sinks.findSome? fun sink =>
      match sink.kind with
      | .webhook headers _ _ _ =>
        (headers.find? fun item => item.value != MASKED_SECRET).map fun header =>
          ofString "sinks." ++ sink.id ++ ofString ".headers." ++ header.name
      | .database _ _ => none

/-- `apply` of the raw editor on a text that is a document: what it emits. -/
def applyRaw (config input : Generated.ProjectConfigDocumentV1) :
    Option Generated.ProjectConfigDocumentV1 :=
  if !(checks.parseStructure input).isEmpty || (findUnmaskedSecret input).isSome then none
  else
    match restoreConfigSecrets toLowerCase input (some config) with
    | .error _ => none
    | .ok restored =>
      if (validateConfigDocument checks restored config.projectId (some config)).isEmpty then
        some restored
      else none

/-- What the editors of the page do to the draft. -/
inductive ConfigEdit where
  | updateGeneral (values : GeneralConfig)
  | updateSection (value : SectionValue)
  | applyRaw (input : Generated.ProjectConfigDocumentV1)

/-- An edit of the store.  The raw editor is there while there is a draft. -/
def ConfigStore.edit (store : ConfigStore) : ConfigEdit → ConfigStore
  | .updateGeneral values => store.updateGeneral values
  | .updateSection value => store.updateSection value
  | .applyRaw input =>
    match store.draft.bind fun draft => applyRaw checks toLowerCase draft input with
    | none => store
    | some value => store.replaceDraft value

/-- `validate`. -/
def ConfigStore.validate (store : ConfigStore) (activeProjectId : Option JsString) :
    ConfigStore × Bool :=
  match store.draft, activeProjectId with
  | some draft, some projectId =>
    match restoreConfigSecrets toLowerCase draft store.baseline with
    | .error message => (store.setValidation [⟨message, ofString "secrets"⟩], false)
    | .ok candidate =>
      let issues := validateConfigDocument checks candidate projectId store.baseline
      (store.setValidation issues, issues.isEmpty)
  | _, _ => (store, false)

/-- What `save` sends, while no save of the page is in flight. -/
def ConfigStore.saveRequest (store : ConfigStore) (activeProjectId : Option JsString) :
    Option ConfigSave :=
  match store.draft, store.version, activeProjectId with
  | some draft, some expectedVersion, some projectId =>
    if (store.validate checks toLowerCase activeProjectId).2 then
      match restoreConfigSecrets toLowerCase draft store.baseline with
      | .error _ => none
      | .ok candidate =>
        some { projectId, draft, baseline := store.baseline, candidate, expectedVersion }
    else none
  | _, _, _ => none

end Page

end Web
end PipeBolt
