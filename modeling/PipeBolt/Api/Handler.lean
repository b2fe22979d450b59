import PipeBolt.Api.Auth
import PipeBolt.Api.Operations
import PipeBolt.Api.PutConfig
import PipeBolt.Api.Realtime
import PipeBolt.Daemon.CommandProcessor

/-!
# Management endpoints

The endpoints of `pipe_bolt_api::router` below `projects/{project_id}`, with their handlers in
`pipe_bolt_api::handler` and `pipe_bolt_api::realtime`.  A handler is a computation on the state
that the storage and the runtime work on, and reaches it only through the operations of
`ManagementStorage` and `RuntimeControl`.

* `Endpoint.prologue`: the checks that every handler makes first, in its order.
* `respond_of_prologue`: when they fail, the handler calls no operation.
* `unauthorized_silent`: a request without the permission of its endpoint, or of another project,
  is answered without the state.
-/

namespace PipeBolt
namespace Api

open Domain Daemon Rust Fallible Storage

/-! ## Requests -/

/-- A request: its `Authorization` header, the parameters of its path and of its query, its
`Content-Length` where that is a number, and its body, or why it cannot be read. -/
structure Request where
  authorization : Option String
  param : String → Option String
  query : String → Option String
  contentLength : Option Nat
  payload : Except String (List UInt8)

/-- `ResolveFailureRequest`. -/
structure ResolveFailureRequest where
  resolution : String
  reason : Option String

/-- `RuntimeReloadRequest`. -/
structure RuntimeReloadRequest where
  reason : Option String

/-- `ExecuteCommandRequest`. -/
structure ExecuteCommandRequest where
  params : ValueMap
  reason : Option String

/-- What the handlers use of other crates: the digest of a token, times, the JSON of the bodies,
also as `parse_json_with_max_size` of salvo reads it, and the texts of database errors. -/
structure ApiCrates where
  sha256 : String → Digest
  parseRfc3339 : String → Except String OffsetDateTime
  updateProjectConfig : Request → Nat → Except String UpdateProjectConfigRequest
  resolveFailure : Request → Nat → Except String ResolveFailureRequest
  runtimeReload : List UInt8 → Except String RuntimeReloadRequest
  executeCommand : List UInt8 → Except String ExecuteCommandRequest
  sqlxText : SqlxError → String

/-! ## Responses -/

/-- `ProjectConfigResponse`. -/
structure ProjectConfigResponse where
  schemaVersion : UInt16
  version : UInt64
  config : ProjectConfigDocumentV1

def PROJECT_CONFIG_DOCUMENT_SCHEMA_VERSION : UInt16 := 1

/-- `ProjectConfigResponse::from_domain`. -/
def ProjectConfigResponse.fromDomain (config : ProjectConfig) : ProjectConfigResponse where
  schemaVersion := PROJECT_CONFIG_DOCUMENT_SCHEMA_VERSION
  version := config.version
  config := .fromDomain config

/-- `ResolveFailureResponse`. -/
structure ResolveFailureResponse where
  failureId : String
  resolved : Bool

/-- `RuntimeStatusResponse`, but for its counters. -/
structure RuntimeStatusResponse where
  projectId : ProjectId
  state : RuntimeLifecycleState
  activeVersion : Option UInt64
  startedAt : Option OffsetDateTime
  lastReloadAt : Option OffsetDateTime
  lastReloadError : Option String

/-- `ExecuteCommandResponse`. -/
structure ExecuteCommandResponse where
  projectId : ProjectId
  commandTemplateId : CommandTemplateId
  commandExecutionId : CommandExecutionId
  status : CommandExecutionStatus
  brokerId : BrokerId
  topic : String
  qos : MqttQos
  retain : Bool
  payloadSizeBytes : UInt64
  queuedAt : OffsetDateTime
  auditEventId : String

/-- `RealtimeSubscription`, with `ρ` for the receiver of the events. -/
structure RealtimeSubscription (ρ : Type) where
  projectId : ProjectId
  filter : RealtimeFilter
  rx : ρ

/-- The bodies of the responses. -/
inductive ResponseBody where
  | projectConfig (response : ProjectConfigResponse)
  | projectConfigWrite (response : ProjectConfigWriteResponse)
  | auditEvents (response : ListResponse AuditEventResponse)
  | failures (response : ListResponse FailureEventResponse)
  | resolveFailure (response : ResolveFailureResponse)
  | deliveryOutcomes (response : ListResponse SinkDeliveryOutcomeResponse)
  | runtimeStatus (response : RuntimeStatusResponse)
  | executeCommand (response : ExecuteCommandResponse)
  | runtimeReload (response : RuntimeReloadResponse)

/-- What an endpoint answers: an error, JSON, a stream of events or an upgrade to a WebSocket. -/
inductive Response (ρ : Type) where
  | error (reply : ErrorReply)
  | json (status : Nat) (body : ResponseBody)
  | sse (subscription : RealtimeSubscription ρ)
  | webSocket (subscription : RealtimeSubscription ρ)

/-! ## The storage and the runtime -/

/-- `ManagementStorage`, on a state. -/
structure ManagementStorage (σ : Type) where
  loadProjectConfig : ProjectId → σ → Except StorageError (Option ProjectConfig) × σ
  updateProjectConfig : ProjectConfig → UInt64 → AuditContext → σ →
    Except StorageError ProjectConfigWriteResult × σ
  listAuditEvents : ProjectId → OperationalListQuery → σ →
    Except StorageError (List AuditEventRecord) × σ
  listFailures : ProjectId → FailureListQuery → σ →
    Except StorageError (List FailureEventRecord) × σ
  resolveFailure : ProjectId → String → String → AuditContext → σ → Except StorageError Unit × σ
  listDeliveryOutcomes : ProjectId → OperationalListQuery → σ →
    Except StorageError (List SinkDeliveryOutcomeRecord) × σ

/-- `RuntimeControl`, on a state. -/
structure RuntimeControl (σ ρ : Type) where
  status : ProjectId → σ → Except RuntimeControlError RuntimeStatusResponse × σ
  subscribeRealtimeEvents : ProjectId → σ → Except RuntimeControlError ρ × σ
  validateCandidateConfig : ProjectId → ProjectConfig → σ → Except RuntimeControlError Unit × σ
  reload : ProjectId → AuditContext → σ → Except RuntimeControlError RuntimeReloadResponse × σ
  executeCommand : ProjectId → CommandTemplateId → ValueMap → AuditContext → σ →
    Except RuntimeControlError ExecuteCommandResponse × σ

/-- `ApiState`. -/
structure ApiState (σ ρ : Type) where
  storage : ManagementStorage σ
  runtime : RuntimeControl σ ρ
  auth : ManagementAuth
  maxConfigBodyBytes : Nat

/-- What the hoops put into the depot of a request. -/
structure Depot (σ ρ : Type) where
  state : Option (ApiState σ ρ)
  auth : Option AuthContext

/-- The depot of a request whose user is known. -/
def Depot.of {σ ρ : Type} (state : ApiState σ ρ) (auth : AuthContext) : Depot σ ρ :=
  { state := some state, auth := some auth }

/-- A computation of a handler. -/
abbrev Handler (σ α : Type) := ExceptT ApiError (StateM σ) α

section Handlers

variable {σ ρ α : Type} (crates : ApiCrates) (depot : Depot σ ρ) (request : Request)

/-- A call of the storage, whose error becomes an `ApiError`. -/
def storageCall (operation : σ → Except StorageError α × σ) : Handler σ α :=
  ExceptT.mk fun world =>
    let (result, world) := operation world
    (result.mapError (.ofStorage crates.sqlxText), world)

/-- A call of the runtime, whose error becomes an `ApiError`. -/
def runtimeCall (operation : σ → Except RuntimeControlError α × σ) : Handler σ α :=
  ExceptT.mk fun world =>
    let (result, world) := operation world
    (result.mapError .ofRuntimeControl, world)

/-! ## The parts of the handlers -/

/-- `authorized_state`. -/
def authorizedState : Except ApiError (ApiState σ ρ) :=
  match depot.state with
  | some state => .ok state
  | none => .error (.internal "API state missing")

/-- `path_param`. -/
def pathParam (name : String) : Except ApiError String :=
  match request.param name with
  | some value => .ok value
  | none => .error (.badRequest s!"missing path parameter '{name}'")

/-- `path_project_id`. -/
def pathProjectId : Except ApiError ProjectId := do
  (Identifier.new (← pathParam request "project_id")).mapError .ofDomain

/-- The template that the path names. -/
def pathCommandTemplateId : Except ApiError CommandTemplateId := do
  (Identifier.new (← pathParam request "command_template_id")).mapError .ofDomain

/-- `auth_context`. -/
def authContext : Except ApiError AuthContext :=
  match depot.auth with
  | some auth => .ok auth
  | none => .error .unauthorized

/-- `authorize_project`. -/
def authorizeProject (projectId : ProjectId) (permission : ManagementPermission) :
    Except ApiError AuthContext := do
  let auth ← authContext depot
  auth.authorizeProject projectId permission
  return auth

/-- `ensure_declared_body_size`. -/
def ensureDeclaredBodySize (maxBytes : Nat) : Except ApiError Unit :=
  match request.contentLength with
  | none => .ok ()
  | some actualBytes =>
    if maxBytes < actualBytes then .error (.payloadTooLarge actualBytes maxBytes) else .ok ()

/-- `parse_optional_json_with_max_size`. -/
def parseOptionalJsonWithMaxSize (fromSlice : List UInt8 → Except String α) (maxBytes : Nat) :
    Except ApiError (Option α) := do
  let payload ← request.payload.mapError fun error =>
    .badRequest s!"failed to read request body: {error}"
  if payload.isEmpty then return none
  else if maxBytes < payload.length then .error (.payloadTooLarge payload.length maxBytes)
  else
    let body ← (fromSlice payload).mapError fun error => .badRequest s!"invalid JSON body: {error}"
    return some body

/-- `optional_u32_query`. -/
def optionalU32Query (name : String) : Except ApiError (Option UInt32) :=
  match request.query name with
  | none => .ok none
  | some raw =>
    match parseU32 raw with
    | some value => .ok (some value)
    | none => .error (.badRequest s!"query parameter '{name}' must be an unsigned integer")

/-- `optional_bool_query`. -/
def optionalBoolQuery (name : String) : Except ApiError (Option Bool) :=
  match request.query name with
  | none => .ok none
  | some raw =>
    match toAsciiLowercase (trim raw) with
    | "1" | "true" | "yes" | "on" => .ok (some true)
    | "0" | "false" | "no" | "off" => .ok (some false)
    | _ => .error (.badRequest s!"query parameter '{name}' must be a boolean")

/-- `optional_rfc3339_query`. -/
def optionalRfc3339Query (name : String) : Except ApiError (Option OffsetDateTime) :=
  match request.query name with
  | none => .ok none
  | some raw =>
    match crates.parseRfc3339 raw with
    | .ok value => .ok (some value)
    | .error error =>
      .error (.badRequest s!"query parameter '{name}' must be RFC3339 timestamp: {error}")

/-- `list_query`, from the query of a request. -/
def requestListQuery : Except ApiError OperationalListQuery := do
  let limit ← optionalU32Query request "limit"
  let before ← optionalRfc3339Query crates request "before"
  return listQuery { limit, before, unresolvedOnly := none }

/-- `parse_filter`. -/
def parseFilter : Except ApiError RealtimeFilter := do
  let filter : RealtimeFilter := {
    deviceId := request.query "device_id"
    topic := request.query "topic"
    topicPrefix := request.query "topic_prefix"
    eventType := request.query "event_type"
    routeId := request.query "route_id" }
  let filter := filter.normalized
  validateFilter filter
  return filter

/-! ## The handlers -/

def RUNTIME_RELOAD_MAX_BODY_BYTES : Nat := 8 * 1024

def COMMAND_EXECUTE_MAX_BODY_BYTES : Nat := 64 * 1024

/-- `get_project_config_inner`. -/
def getProjectConfigInner : Handler σ ProjectConfigResponse := do
  let state ← authorizedState depot
  let projectId ← pathProjectId request
  let _ ← authorizeProject depot projectId .projectRead
  match ← storageCall crates (state.storage.loadProjectConfig projectId) with
  | none => throw (.notFound s!"project config '{projectId.raw}' was not found")
  | some config => return .fromDomain config

/-- `put_project_config_inner`. -/
def putProjectConfigInner : Handler σ ProjectConfigWriteResponse := do
  let state ← authorizedState depot
  let projectId ← pathProjectId request
  let auth ← authorizeProject depot projectId .projectConfigWrite
  ensureDeclaredBodySize request state.maxConfigBodyBytes
  let body ← (crates.updateProjectConfig request state.maxConfigBodyBytes).mapError fun error =>
    ApiError.badRequest s!"invalid config update request: {error}"
  if body.config.projectId ≠ projectId then
    let path := projectId.raw
    let submitted := body.config.projectId.raw
    throw (.badRequest s!"path project_id '{path}' does not match body project_id '{submitted}'")
  let nextVersion ← nextConfigVersion body.expectedVersion
  match ← storageCall crates (state.storage.loadProjectConfig projectId) with
  | none => throw (.notFound s!"project config '{projectId.raw}' was not found")
  | some existing =>
    let nextConfig ← mergeRedactedSecrets existing (body.config.intoDomain nextVersion)
    nextConfig.validate.mapError ApiError.ofDomain
    runtimeCall (state.runtime.validateCandidateConfig projectId nextConfig)
    let write ← storageCall crates (state.storage.updateProjectConfig nextConfig
      body.expectedVersion (auditContext auth.actorId body.reason))
    return {
      projectId := write.projectId
      version := write.version
      revisionId := write.revisionId
      configHash := write.configHash
      reloadRequired := true }

/-- `get_audit_events_inner`. -/
def getAuditEventsInner : Handler σ (ListResponse AuditEventResponse) := do
  let state ← authorizedState depot
  let projectId ← pathProjectId request
  let _ ← authorizeProject depot projectId .projectRead
  let query ← requestListQuery crates request
  let items ← storageCall crates (state.storage.listAuditEvents projectId query)
  return listResponse AuditEventRecord.occurredAt .ofRecord query.limit items

/-- `get_failures_inner`. -/
def getFailuresInner : Handler σ (ListResponse FailureEventResponse) := do
  let state ← authorizedState depot
  let projectId ← pathProjectId request
  let _ ← authorizeProject depot projectId .projectRead
  let list ← requestListQuery crates request
  let unresolvedOnly := (← optionalBoolQuery request "unresolved_only").getD false
  let query : FailureListQuery := { limit := list.limit, before := list.before, unresolvedOnly }
  let items ← storageCall crates (state.storage.listFailures projectId query)
  return listResponse FailureEventRecord.occurredAt .ofRecord query.limit items

/-- `resolve_failure_inner`. -/
def resolveFailureInner : Handler σ ResolveFailureResponse := do
  let state ← authorizedState depot
  let projectId ← pathProjectId request
  let auth ← authorizeProject depot projectId .failureResolve
  let failureId ← pathParam request "failure_id"
  let body ← (crates.resolveFailure request (16 * 1024)).mapError fun error =>
    ApiError.badRequest s!"invalid failure resolution request: {error}"
  storageCall crates (state.storage.resolveFailure projectId failureId body.resolution
    (auditContext auth.actorId body.reason))
  return { failureId, resolved := true }

/-- `get_delivery_outcomes_inner`. -/
def getDeliveryOutcomesInner : Handler σ (ListResponse SinkDeliveryOutcomeResponse) := do
  let state ← authorizedState depot
  let projectId ← pathProjectId request
  let _ ← authorizeProject depot projectId .projectRead
  let query ← requestListQuery crates request
  let items ← storageCall crates (state.storage.listDeliveryOutcomes projectId query)
  return listResponse SinkDeliveryOutcomeRecord.occurredAt .ofRecord query.limit items

/-- `get_runtime_status_inner`. -/
def getRuntimeStatusInner : Handler σ RuntimeStatusResponse := do
  let state ← authorizedState depot
  let projectId ← pathProjectId request
  let _ ← authorizeProject depot projectId .projectRead
  runtimeCall (state.runtime.status projectId)

/-- `post_runtime_reload_inner`. -/
def postRuntimeReloadInner : Handler σ RuntimeReloadResponse := do
  let state ← authorizedState depot
  let projectId ← pathProjectId request
  let auth ← authorizeProject depot projectId .runtimeReload
  ensureDeclaredBodySize request RUNTIME_RELOAD_MAX_BODY_BYTES
  let body ← parseOptionalJsonWithMaxSize request crates.runtimeReload
    RUNTIME_RELOAD_MAX_BODY_BYTES
  let body := body.getD { reason := none }
  runtimeCall (state.runtime.reload projectId (auditContext auth.actorId body.reason))

/-- `post_execute_command_inner`.  The template of the path is read before the project is
authorised. -/
def postExecuteCommandInner : Handler σ ExecuteCommandResponse := do
  let state ← authorizedState depot
  let projectId ← pathProjectId request
  let commandTemplateId ← pathCommandTemplateId request
  let auth ← authorizeProject depot projectId .commandExecute
  ensureDeclaredBodySize request COMMAND_EXECUTE_MAX_BODY_BYTES
  let body ← parseOptionalJsonWithMaxSize request crates.executeCommand
    COMMAND_EXECUTE_MAX_BODY_BYTES
  let body := body.getD { params := [], reason := none }
  runtimeCall (state.runtime.executeCommand projectId commandTemplateId body.params
    (auditContext auth.actorId body.reason))

/-- `prepare_subscription`. -/
def prepareSubscription : Handler σ (RealtimeSubscription ρ) := do
  let state ← authorizedState depot
  let projectId ← pathProjectId request
  let _ ← authorizeProject depot projectId .projectRead
  let filter := (← parseFilter request).normalized
  let rx ← runtimeCall (state.runtime.subscribeRealtimeEvents projectId)
  return { projectId, filter, rx }

/-! ## The endpoints -/

/-- The endpoints of a project. -/
inductive Endpoint where
  | getProjectConfig
  | putProjectConfig
  | getAuditEvents
  | postExecuteCommand
  | getFailures
  | resolveFailure
  | getDeliveryOutcomes
  | getRuntimeStatus
  | postRuntimeReload
  | realtimeSse
  | realtimeWs
  deriving DecidableEq, Repr

/-- `render_json` of what a handler returns, or `write_error_response`. -/
def renderJson (status : Nat) (body : α → ResponseBody) (handler : Handler σ α) (world : σ) :
    Response ρ × σ :=
  match handler.run.run world with
  | (.ok response, world) => (.json status (body response), world)
  | (.error error, world) => (.error (writeErrorResponse error), world)

/-- The stream of a subscription, or `write_error_response`. -/
def renderSubscription (stream : RealtimeSubscription ρ → Response ρ)
    (handler : Handler σ (RealtimeSubscription ρ)) (world : σ) : Response ρ × σ :=
  match handler.run.run world with
  | (.ok subscription, world) => (stream subscription, world)
  | (.error error, world) => (.error (writeErrorResponse error), world)

/-- The handler of an endpoint. -/
def Endpoint.respond (world : σ) : Endpoint → Response ρ × σ
  | .getProjectConfig =>
    renderJson 200 .projectConfig (getProjectConfigInner crates depot request) world
  | .putProjectConfig =>
    renderJson 200 .projectConfigWrite (putProjectConfigInner crates depot request) world
  | .getAuditEvents => renderJson 200 .auditEvents (getAuditEventsInner crates depot request) world
  | .postExecuteCommand =>
    renderJson 202 .executeCommand (postExecuteCommandInner crates depot request) world
  | .getFailures => renderJson 200 .failures (getFailuresInner crates depot request) world
  | .resolveFailure =>
    renderJson 200 .resolveFailure (resolveFailureInner crates depot request) world
  | .getDeliveryOutcomes =>
    renderJson 200 .deliveryOutcomes (getDeliveryOutcomesInner crates depot request) world
  | .getRuntimeStatus => renderJson 200 .runtimeStatus (getRuntimeStatusInner depot request) world
  | .postRuntimeReload =>
    renderJson 200 .runtimeReload (postRuntimeReloadInner crates depot request) world
  | .realtimeSse => renderSubscription .sse (prepareSubscription depot request) world
  | .realtimeWs => renderSubscription .webSocket (prepareSubscription depot request) world

end Handlers

section Router

variable {σ ρ : Type} (crates : ApiCrates) (state : ApiState σ ρ) (endpoint : Endpoint)
  (request : Request)

/-- `management_router` on a path below `projects/{project_id}`: the state is put into the depot,
`require_management_auth` puts the user there or answers, and the handler is called. -/
def managementRouter (world : σ) : Response ρ × σ :=
  match state.auth.authenticate crates.sha256 request.authorization with
  | .error error => (.error (writeErrorResponse error), world)
  | .ok auth =>
    endpoint.respond crates (.of state auth) request world

end Router

/-! ## The checks that come first -/

/-- The permission that an endpoint asks for. -/
def Endpoint.permission : Endpoint → ManagementPermission
  | .getProjectConfig | .getAuditEvents | .getFailures | .getDeliveryOutcomes | .getRuntimeStatus
  | .realtimeSse | .realtimeWs => .projectRead
  | .putProjectConfig => .projectConfigWrite
  | .postExecuteCommand => .commandExecute
  | .resolveFailure => .failureResolve
  | .postRuntimeReload => .runtimeReload

/-- What an endpoint checks before everything else, of the user and the path alone. -/
def Endpoint.prologue (endpoint : Endpoint) (auth : AuthContext) (request : Request) :
    Except ApiError Unit := do
  let projectId ← pathProjectId request
  if endpoint = .postExecuteCommand then
    let _ ← pathCommandTemplateId request
  auth.authorizeProject projectId endpoint.permission

/-- A user lacks a permission, or the project of a path is not in his scope. -/
def Unauthorized (auth : AuthContext) (request : Request) (permission : ManagementPermission) :
    Prop :=
  auth.role.allows permission = false ∨
    ∃ projectId, pathProjectId request = .ok projectId ∧ auth.projectScope.allows projectId = false

section Refused

variable {σ ρ α : Type} {crates : ApiCrates} {state : ApiState σ ρ} {auth : AuthContext}
  {request : Request} {error : ApiError}

/-- A project that is not authorised ends the handler. -/
theorem refuses_authorize {projectId : ProjectId} {permission : ManagementPermission}
    (h : auth.authorizeProject projectId permission = .error error)
    (f : AuthContext → Handler σ α) :
    Refuses (liftM (authorizeProject (Depot.of state auth) projectId permission) >>= f) error := by
  refine refuses_of_error ?_ f
  rw [authorizeProject]
  exact bind_eq_error_iff.mpr (.inr ⟨auth, rfl, bind_eq_error_iff.mpr (.inl h)⟩)

/-- A handler that reads the project of the path and authorises it is over when that fails. -/
theorem refuses_project {permission : ManagementPermission}
    (h : (do
      let projectId ← pathProjectId request
      auth.authorizeProject projectId permission) = .error error)
    (f : ApiState σ ρ → ProjectId → AuthContext → Handler σ α) :
    Refuses (do
      let state ← authorizedState (Depot.of state auth)
      let projectId ← pathProjectId request
      let auth ← authorizeProject (Depot.of state auth) projectId permission
      f state projectId auth : Handler σ α) error := by
  refine refuses_of_ok (show authorizedState (Depot.of state auth) = .ok state from rfl) ?_
  rcases bind_eq_error_iff.mp h with hpath | ⟨projectId, hpath, hauth⟩
  · exact refuses_of_error hpath _
  · exact refuses_of_ok hpath (refuses_authorize hauth _)

theorem renderJson_of_refuses {handler : Handler σ α} (h : Refuses handler error) (status : Nat)
    (body : α → ResponseBody) (world : σ) :
    renderJson status body handler world =
      ((.error (writeErrorResponse error) : Response ρ), world) := by
  rw [renderJson, h world]

theorem renderSubscription_of_refuses {handler : Handler σ (RealtimeSubscription ρ)}
    (h : Refuses handler error) (stream : RealtimeSubscription ρ → Response ρ) (world : σ) :
    renderSubscription stream handler world = (.error (writeErrorResponse error), world) := by
  rw [renderSubscription, h world]

/-- Checks that fail end the handler of their endpoint before it calls an operation. -/
theorem respond_of_prologue {endpoint : Endpoint}
    (h : endpoint.prologue auth request = .error error) (world : σ) :
    endpoint.respond crates (Depot.of state auth) request world =
      (.error (writeErrorResponse error), world) := by
  cases endpoint with
  | getProjectConfig => exact renderJson_of_refuses (refuses_project h _) 200 _ world
  | putProjectConfig => exact renderJson_of_refuses (refuses_project h _) 200 _ world
  | getAuditEvents => exact renderJson_of_refuses (refuses_project h _) 200 _ world
  | getFailures => exact renderJson_of_refuses (refuses_project h _) 200 _ world
  | resolveFailure => exact renderJson_of_refuses (refuses_project h _) 200 _ world
  | getDeliveryOutcomes => exact renderJson_of_refuses (refuses_project h _) 200 _ world
  | getRuntimeStatus => exact renderJson_of_refuses (refuses_project h _) 200 _ world
  | postRuntimeReload => exact renderJson_of_refuses (refuses_project h _) 200 _ world
  | realtimeSse => exact renderSubscription_of_refuses (refuses_project h _) _ world
  | realtimeWs => exact renderSubscription_of_refuses (refuses_project h _) _ world
  | postExecuteCommand =>
    -- Here the template is between the path and the project.
    refine renderJson_of_refuses ?_ 202 _ world
    refine refuses_of_ok (show authorizedState (Depot.of state auth) = .ok state from rfl) ?_
    rcases bind_eq_error_iff.mp h with hpath | ⟨projectId, hpath, hrest⟩
    · exact refuses_of_error hpath _
    · refine refuses_of_ok hpath ?_
      rcases bind_eq_error_iff.mp hrest with htemplate | ⟨templateId, htemplate, hauth⟩
      · exact refuses_of_error htemplate _
      · exact refuses_of_ok htemplate (refuses_authorize hauth _)

/-- The checks fail for a user without the permission or the project. -/
theorem Unauthorized.prologue_error {endpoint : Endpoint}
    (h : Unauthorized auth request endpoint.permission) :
    ∃ error, endpoint.prologue auth request = .error error := by
  cases hprologue : endpoint.prologue auth request with
  | error error => exact ⟨error, rfl⟩
  | ok =>
    obtain ⟨projectId, hpath, hrest⟩ := bind_eq_ok_iff.mp hprologue
    have hauth : auth.authorizeProject projectId endpoint.permission = .ok () := by
      split at hrest
      · obtain ⟨-, -, hauth⟩ := bind_eq_ok_iff.mp hrest
        exact hauth
      · exact hrest
    obtain ⟨hrole, hscope⟩ := authorizeProject_eq_ok_iff.mp hauth
    rcases h with hlacks | ⟨excluded, hexcluded, hout⟩
    · rw [hrole] at hlacks
      cases hlacks
    · obtain rfl := Except.ok.inj (hpath.symm.trans hexcluded)
      rw [hscope] at hout
      cases hout

end Refused

/-- A request whose user lacks the permission of its endpoint, or whose path names a project out of
his scope, has one response: whatever the operations of the storage and of the runtime do, and in
every state, which is left as it is. -/
theorem unauthorized_silent (crates : ApiCrates) (endpoint : Endpoint) (request : Request)
    (tokens : ManagementAuth) {auth : AuthContext}
    (hauth : tokens.authenticate crates.sha256 request.authorization = .ok auth)
    (h : Unauthorized auth request endpoint.permission) :
    ∃ reply : ErrorReply, ∀ (σ ρ : Type) (state : ApiState σ ρ) (world : σ), state.auth = tokens →
      managementRouter crates state endpoint request world = (.error reply, world) := by
  obtain ⟨error, herror⟩ := h.prologue_error
  refine ⟨writeErrorResponse error, fun σ ρ state world htokens => ?_⟩
  rw [managementRouter, htokens, hauth]
  exact respond_of_prologue herror world

/-! ## A viewer -/

/-- The digest of the token below. -/
def viewerDigest : Digest :=
  [62, 177, 189, 67, 153, 71, 235, 118, 41, 152, 229, 102, 204, 194, 224, 153, 199, 145, 17, 139,
    47, 64, 87, 156, 196, 247, 218, 43, 80, 97, 183, 249]

/-- A user who may read one project. -/
def viewer : AuthContext where
  actorId := ⟨"viewer"⟩
  role := .viewer
  projectScope := .projects [⟨"plant"⟩]

/-- A request of the viewer for the configuration of a project. -/
def viewerRequest (projectId : String) : Request where
  authorization := some "Bearer 0123456789abcdef0123456789abcdef"
  param := fun name => if name = "project_id" then some projectId else none
  query := fun _ => none
  contentLength := none
  payload := .ok []

/-- Other crates, for a request without a query and without a body. -/
def viewerCrates : ApiCrates where
  sha256 := fun _ => viewerDigest
  parseRfc3339 := fun _ => .error "unexpected end of input"
  updateProjectConfig := fun _ _ => .error "invalid content type"
  resolveFailure := fun _ _ => .error "invalid content type"
  runtimeReload := fun _ => .error "EOF while parsing a value at line 1 column 0"
  executeCommand := fun _ => .error "EOF while parsing a value at line 1 column 0"
  sqlxText := fun _ => "connection refused"

theorem viewer_authenticated :
    ManagementAuth.authenticate viewerCrates.sha256 ⟨[⟨viewerDigest, viewer⟩]⟩
      (viewerRequest "plant").authorization = .ok viewer :=
  toOption_eq_some_iff.mp (by decide +kernel)

/-- The viewer may not write the configuration that he may read. -/
theorem unauthorized_silent_viewer :
    ∃ reply : ErrorReply, ∀ (σ ρ : Type) (state : ApiState σ ρ) (world : σ),
      state.auth = ⟨[⟨viewerDigest, viewer⟩]⟩ →
        managementRouter viewerCrates state .putProjectConfig (viewerRequest "plant") world =
          (.error reply, world) :=
  unauthorized_silent viewerCrates .putProjectConfig (viewerRequest "plant")
    ⟨[⟨viewerDigest, viewer⟩]⟩ viewer_authenticated (.inl rfl)

end Api
end PipeBolt
