import PipeBolt.Api.Redaction
import PipeBolt.Storage.Versions

/-!
# Concurrent configuration writes

`put_project_config_inner` of `pipe_bolt_api::handler`.  A request loads the stored configuration,
puts its secrets in the place of the placeholders it was submitted with, and updates the project if
its version is still the one the client expects.  The load and the update are steps of their own,
and the version that was loaded is compared with nothing.

* `Step`: the steps of any number of requests.
* `redactedKept_iff`: an update stores every redacted secret with its value in the version it
  replaces exactly when the version that was loaded has those values.
-/

namespace PipeBolt
namespace Api

open Domain Daemon Rust Fallible Storage Transition

/-! ## The handler -/

/-- `UpdateProjectConfigRequest`. -/
structure UpdateProjectConfigRequest where
  expectedVersion : UInt64
  config : ProjectConfigDocumentV1
  reason : Option String

/-- `ProjectConfigWriteResponse`. -/
structure ProjectConfigWriteResponse where
  projectId : ProjectId
  version : UInt64
  revisionId : String
  configHash : String
  reloadRequired : Bool
  deriving DecidableEq, Repr

/-- An authorised request: its path, its body and the user who makes it. -/
structure PutRequest where
  pathProjectId : ProjectId
  body : UpdateProjectConfigRequest
  actorId : UserId

/-- `next_config_version`. -/
def nextConfigVersion (expectedVersion : UInt64) : Except ApiError UInt64 :=
  if expectedVersion.toNat + 1 = 2 ^ 64 then
    .error (.unprocessableEntity "project config version overflow"
      (some (.object [("expected_version", jsonU64 expectedVersion)])))
  else .ok (expectedVersion + 1)

/-- `audit_context`. -/
def auditContext (actorId : UserId) (reason : Option String) : AuditContext :=
  ⟨some actorId, reason⟩

/-- `validate_candidate_config` of a supervisor that manages the project `managed` and whose
shutdown has begun or not. -/
def validateCandidateConfig (managed : ProjectId) (stopping : Bool) (projectId : ProjectId)
    (config : ProjectConfig) : Except RuntimeControlError Unit :=
  if projectId ≠ managed then .error (.projectNotManaged projectId.raw)
  else if stopping then .error (.shuttingDown "daemon shutdown has started")
  else if config.id ≠ projectId then
    .error (.invalidConfig
      s!"candidate config project_id '{config.id.raw}' does not match managed project_id '{projectId.raw}'")
  else (validateRuntimeConfig config).mapError fun error => .invalidConfig error.display

/-- A request after its load: the version its update makes, and the stored configuration. -/
structure Pending where
  request : PutRequest
  nextVersion : UInt64
  existing : ProjectConfig

section Handler

variable {ρ : Type} (format : Format) (cipher : SecretCipher ρ) (sqlxText : SqlxError → String)

/-- The handler up to the load. -/
def beginPut (failure : Option String) (request : PutRequest) (db : Database) :
    Except ApiError Pending := do
  if request.body.config.projectId ≠ request.pathProjectId then
    .error (.badRequest
      s!"path project_id '{request.pathProjectId.raw}' does not match body project_id '{request.body.config.projectId.raw}'")
  else
    let nextVersion ← nextConfigVersion request.body.expectedVersion
    let existing ← (loadProjectConfig cipher failure request.pathProjectId db).mapError
      (ApiError.ofStorage sqlxText)
    -- The version of what was loaded is not looked at.
    match existing with
    | none => .error (.notFound s!"project config '{request.pathProjectId.raw}' was not found")
    | some existing => return ⟨request, nextVersion, existing⟩

/-- The configuration that the handler passes to the update. -/
def candidateConfig (managed : ProjectId) (stopping : Bool) (pending : Pending) :
    Except ApiError ProjectConfig := do
  let proposed := pending.request.body.config.intoDomain pending.nextVersion
  let nextConfig ← mergeRedactedSecrets pending.existing proposed
  nextConfig.validate.mapError ApiError.ofDomain
  (validateCandidateConfig managed stopping pending.request.pathProjectId nextConfig).mapError
    ApiError.ofRuntimeControl
  return nextConfig

/-- The handler from the merge to the response. -/
def finishPut (managed : ProjectId) (stopping : Bool) (session : Session ρ) (pending : Pending)
    (db : Database) : Except ApiError ProjectConfigWriteResponse × Database :=
  match candidateConfig managed stopping pending with
  | .error error => (.error error, db)
  | .ok nextConfig =>
    match updateProjectConfig format cipher session nextConfig
        pending.request.body.expectedVersion
        (auditContext pending.request.actorId pending.request.body.reason) db with
    | (.error error, db') => (.error (.ofStorage sqlxText error), db')
    | (.ok write, db') =>
      (.ok {
        projectId := write.projectId
        version := write.version
        revisionId := write.revisionId
        configHash := write.configHash
        reloadRequired := true }, db')

end Handler

/-! ## Many requests -/

/-- The tables, and the requests between their load and their update. -/
structure System where
  db : Database
  pending : List Pending

/-- What happens in a step. -/
inductive Label (ρ : Type) where
  | create (write : Write ρ)
  | rejected (request : PutRequest) (error : ApiError)
  | load (request : PutRequest)
  | update (pending : Pending) (result : Except ApiError ProjectConfigWriteResponse)
  | drop (pending : Pending)

/-- The steps of the storage and of the requests in any order: the creation of a project, the load
of a request, its update, or the end of a request that its client gives up in between. -/
inductive Step {ρ : Type} (format : Format) (cipher : SecretCipher ρ)
    (sqlxText : SqlxError → String) (managed : ProjectId) : System → Label ρ → System → Prop
  | create {s : System} {write : Write ρ} {config : ProjectConfig} {audit : AuditContext}
      {db : Database} :
      write.call = .create config audit → WriteStep format cipher s.db write db →
      Step format cipher sqlxText managed s (.create write) { s with db := db }
  | rejected {s : System} {request : PutRequest} {error : ApiError} (failure : Option String) :
      beginPut cipher sqlxText failure request s.db = .error error →
      Step format cipher sqlxText managed s (.rejected request error) s
  | load {s : System} {request : PutRequest} {pending : Pending} (failure : Option String) :
      beginPut cipher sqlxText failure request s.db = .ok pending →
      Step format cipher sqlxText managed s (.load request)
        { s with pending := s.pending ++ [pending] }
  | update {s : System} {before after : List Pending} {pending : Pending} {db : Database}
      {result : Except ApiError ProjectConfigWriteResponse} (stopping : Bool)
      (session : Session ρ) :
      s.pending = before ++ pending :: after →
      finishPut format cipher sqlxText managed stopping session pending s.db = (result, db) →
      Step format cipher sqlxText managed s (.update pending result)
        { db := db, pending := before ++ after }
  | drop {s : System} {before after : List Pending} {pending : Pending} :
      s.pending = before ++ pending :: after →
      Step format cipher sqlxText managed s (.drop pending)
        { s with pending := before ++ after }

/-! ## Secrets by slot -/

/-- The passwords of the brokers with an identifier. -/
def passwordsOf (config : ProjectConfig) (brokerId : BrokerId) : List SecretString :=
  (config.brokers.filter fun broker => broker.id == brokerId).filterMap fun broker =>
    broker.credentials.map MqttCredentials.password

/-- The values of the headers with a name, without regard to case, of the sinks with an
identifier. -/
def headersOf (config : ProjectConfig) (sinkId : SinkId) (name : String) : List SecretString :=
  (config.sinks.filter fun sink => sink.id == sinkId).flatMap fun sink =>
    (sink.kind.headers.filter fun header => eqIgnoreAsciiCase header.name name).map
      HttpHeaderTemplate.value

/-- A secret submitted as the placeholder. -/
def Redacted (secret : SecretString) : Prop := secret.exposeSecret = REDACTED_SECRET

/-- The one value among some values. -/
def OnlyValue (values : List SecretString) (value : SecretString) : Prop :=
  value ∈ values ∧ ∀ other ∈ values, other = value

/-- Every secret that is submitted as the placeholder is, in `new`, the value it has in `old`. -/
def RedactedKept (old : ProjectConfig) (submitted : ProjectConfigDocumentV1)
    (new : ProjectConfig) : Prop :=
  List.Forall₂ (fun broker broker' => ∀ credentials ∈ broker.credentials,
      Redacted credentials.password → ∃ credentials' ∈ broker'.credentials,
        OnlyValue (passwordsOf old broker.id) credentials'.password)
    submitted.brokers new.brokers ∧
  List.Forall₂ (fun sink sink' =>
      List.Forall₂ (fun header header' => Redacted header.value →
          OnlyValue (headersOf old sink.id header.name) header'.value)
        sink.kind.headers sink'.kind.headers)
    submitted.sinks new.sinks

/-- The first value that was loaded for a slot is the one value it has now. -/
def SlotCurrent (loaded now : List SecretString) : Prop :=
  ∃ value, loaded.head? = some value ∧ OnlyValue now value

/-- The loaded configuration has the values of `old` where the placeholder is submitted. -/
def LoadCurrent (loaded old : ProjectConfig) (submitted : ProjectConfigDocumentV1) : Prop :=
  (∀ broker ∈ submitted.brokers, ∀ credentials ∈ broker.credentials,
      Redacted credentials.password →
        SlotCurrent (passwordsOf loaded broker.id) (passwordsOf old broker.id)) ∧
  ∀ sink ∈ submitted.sinks, ∀ header ∈ sink.kind.headers, Redacted header.value →
    SlotCurrent (headersOf loaded sink.id header.name) (headersOf old sink.id header.name)

/-! ## What the merge stores -/

section Merge

variable {existing old : ProjectConfig}

theorem existingBrokerPassword_ok {brokerId : BrokerId} {password : SecretString}
    (h : existingBrokerPassword existing brokerId = .ok password) :
    (passwordsOf existing brokerId).head? = some password := by
  unfold existingBrokerPassword at h
  split at h
  · next found hfound =>
    cases h
    rw [← List.head?_filter] at hfound
    unfold passwordsOf
    cases hbrokers : existing.brokers.filter fun broker => broker.id == brokerId with
    | nil => simp [hbrokers] at hfound
    | cons broker brokers =>
      rw [hbrokers, List.head?_cons, Option.bind_some] at hfound
      simp only [List.filterMap_cons, hfound, List.head?_cons]
  · exact nomatch h

theorem existingSinkHeader_ok {sinkId : SinkId} {name : String} {value : SecretString}
    (h : existingSinkHeader existing sinkId name = .ok value) :
    (headersOf existing sinkId name).head? = some value := by
  unfold existingSinkHeader at h
  split at h
  · next found hfound =>
    cases h
    rw [← List.head?_filter] at hfound
    unfold headersOf
    cases hsinks : existing.sinks.filter fun sink => sink.id == sinkId with
    | nil => simp [hsinks] at hfound
    | cons sink sinks =>
      rw [hsinks, List.head?_cons, Option.bind_some] at hfound
      cases hkind : sink.kind with
      | webhook url method headers timeout =>
        rw [hkind] at hfound
        simp only [← List.head?_filter] at hfound
        rw [List.flatMap_cons, hkind, List.head?_append, List.head?_map]
        simp only [SinkKind.headers, hfound, Option.some_or]
      | database connectionRef table =>
        rw [hkind] at hfound
        cases hfound
  · cases h

/-- A redacted password is stored as the first one loaded for its broker. -/
theorem mergeCredentials_redacted {brokerId : BrokerId} {credentials merged : MqttCredentials}
    (h : mergeCredentials existing brokerId credentials = .ok merged)
    (hredacted : Redacted credentials.password) :
    (passwordsOf existing brokerId).head? = some merged.password := by
  unfold Redacted at hredacted
  rw [mergeCredentials, if_pos hredacted] at h
  obtain ⟨password, hpassword, h⟩ := bind_eq_ok_iff.mp h
  cases h
  exact existingBrokerPassword_ok hpassword

/-- A redacted header value is stored as the first one loaded for its name. -/
theorem mergeHeader_redacted {sinkId : SinkId} {header merged : HttpHeaderTemplate}
    (h : mergeHeader existing sinkId header = .ok merged) (hredacted : Redacted header.value) :
    (headersOf existing sinkId header.name).head? = some merged.value := by
  unfold Redacted at hredacted
  rw [mergeHeader, if_pos hredacted] at h
  obtain ⟨value, hvalue, h⟩ := bind_eq_ok_iff.mp h
  cases h
  exact existingSinkHeader_ok hvalue

/-- The first value loaded is the one value of a slot now exactly when the slot is current. -/
theorem onlyValue_iff {loaded now : List SecretString} {value : SecretString}
    (h : loaded.head? = some value) : OnlyValue now value ↔ SlotCurrent loaded now := by
  constructor
  · exact fun honly => ⟨value, h, honly⟩
  · rintro ⟨value', h', honly⟩
    rw [h] at h'
    rw [Option.some.inj h']
    exact honly

theorem brokerKept_iff {broker merged : BrokerConnectionConfig}
    (h : mergeBroker existing broker = .ok merged) :
    (∀ credentials ∈ broker.credentials, Redacted credentials.password →
      ∃ credentials' ∈ merged.credentials,
        OnlyValue (passwordsOf old broker.id) credentials'.password) ↔
      ∀ credentials ∈ broker.credentials, Redacted credentials.password →
        SlotCurrent (passwordsOf existing broker.id) (passwordsOf old broker.id) := by
  obtain ⟨credentials', hmerge, hmerged⟩ := bind_eq_ok_iff.mp h
  cases hmerged
  cases hcredentials : broker.credentials with
  | none => exact ⟨fun _ _ hmem => (nomatch hmem), fun _ _ hmem => (nomatch hmem)⟩
  | some credentials =>
    rw [hcredentials, Option.mapM_some, map_eq_ok_iff] at hmerge
    obtain ⟨merged, hmerge, rfl⟩ := hmerge
    simp only [Option.mem_def, Option.some.injEq, forall_eq', exists_eq_left']
    exact forall_congr' fun hredacted => onlyValue_iff (mergeCredentials_redacted hmerge hredacted)

theorem sinkKept_iff {sink merged : SinkDefinition} (h : mergeSink existing sink = .ok merged) :
    List.Forall₂ (fun header header' => Redacted header.value →
        OnlyValue (headersOf old sink.id header.name) header'.value)
      sink.kind.headers merged.kind.headers ↔
      ∀ header ∈ sink.kind.headers, Redacted header.value →
        SlotCurrent (headersOf existing sink.id header.name)
          (headersOf old sink.id header.name) := by
  unfold mergeSink at h
  split at h
  · next url method headers timeout hkind =>
    obtain ⟨headers', hmerge, hmerged⟩ := bind_eq_ok_iff.mp h
    cases hmerged
    rw [hkind]
    exact forall₂_mapM_iff hmerge fun header header' hheader =>
      forall_congr' fun hredacted => onlyValue_iff (mergeHeader_redacted hheader hredacted)
  · next connectionRef table hkind =>
    cases h
    rw [hkind]
    exact ⟨fun _ _ hmem => (nomatch hmem), fun _ => .nil⟩

/-- The merge keeps the redacted secrets of `old` exactly when the loaded configuration has the
values of `old` where the placeholder is submitted. -/
theorem redactedKept_iff {submitted : ProjectConfigDocumentV1} {version : UInt64}
    {merged : ProjectConfig}
    (h : mergeRedactedSecrets existing (submitted.intoDomain version) = .ok merged) :
    RedactedKept old submitted merged ↔ LoadCurrent existing old submitted := by
  obtain ⟨brokers, hbrokers, h⟩ := bind_eq_ok_iff.mp h
  obtain ⟨sinks, hsinks, h⟩ := bind_eq_ok_iff.mp h
  cases h
  exact and_congr (forall₂_mapM_iff hbrokers fun _ _ => brokerKept_iff)
    (forall₂_mapM_iff hsinks fun _ _ => sinkKept_iff)

end Merge

/-! ## What holds in every run -/

section Runs

variable {ρ : Type} {format : Format} {cipher : SecretCipher ρ} {sqlxText : SqlxError → String}
  {managed : ProjectId}

/-- Every stored configuration can be revealed, is a revision, and every request holds the
configuration of a revision. -/
structure Inv (cipher : SecretCipher ρ) (s : System) : Prop where
  revised : ∀ projectId row, s.db.configs.find? projectId = some row →
    ∃ revision ∈ s.db.revisions.rows, revision.projectId = projectId ∧
      revision.version = row.version ∧ revision.config = row.config
  revealed : ∀ revision ∈ s.db.revisions.rows,
    revision.version.toInt = revision.config.version.toNat ∧
      ∃ config, reveal cipher revision.config = .ok config
  loaded : ∀ pending ∈ s.pending,
    pending.request.body.config.projectId = pending.request.pathProjectId ∧
      ∃ revision ∈ s.db.revisions.rows,
        revision.projectId = pending.request.pathProjectId.raw ∧
          reveal cipher revision.config = .ok pending.existing

theorem inv_init : Inv cipher ⟨.empty, []⟩ :=
  ⟨fun _ _ h => (nomatch h), fun _ h => (nomatch h), fun _ h => (nomatch h)⟩

/-- A committed write keeps the invariant. -/
theorem Inv.commit {s : System} (hs : Inv cipher s) {db : Database} {projectId : String}
    {version : Int64} {stored : StoredProjectConfig} {config : ProjectConfig}
    (hcommitted : Committed s.db db projectId version stored)
    (hversion : version.toInt = stored.version.toNat)
    (hreveal : reveal cipher stored = .ok config) : Inv cipher { s with db := db } := by
  obtain ⟨row, hrow, hrowVersion, hconfig⟩ := hcommitted.row
  obtain ⟨revision, hproject, hrevision, hstored, hrevisions⟩ := hcommitted.revisions
  have hold : ∀ r ∈ s.db.revisions.rows, r ∈ db.revisions.rows :=
    fun r hr => (hrevisions r).mpr (Or.inl hr)
  refine ⟨?_, ?_, ?_⟩
  · intro id row' hrow'
    by_cases hid : projectId = id
    · rw [← hid, hrow] at hrow'
      rw [← Option.some.inj hrow', hrowVersion, hconfig, ← hid]
      exact ⟨revision, (hrevisions revision).mpr (Or.inr rfl), hproject, hrevision, hstored⟩
    · rw [hcommitted.find?_of_ne hid] at hrow'
      obtain ⟨r, hr, hmine⟩ := hs.revised id row' hrow'
      exact ⟨r, hold r hr, hmine⟩
  · intro r hr
    rcases (hrevisions r).mp hr with hr | rfl
    · exact hs.revealed r hr
    · rw [hrevision, hstored]
      exact ⟨hversion, config, hreveal⟩
  · intro pending hpending
    obtain ⟨hpath, r, hr, hmine⟩ := hs.loaded pending hpending
    exact ⟨hpath, r, hold r hr, hmine⟩

/-- A request holds what its load returned. -/
theorem beginPut_ok {failure : Option String} {request : PutRequest} {db : Database}
    {pending : Pending} (h : beginPut cipher sqlxText failure request db = .ok pending) :
    pending.request = request ∧ request.body.config.projectId = request.pathProjectId ∧
      ∃ row, db.configs.find? request.pathProjectId.raw = some row ∧
        decode cipher row.config = .ok pending.existing := by
  unfold beginPut at h
  obtain ⟨hpath, h⟩ := guard_eq_ok_iff.mp h
  obtain ⟨nextVersion, -, h⟩ := bind_eq_ok_iff.mp h
  obtain ⟨existing, hload, h⟩ := bind_eq_ok_iff.mp h
  cases existing with
  | none => exact nomatch h
  | some existing =>
    cases h
    refine ⟨rfl, not_not.mp hpath, ?_⟩
    have hload := mapError_eq_ok_iff.mp hload
    unfold loadProjectConfig at hload
    split at hload
    · exact nomatch hload
    · cases hrow : db.configs.find? request.pathProjectId.raw with
      | none =>
        rw [hrow] at hload
        exact nomatch hload
      | some row =>
        rw [hrow, Option.mapM_some, map_eq_ok_iff] at hload
        obtain ⟨config, hdecode, hconfig⟩ := hload
        rw [← Option.some.inj hconfig]
        exact ⟨row, rfl, hdecode⟩

/-- A request that fails after its load leaves the tables as they were. -/
theorem finishPut_error {stopping : Bool} {session : Session ρ} {pending : Pending}
    {db db' : Database} {error : ApiError}
    (h : finishPut format cipher sqlxText managed stopping session pending db =
      (.error error, db')) : db' = db := by
  unfold finishPut at h
  split at h
  · exact (Prod.ext_iff.mp h).2.symm
  · split at h
    · next storageError made hupdate =>
      cases h
      exact updateProjectConfig_error hupdate
    · exact nomatch (Prod.ext_iff.mp h).1

/-- A request that succeeds has merged the loaded secrets and updated the version it expects. -/
theorem finishPut_ok {stopping : Bool} {session : Session ρ} {pending : Pending}
    {db db' : Database} {response : ProjectConfigWriteResponse}
    (h : finishPut format cipher sqlxText managed stopping session pending db =
      (.ok response, db')) :
    ∃ merged audit write,
      mergeRedactedSecrets pending.existing
          (pending.request.body.config.intoDomain pending.nextVersion) = .ok merged ∧
        merged.id = pending.request.body.config.projectId ∧
        updateProjectConfig format cipher session merged pending.request.body.expectedVersion
          audit db = (.ok write, db') := by
  unfold finishPut at h
  split at h
  · exact nomatch (Prod.ext_iff.mp h).1
  · next merged hcandidate =>
    obtain ⟨merged', hmerge, hchecks⟩ := bind_eq_ok_iff.mp hcandidate
    obtain ⟨-, hchecks⟩ := check_eq_ok_iff.mp hchecks
    obtain ⟨-, hchecks⟩ := check_eq_ok_iff.mp hchecks
    cases hchecks
    have hid : merged.id = pending.request.body.config.projectId := by
      obtain ⟨_, -, hmerge⟩ := bind_eq_ok_iff.mp hmerge
      obtain ⟨_, -, hmerge⟩ := bind_eq_ok_iff.mp hmerge
      rw [← Except.ok.inj hmerge]
      rfl
    split at h
    · exact nomatch (Prod.ext_iff.mp h).1
    · next write made hupdate =>
      cases h
      exact ⟨merged, _, write, hmerge, hid, hupdate⟩

/-- The invariant holds in every state of every run. -/
theorem inv_step (hcipher : cipher.Lawful) {s t : System} {label : Label ρ}
    (h : Step format cipher sqlxText managed s label t) (hs : Inv cipher s) : Inv cipher t := by
  have hkept : ∀ {before after : List Pending} {pending : Pending},
      s.pending = before ++ pending :: after →
        Inv cipher { s with pending := before ++ after } := by
    intro before after pending hpending
    refine ⟨hs.revised, hs.revealed, fun p hp => hs.loaded p ?_⟩
    rw [hpending]
    rcases List.mem_append.mp hp with hp | hp
    · exact List.mem_append_left _ hp
    · exact List.mem_append_right _ (List.mem_cons_of_mem _ hp)
  cases h with
  | @create write config audit db hcall hstep =>
    obtain ⟨call, session, result⟩ := write
    cases hcall
    cases result with
    | error error =>
      have hdb : db = s.db := writeStep_error hstep rfl
      rw [hdb]
      exact hs
    | ok result =>
      have hcreate : createProjectConfig format cipher session config audit s.db =
          (.ok result, db) := hstep
      obtain ⟨version, stored, -, hversion, hstored, -, -, hcommitted⟩ :=
        createProjectConfig_ok hcreate
      refine hs.commit hcommitted ?_ (reveal_encode hcipher hstored)
      rw [encode_version hstored]
      exact versionToI64_ok hversion
  | rejected => exact hs
  | @load request pending failure hbegin =>
    obtain ⟨hrequest, hpath, row, hrow, hdecode⟩ := beginPut_ok hbegin
    refine ⟨hs.revised, hs.revealed, ?_⟩
    rw [List.forall_mem_append, List.forall_mem_singleton, hrequest]
    obtain ⟨revision, hmem, hproject, -, hconfig⟩ := hs.revised _ row hrow
    refine ⟨hs.loaded, hpath, revision, hmem, hproject, ?_⟩
    rw [hconfig]
    exact (decode_eq_ok_iff.mp hdecode).1
  | @update before after pending db result stopping session hpending hfinish =>
    cases result with
    | error error =>
      rw [finishPut_error hfinish]
      exact hkept hpending
    | ok response =>
      obtain ⟨merged, audit, write, -, -, hupdate⟩ := finishPut_ok hfinish
      obtain ⟨version, stored, old, -, -, hversion, hstored, -, -, hcommitted⟩ :=
        updateProjectConfig_ok hupdate
      refine (hkept hpending).commit hcommitted ?_ (reveal_encode hcipher hstored)
      rw [encode_version hstored]
      exact versionToI64_ok hversion
  | drop hpending => exact hkept hpending

/-! ## Redacted secrets in a run -/

/-- The update of a request replaces `old`, in the version the request expects, by `new`, in the
next one. -/
structure Replaces (cipher : SecretCipher ρ) (e : Edge System (Label ρ)) (pending : Pending)
    (old new : ProjectConfig) : Prop where
  before : ∃ row, e.source.db.configs.find? pending.request.pathProjectId.raw = some row ∧
    reveal cipher row.config = .ok old
  after : ∃ row, e.target.db.configs.find? pending.request.pathProjectId.raw = some row ∧
    reveal cipher row.config = .ok new
  old_version : old.version = pending.request.body.expectedVersion
  new_version : new.version.toNat = pending.request.body.expectedVersion.toNat + 1

/-- In every run, a request that succeeds stores every secret it submitted as the placeholder with
the value the secret has in the version it replaces exactly when the version it loaded has those
values; and a request that loaded the version it replaces loaded all of its values. -/
theorem put_keeps_redacted_iff (format : Format) (cipher : SecretCipher ρ)
    (hcipher : cipher.Lawful) (sqlxText : SqlxError → String) (managed : ProjectId)
    {es : List (Edge System (Label ρ))} {t : System}
    (h : Run (Step format cipher sqlxText managed) ⟨.empty, []⟩ es t) :
    ∀ e ∈ es, ∀ pending response, e.label = .update pending (.ok response) →
      ∃ old new, Replaces cipher e pending old new ∧
        (RedactedKept old pending.request.body.config new ↔
          LoadCurrent pending.existing old pending.request.body.config) ∧
        (pending.existing.version = pending.request.body.expectedVersion →
          pending.existing = old) := by
  refine h.forall_edge (Inv cipher) _ (fun s l t hstep hs => inv_step hcipher hstep hs) ?_ inv_init
  intro e hstep hs pending response hlabel
  obtain ⟨source, label, target⟩ := e
  cases hlabel
  cases hstep with
  | @update before after _ db _ stopping session hpending hfinish =>
    obtain ⟨hpath, loaded, hloaded, hloadedProject, hexisting⟩ := hs.loaded pending (by
      rw [hpending]
      exact List.mem_append_right _ List.mem_cons_self)
    obtain ⟨merged, audit, write, hmerge, hid, hupdate⟩ := finishPut_ok hfinish
    obtain ⟨version, stored, row, -, hnext, -, hstored, hrow, hexpected, hcommitted⟩ :=
      updateProjectConfig_ok hupdate
    rw [hid, hpath] at hrow hcommitted
    -- The row that is replaced is a revision, so it can be revealed.
    obtain ⟨revision, hrevision, hproject, hversion, hconfig⟩ := hs.revised _ row hrow
    obtain ⟨hrevisionVersion, old, hold⟩ := hs.revealed revision hrevision
    have hexpected := versionToI64_ok hexpected
    have holdVersion : old.version = pending.request.body.expectedVersion := by
      rw [reveal_version hold, ← UInt64.toNat_inj]
      rw [hversion] at hrevisionVersion
      omega
    have hkept : RedactedKept old pending.request.body.config merged ↔
        LoadCurrent pending.existing old pending.request.body.config := redactedKept_iff hmerge
    refine ⟨old, { merged with version := write.version }, ⟨?_, ?_, holdVersion, hnext⟩, hkept,
      fun hcurrent => ?_⟩
    · refine ⟨row, hrow, ?_⟩
      rw [← hconfig]
      exact hold
    · obtain ⟨row', hrow', -, hconfig'⟩ := hcommitted.row
      refine ⟨row', hrow', ?_⟩
      rw [hconfig']
      exact reveal_encode hcipher hstored
    · -- The loaded revision has the version of the row, so it is the revision of the row.
      have hloadedVersion := (hs.revealed loaded hloaded).1
      rw [← reveal_version hexisting, hcurrent, ← holdVersion,
        reveal_version hold] at hloadedVersion
      have hsame : loaded = revision :=
        Database.revisions_inj hloaded hrevision (hloadedProject.trans hproject.symm)
          (Int64.toInt.inj (hloadedVersion.trans hrevisionVersion.symm))
      rw [hsame] at hexisting
      exact Except.ok.inj (hexisting.symm.trans hold)

end Runs

/-! ## Two requests for the plant -/

/-- A request for the plant that expects a version and submits a broker password. -/
def plantPut (expectedVersion : UInt64) (password : String) : PutRequest where
  pathProjectId := ⟨"plant"⟩
  body := ⟨expectedVersion, .fromDomain (plantProject password [] []), none⟩
  actorId := ⟨"operator"⟩

/-- A request for the plant that has loaded its first version. -/
def plantPending (expectedVersion : UInt64) (password : String) : Pending :=
  ⟨plantPut expectedVersion password, expectedVersion + 1, plantProject "s3cret" [] []⟩

/-- The update of a request for the plant. -/
def plantUpdate (uuid : String) (pending : Pending) (db : Database) :
    Except ApiError ProjectConfigWriteResponse × Database :=
  finishPut flatFormat tagCipher (fun _ => "") ⟨"plant"⟩ false (calmSession uuid) pending db

/-- The tables after the plant got a new password. -/
def rotatedPlant : Database := (plantUpdate "2" (plantPending 1 "rotated") plantCreation.target).2

/-- The tables after the old password was put back. -/
def revertedPlant : Database := (plantUpdate "3" (plantPending 2 "<redacted>") rotatedPlant).2

/-- The version and the broker passwords in the row of the plant. -/
def storedBrokers (db : Database) : Option (UInt64 × List (Option SecretString)) :=
  (db.configs.find? "plant").bind fun row =>
    (reveal tagCipher row.config).toOption.map fun config =>
      (config.version,
        config.brokers.map fun broker => broker.credentials.map MqttCredentials.password)

theorem storedBrokers_eq_some {db : Database} {version : UInt64} {password : SecretString}
    (h : storedBrokers db = some (version, [some password])) :
    ∃ row config broker credentials, db.configs.find? "plant" = some row ∧
      reveal tagCipher row.config = .ok config ∧ config.version = version ∧
      config.brokers = [broker] ∧ broker.credentials = some credentials ∧
      credentials.password = password := by
  obtain ⟨row, hrow, h⟩ := Option.bind_eq_some_iff.mp h
  obtain ⟨config, hconfig, h⟩ := Option.map_eq_some_iff.mp h
  obtain ⟨hversion, hbrokers⟩ := Prod.ext_iff.mp h
  obtain ⟨broker, hbroker, hcredentials⟩ := List.map_eq_singleton_iff.mp hbrokers
  obtain ⟨credentials, hsome, hpassword⟩ := Option.map_eq_some_iff.mp hcredentials
  exact ⟨row, config, broker, credentials, hrow, toOption_eq_some_iff.mp hconfig, hversion, hbroker,
    hsome, hpassword⟩

/-- The first request puts a new password in place. -/
theorem plantUpdate_rotates :
    (plantUpdate "2" (plantPending 1 "rotated") plantCreation.target).1.toOption.isSome = true ∧
      storedBrokers rotatedPlant = some (2, [some ⟨"rotated"⟩]) := by
  decide +kernel

/-- The second request, which has loaded the first version, puts the old password back. -/
theorem plantUpdate_reverts :
    (plantUpdate "3" (plantPending 2 "<redacted>") rotatedPlant).1.toOption.isSome = true ∧
      storedBrokers revertedPlant = some (3, [some ⟨"s3cret"⟩]) := by
  decide +kernel

/-- A request for the plant loads the configuration it was created with. -/
theorem plant_load {request : PutRequest} {nextVersion : UInt64}
    (hpath : request.pathProjectId = ⟨"plant"⟩) (hbody : request.body.config.projectId = ⟨"plant"⟩)
    (hnext : nextConfigVersion request.body.expectedVersion = .ok nextVersion) :
    beginPut tagCipher (fun _ => "") none request plantCreation.target =
      .ok ⟨request, nextVersion, plantProject "s3cret" [] []⟩ := by
  have hcreate : createProjectConfig flatFormat tagCipher (calmSession "1")
      (plantProject "s3cret" [] []) (.system "bootstrap") .empty =
      (.ok ⟨⟨"plant"⟩, 1, "config_revision_1", "sha256:flat"⟩, plantCreation.target) :=
    Prod.ext plantCreation_ok rfl
  have hchecked : validateText "secret" "s3cret" 4096 = .ok () := by decide +kernel
  have hsecret : SecretString.Valid ⟨"s3cret"⟩ := validateText_eq_ok_iff.mp hchecked
  have hload := load_created tagCipher_lawful hcreate fun secret hmem => by
    rw [List.mem_singleton.mp hmem]
    exact hsecret
  have hsame : request.body.config.projectId = request.pathProjectId := hbody.trans hpath.symm
  unfold beginPut
  refine guard_eq_ok_iff.mpr ⟨not_not.mpr hsame, bind_eq_ok_iff.mpr ⟨nextVersion, hnext, ?_⟩⟩
  rw [hpath]
  exact bind_eq_ok_iff.mpr ⟨_, mapError_eq_ok_iff.mpr hload, rfl⟩

/-- The plant is created, and both requests load its first version. -/
def plantLoads : List (Edge System (Label Unit)) :=
  [⟨⟨.empty, []⟩, .create plantCreation.label, ⟨plantCreation.target, []⟩⟩,
    ⟨⟨plantCreation.target, []⟩, .load (plantPut 2 "<redacted>"),
      ⟨plantCreation.target, [plantPending 2 "<redacted>"]⟩⟩,
    ⟨⟨plantCreation.target, [plantPending 2 "<redacted>"]⟩, .load (plantPut 1 "rotated"),
      ⟨plantCreation.target, [plantPending 2 "<redacted>", plantPending 1 "rotated"]⟩⟩]

theorem plantLoads_run :
    Run (Step flatFormat tagCipher (fun _ => "") ⟨"plant"⟩) ⟨.empty, []⟩ plantLoads
      ⟨plantCreation.target, [plantPending 2 "<redacted>", plantPending 1 "rotated"]⟩ :=
  .cons (.create rfl (performed_step _ _ _)) <|
    .cons (.load none (plant_load rfl rfl rfl)) <|
      .cons (.load none (plant_load rfl rfl rfl)) (.nil _)

/-- The update of the second request. -/
def plantRotation : Edge System (Label Unit) where
  source := ⟨plantCreation.target, [plantPending 2 "<redacted>", plantPending 1 "rotated"]⟩
  label := .update (plantPending 1 "rotated")
    (plantUpdate "2" (plantPending 1 "rotated") plantCreation.target).1
  target := ⟨rotatedPlant, [plantPending 2 "<redacted>"]⟩

theorem plantRotation_step :
    Step flatFormat tagCipher (fun _ => "") ⟨"plant"⟩ plantRotation.source plantRotation.label
      plantRotation.target :=
  .update false (calmSession "2")
    (show _ = [plantPending 2 "<redacted>"] ++ plantPending 1 "rotated" :: [] from rfl) rfl

/-- The update of the first request. -/
def plantReversion : Edge System (Label Unit) where
  source := ⟨rotatedPlant, [plantPending 2 "<redacted>"]⟩
  label := .update (plantPending 2 "<redacted>")
    (plantUpdate "3" (plantPending 2 "<redacted>") rotatedPlant).1
  target := ⟨revertedPlant, []⟩

theorem plantReversion_step :
    Step flatFormat tagCipher (fun _ => "") ⟨"plant"⟩ plantReversion.source plantReversion.label
      plantReversion.target :=
  .update false (calmSession "3") (show _ = [] ++ plantPending 2 "<redacted>" :: [] from rfl) rfl

/-- The request with the placeholder succeeds after the other one, and what holds of every
successful update holds of it. -/
theorem put_keeps_redacted_iff_plantReversion :
    ∃ response old new,
      plantReversion.label = .update (plantPending 2 "<redacted>") (.ok response) ∧
      Replaces tagCipher plantReversion (plantPending 2 "<redacted>") old new ∧
      (RedactedKept old (plantPut 2 "<redacted>").body.config new ↔
        LoadCurrent (plantProject "s3cret" [] []) old (plantPut 2 "<redacted>").body.config) ∧
      ((plantProject "s3cret" [] []).version = 2 → plantProject "s3cret" [] [] = old) := by
  obtain ⟨response, hresponse⟩ := toOption_isSome_iff.mp plantUpdate_reverts.1
  have hlabel : plantReversion.label = .update (plantPending 2 "<redacted>") (.ok response) :=
    congrArg (Label.update _) hresponse
  obtain ⟨old, new, hreplaces⟩ := put_keeps_redacted_iff flatFormat tagCipher tagCipher_lawful
    (fun _ => "") ⟨"plant"⟩ ((plantLoads_run.snoc plantRotation_step).snoc plantReversion_step)
    plantReversion List.mem_concat_self (plantPending 2 "<redacted>") response hlabel
  exact ⟨response, old, new, hlabel, hreplaces⟩

/-- The first request of the two submits the placeholder and succeeds, and puts back the password
that the second one had replaced. -/
theorem plantReversion_reverts :
    ∃ es t, Run (Step flatFormat tagCipher (fun _ => "") ⟨"plant"⟩) ⟨.empty, []⟩ es t ∧
      ∃ e ∈ es, ∃ pending response old new, e.label = .update pending (.ok response) ∧
        Replaces tagCipher e pending old new ∧
        ¬ RedactedKept old pending.request.body.config new := by
  obtain ⟨response, hresponse⟩ := toOption_isSome_iff.mp plantUpdate_reverts.1
  obtain ⟨row, old, broker, credentials, hrow, hold, holdVersion, holdBrokers, hcredentials,
    hpassword⟩ := storedBrokers_eq_some plantUpdate_rotates.2
  obtain ⟨row', new, broker', credentials', hrow', hnew, hnewVersion, hnewBrokers, hcredentials',
    hpassword'⟩ := storedBrokers_eq_some plantUpdate_reverts.2
  refine ⟨_, _, (plantLoads_run.snoc plantRotation_step).snoc plantReversion_step, plantReversion,
    List.mem_concat_self, plantPending 2 "<redacted>", response, old, new,
    congrArg (Label.update _) hresponse,
    ⟨⟨row, hrow, hold⟩, ⟨row', hrow', hnew⟩, holdVersion, ?_⟩, ?_⟩
  · rw [hnewVersion]
    rfl
  · rintro ⟨hbrokers, -⟩
    rw [hnewBrokers] at hbrokers
    obtain ⟨hkept, -⟩ := List.forall₂_cons.mp hbrokers
    obtain ⟨stored, hstored, hmem, -⟩ := hkept _ rfl rfl
    rw [hcredentials', Option.mem_some_iff] at hstored
    rw [← hstored, hpassword'] at hmem
    obtain ⟨b, hb, hvalue⟩ := List.mem_filterMap.mp hmem
    rw [holdBrokers, List.mem_filter, List.mem_singleton] at hb
    rw [hb.1, hcredentials, Option.map_some, hpassword] at hvalue
    exact absurd hvalue (by decide)

end Api
end PipeBolt
