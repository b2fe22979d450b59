import PipeBolt.Storage.Database

/-!
# Configuration writes

`load_project_config`, `create_project_config` and `update_project_config` of
`pipe_bolt_storage::postgres`.

A write validates and encodes its configuration, then runs one transaction: it writes the row of
the project, and adds a revision and an audit event.  The database runs a transaction atomically;
when a statement or the commit fails, nothing of it stays.  Any statement may fail, and what a call
draws from outside (randomness, new identifiers, failures) is in its `Session`.

* `createProjectConfig_ok`, `updateProjectConfig_ok`: what a write has done when it succeeds.
* `createProjectConfig_error`, `updateProjectConfig_error`: a write that fails has done nothing.
-/

namespace PipeBolt
namespace Storage

open Domain Rust Fallible Keyed

def MAX_IDENTIFIER_BYTES : Nat := 96
def MAX_TARGET_ID_BYTES : Nat := 256
def MAX_REASON_BYTES : Nat := 1024
def MAX_METADATA_JSON_BYTES : Nat := 16 * 1024

/-! ## What a call draws from outside -/

/-- The text formats of the crates and of the database: the length of `serde_json::to_vec`, the
length of the text of a `jsonb` value, and `hash_config_json`. -/
structure Format where
  jsonLen : ValueMap → Nat
  jsonbTextLen : ValueMap → Nat
  hashConfigJson : StoredProjectConfig → String

/-- The statements of a write. -/
inductive Statement where
  | begin
  | writeConfig
  | readVersion
  | insertRevision
  | insertAudit
  | commit
  deriving DecidableEq, Repr

/-- The randomness of the cipher, the values of `Uuid::now_v7`, and the failures of the connection
during one call. -/
structure Session (ρ : Type) where
  random : ρ
  revisionUuid : String
  auditUuid : String
  failure : Statement → Option String

/-- `generated_id`. -/
def generatedId (kind uuid : String) : String := s!"{kind}_{uuid}"

/-! ## Transactions -/

/-- A computation inside a transaction. -/
abbrev Tx := StateT Database (Except StorageError)

/-- One statement on the tables. -/
def execute {ρ α : Type} (session : Session ρ) (statement : Statement)
    (run : Database → Except SqlxError (α × Database)) : Tx α := fun db =>
  match session.failure statement with
  | some reason => .error (.sqlx (.io reason))
  | none => (run db).mapError .sqlx

/-- `begin`, the body and `commit`. -/
def transaction {ρ α : Type} (session : Session ρ) (body : Tx α) (db : Database) :
    Except StorageError α × Database :=
  match session.failure .begin with
  | some reason => (.error (.sqlx (.io reason)), db)
  | none =>
    match body db with
    | .error error => (.error error, db)
    | .ok (result, db') =>
      match session.failure .commit with
      | some reason => (.error (.sqlx (.io reason)), db)
      | none => (.ok result, db')

section Transactions

variable {ρ α : Type} {session : Session ρ} {db db' : Database}

/-- A transaction that fails leaves the tables as they were. -/
theorem transaction_error {body : Tx α} {error : StorageError}
    (h : transaction session body db = (.error error, db')) : db' = db := by
  unfold transaction at h
  split at h
  · exact (Prod.ext_iff.mp h).2.symm
  · split at h
    · exact (Prod.ext_iff.mp h).2.symm
    · split at h
      · exact (Prod.ext_iff.mp h).2.symm
      · exact nomatch (Prod.ext_iff.mp h).1

/-- A transaction that succeeds leaves what its body made. -/
theorem transaction_ok {body : Tx α} {result : α}
    (h : transaction session body db = (.ok result, db')) : body db = .ok (result, db') := by
  unfold transaction at h
  split at h
  · exact nomatch (Prod.ext_iff.mp h).1
  · split at h
    · exact nomatch (Prod.ext_iff.mp h).1
    · next result' made hbody =>
      split at h
      · exact nomatch (Prod.ext_iff.mp h).1
      · obtain ⟨hresult, hdb⟩ := Prod.ext_iff.mp h
        cases hresult
        cases hdb
        exact hbody

theorem tx_bind_ok {β : Type} {body : Tx α} {next : α → Tx β} {result : β × Database}
    (h : (body >>= next) db = .ok result) :
    ∃ value made, body db = .ok (value, made) ∧ next value made = .ok result := by
  obtain ⟨⟨value, made⟩, hbody, hnext⟩ := bind_eq_ok_iff.mp h
  exact ⟨value, made, hbody, hnext⟩

/-- A step that does not touch the tables. -/
theorem tx_lift_bind_ok {β : Type} {x : Except StorageError α} {next : α → Tx β}
    {result : β × Database} (h : ((liftM x : Tx α) >>= next) db = .ok result) :
    ∃ value, x = .ok value ∧ next value db = .ok result := by
  obtain ⟨value, made, hlift, hnext⟩ := tx_bind_ok h
  obtain ⟨value', hx, hvalue⟩ := bind_eq_ok_iff.mp hlift
  cases hvalue
  exact ⟨value, hx, hnext⟩

/-- A statement did not fail on its way, and the rest went on with what it returned. -/
theorem execute_bind_ok {β : Type} {statement : Statement}
    {run : Database → Except SqlxError (α × Database)} {next : α → Tx β} {result : β × Database}
    (h : (execute session statement run >>= next) db = .ok result) :
    ∃ value made, run db = .ok (value, made) ∧ next value made = .ok result := by
  obtain ⟨value, made, hexecute, hnext⟩ := tx_bind_ok h
  unfold execute at hexecute
  split at hexecute
  · exact nomatch hexecute
  · exact ⟨value, made, mapError_eq_ok_iff.mp hexecute, hnext⟩

end Transactions

/-! ## Checks -/

/-- `version_to_i64`. -/
def versionToI64 (version : UInt64) : Except StorageError Int64 :=
  if 2 ^ 63 ≤ version.toNat then .error (.versionOverflow version)
  else .ok (.ofNat version.toNat)

/-- `i64_to_u64`. -/
def i64ToU64 (field : String) (value : Int64) : Except StorageError UInt64 :=
  if value < 0 then .error (.numericOverflow field) else .ok value.toUInt64

theorem versionToI64_ok {version : UInt64} {value : Int64} (h : versionToI64 version = .ok value) :
    value.toInt = version.toNat := by
  obtain ⟨hlt, h⟩ := guard_eq_ok_iff.mp h
  rw [← Except.ok.inj h, Int64.toInt_ofNat_of_lt (Nat.lt_of_not_le hlt)]

/-- `validate_bounded_text`. -/
def validateBoundedText (field value : String) (maxBytes : Nat) : Except StorageError Unit :=
  if (trim value).isEmpty then .error (.invalidField field "must not be empty")
  else if maxBytes < len value then .error (.fieldTooLarge field (len value) maxBytes)
  else .ok ()

/-- `validate_identifier` of the storage. -/
def validateStorageIdentifier (field value : String) : Except StorageError Unit := do
  validateBoundedText field value MAX_IDENTIFIER_BYTES
  if !value.toList.all isIdentifierChar then
    .error (.invalidField field "identifier contains unsupported characters")
  else .ok ()

/-- `validate_json_object_size`. -/
def validateJsonObjectSize (format : Format) (field : String) (value : ValueMap)
    (maxBytes : Nat) : Except StorageError Unit :=
  if maxBytes < format.jsonLen value then
    .error (.fieldTooLarge field (format.jsonLen value) maxBytes)
  else .ok ()

/-! ## The body of a write -/

/-- `EncodedProjectConfig`. -/
structure EncodedProjectConfig where
  configJson : StoredProjectConfig
  configHash : String

section Write

variable {ρ : Type} (format : Format) (cipher : SecretCipher ρ) (session : Session ρ)

/-- `encode_project_config`. -/
def encodeProjectConfig (config : ProjectConfig) :
    StateT ρ (Except StorageError) EncodedProjectConfig := do
  let stored ← encode cipher config
  return { configJson := stored, configHash := format.hashConfigJson stored }

/-- What a write does before its transaction: `config.validate()?` and
`self.encode_project_config(&config)?`. -/
def validatedEncoding (config : ProjectConfig) : Except StorageError EncodedProjectConfig := do
  config.validate.mapError StorageError.domain
  let (encoded, _) ← encodeProjectConfig format cipher config session.random
  return encoded

/-- `current_project_version_tx`. -/
def currentProjectVersionTx (projectId : ProjectId) : Tx (Option UInt64) := do
  let row ← execute session .readVersion fun db => .ok (db.configs.find? projectId.raw, db)
  row.mapM fun row => i64ToU64 "version" row.version

/-- `insert_config_revision_tx`. -/
def insertConfigRevisionTx (config : ProjectConfig) (encoded : EncodedProjectConfig)
    (audit : AuditContext) : Tx ProjectConfigWriteResult := do
  let revisionId := generatedId "config_revision" session.revisionUuid
  let version ← versionToI64 config.version
  execute session .insertRevision fun db => do
    let db ← db.insertRevision {
      revisionId := revisionId
      projectId := config.id.raw
      version := version
      configHash := encoded.configHash
      config := encoded.configJson
      actorId := audit.actorId.map Identifier.raw
      reason := audit.reason }
    return ((), db)
  return {
    projectId := config.id
    version := config.version
    revisionId := revisionId
    configHash := encoded.configHash }

/-- The checks `insert_audit_event_tx` begins with. -/
def validateAuditEvent (event : NewAuditEvent) : Except StorageError Unit := do
  validateStorageIdentifier "action" event.action
  validateStorageIdentifier "target_type" event.targetType
  validateBoundedText "target_id" event.targetId MAX_TARGET_ID_BYTES
  event.reason.forM fun reason => validateBoundedText "reason" reason MAX_REASON_BYTES
  validateJsonObjectSize format "metadata" event.metadata MAX_METADATA_JSON_BYTES

/-- `insert_audit_event_tx`. -/
def insertAuditEventTx (event : NewAuditEvent) : Tx String := do
  validateAuditEvent format event
  let auditEventId := generatedId "audit" session.auditUuid
  execute session .insertAudit fun db => do
    let db ← db.insertAudit format.jsonbTextLen {
      auditEventId := auditEventId
      projectId := event.projectId.map Identifier.raw
      actorId := event.actorId.map Identifier.raw
      action := event.action
      targetType := event.targetType
      targetId := event.targetId
      status := event.status.asStr
      reason := event.reason
      metadata := event.metadata }
    return ((), db)
  return auditEventId

/-- The audit event of a configuration write. -/
def configAudit (config : ProjectConfig) (write : ProjectConfigWriteResult)
    (expectedVersion : Option UInt64) (audit : AuditContext) (action : String) : NewAuditEvent :=
  let metadata := Rust.BTreeMap.insert "version" (jsonU64 write.version) []
  let metadata := Rust.BTreeMap.insert "revision_id" (.string write.revisionId) metadata
  let metadata := Rust.BTreeMap.insert "config_hash" (.string write.configHash) metadata
  let metadata := expectedVersion.elim metadata fun expectedVersion =>
    Rust.BTreeMap.insert "expected_version" (jsonU64 expectedVersion) metadata
  { projectId := some config.id
    actorId := audit.actorId
    action := action
    targetType := "project_config"
    targetId := config.id.raw
    status := .succeeded
    reason := audit.reason
    metadata := metadata }

/-- `insert_config_audit_tx`. -/
def insertConfigAuditTx (config : ProjectConfig) (write : ProjectConfigWriteResult)
    (expectedVersion : Option UInt64) (audit : AuditContext) (action : String) : Tx Unit := do
  let _ ← insertAuditEventTx format session (configAudit config write expectedVersion audit action)
  return ()

/-- The row a write binds. -/
def configRow (config : ProjectConfig) (encoded : EncodedProjectConfig) (version : Int64) :
    ConfigRow where
  projectId := config.id.raw
  tenantId := config.tenantId.map Identifier.raw
  name := config.name
  enabled := config.enabled
  version := version
  configHash := encoded.configHash
  config := encoded.configJson

/-- What both writes do once their statement on `project_configs` has affected some rows. -/
def afterWriteTx (config : ProjectConfig) (encoded : EncodedProjectConfig) (affected : Nat)
    (expectedVersion : Option UInt64) (audit : AuditContext) (action : String) :
    Tx ProjectConfigWriteResult :=
  -- No row is affected where a project exists already, or is not at the expected version.
  if affected = 0 then do
    let actualVersion ← currentProjectVersionTx session config.id
    throw (.versionConflict config.id.raw expectedVersion actualVersion)
  else do
    let write ← insertConfigRevisionTx session config encoded audit
    insertConfigAuditTx format session config write expectedVersion audit action
    return write

/-- The transaction of `create_project_config`. -/
def createTx (config : ProjectConfig) (encoded : EncodedProjectConfig) (audit : AuditContext) :
    Tx ProjectConfigWriteResult := do
  let version ← versionToI64 config.version
  let affected ← execute session .writeConfig fun db =>
    db.insertConfig (configRow config encoded version)
  afterWriteTx format session config encoded affected none audit "project_config.create"

/-- The transaction of `update_project_config`. -/
def updateTx (config : ProjectConfig) (encoded : EncodedProjectConfig) (expectedVersion : UInt64)
    (audit : AuditContext) : Tx ProjectConfigWriteResult := do
  let version ← versionToI64 config.version
  let expected ← versionToI64 expectedVersion
  let affected ← execute session .writeConfig fun db =>
    db.updateConfig (configRow config encoded version) expected
  afterWriteTx format session config encoded affected (some expectedVersion) audit
    "project_config.update"

/-! ## The operations -/

/-- The configuration `create_project_config` stores: version 0 becomes version 1. -/
def createdConfig (config : ProjectConfig) : ProjectConfig :=
  if config.version = 0 then { config with version := 1 } else config

/-- `create_project_config`. -/
def createProjectConfig (config : ProjectConfig) (audit : AuditContext) (db : Database) :
    Except StorageError ProjectConfigWriteResult × Database :=
  match validatedEncoding format cipher session (createdConfig config) with
  | .error error => (.error error, db)
  | .ok encoded =>
    transaction session (createTx format session (createdConfig config) encoded audit) db

/-- `update_project_config`. -/
def updateProjectConfig (config : ProjectConfig) (expectedVersion : UInt64) (audit : AuditContext)
    (db : Database) : Except StorageError ProjectConfigWriteResult × Database :=
  if expectedVersion.toNat + 1 = 2 ^ 64 then (.error (.versionOverflow expectedVersion), db)
  else
    let config := { config with version := expectedVersion + 1 }
    match validatedEncoding format cipher session config with
    | .error error => (.error error, db)
    | .ok encoded =>
      transaction session (updateTx format session config encoded expectedVersion audit) db

end Write

/-- `load_project_config`; `failure` is the failure of its query. -/
def loadProjectConfig {ρ : Type} (cipher : SecretCipher ρ) (failure : Option String)
    (projectId : ProjectId) (db : Database) : Except StorageError (Option ProjectConfig) :=
  match failure with
  | some reason => .error (.sqlx (.io reason))
  | none => (db.configs.find? projectId.raw).mapM fun row => decode cipher row.config

/-! ## What a write has done -/

section Spec

variable {ρ : Type} {format : Format} {cipher : SecretCipher ρ} {session : Session ρ}
  {config : ProjectConfig} {encoded : EncodedProjectConfig} {audit : AuditContext}
  {db db' : Database}

/-- The tables after a write that stored `stored` for a project: its row and a new revision have
that version and that configuration, and there is a new audit event. -/
structure Committed (db db' : Database) (projectId : String) (version : Int64)
    (stored : StoredProjectConfig) : Prop where
  config : ∃ row : ConfigRow, row.version = version ∧ row.config = stored ∧
    ∀ id, db'.configs.find? id = if projectId = id then some row else db.configs.find? id
  revision : ∃ row : RevisionRow, row.projectId = projectId ∧ row.version = version ∧
    row.config = stored ∧ db'.revisions.rows = db.revisions.rows ++ [row]
  audit : ∃ row : AuditRow, row.projectId = some projectId ∧
    db'.audits.rows = db.audits.rows ++ [row]

section Committed

variable {projectId : String} {version : Int64} {stored : StoredProjectConfig}

theorem Committed.row (h : Committed db db' projectId version stored) :
    ∃ row, db'.configs.find? projectId = some row ∧ row.version = version ∧
      row.config = stored := by
  obtain ⟨row, hversion, hconfig, hconfigs⟩ := h.config
  refine ⟨row, ?_, hversion, hconfig⟩
  rw [hconfigs, if_pos rfl]

/-- Other projects keep their rows. -/
theorem Committed.find?_of_ne (h : Committed db db' projectId version stored) {id : String}
    (hne : projectId ≠ id) : db'.configs.find? id = db.configs.find? id := by
  obtain ⟨row, -, -, hconfigs⟩ := h.config
  rw [hconfigs, if_neg hne]

/-- The revisions are the old ones and the one of the write. -/
theorem Committed.revisions (h : Committed db db' projectId version stored) :
    ∃ row : RevisionRow, row.projectId = projectId ∧ row.version = version ∧
      row.config = stored ∧ ∀ r, r ∈ db'.revisions.rows ↔ r ∈ db.revisions.rows ∨ r = row := by
  obtain ⟨row, hproject, hversion, hconfig, hrows⟩ := h.revision
  refine ⟨row, hproject, hversion, hconfig, fun r => ?_⟩
  rw [hrows, List.mem_append, List.mem_singleton]

end Committed

theorem insertConfigRevisionTx_ok {write : ProjectConfigWriteResult}
    (h : insertConfigRevisionTx session config encoded audit db = .ok (write, db')) :
    write.version = config.version ∧
      ∃ row : RevisionRow, row.projectId = config.id.raw ∧
        versionToI64 config.version = .ok row.version ∧ row.config = encoded.configJson ∧
        db'.configs = db.configs ∧ db'.revisions.rows = db.revisions.rows ++ [row] ∧
        db'.audits = db.audits := by
  obtain ⟨version, hversion, hinsert⟩ := tx_lift_bind_ok h
  obtain ⟨_, made, hrun, hwrite⟩ := execute_bind_ok hinsert
  obtain ⟨made', hmade, hrun⟩ := bind_eq_ok_iff.mp hrun
  cases hrun
  cases hwrite
  obtain ⟨hconfigs, hrevisions, haudits⟩ := Database.insertRevision_ok hmade
  exact ⟨rfl, _, rfl, hversion, rfl, hconfigs, hrevisions, haudits⟩

theorem insertAuditEventTx_ok {event : NewAuditEvent} {auditEventId : String}
    (h : insertAuditEventTx format session event db = .ok (auditEventId, db')) :
    ∃ row : AuditRow, row.projectId = event.projectId.map Identifier.raw ∧
      db'.configs = db.configs ∧ db'.revisions = db.revisions ∧
      db'.audits.rows = db.audits.rows ++ [row] := by
  obtain ⟨_, -, hinsert⟩ := tx_lift_bind_ok h
  obtain ⟨_, made, hrun, hid⟩ := execute_bind_ok hinsert
  obtain ⟨made', hmade, hrun⟩ := bind_eq_ok_iff.mp hrun
  cases hrun
  cases hid
  exact ⟨_, rfl, Database.insertAudit_ok hmade⟩

/-- A write goes on after its first statement only when that statement affected a row, and then
adds the revision and the audit event. -/
theorem afterWriteTx_ok {affected : Nat} {expectedVersion : Option UInt64} {action : String}
    {write : ProjectConfigWriteResult}
    (h : afterWriteTx format session config encoded affected expectedVersion audit action db =
      .ok (write, db')) :
    affected ≠ 0 ∧ write.version = config.version ∧ db'.configs = db.configs ∧
      (∃ row : RevisionRow, row.projectId = config.id.raw ∧
        versionToI64 config.version = .ok row.version ∧ row.config = encoded.configJson ∧
        db'.revisions.rows = db.revisions.rows ++ [row]) ∧
      ∃ row : AuditRow, row.projectId = some config.id.raw ∧
        db'.audits.rows = db.audits.rows ++ [row] := by
  unfold afterWriteTx at h
  by_cases haffected : affected = 0
  · rw [if_pos haffected] at h
    obtain ⟨_, _, -, hthrow⟩ := tx_bind_ok h
    exact nomatch hthrow
  · rw [if_neg haffected] at h
    obtain ⟨write', made, hrevision, hrest⟩ := tx_bind_ok h
    obtain ⟨_, made', haudit, hwrite⟩ := tx_bind_ok hrest
    obtain ⟨_, made'', haudit, hunit⟩ := tx_bind_ok haudit
    cases hunit
    cases hwrite
    obtain ⟨hversion, row, hproject, hrow, hconfig, hconfigs, hrevisions, haudits⟩ :=
      insertConfigRevisionTx_ok hrevision
    obtain ⟨auditRow, hauditProject, hconfigs', hrevisions', haudits'⟩ :=
      insertAuditEventTx_ok haudit
    refine ⟨haffected, hversion, hconfigs'.trans hconfigs,
      ⟨row, hproject, hrow, hconfig, ?_⟩, ⟨auditRow, hauditProject, ?_⟩⟩
    · rw [hrevisions', hrevisions]
    · rw [haudits', haudits]

/-- What is encoded is encoded from a validated configuration. -/
theorem validatedEncoding_ok (h : validatedEncoding format cipher session config = .ok encoded) :
    config.validate = .ok () ∧ Yields (encode cipher config) encoded.configJson := by
  obtain ⟨hvalidate, h⟩ := check_eq_ok_iff.mp h
  obtain ⟨⟨encoded', random⟩, hencode, h⟩ := bind_eq_ok_iff.mp h
  obtain ⟨⟨stored, random'⟩, hstored, hencode⟩ := bind_eq_ok_iff.mp hencode
  cases hencode
  cases h
  exact ⟨mapError_eq_ok_iff.mp hvalidate, session.random, _, hstored⟩

/-- The encoding has the version of its configuration. -/
theorem encode_version {stored : StoredProjectConfig} (h : Yields (encode cipher config) stored) :
    stored.version = config.version := by
  obtain ⟨_, -, h⟩ := yields_bind h
  obtain ⟨_, -, h⟩ := yields_bind h
  rw [yields_pure h]

/-- The row of the first statement and what follows it make up a committed write. -/
theorem committed_of_setsConfig {made : Database} {version : Int64}
    (hset : Database.SetsConfig db made (configRow config encoded version))
    (hversion : versionToI64 config.version = .ok version)
    (hconfigs : db'.configs = made.configs)
    (hrevision : ∃ row : RevisionRow, row.projectId = config.id.raw ∧
      versionToI64 config.version = .ok row.version ∧ row.config = encoded.configJson ∧
      db'.revisions.rows = made.revisions.rows ++ [row])
    (haudit : ∃ row : AuditRow, row.projectId = some config.id.raw ∧
      db'.audits.rows = made.audits.rows ++ [row]) :
    Committed db db' config.id.raw version encoded.configJson where
  config := by
    refine ⟨configRow config encoded version, rfl, rfl, fun id => ?_⟩
    rw [hconfigs]
    exact hset.configs id
  revision := by
    obtain ⟨row, hproject, hrow, hconfig, hrows⟩ := hrevision
    rw [hset.revisions] at hrows
    exact ⟨row, hproject, Except.ok.inj (hrow.symm.trans hversion), hconfig, hrows⟩
  audit := by
    rw [← hset.audits]
    exact haudit

/-- A creation that succeeds finds no row of its project, and commits its configuration. -/
theorem createProjectConfig_ok {write : ProjectConfigWriteResult}
    (h : createProjectConfig format cipher session config audit db = (.ok write, db')) :
    ∃ version stored, (createdConfig config).validate = .ok () ∧
      versionToI64 (createdConfig config).version = .ok version ∧
      Yields (encode cipher (createdConfig config)) stored ∧
      write.version = (createdConfig config).version ∧
      db.configs.find? (createdConfig config).id.raw = none ∧
      Committed db db' (createdConfig config).id.raw version stored := by
  unfold createProjectConfig at h
  split at h
  · exact nomatch (Prod.ext_iff.mp h).1
  · next encoded hencoded =>
    obtain ⟨hvalidate, hstored⟩ := validatedEncoding_ok hencoded
    obtain ⟨version, hversion, hbody⟩ := tx_lift_bind_ok (transaction_ok h)
    obtain ⟨affected, made, hinsert, hafter⟩ := execute_bind_ok hbody
    obtain ⟨haffected, hwrite, hconfigs, hrevision, haudit⟩ := afterWriteTx_ok hafter
    rcases Database.insertConfig_ok hinsert with ⟨hzero, -⟩ | ⟨-, hfresh, hset⟩
    · exact absurd hzero haffected
    · exact ⟨version, encoded.configJson, hvalidate, hversion, hstored, hwrite, hfresh,
        committed_of_setsConfig hset hversion hconfigs hrevision haudit⟩

/-- An update that succeeds finds its project at the version it expects, and commits its
configuration at the next one. -/
theorem updateProjectConfig_ok {expectedVersion : UInt64} {write : ProjectConfigWriteResult}
    (h : updateProjectConfig format cipher session config expectedVersion audit db =
      (.ok write, db')) :
    ∃ version stored old,
      ({ config with version := write.version } : ProjectConfig).validate = .ok () ∧
      write.version.toNat = expectedVersion.toNat + 1 ∧
      versionToI64 write.version = .ok version ∧
      Yields (encode cipher { config with version := write.version }) stored ∧
      db.configs.find? config.id.raw = some old ∧
      versionToI64 expectedVersion = .ok old.version ∧
      Committed db db' config.id.raw version stored := by
  unfold updateProjectConfig at h
  by_cases hmax : expectedVersion.toNat + 1 = 2 ^ 64
  · rw [if_pos hmax] at h
    exact nomatch (Prod.ext_iff.mp h).1
  · rw [if_neg hmax] at h
    have hnext : (expectedVersion + 1).toNat = expectedVersion.toNat + 1 := by
      have hlt := expectedVersion.toNat_lt
      rw [UInt64.toNat_add, Nat.mod_eq_of_lt]
      · rfl
      · change expectedVersion.toNat + 1 < 2 ^ 64
        omega
    simp only at h
    split at h
    · exact nomatch (Prod.ext_iff.mp h).1
    · next encoded hencoded =>
      obtain ⟨hvalidate, hstored⟩ := validatedEncoding_ok hencoded
      obtain ⟨version, hversion, hbody⟩ := tx_lift_bind_ok (transaction_ok h)
      obtain ⟨expected, hexpected, hbody⟩ := tx_lift_bind_ok hbody
      obtain ⟨affected, made, hupdate, hafter⟩ := execute_bind_ok hbody
      obtain ⟨haffected, hwrite, hconfigs, hrevision, haudit⟩ := afterWriteTx_ok hafter
      rcases Database.updateConfig_ok hupdate with ⟨hzero, -⟩ | ⟨-, ⟨old, hold, hmatch⟩, hset⟩
      · exact absurd hzero haffected
      · have hwrite : write.version = expectedVersion + 1 := hwrite
        have hcommitted := committed_of_setsConfig hset hversion hconfigs hrevision haudit
        rw [hwrite]
        refine ⟨version, encoded.configJson, old, hvalidate, hnext, hversion, hstored, hold, ?_,
          hcommitted⟩
        rw [hmatch]
        exact hexpected

/-- A creation that fails leaves the tables as they were. -/
theorem createProjectConfig_error {error : StorageError}
    (h : createProjectConfig format cipher session config audit db = (.error error, db')) :
    db' = db := by
  unfold createProjectConfig at h
  split at h
  · exact (Prod.ext_iff.mp h).2.symm
  · exact transaction_error h

/-- An update that fails leaves the tables as they were. -/
theorem updateProjectConfig_error {expectedVersion : UInt64} {error : StorageError}
    (h : updateProjectConfig format cipher session config expectedVersion audit db =
      (.error error, db')) : db' = db := by
  unfold updateProjectConfig at h
  by_cases hmax : expectedVersion.toNat + 1 = 2 ^ 64
  · rw [if_pos hmax] at h
    exact (Prod.ext_iff.mp h).2.symm
  · rw [if_neg hmax] at h
    simp only at h
    split at h
    · exact (Prod.ext_iff.mp h).2.symm
    · exact transaction_error h

/-- A configuration that is created with secrets the decoder accepts is loaded again. -/
theorem load_created (hcipher : cipher.Lawful) {write : ProjectConfigWriteResult}
    (h : createProjectConfig format cipher session config audit db = (.ok write, db'))
    (hsecrets : ∀ secret ∈ (createdConfig config).secrets, secret.Valid) :
    loadProjectConfig cipher none (createdConfig config).id db' =
      .ok (some (createdConfig config)) := by
  obtain ⟨version, stored, hvalidate, -, hstored, -, -, hcommitted⟩ := createProjectConfig_ok h
  obtain ⟨row, hrow, -, hconfig⟩ := hcommitted.row
  have hdecode : decode cipher row.config = .ok (createdConfig config) := by
    rw [hconfig]
    exact decode_eq_ok_iff.mpr ⟨reveal_encode hcipher hstored, hsecrets, hvalidate⟩
  rw [loadProjectConfig, hrow, Option.mapM_some, hdecode]
  rfl

end Spec

end Storage
end PipeBolt
