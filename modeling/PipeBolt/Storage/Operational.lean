import PipeBolt.Domain.Event
import PipeBolt.Lib.Keyset
import PipeBolt.Storage.Postgres

/-!
# Operational rows

The rows of `audit_events`, `failure_events` and `sink_delivery_outcomes`, the records they are read
into, and the three queries that list them.  A query orders the rows of a project by `occurred_at`
alone, so rows of one time come in any order the database likes.

A row has the text of its identifiers as it was written.  The constructors of the domain check it
when the row is read, and one row that they refuse fails the whole list.

* `auditEventFromRow_isOk_iff`, `failureEventFromRow_isOk_iff`,
  `sinkDeliveryOutcomeFromRow_isOk_iff`: which rows can be read.
* `SelectRows`: what the database may return for a query.
* `ListAuditEvents`, `ListFailures`, `ListDeliveryOutcomes`: the three queries.
-/

namespace PipeBolt
namespace Storage

open Domain Rust Fallible Keyset

/-! ## Records -/

/-- `AuditEventRecord`. -/
structure AuditEventRecord where
  auditEventId : String
  projectId : Option ProjectId
  actorId : Option UserId
  action : String
  targetType : String
  targetId : String
  status : AuditStatus
  reason : Option String
  metadata : ValueMap
  occurredAt : OffsetDateTime

/-- `FailureSeverity`. -/
inductive FailureSeverity where
  | warning
  | error
  | critical
  deriving DecidableEq, Repr

/-- `FailureSeverity::as_str`. -/
def FailureSeverity.asStr : FailureSeverity → String
  | .warning => "warning"
  | .error => "error"
  | .critical => "critical"

/-- `FailureEventRecord`. -/
structure FailureEventRecord where
  failureId : String
  projectId : ProjectId
  eventId : Option EventId
  sinkId : Option SinkId
  component : String
  failureKind : String
  severity : FailureSeverity
  message : String
  details : ValueMap
  occurredAt : OffsetDateTime
  resolvedAt : Option OffsetDateTime
  resolution : Option String

/-- `SinkDeliveryOutcomeRecord`. -/
structure SinkDeliveryOutcomeRecord where
  deliveryId : String
  projectId : ProjectId
  eventId : EventId
  sinkId : SinkId
  status : String
  httpStatus : Option UInt16
  responseBodyBytes : Option UInt64
  failureReason : Option String
  correlationId : Option String
  durationMs : Option UInt64
  attempt : UInt16
  occurredAt : OffsetDateTime

/-! ## Rows -/

/-- A row of `audit_events`, with the checks of the table on what is parsed of it. -/
structure AuditEventRow where
  auditEventId : String
  projectId : Option String
  actorId : Option String
  action : String
  targetType : String
  targetId : String
  status : String
  reason : Option String
  metadata : Value
  occurredAt : OffsetDateTime
  status_check : status = "succeeded" ∨ status = "failed"
  metadata_check : ∃ entries, metadata = .object entries

/-- A row of `failure_events`, with its checks. -/
structure FailureEventRow where
  failureId : String
  projectId : String
  eventId : Option String
  sinkId : Option String
  component : String
  failureKind : String
  severity : String
  message : String
  details : Value
  occurredAt : OffsetDateTime
  resolvedAt : Option OffsetDateTime
  resolution : Option String
  severity_check : severity = "warning" ∨ severity = "error" ∨ severity = "critical"
  details_check : ∃ entries, details = .object entries

/-- A row of `sink_delivery_outcomes`, with its checks. -/
structure SinkDeliveryOutcomeRow where
  deliveryId : String
  projectId : String
  eventId : String
  sinkId : String
  status : String
  httpStatus : Option Int32
  responseBodyBytes : Option Int64
  failureReason : Option String
  correlationId : Option String
  durationMs : Option Int64
  attempt : Int32
  occurredAt : OffsetDateTime
  httpStatus_check : ∀ status ∈ httpStatus, 100 ≤ status ∧ status ≤ 599
  responseBodyBytes_check : ∀ bytes ∈ responseBodyBytes, 0 ≤ bytes
  durationMs_check : ∀ duration ∈ durationMs, 0 ≤ duration
  attempt_check : 1 ≤ attempt

/-- The rows of the three tables. -/
structure OperationalRows where
  auditEvents : List AuditEventRow
  failureEvents : List FailureEventRow
  sinkDeliveryOutcomes : List SinkDeliveryOutcomeRow

/-- `parse_audit_status`. -/
def parseAuditStatus (value : String) : Except StorageError AuditStatus :=
  if value = "succeeded" then .ok .succeeded
  else if value = "failed" then .ok .failed
  else .error (.invalidStoredState "unknown audit status")

/-- `parse_failure_severity`. -/
def parseFailureSeverity (value : String) : Except StorageError FailureSeverity :=
  if value = "warning" then .ok .warning
  else if value = "error" then .ok .error
  else if value = "critical" then .ok .critical
  else .error (.invalidStoredState "unknown failure severity")

/-- `value_to_object`. -/
def valueToObject (field : String) : Value → Except StorageError ValueMap
  | .object object => .ok object
  | _ => .error (.invalidField field "stored JSON value must be an object")

/-- `i32_to_u16`. -/
def i32ToU16 (field : String) (value : Int32) : Except StorageError UInt16 :=
  if value < 0 ∨ 65535 < value then .error (.numericOverflow field)
  else .ok value.toUInt32.toUInt16

/-- `optional_i32_to_u16`. -/
def optionalI32ToU16 (field : String) (value : Option Int32) :
    Except StorageError (Option UInt16) :=
  value.mapM (i32ToU16 field)

/-- `optional_i64_to_u64`. -/
def optionalI64ToU64 (field : String) (value : Option Int64) :
    Except StorageError (Option UInt64) :=
  value.mapM (i64ToU64 field)

/-- The constructor of an identifier, under the error of the storage. -/
def readId {field : String} (value : String) : Except StorageError (Identifier field) :=
  (Identifier.new value).mapError .domain

/-- `audit_event_from_row`. -/
def auditEventFromRow (row : AuditEventRow) : Except StorageError AuditEventRecord := do
  let projectId ← row.projectId.mapM readId
  let actorId ← row.actorId.mapM readId
  let status ← parseAuditStatus row.status
  let metadata ← valueToObject "metadata" row.metadata
  return {
    auditEventId := row.auditEventId
    projectId
    actorId
    action := row.action
    targetType := row.targetType
    targetId := row.targetId
    status
    reason := row.reason
    metadata
    occurredAt := row.occurredAt }

/-- `failure_event_from_row`. -/
def failureEventFromRow (row : FailureEventRow) : Except StorageError FailureEventRecord := do
  let projectId ← readId row.projectId
  let eventId ← row.eventId.mapM readId
  let sinkId ← row.sinkId.mapM readId
  let severity ← parseFailureSeverity row.severity
  let details ← valueToObject "details" row.details
  return {
    failureId := row.failureId
    projectId
    eventId
    sinkId
    component := row.component
    failureKind := row.failureKind
    severity
    message := row.message
    details
    occurredAt := row.occurredAt
    resolvedAt := row.resolvedAt
    resolution := row.resolution }

/-- `sink_delivery_outcome_from_row`. -/
def sinkDeliveryOutcomeFromRow (row : SinkDeliveryOutcomeRow) :
    Except StorageError SinkDeliveryOutcomeRecord := do
  let projectId ← readId row.projectId
  let eventId ← readId row.eventId
  let sinkId ← readId row.sinkId
  let httpStatus ← optionalI32ToU16 "http_status" row.httpStatus
  let responseBodyBytes ← optionalI64ToU64 "response_body_bytes" row.responseBodyBytes
  let durationMs ← optionalI64ToU64 "duration_ms" row.durationMs
  let attempt ← i32ToU16 "attempt" row.attempt
  return {
    deliveryId := row.deliveryId
    projectId
    eventId
    sinkId
    status := row.status
    httpStatus
    responseBodyBytes
    failureReason := row.failureReason
    correlationId := row.correlationId
    durationMs
    attempt
    occurredAt := row.occurredAt }

/-! ## Rows that can be read -/

/-- The identifiers of an audit event are valid. -/
structure AuditEventRow.Readable (row : AuditEventRow) : Prop where
  projectId : ∀ id ∈ row.projectId, IsIdentifier id
  actorId : ∀ id ∈ row.actorId, IsIdentifier id

/-- The identifiers of a failure are valid. -/
structure FailureEventRow.Readable (row : FailureEventRow) : Prop where
  projectId : IsIdentifier row.projectId
  eventId : ∀ id ∈ row.eventId, IsIdentifier id
  sinkId : ∀ id ∈ row.sinkId, IsIdentifier id

/-- The identifiers of a delivery outcome are valid, and the number of its attempt is that of a
`u16`. -/
structure SinkDeliveryOutcomeRow.Readable (row : SinkDeliveryOutcomeRow) : Prop where
  projectId : IsIdentifier row.projectId
  eventId : IsIdentifier row.eventId
  sinkId : IsIdentifier row.sinkId
  attempt : row.attempt ≤ 65535

theorem readId_isOk_iff {field value : String} :
    (∃ id : Identifier field, readId value = .ok id) ↔ IsIdentifier value := by
  constructor
  · rintro ⟨id, h⟩
    exact validateIdentifier_eq_ok_iff.mp (check_eq_ok_iff.mp (mapError_eq_ok_iff.mp h)).1
  · intro h
    have hvalid : validateIdentifier field value = .ok () := validateIdentifier_eq_ok_iff.mpr h
    exact ⟨⟨value⟩, mapError_eq_ok_iff.mpr (check_eq_ok_iff.mpr ⟨hvalid, rfl⟩)⟩

theorem parseAuditStatus_isOk {value : String} (h : value = "succeeded" ∨ value = "failed") :
    ∃ status, parseAuditStatus value = .ok status := by
  rcases h with rfl | rfl
  · exact ⟨.succeeded, rfl⟩
  · exact ⟨.failed, rfl⟩

theorem parseFailureSeverity_isOk {value : String}
    (h : value = "warning" ∨ value = "error" ∨ value = "critical") :
    ∃ severity, parseFailureSeverity value = .ok severity := by
  rcases h with rfl | rfl | rfl
  · exact ⟨.warning, rfl⟩
  · exact ⟨.error, rfl⟩
  · exact ⟨.critical, rfl⟩

theorem valueToObject_isOk {field : String} {value : Value}
    (h : ∃ entries, value = .object entries) : ∃ entries, valueToObject field value = .ok entries := by
  obtain ⟨entries, rfl⟩ := h
  exact ⟨entries, rfl⟩

theorem i32ToU16_isOk_iff {field : String} {value : Int32} :
    (∃ n, i32ToU16 field value = .ok n) ↔ 0 ≤ value ∧ value ≤ 65535 := by
  simp only [i32ToU16, guard_eq_ok_iff, not_or, Int32.not_lt]
  exact ⟨fun ⟨_, h, _⟩ => h, fun h => ⟨_, h, rfl⟩⟩

theorem i64ToU64_isOk_iff {field : String} {value : Int64} :
    (∃ n, i64ToU64 field value = .ok n) ↔ 0 ≤ value := by
  simp only [i64ToU64, guard_eq_ok_iff, Int64.not_lt]
  exact ⟨fun ⟨_, h, _⟩ => h, fun h => ⟨_, h, rfl⟩⟩

/-- The identifiers of an optional column. -/
theorem readId_column_isOk_iff {field : String} {column : Option String} :
    (∃ id : Option (Identifier field), column.mapM readId = .ok id) ↔
      ∀ id ∈ column, IsIdentifier id :=
  option_mapM_isOk_iff fun _ => readId_isOk_iff

/-- An audit event is read exactly when its identifiers are valid. -/
theorem auditEventFromRow_isOk_iff (row : AuditEventRow) :
    (∃ record, auditEventFromRow row = .ok record) ↔ row.Readable := by
  constructor
  · rintro ⟨record, h⟩
    obtain ⟨projectId, hproject, h⟩ := bind_eq_ok_iff.mp h
    obtain ⟨actorId, hactor, -⟩ := bind_eq_ok_iff.mp h
    exact ⟨readId_column_isOk_iff.mp ⟨_, hproject⟩, readId_column_isOk_iff.mp ⟨_, hactor⟩⟩
  · rintro ⟨hproject, hactor⟩
    obtain ⟨projectId, hproject⟩ := readId_column_isOk_iff.mpr hproject
    obtain ⟨actorId, hactor⟩ := readId_column_isOk_iff.mpr hactor
    obtain ⟨status, hstatus⟩ := parseAuditStatus_isOk row.status_check
    obtain ⟨metadata, hmetadata⟩ := valueToObject_isOk row.metadata_check
    exact isOk_bind hproject (isOk_bind hactor (isOk_bind hstatus (isOk_bind hmetadata ⟨_, rfl⟩)))

/-- A failure is read exactly when its identifiers are valid. -/
theorem failureEventFromRow_isOk_iff (row : FailureEventRow) :
    (∃ record, failureEventFromRow row = .ok record) ↔ row.Readable := by
  constructor
  · rintro ⟨record, h⟩
    obtain ⟨projectId, hproject, h⟩ := bind_eq_ok_iff.mp h
    obtain ⟨eventId, hevent, h⟩ := bind_eq_ok_iff.mp h
    obtain ⟨sinkId, hsink, -⟩ := bind_eq_ok_iff.mp h
    exact ⟨readId_isOk_iff.mp ⟨_, hproject⟩, readId_column_isOk_iff.mp ⟨_, hevent⟩,
      readId_column_isOk_iff.mp ⟨_, hsink⟩⟩
  · rintro ⟨hproject, hevent, hsink⟩
    obtain ⟨projectId, hproject⟩ := readId_isOk_iff.mpr hproject
    obtain ⟨eventId, hevent⟩ := readId_column_isOk_iff.mpr hevent
    obtain ⟨sinkId, hsink⟩ := readId_column_isOk_iff.mpr hsink
    obtain ⟨severity, hseverity⟩ := parseFailureSeverity_isOk row.severity_check
    obtain ⟨details, hdetails⟩ := valueToObject_isOk row.details_check
    exact isOk_bind hproject (isOk_bind hevent (isOk_bind hsink (isOk_bind hseverity
      (isOk_bind hdetails ⟨_, rfl⟩))))

/-- A delivery outcome is read exactly when its identifiers are valid and the number of its attempt
fits. -/
theorem sinkDeliveryOutcomeFromRow_isOk_iff (row : SinkDeliveryOutcomeRow) :
    (∃ record, sinkDeliveryOutcomeFromRow row = .ok record) ↔ row.Readable := by
  constructor
  · rintro ⟨record, h⟩
    obtain ⟨projectId, hproject, h⟩ := bind_eq_ok_iff.mp h
    obtain ⟨eventId, hevent, h⟩ := bind_eq_ok_iff.mp h
    obtain ⟨sinkId, hsink, h⟩ := bind_eq_ok_iff.mp h
    obtain ⟨httpStatus, -, h⟩ := bind_eq_ok_iff.mp h
    obtain ⟨responseBodyBytes, -, h⟩ := bind_eq_ok_iff.mp h
    obtain ⟨durationMs, -, h⟩ := bind_eq_ok_iff.mp h
    obtain ⟨attempt, hattempt, -⟩ := bind_eq_ok_iff.mp h
    exact ⟨readId_isOk_iff.mp ⟨_, hproject⟩, readId_isOk_iff.mp ⟨_, hevent⟩,
      readId_isOk_iff.mp ⟨_, hsink⟩, (i32ToU16_isOk_iff.mp ⟨_, hattempt⟩).2⟩
  · rintro ⟨hproject, hevent, hsink, hattempt⟩
    obtain ⟨projectId, hproject⟩ := readId_isOk_iff.mpr hproject
    obtain ⟨eventId, hevent⟩ := readId_isOk_iff.mpr hevent
    obtain ⟨sinkId, hsink⟩ := readId_isOk_iff.mpr hsink
    obtain ⟨httpStatus, hhttp⟩ : ∃ status,
        optionalI32ToU16 "http_status" row.httpStatus = .ok status := by
      refine (option_mapM_isOk_iff fun _ => i32ToU16_isOk_iff).mpr fun status hstatus => ?_
      obtain ⟨hlow, hhigh⟩ := row.httpStatus_check status hstatus
      exact ⟨Int32.le_trans (by decide) hlow, Int32.le_trans hhigh (by decide)⟩
    obtain ⟨responseBodyBytes, hbytes⟩ : ∃ bytes,
        optionalI64ToU64 "response_body_bytes" row.responseBodyBytes = .ok bytes :=
      (option_mapM_isOk_iff fun _ => i64ToU64_isOk_iff).mpr row.responseBodyBytes_check
    obtain ⟨durationMs, hduration⟩ : ∃ duration,
        optionalI64ToU64 "duration_ms" row.durationMs = .ok duration :=
      (option_mapM_isOk_iff fun _ => i64ToU64_isOk_iff).mpr row.durationMs_check
    obtain ⟨attempt, hattempt⟩ : ∃ attempt, i32ToU16 "attempt" row.attempt = .ok attempt :=
      i32ToU16_isOk_iff.mpr ⟨Int32.le_trans (by decide) row.attempt_check, hattempt⟩
    exact isOk_bind hproject (isOk_bind hevent (isOk_bind hsink (isOk_bind hhttp
      (isOk_bind hbytes (isOk_bind hduration (isOk_bind hattempt ⟨_, rfl⟩))))))

theorem auditEventFromRow_occurredAt {row : AuditEventRow} {record : AuditEventRecord}
    (h : auditEventFromRow row = .ok record) : record.occurredAt = row.occurredAt := by
  obtain ⟨projectId, -, h⟩ := bind_eq_ok_iff.mp h
  obtain ⟨actorId, -, h⟩ := bind_eq_ok_iff.mp h
  obtain ⟨status, -, h⟩ := bind_eq_ok_iff.mp h
  obtain ⟨metadata, -, h⟩ := bind_eq_ok_iff.mp h
  rw [← Except.ok.inj h]

theorem failureEventFromRow_occurredAt {row : FailureEventRow} {record : FailureEventRecord}
    (h : failureEventFromRow row = .ok record) : record.occurredAt = row.occurredAt := by
  obtain ⟨projectId, -, h⟩ := bind_eq_ok_iff.mp h
  obtain ⟨eventId, -, h⟩ := bind_eq_ok_iff.mp h
  obtain ⟨sinkId, -, h⟩ := bind_eq_ok_iff.mp h
  obtain ⟨severity, -, h⟩ := bind_eq_ok_iff.mp h
  obtain ⟨details, -, h⟩ := bind_eq_ok_iff.mp h
  rw [← Except.ok.inj h]

theorem sinkDeliveryOutcomeFromRow_occurredAt {row : SinkDeliveryOutcomeRow}
    {record : SinkDeliveryOutcomeRecord} (h : sinkDeliveryOutcomeFromRow row = .ok record) :
    record.occurredAt = row.occurredAt := by
  obtain ⟨projectId, -, h⟩ := bind_eq_ok_iff.mp h
  obtain ⟨eventId, -, h⟩ := bind_eq_ok_iff.mp h
  obtain ⟨sinkId, -, h⟩ := bind_eq_ok_iff.mp h
  obtain ⟨httpStatus, -, h⟩ := bind_eq_ok_iff.mp h
  obtain ⟨responseBodyBytes, -, h⟩ := bind_eq_ok_iff.mp h
  obtain ⟨durationMs, -, h⟩ := bind_eq_ok_iff.mp h
  obtain ⟨attempt, -, h⟩ := bind_eq_ok_iff.mp h
  rw [← Except.ok.inj h]

/-! ## Queries -/

def DEFAULT_OPERATIONAL_LIST_LIMIT : UInt32 := 100

def MAX_OPERATIONAL_LIST_LIMIT : UInt32 := 500

/-- `u32::clamp`. -/
def clamp (value low high : UInt32) : UInt32 :=
  if value < low then low else if high < value then high else value

theorem clamp_of_mem {value low high : UInt32} (hlow : low ≤ value) (hhigh : value ≤ high) :
    clamp value low high = value := by
  rw [clamp, if_neg (UInt32.not_lt.mpr hlow), if_neg (UInt32.not_lt.mpr hhigh)]

/-- `OperationalListQuery`. -/
structure OperationalListQuery where
  limit : UInt32 := DEFAULT_OPERATIONAL_LIST_LIMIT
  before : Option OffsetDateTime := none
  deriving DecidableEq, Repr

/-- `OperationalListQuery::sanitized`. -/
def OperationalListQuery.sanitized (query : OperationalListQuery) : OperationalListQuery where
  limit := clamp query.limit 1 MAX_OPERATIONAL_LIST_LIMIT
  before := query.before

/-- `FailureListQuery`. -/
structure FailureListQuery where
  limit : UInt32 := DEFAULT_OPERATIONAL_LIST_LIMIT
  before : Option OffsetDateTime := none
  unresolvedOnly : Bool := false
  deriving DecidableEq, Repr

/-- `FailureListQuery::sanitized`. -/
def FailureListQuery.sanitized (query : FailureListQuery) : FailureListQuery where
  limit := clamp query.limit 1 MAX_OPERATIONAL_LIST_LIMIT
  before := query.before
  unresolvedOnly := query.unresolvedOnly

/-- `SELECT .. WHERE .. AND ($before IS NULL OR occurred_at < $before) ORDER BY occurred_at DESC
LIMIT $limit`, of the rows that the rest of the `WHERE` clause selects. -/
def SelectRows {ρ : Type} (occurredAt : ρ → OffsetDateTime) (selected : List ρ)
    (before : Option OffsetDateTime) (limit : UInt32) (page : List ρ) : Prop :=
  IsPage occurredAt limit.toNat (past occurredAt before selected) page

namespace OperationalRows

/-- The audit events of a project. -/
def projectAuditEvents (rows : OperationalRows) (projectId : ProjectId) : List AuditEventRow :=
  rows.auditEvents.filter fun row => row.projectId == some projectId.raw

/-- The failures of a project, all or those that are not resolved. -/
def projectFailures (rows : OperationalRows) (projectId : ProjectId) (unresolvedOnly : Bool) :
    List FailureEventRow :=
  rows.failureEvents.filter fun row =>
    row.projectId == projectId.raw && (unresolvedOnly == false || row.resolvedAt.isNone)

/-- The delivery outcomes of a project. -/
def projectDeliveryOutcomes (rows : OperationalRows) (projectId : ProjectId) :
    List SinkDeliveryOutcomeRow :=
  rows.sinkDeliveryOutcomes.filter fun row => row.projectId == projectId.raw

end OperationalRows

/-- What `list_audit_events` may return. -/
def ListAuditEvents (rows : OperationalRows) (projectId : ProjectId) (query : OperationalListQuery)
    (result : Except StorageError (List AuditEventRecord)) : Prop :=
  let query := query.sanitized
  ∃ page, SelectRows AuditEventRow.occurredAt (rows.projectAuditEvents projectId) query.before
    query.limit page ∧ result = page.mapM auditEventFromRow

/-- What `list_failures` may return. -/
def ListFailures (rows : OperationalRows) (projectId : ProjectId) (query : FailureListQuery)
    (result : Except StorageError (List FailureEventRecord)) : Prop :=
  let query := query.sanitized
  ∃ page, SelectRows FailureEventRow.occurredAt
    (rows.projectFailures projectId query.unresolvedOnly) query.before query.limit page ∧
      result = page.mapM failureEventFromRow

/-- What `list_delivery_outcomes` may return. -/
def ListDeliveryOutcomes (rows : OperationalRows) (projectId : ProjectId)
    (query : OperationalListQuery)
    (result : Except StorageError (List SinkDeliveryOutcomeRecord)) : Prop :=
  let query := query.sanitized
  ∃ page, SelectRows SinkDeliveryOutcomeRow.occurredAt (rows.projectDeliveryOutcomes projectId)
    query.before query.limit page ∧ result = page.mapM sinkDeliveryOutcomeFromRow

end Storage
end PipeBolt
