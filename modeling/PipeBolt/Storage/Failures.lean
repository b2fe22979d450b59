import PipeBolt.Storage.Operational
import PipeBolt.Storage.Postgres

/-!
# Resolving failures

`resolve_failure` of `pipe_bolt_storage::postgres`.  A resolution is one transaction: a conditional
`UPDATE` of the failure, a look at the failure when no row was updated, and the audit event.

Of a row of `failure_events` there are the columns that a resolution reads or writes.

* `resolveFailure_cases`: a call resolves one open failure of its project and adds its audit event,
  or it fails and changes nothing.
* `Unhindered.result`: what a call with valid texts is answered, by the failure it meets.
-/

namespace PipeBolt
namespace Storage

open Domain Rust Fallible Keyed

def MAX_MESSAGE_BYTES : Nat := 2048

/-! ## The table -/

/-- A row of `failure_events`. -/
structure FailureRow where
  failureId : String
  projectId : String
  resolvedAt : Option OffsetDateTime
  resolution : Option String
  deriving DecidableEq, Repr

/-- The check of `failure_events` on what a resolution writes. -/
def FailureRow.check (row : FailureRow) : Except SqlxError Unit :=
  row.resolution.forM (checkOctets "failure_events" "resolution" 0 2048)

/-- `failure_events`. -/
abbrev Failures := Table FailureRow.failureId

/-- The tables with `failure_events`, whose rows belong to projects. -/
structure FailureDatabase where
  tables : Database
  failures : Failures
  failures_project : ∀ row ∈ failures.rows, tables.configs.find? row.projectId ≠ none

/-- `UPDATE failure_events SET .. WHERE failure_id = .. AND project_id = .. AND resolved_at IS NULL
RETURNING project_id`. -/
def updateFailure (now : OffsetDateTime) (failureId projectId resolution : String)
    (failures : Failures) : Except SqlxError (Option String × Failures) :=
  match failures.find? failureId with
  | none => .ok (none, failures)
  | some row =>
    if row.projectId = projectId ∧ row.resolvedAt = none then do
      let row := { row with resolvedAt := some now, resolution := some resolution }
      row.check
      return (some row.projectId, failures.replace row)
    else .ok (none, failures)

/-- `SELECT resolved_at FROM failure_events WHERE failure_id = .. AND project_id = ..`. -/
def readFailure (failureId projectId : String) (failures : Failures) :
    Option (Option OffsetDateTime) :=
  (failures.find? failureId).bind fun row =>
    if row.projectId = projectId then some row.resolvedAt else none

/-! ## The operation -/

/-- What a resolution draws from outside: the session of its audit event and of its transaction,
`now()`, and the failures of its other two statements. -/
structure ResolveSession where
  session : Session Unit
  now : OffsetDateTime
  updateFailure : Option String
  readFailure : Option String

/-- A computation on `failure_events` inside a transaction. -/
abbrev FailureTx := StateT Failures Tx

/-- One statement on `failure_events`. -/
def executeOnFailures {α : Type} (failure : Option String)
    (run : Failures → Except SqlxError (α × Failures)) : FailureTx α := fun failures tables =>
  match failure with
  | some reason => .error (.sqlx (.io reason))
  | none =>
    match run failures with
    | .error error => .error (.sqlx error)
    | .ok result => .ok (result, tables)

/-- The arguments of `resolve_failure`. -/
structure ResolveCall where
  projectId : ProjectId
  failureId : String
  resolution : String
  audit : AuditContext

/-- The checks `resolve_failure` begins with. -/
def ResolveCall.validate (call : ResolveCall) : Except StorageError Unit := do
  validateBoundedText "failure_id" call.failureId MAX_TARGET_ID_BYTES
  validateBoundedText "resolution" call.resolution MAX_MESSAGE_BYTES

/-- The audit event of a resolution. -/
def ResolveCall.auditEvent (call : ResolveCall) (projectId : ProjectId) : NewAuditEvent where
  projectId := some projectId
  actorId := call.audit.actorId
  action := "failure.resolve"
  targetType := "failure"
  targetId := call.failureId
  status := .succeeded
  reason := call.audit.reason
  metadata := []

/-- The row of `audit_events` that a resolution adds. -/
def ResolveCall.auditRow (call : ResolveCall) (auditUuid : String) : AuditRow where
  auditEventId := generatedId "audit" auditUuid
  projectId := some call.projectId.raw
  actorId := call.audit.actorId.map Identifier.raw
  action := "failure.resolve"
  targetType := "failure"
  targetId := call.failureId
  status := "succeeded"
  reason := call.audit.reason
  metadata := []

section Resolve

variable (format : Format) (session : ResolveSession) (call : ResolveCall)

/-- What `resolve_failure` returns when its `UPDATE` has found no row. -/
def resolveMissedTx : FailureTx Unit := do
  let existing ← executeOnFailures session.readFailure fun failures =>
    .ok (readFailure call.failureId call.projectId.raw failures, failures)
  match existing with
  | none => throw (.failureNotFound call.projectId.raw call.failureId)
  | some _ => throw (.failureAlreadyResolved call.projectId.raw call.failureId)

/-- What `resolve_failure` does when its `UPDATE` has returned a project. -/
def resolveFoundTx (projectId : String) : FailureTx Unit := do
  let made : Except DomainError ProjectId := Identifier.new projectId
  let projectId ← (made.mapError StorageError.domain : Except StorageError ProjectId)
  let _ ← (insertAuditEventTx format session.session (call.auditEvent projectId) : Tx String)
  return ()

/-- The transaction of `resolve_failure`. -/
def resolveTx : FailureTx Unit := do
  let row ← executeOnFailures session.updateFailure
    (updateFailure session.now call.failureId call.projectId.raw call.resolution)
  match row with
  | none => resolveMissedTx session call
  | some projectId => resolveFoundTx format session call projectId

end Resolve

section Spec

variable {format : Format} {session : ResolveSession} {call : ResolveCall}
  {failures failures' : Failures} {tables tables' : Database}

/-- The statements on `failure_events` and what follows them. -/
theorem executeOnFailures_bind {α β : Type} (failure : Option String)
    (run : Failures → Except SqlxError (α × Failures)) (next : α → FailureTx β)
    (failures : Failures) (tables : Database) :
    (executeOnFailures failure run >>= next) failures tables =
      match failure with
      | some reason => .error (.sqlx (.io reason))
      | none =>
        match run failures with
        | .error error => .error (.sqlx error)
        | .ok (value, failures) => next value failures tables := by
  have hbind : (executeOnFailures failure run >>= next) failures tables =
      executeOnFailures failure run failures tables >>= fun result =>
        next result.1.1 result.1.2 result.2 := rfl
  rw [hbind]
  unfold executeOnFailures
  cases failure with
  | some reason => rfl
  | none => cases run failures <;> rfl

theorem executeOnFailures_bind_ok {α β : Type} {failure : Option String}
    {run : Failures → Except SqlxError (α × Failures)} {next : α → FailureTx β}
    {result : (β × Failures) × Database}
    (h : (executeOnFailures failure run >>= next) failures tables = .ok result) :
    ∃ value made, run failures = .ok (value, made) ∧ next value made tables = .ok result := by
  rw [executeOnFailures_bind] at h
  split at h
  · exact nomatch h
  · split at h
    · exact nomatch h
    · next value made hrun => exact ⟨value, made, hrun, h⟩

/-- The row of a failure after its resolution. -/
def FailureRow.resolved (row : FailureRow) (now : OffsetDateTime) (resolution : String) :
    FailureRow :=
  { row with resolvedAt := some now, resolution := some resolution }

/-- The `UPDATE` writes the row of an open failure of the project, and no other. -/
theorem updateFailure_ok {now : OffsetDateTime} {failureId projectId resolution : String}
    {updated : Option String}
    (h : updateFailure now failureId projectId resolution failures = .ok (updated, failures')) :
    (updated = none ∧ failures' = failures) ∨
      ∃ row, failures.find? failureId = some row ∧ row.projectId = projectId ∧
        row.resolvedAt = none ∧ updated = some projectId ∧
        failures' = failures.replace (row.resolved now resolution) := by
  unfold updateFailure at h
  split at h
  · cases h
    exact Or.inl ⟨rfl, rfl⟩
  · next row hrow =>
    split at h
    · next hopen =>
      obtain ⟨-, h⟩ := check_eq_ok_iff.mp h
      cases h
      exact Or.inr ⟨row, hrow, hopen.1, hopen.2, congrArg some hopen.1, rfl⟩
    · cases h
      exact Or.inl ⟨rfl, rfl⟩

/-- A resolution that finds no row to update fails. -/
theorem resolveMissedTx_error :
    ∃ error, resolveMissedTx session call failures tables = .error error := by
  rw [resolveMissedTx, executeOnFailures_bind]
  split
  · exact ⟨_, rfl⟩
  · cases readFailure call.failureId call.projectId.raw failures with
    | none => exact ⟨_, rfl⟩
    | some _ => exact ⟨_, rfl⟩

/-- Statements on the other tables leave `failure_events` alone. -/
theorem liftTx_bind {α β : Type} (body : Tx α) (next : α → FailureTx β) :
    ((liftM body : FailureTx α) >>= next) failures tables =
      body tables >>= fun result => next result.1 failures result.2 := by
  show (body >>= fun value => pure (value, failures)) tables >>= _ = _
  show (body tables >>= fun result => _) >>= _ = _
  cases body tables <;> rfl

/-- A step that does not touch the tables. -/
theorem liftExcept_bind {α β : Type} (x : Except StorageError α) (next : α → FailureTx β) :
    ((liftM x : FailureTx α) >>= next) failures tables =
      x >>= fun value => next value failures tables := by
  cases x <;> rfl

theorem resolveFoundTx_eq (projectId : String) :
    resolveFoundTx format session call projectId failures tables =
      (validateIdentifier "project_id" projectId).mapError StorageError.domain >>= fun _ =>
        insertAuditEventTx format session.session (call.auditEvent ⟨projectId⟩) tables >>=
          fun result => .ok (((), failures), result.2) := by
  refine (liftExcept_bind
    ((Identifier.new projectId : Except DomainError ProjectId).mapError StorageError.domain)
    fun projectId => (liftM (insertAuditEventTx format session.session
      (call.auditEvent projectId)) : FailureTx String) >>= fun _ => pure ()).trans ?_
  simp only [liftTx_bind]
  unfold Identifier.new
  cases validateIdentifier "project_id" projectId with
  | error error => rfl
  | ok _ => rfl

/-- The audit event of a resolution is one row. -/
theorem insertAuditEventTx_resolution {auditEventId : String}
    (h : insertAuditEventTx format session.session (call.auditEvent call.projectId) tables =
      .ok (auditEventId, tables')) :
    validateAuditEvent format (call.auditEvent call.projectId) = .ok () ∧
      tables'.configs = tables.configs ∧
      tables'.audits.rows = tables.audits.rows ++ [call.auditRow session.session.auditUuid] := by
  obtain ⟨_, hvalid, hinsert⟩ := tx_lift_bind_ok h
  obtain ⟨_, made, hrun, hid⟩ := execute_bind_ok hinsert
  obtain ⟨made', hmade, hrun⟩ := bind_eq_ok_iff.mp hrun
  cases hrun
  cases hid
  obtain ⟨hconfigs, -, haudits⟩ := Database.insertAudit_ok hmade
  exact ⟨hvalid, hconfigs, haudits⟩

/-- A transaction that succeeds has resolved one open failure of its project, and added its audit
event. -/
theorem resolveTx_ok
    (h : resolveTx format session call failures tables = .ok (((), failures'), tables')) :
    (∃ row, failures.find? call.failureId = some row ∧ row.projectId = call.projectId.raw ∧
        row.resolvedAt = none ∧
        failures' = failures.replace (row.resolved session.now call.resolution)) ∧
      validateAuditEvent format (call.auditEvent call.projectId) = .ok () ∧
      tables'.configs = tables.configs ∧
      tables'.audits.rows = tables.audits.rows ++ [call.auditRow session.session.auditUuid] := by
  obtain ⟨updated, made, hupdate, hnext⟩ := executeOnFailures_bind_ok h
  rcases updateFailure_ok hupdate with ⟨rfl, -⟩ | ⟨row, hrow, hproject, hopen, rfl, rfl⟩
  · have hmissed : ∃ error, resolveMissedTx session call made tables = .error error :=
      resolveMissedTx_error
    obtain ⟨error, herror⟩ := hmissed
    exact nomatch herror.symm.trans hnext
  · have hfound : resolveFoundTx format session call call.projectId.raw _ tables = _ := hnext
    rw [resolveFoundTx_eq] at hfound
    obtain ⟨_, -, hfound⟩ := bind_eq_ok_iff.mp hfound
    obtain ⟨⟨auditEventId, written⟩, hinsert, hresult⟩ := bind_eq_ok_iff.mp hfound
    cases hresult
    obtain ⟨hvalid, hconfigs, haudits⟩ := insertAuditEventTx_resolution hinsert
    exact ⟨⟨row, hrow, hproject, hopen, rfl⟩, hvalid, hconfigs, haudits⟩

/-- A resolved failure belongs to the project it belonged to. -/
theorem failures_project_replace {row : FailureRow} {now : OffsetDateTime} {resolution : String}
    {p : String → Prop} (h : ∀ row ∈ failures.rows, p row.projectId)
    (hrow : row ∈ failures.rows) :
    ∀ r ∈ (failures.replace (row.resolved now resolution)).rows, p r.projectId := by
  intro r hr
  obtain ⟨old, hold, rfl⟩ := List.mem_map.mp hr
  split
  · exact h row hrow
  · exact h old hold

end Spec

/-- `resolve_failure`. -/
def resolveFailure (format : Format) (session : ResolveSession) (call : ResolveCall)
    (db : FailureDatabase) : Except StorageError Unit × FailureDatabase :=
  match call.validate with
  | .error error => (.error error, db)
  | .ok () =>
    match h : transaction session.session ((resolveTx format session call).run db.failures)
        db.tables with
    -- A transaction that fails leaves the tables as they were.
    | (.error error, _) => (.error error, db)
    | (.ok ((), failures), tables) =>
      (.ok (), {
        tables := tables
        failures := failures
        failures_project := by
          obtain ⟨⟨row, hrow, -, -, rfl⟩, -, hconfigs, -⟩ := resolveTx_ok (transaction_ok h)
          rw [hconfigs]
          exact failures_project_replace (p := fun projectId =>
            db.tables.configs.find? projectId ≠ none) db.failures_project
            (Table.find?_eq_some_iff.mp hrow).1 })

/-! ## What a call does -/

/-- A call with its session and its result. -/
structure Resolution where
  call : ResolveCall
  session : ResolveSession
  result : Except StorageError Unit

/-- The steps of the storage. -/
def ResolveStep (format : Format) (db : FailureDatabase) (resolution : Resolution)
    (db' : FailureDatabase) : Prop :=
  resolveFailure format resolution.session resolution.call db = (resolution.result, db')

/-- The project of a failure, and whether the failure is resolved. -/
def FailureDatabase.standing (db : FailureDatabase) (failureId : String) : Option (String × Bool) :=
  (db.failures.find? failureId).map fun row => (row.projectId, row.resolvedAt.isSome)

section Calls

variable {format : Format} {session : ResolveSession} {call : ResolveCall} {db db' : FailureDatabase}

/-- A call that succeeds has run its transaction, and one that fails leaves everything. -/
theorem resolveFailure_run (format : Format) (session : ResolveSession) (call : ResolveCall)
    (db : FailureDatabase) :
    (∃ error, resolveFailure format session call db = (.error error, db)) ∨
      ∃ db', resolveFailure format session call db = (.ok (), db') ∧
        resolveTx format session call db.failures db.tables =
          .ok (((), db'.failures), db'.tables) := by
  unfold resolveFailure
  split
  · exact Or.inl ⟨_, rfl⟩
  · split
    · exact Or.inl ⟨_, rfl⟩
    · next failures tables hrun => exact Or.inr ⟨_, rfl, transaction_ok hrun⟩

theorem standing_replace {row : FailureRow} {now : OffsetDateTime} {resolution : String}
    (hrow : db.failures.find? row.failureId = some row)
    (hfailures : db'.failures = db.failures.replace (row.resolved now resolution))
    (failureId : String) :
    db'.standing failureId =
      if row.failureId = failureId then some (row.projectId, true) else db.standing failureId := by
  have hfind : (db.failures.replace (row.resolved now resolution)).find? failureId =
      if row.failureId = failureId then some (row.resolved now resolution)
      else db.failures.find? failureId :=
    Table.find?_replace (x := row.resolved now resolution) hrow failureId
  rw [FailureDatabase.standing, hfailures, hfind]
  by_cases hid : row.failureId = failureId
  · rw [if_pos hid, if_pos hid]
    rfl
  · rw [if_neg hid, if_neg hid]
    rfl

/-- A call resolves one open failure of its project and adds its audit event, or it fails and
changes nothing. -/
theorem resolveFailure_cases {resolution : Resolution} (h : ResolveStep format db resolution db') :
    (∃ error, resolution.result = .error error ∧ db' = db) ∨
      resolution.result = .ok () ∧
      validateAuditEvent format (resolution.call.auditEvent resolution.call.projectId) = .ok () ∧
      db.standing resolution.call.failureId = some (resolution.call.projectId.raw, false) ∧
      (∀ failureId, db'.standing failureId = if resolution.call.failureId = failureId then
        some (resolution.call.projectId.raw, true) else db.standing failureId) ∧
      db'.tables.audits.rows = db.tables.audits.rows ++
        [resolution.call.auditRow resolution.session.session.auditUuid] := by
  obtain ⟨call, session, result⟩ := resolution
  have hstep : resolveFailure format session call db = (result, db') := h
  rcases resolveFailure_run format session call db with ⟨error, hrun⟩ | ⟨made, hrun, hbody⟩
  · cases hstep.symm.trans hrun
    exact Or.inl ⟨error, rfl, rfl⟩
  · cases hstep.symm.trans hrun
    obtain ⟨⟨row, hrow, hproject, hopen, hfailures⟩, hvalid, -, haudit⟩ := resolveTx_ok hbody
    have hid : row.failureId = call.failureId := (Table.find?_eq_some_iff.mp hrow).2
    refine Or.inr ⟨rfl, hvalid, ?_, fun failureId => ?_, haudit⟩
    · show (db.failures.find? call.failureId).map _ = _
      rw [hrow, Option.map_some, hproject, hopen]
      rfl
    · rw [standing_replace (hid.symm ▸ hrow) hfailures, hid, hproject]

/-! ## What a call is answered -/

/-- A call with a valid failure identifier and resolution that nothing outside hinders: its project
identifier is made by `ProjectId::new`, no statement fails, and its audit event has a new
identifier. -/
structure Unhindered (db : FailureDatabase) (resolution : Resolution) : Prop where
  texts : resolution.call.validate = .ok ()
  projectId : IsIdentifier resolution.call.projectId.raw
  statements : ∀ statement, resolution.session.session.failure statement = none
  updateFailure : resolution.session.updateFailure = none
  readFailure : resolution.session.readFailure = none
  auditEventId : db.tables.audits.find?
    (generatedId "audit" resolution.session.session.auditUuid) = none

/-- What an unhindered call is answered, by the failure it meets. -/
def ResolveCall.answer (format : Format) (call : ResolveCall) :
    Option (String × Bool) → Except StorageError Unit
  | none => .error (.failureNotFound call.projectId.raw call.failureId)
  | some (projectId, resolved) =>
    if projectId ≠ call.projectId.raw then
      .error (.failureNotFound call.projectId.raw call.failureId)
    else if resolved then .error (.failureAlreadyResolved call.projectId.raw call.failureId)
    else validateAuditEvent format (call.auditEvent call.projectId)

theorem validateBoundedText_ok {field value : String} {maxBytes : Nat}
    (h : validateBoundedText field value maxBytes = .ok ()) : 1 ≤ len value ∧ len value ≤ maxBytes := by
  obtain ⟨hblank, h⟩ := guard_eq_ok_iff.mp h
  obtain ⟨hshort, -⟩ := guard_eq_ok_iff.mp h
  refine ⟨Nat.one_le_iff_ne_zero.mpr fun hzero => hblank ?_, Nat.le_of_not_lt hshort⟩
  have hempty : value = "" := String.utf8ByteSize_eq_zero_iff.mp hzero
  rw [hempty]
  rfl

theorem checkOctets_eq_ok {table column value : String} {least most : Nat}
    (h : least ≤ len value ∧ len value ≤ most) : checkOctets table column least most value = .ok () := by
  rw [checkOctets, if_neg]
  omega

/-- The tables take the row of an audit event with valid texts. -/
theorem auditRow_check (hformat : format.jsonbTextLen [] ≤ 16384) (hvalid : call.validate = .ok ())
    (haudit : validateAuditEvent format (call.auditEvent call.projectId) = .ok ())
    (auditUuid : String) : (call.auditRow auditUuid).check format.jsonbTextLen = .ok () := by
  obtain ⟨hfailureId, -⟩ := check_eq_ok_iff.mp hvalid
  obtain ⟨-, h⟩ := check_eq_ok_iff.mp haudit
  obtain ⟨-, h⟩ := check_eq_ok_iff.mp h
  obtain ⟨-, h⟩ := check_eq_ok_iff.mp h
  obtain ⟨hreason, -⟩ := check_eq_ok_iff.mp h
  have haction : checkOctets "audit_events" "action" 1 96 "failure.resolve" = .ok () := by decide
  have htarget : checkOctets "audit_events" "target_type" 1 96 "failure" = .ok () := by decide
  refine check_eq_ok_iff.mpr ⟨haction, check_eq_ok_iff.mpr ⟨htarget, check_eq_ok_iff.mpr ⟨?_, ?_⟩⟩⟩
  · exact checkOctets_eq_ok (validateBoundedText_ok hfailureId)
  · rw [if_neg (by simp [ResolveCall.auditRow])]
    refine check_eq_ok_iff.mpr ⟨option_forM_eq_ok_iff.mpr fun reason hr => ?_, ?_⟩
    · have hlen := validateBoundedText_ok (option_forM_eq_ok_iff.mp hreason reason hr)
      exact checkOctets_eq_ok ⟨Nat.zero_le _, hlen.2⟩
    · exact if_neg (Nat.not_lt.mpr hformat)

theorem insertAudit_isOk {tables : Database} {jsonbTextLen : ValueMap → Nat} {row : AuditRow}
    (hcheck : row.check jsonbTextLen = .ok ()) (hfresh : tables.audits.find? row.auditEventId = none)
    (hproject : ∀ projectId ∈ row.projectId, tables.configs.find? projectId ≠ none) :
    ∃ tables', tables.insertAudit jsonbTextLen row = .ok tables' := by
  unfold Database.insertAudit
  rw [hcheck]
  show ∃ tables', dite _ _ _ = _
  rw [dif_pos hfresh, dif_pos hproject]
  exact ⟨_, rfl⟩

/-- The audit event of an unhindered call is added. -/
theorem insertAuditEventTx_isOk {tables : Database} (hformat : format.jsonbTextLen [] ≤ 16384)
    (hvalid : call.validate = .ok ())
    (haudit : validateAuditEvent format (call.auditEvent call.projectId) = .ok ())
    (hcalm : session.session.failure .insertAudit = none)
    (hfresh : tables.audits.find? (generatedId "audit" session.session.auditUuid) = none)
    (hproject : tables.configs.find? call.projectId.raw ≠ none) :
    ∃ result, insertAuditEventTx format session.session (call.auditEvent call.projectId) tables =
      .ok result := by
  have hcheck : (call.auditRow session.session.auditUuid).check format.jsonbTextLen = .ok () :=
    auditRow_check hformat hvalid haudit _
  obtain ⟨tables', hinsert⟩ := insertAudit_isOk hcheck hfresh
    (fun projectId hp => Option.some_inj.mp hp ▸ hproject)
  have hexecute : execute session.session .insertAudit (fun tables =>
      tables.insertAudit format.jsonbTextLen (call.auditRow session.session.auditUuid) >>=
        fun tables => pure ((), tables)) tables = .ok ((), tables') := by
    rw [execute, hcalm, hinsert]
    rfl
  refine ⟨(generatedId "audit" session.session.auditUuid, tables'),
    bind_eq_ok_iff.mpr ⟨((), tables), ?_, ?_⟩⟩
  · rw [haudit]
    rfl
  · exact bind_eq_ok_iff.mpr ⟨((), tables'), hexecute, rfl⟩

/-- The `UPDATE` of an open failure of the project. -/
theorem updateFailure_open {failures : Failures} {row : FailureRow} {now : OffsetDateTime}
    {failureId projectId resolution : String} (hrow : failures.find? failureId = some row)
    (hproject : row.projectId = projectId) (hopen : row.resolvedAt = none)
    (hshort : len resolution ≤ MAX_MESSAGE_BYTES) :
    updateFailure now failureId projectId resolution failures =
      .ok (some projectId, failures.replace (row.resolved now resolution)) := by
  have hcheck : (row.resolved now resolution).check = .ok () :=
    checkOctets_eq_ok ⟨Nat.zero_le _, hshort⟩
  unfold updateFailure
  rw [hrow]
  refine (if_pos ⟨hproject, hopen⟩).trans (check_eq_ok_iff.mpr ⟨hcheck, ?_⟩)
  show Except.ok (some row.projectId, failures.replace (row.resolved now resolution)) = _
  rw [hproject]

/-- Once the `UPDATE` has found its failure, an unhindered call is answered by its audit event. -/
theorem resolveFoundTx_answer {failures : Failures} {tables : Database}
    (hformat : format.jsonbTextLen [] ≤ 16384) (hvalid : call.validate = .ok ())
    (hprojectId : IsIdentifier call.projectId.raw)
    (hcalm : session.session.failure .insertAudit = none)
    (hfresh : tables.audits.find? (generatedId "audit" session.session.auditUuid) = none)
    (hproject : tables.configs.find? call.projectId.raw ≠ none) :
    (resolveFoundTx format session call call.projectId.raw failures tables).map (fun _ => ()) =
      validateAuditEvent format (call.auditEvent call.projectId) := by
  have hvalidId : validateIdentifier "project_id" call.projectId.raw = .ok () :=
    validateIdentifier_eq_ok_iff.mpr hprojectId
  have heta : (⟨call.projectId.raw⟩ : ProjectId) = call.projectId := rfl
  rw [resolveFoundTx_eq, hvalidId, heta]
  cases haudit : validateAuditEvent format (call.auditEvent call.projectId) with
  | error error =>
    have hinsert : insertAuditEventTx format session.session (call.auditEvent call.projectId)
        tables = .error error := by
      rw [insertAuditEventTx, haudit]
      rfl
    rw [hinsert]
    rfl
  | ok _ =>
    obtain ⟨result, hinsert⟩ :=
      insertAuditEventTx_isOk hformat hvalid haudit hcalm hfresh hproject
    rw [hinsert]
    rfl

/-- An unhindered transaction is answered by the failure it meets. -/
theorem resolveTx_answer {resolution : Resolution} (hformat : format.jsonbTextLen [] ≤ 16384)
    (h : Unhindered db resolution) :
    (resolveTx format resolution.session resolution.call db.failures db.tables).map (fun _ => ()) =
      resolution.call.answer format (db.standing resolution.call.failureId) := by
  obtain ⟨call, session, result⟩ := resolution
  obtain ⟨htexts, hprojectId, hcalm, hupdateCalm, hreadCalm, hfresh⟩ := h
  simp only at htexts hprojectId hcalm hupdateCalm hreadCalm hfresh ⊢
  have hmissed : resolveMissedTx session call db.failures db.tables =
      match readFailure call.failureId call.projectId.raw db.failures with
      | none => .error (.failureNotFound call.projectId.raw call.failureId)
      | some _ => .error (.failureAlreadyResolved call.projectId.raw call.failureId) := by
    rw [resolveMissedTx, executeOnFailures_bind, hreadCalm]
    simp only
    cases readFailure call.failureId call.projectId.raw db.failures <;> rfl
  rw [resolveTx, executeOnFailures_bind, hupdateCalm]
  simp only
  unfold FailureDatabase.standing
  cases hrow : db.failures.find? call.failureId with
  | none =>
    have hupdate : updateFailure session.now call.failureId call.projectId.raw call.resolution
        db.failures = .ok (none, db.failures) := by
      rw [updateFailure, hrow]
    rw [hupdate]
    simp only
    rw [hmissed, readFailure, hrow]
    rfl
  | some row =>
    by_cases hopen : row.projectId = call.projectId.raw ∧ row.resolvedAt = none
    · obtain ⟨hproject, hopen⟩ := hopen
      obtain ⟨-, hresolution⟩ := check_eq_ok_iff.mp htexts
      rw [updateFailure_open hrow hproject hopen (validateBoundedText_ok hresolution).2]
      simp only
      rw [resolveFoundTx_answer hformat htexts hprojectId (hcalm _) hfresh
        (hproject ▸ db.failures_project row (Table.find?_eq_some_iff.mp hrow).1), Option.map_some,
        hopen, hproject, ResolveCall.answer, if_neg (not_not.mpr rfl)]
      rfl
    · have hupdate : updateFailure session.now call.failureId call.projectId.raw call.resolution
          db.failures = .ok (none, db.failures) := by
        rw [updateFailure, hrow]
        exact if_neg hopen
      rw [hupdate]
      simp only
      rw [hmissed, readFailure, hrow, Option.map_some, ResolveCall.answer, Option.bind_some]
      by_cases hproject : row.projectId = call.projectId.raw
      · have hresolved : row.resolvedAt.isSome = true :=
          Option.isSome_iff_ne_none.mpr fun h => hopen ⟨hproject, h⟩
        rw [if_pos hproject, if_neg (not_not.mpr hproject), if_pos hresolved]
        rfl
      · rw [if_neg hproject, if_pos hproject]
        rfl

theorem transaction_calm_error {ρ α : Type} {session : Session ρ} {body : Tx α}
    {tables tables' : Database} {error : StorageError}
    (hcalm : ∀ statement, session.failure statement = none)
    (h : transaction session body tables = (.error error, tables')) : body tables = .error error := by
  rw [transaction, hcalm] at h
  simp only at h
  split at h
  · next hbody =>
    cases h
    exact hbody
  · rw [hcalm] at h
    exact nomatch (Prod.ext_iff.mp h).1

/-- An unhindered call is answered by the failure it meets. -/
theorem Unhindered.result {resolution : Resolution} (hformat : format.jsonbTextLen [] ≤ 16384)
    (h : Unhindered db resolution) (hstep : ResolveStep format db resolution db') :
    resolution.result = resolution.call.answer format (db.standing resolution.call.failureId) := by
  have hresult : (resolveFailure format resolution.session resolution.call db).1 =
      (resolveTx format resolution.session resolution.call db.failures db.tables).map
        (fun _ => ()) := by
    unfold resolveFailure
    rw [h.texts]
    simp only
    split
    · next error tables hrun =>
      have hbody : resolveTx format resolution.session resolution.call db.failures db.tables =
          .error error := transaction_calm_error h.statements hrun
      rw [hbody]
      rfl
    · next failures tables hrun =>
      have hbody : resolveTx format resolution.session resolution.call db.failures db.tables =
          .ok (((), failures), tables) := transaction_ok hrun
      rw [hbody]
      rfl
  rw [← resolveTx_answer hformat h, ← hresult]
  exact (congrArg Prod.fst hstep).symm

end Calls

end Storage
end PipeBolt
