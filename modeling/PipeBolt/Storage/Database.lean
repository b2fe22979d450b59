import PipeBolt.Lib.Keyed
import PipeBolt.Storage.Codec
import PipeBolt.Storage.Model

/-!
# The database

The tables of the migration that configuration writes touch: `project_configs`,
`project_config_revisions` and `audit_events`, with the keys and checks the migration declares.  A
`Database` satisfies its keys by construction, and a statement that would break one fails.

Times of creation are left out.  The `config` column holds what the codec encodes, so its check
that the JSON is an object always passes.

* `insertConfig`, `updateConfig`, `insertRevision`, `insertAudit`: the statements, each with a
  lemma that says what it does when it succeeds.
-/

namespace PipeBolt
namespace Storage

open Domain Rust Fallible Keyed

/-! ## Rows -/

/-- A row of `project_configs`. -/
structure ConfigRow where
  projectId : String
  tenantId : Option String
  name : String
  enabled : Bool
  version : Int64
  configHash : String
  config : StoredProjectConfig

/-- A row of `project_config_revisions`. -/
structure RevisionRow where
  revisionId : String
  projectId : String
  version : Int64
  configHash : String
  config : StoredProjectConfig
  actorId : Option String
  reason : Option String

/-- The columns of `UNIQUE (project_id, version)`. -/
def RevisionRow.versionKey (row : RevisionRow) : String × Int64 := (row.projectId, row.version)

/-- A row of `audit_events`. -/
structure AuditRow where
  auditEventId : String
  projectId : Option String
  actorId : Option String
  action : String
  targetType : String
  targetId : String
  status : String
  reason : Option String
  metadata : ValueMap

/-! ## Checks -/

/-- `CHECK (version >= 0)`. -/
def checkVersion (table : String) (version : Int64) : Except SqlxError Unit :=
  if version < 0 then .error (.checkViolation s!"{table}_version_check") else .ok ()

/-- `CHECK (octet_length(column) BETWEEN least AND most)`. -/
def checkOctets (table column : String) (least most : Nat) (value : String) :
    Except SqlxError Unit :=
  if len value < least ∨ most < len value then
    .error (.checkViolation s!"{table}_{column}_check")
  else .ok ()

/-- The checks of `project_configs`. -/
def ConfigRow.check (row : ConfigRow) : Except SqlxError Unit := do
  checkVersion "project_configs" row.version
  checkOctets "project_configs" "config_hash" 1 128 row.configHash

/-- The checks of `project_config_revisions`. -/
def RevisionRow.check (row : RevisionRow) : Except SqlxError Unit := do
  checkVersion "project_config_revisions" row.version
  checkOctets "project_config_revisions" "config_hash" 1 128 row.configHash

/-- The checks of `audit_events`, given the length of the text of a `jsonb` value. -/
def AuditRow.check (jsonbTextLen : ValueMap → Nat) (row : AuditRow) : Except SqlxError Unit := do
  checkOctets "audit_events" "action" 1 96 row.action
  checkOctets "audit_events" "target_type" 1 96 row.targetType
  checkOctets "audit_events" "target_id" 1 256 row.targetId
  if row.status ≠ "succeeded" ∧ row.status ≠ "failed" then
    .error (.checkViolation "audit_events_status_check")
  else
    row.reason.forM (checkOctets "audit_events" "reason" 0 1024)
    if 16384 < jsonbTextLen row.metadata then
      .error (.checkViolation "audit_events_metadata_check")
    else .ok ()

/-! ## The tables -/

/-- The tables, with their keys. -/
structure Database where
  configs : Table ConfigRow.projectId
  revisions : Table RevisionRow.revisionId
  audits : Table AuditRow.auditEventId
  revisions_unique : (revisions.rows.map RevisionRow.versionKey).Nodup
  revisions_project : ∀ row ∈ revisions.rows, configs.find? row.projectId ≠ none
  audits_project : ∀ row ∈ audits.rows, ∀ projectId ∈ row.projectId, configs.find? projectId ≠ none

namespace Database

/-- The tables after the migration. -/
def empty : Database where
  configs := .empty
  revisions := .empty
  audits := .empty
  revisions_unique := List.nodup_nil
  revisions_project := fun _ h => (nomatch h)
  audits_project := fun _ h => (nomatch h)

/-! ## Statements -/

/-- `INSERT INTO project_configs .. ON CONFLICT (project_id) DO NOTHING`, with the number of rows
it affects. -/
def insertConfig (db : Database) (row : ConfigRow) : Except SqlxError (Nat × Database) := do
  row.check
  if hfresh : db.configs.find? row.projectId = none then
    have hkept : ∀ projectId, db.configs.find? projectId ≠ none →
        (db.configs.insert row hfresh).find? projectId ≠ none := by
      intro projectId h
      rw [Table.find?_insert]
      split
      · exact Option.some_ne_none row
      · exact h
    return (1, { db with
      configs := db.configs.insert row hfresh
      revisions_project := fun r hr => hkept _ (db.revisions_project r hr)
      audits_project := fun r hr p hp => hkept _ (db.audits_project r hr p hp) })
  else return (0, db)

/-- `UPDATE project_configs SET .. WHERE project_id = .. AND version = expected`, with the number
of rows it affects. -/
def updateConfig (db : Database) (row : ConfigRow) (expected : Int64) :
    Except SqlxError (Nat × Database) :=
  -- The checks are made for a row that is written, and not for one that does not match.
  match hfind : db.configs.find? row.projectId with
  | none => .ok (0, db)
  | some old =>
    if old.version ≠ expected then .ok (0, db)
    else do
      row.check
      have hkept : ∀ projectId, db.configs.find? projectId ≠ none →
          (db.configs.replace row).find? projectId ≠ none := by
        intro projectId h
        rw [Table.find?_replace hfind]
        split
        · exact Option.some_ne_none row
        · exact h
      return (1, { db with
        configs := db.configs.replace row
        revisions_project := fun r hr => hkept _ (db.revisions_project r hr)
        audits_project := fun r hr p hp => hkept _ (db.audits_project r hr p hp) })

/-- `INSERT INTO project_config_revisions`. -/
def insertRevision (db : Database) (row : RevisionRow) : Except SqlxError Database := do
  row.check
  if hfresh : db.revisions.find? row.revisionId = none then
    if hversion : row.versionKey ∈ db.revisions.rows.map RevisionRow.versionKey then
      .error (.uniqueViolation "project_config_revisions_project_id_version_key")
    else if hproject : db.configs.find? row.projectId = none then
      .error (.foreignKeyViolation "project_config_revisions_project_id_fkey")
    else
      return { db with
        revisions := db.revisions.insert row hfresh
        revisions_unique := by
          rw [Table.rows_insert, List.map_append, List.map_singleton, List.nodup_append]
          refine ⟨db.revisions_unique, List.nodup_singleton _, ?_⟩
          rintro key hkey _ hrow rfl
          exact hversion (List.mem_singleton.mp hrow ▸ hkey)
        revisions_project := by
          rw [Table.rows_insert, List.forall_mem_append]
          exact ⟨db.revisions_project, List.forall_mem_singleton.mpr hproject⟩ }
  else .error (.uniqueViolation "project_config_revisions_pkey")

/-- `INSERT INTO audit_events`. -/
def insertAudit (jsonbTextLen : ValueMap → Nat) (db : Database) (row : AuditRow) :
    Except SqlxError Database := do
  row.check jsonbTextLen
  if hfresh : db.audits.find? row.auditEventId = none then
    if hproject : ∀ projectId ∈ row.projectId, db.configs.find? projectId ≠ none then
      return { db with
        audits := db.audits.insert row hfresh
        audits_project := by
          rw [Table.rows_insert, List.forall_mem_append]
          exact ⟨db.audits_project, List.forall_mem_singleton.mpr hproject⟩ }
    else .error (.foreignKeyViolation "audit_events_project_id_fkey")
  else .error (.uniqueViolation "audit_events_pkey")

/-! ## What the statements do -/

section Statements

variable {db db' : Database}

/-- The row of one project is now `row`, and nothing else has changed. -/
structure SetsConfig (db db' : Database) (row : ConfigRow) : Prop where
  configs : ∀ projectId, db'.configs.find? projectId =
    if row.projectId = projectId then some row else db.configs.find? projectId
  revisions : db'.revisions = db.revisions
  audits : db'.audits = db.audits

theorem insertConfig_ok {row : ConfigRow} {affected : Nat}
    (h : db.insertConfig row = .ok (affected, db')) :
    affected = 0 ∧ db' = db ∨
      affected = 1 ∧ db.configs.find? row.projectId = none ∧ SetsConfig db db' row := by
  obtain ⟨-, h⟩ := check_eq_ok_iff.mp h
  by_cases hfresh : db.configs.find? row.projectId = none
  · rw [dif_pos hfresh] at h
    cases h
    exact Or.inr ⟨rfl, hfresh, Table.find?_insert _ _ hfresh, rfl, rfl⟩
  · rw [dif_neg hfresh] at h
    cases h
    exact Or.inl ⟨rfl, rfl⟩

theorem updateConfig_ok {row : ConfigRow} {expected : Int64} {affected : Nat}
    (h : db.updateConfig row expected = .ok (affected, db')) :
    affected = 0 ∧ db' = db ∨
      affected = 1 ∧ (∃ old, db.configs.find? row.projectId = some old ∧ old.version = expected) ∧
        SetsConfig db db' row := by
  unfold updateConfig at h
  split at h
  · cases h
    exact Or.inl ⟨rfl, rfl⟩
  · next old hfind =>
    by_cases hversion : old.version = expected
    · rw [if_neg (not_not.mpr hversion)] at h
      obtain ⟨-, h⟩ := check_eq_ok_iff.mp h
      cases h
      exact Or.inr ⟨rfl, ⟨old, hfind, hversion⟩, Table.find?_replace hfind, rfl, rfl⟩
    · rw [if_pos hversion] at h
      cases h
      exact Or.inl ⟨rfl, rfl⟩

theorem insertRevision_ok {row : RevisionRow} (h : db.insertRevision row = .ok db') :
    db'.configs = db.configs ∧ db'.revisions.rows = db.revisions.rows ++ [row] ∧
      db'.audits = db.audits := by
  obtain ⟨-, h⟩ := check_eq_ok_iff.mp h
  split at h
  · split at h
    · exact nomatch h
    · split at h
      · exact nomatch h
      · cases h
        exact ⟨rfl, rfl, rfl⟩
  · exact nomatch h

theorem insertAudit_ok {jsonbTextLen : ValueMap → Nat} {row : AuditRow}
    (h : db.insertAudit jsonbTextLen row = .ok db') :
    db'.configs = db.configs ∧ db'.revisions = db.revisions ∧
      db'.audits.rows = db.audits.rows ++ [row] := by
  obtain ⟨-, h⟩ := check_eq_ok_iff.mp h
  split at h
  · split at h
    · cases h
      exact ⟨rfl, rfl, rfl⟩
    · exact nomatch h
  · exact nomatch h

/-- A project without a row has no revisions. -/
theorem no_revisions {projectId : String} (h : db.configs.find? projectId = none) :
    ∀ row ∈ db.revisions.rows, row.projectId ≠ projectId := by
  rintro row hrow rfl
  exact db.revisions_project row hrow h

/-- No two revisions of a project have the same version. -/
theorem revisions_inj {row row' : RevisionRow} (hrow : row ∈ db.revisions.rows)
    (hrow' : row' ∈ db.revisions.rows) (hproject : row.projectId = row'.projectId)
    (hversion : row.version = row'.version) : row = row' :=
  List.inj_on_of_nodup_map db.revisions_unique hrow hrow' (Prod.ext hproject hversion)

end Statements

end Database

end Storage
end PipeBolt
