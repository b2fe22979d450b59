import PipeBolt.Daemon.ExecutionLedger
import PipeBolt.Lib.Keyed
import PipeBolt.Storage.Postgres

/-!
# The table of command executions

`record_command_execution`, `mark_command_execution_failed` and `mark_command_execution_published`
of `pipe_bolt_storage::postgres`, on the rows of `command_executions`.  The updates do not look at
the status that they replace.

* `StorageCall`: what a call of the storage does, when it may fail before or after its statement.
* `StorageCall.inserted`, `StorageCall.markFailed`, `StorageCall.markPublished`: what the calls do
  to the status of the rows.
-/

namespace PipeBolt
namespace Daemon

open Domain Storage Fallible Keyed

/-- The rows of `command_executions`, under their primary key. -/
abbrev CommandTable := Table NewCommandExecution.commandExecutionId

/-- The status of a row. -/
def CommandTable.status (table : CommandTable) (id : CommandExecutionId) :
    Option CommandExecutionStatus :=
  (table.find? id).map (·.status)

/-- `validate_command_execution`. -/
def validateCommandExecution (execution : NewCommandExecution) : Except StorageError Unit := do
  validateBoundedText "topic" execution.topic 1024
  execution.reason.forM fun reason => validateBoundedText "reason" reason MAX_REASON_BYTES
  execution.failureReason.forM fun reason =>
    validateBoundedText "failure_reason" reason MAX_REASON_BYTES

/-- `record_command_execution`, on its table. -/
def recordCommandExecution (execution : NewCommandExecution) (table : CommandTable) :
    Except StorageError CommandTable := do
  validateCommandExecution execution
  if 2 ^ 63 ≤ execution.payloadSizeBytes then .error (.numericOverflow "payload_size_bytes")
  else
    match h : table.find? execution.commandExecutionId with
    | some _ => .error (.sqlx (.uniqueViolation "command_executions_pkey"))
    | none => .ok (table.insert execution h)

/-- `mark_command_execution_failed`. -/
def markCommandExecutionFailed (id : CommandExecutionId) (failureReason : String)
    (table : CommandTable) : Except StorageError CommandTable := do
  validateBoundedText "failure_reason" failureReason MAX_REASON_BYTES
  return table.modify id
    (fun row => { row with status := .failed, failureReason := some failureReason }) fun _ => rfl

/-- `mark_command_execution_published`. -/
def markCommandExecutionPublished (id : CommandExecutionId) (table : CommandTable) :
    Except StorageError CommandTable :=
  .ok (table.modify id (fun row => { row with status := .published, failureReason := none })
    fun _ => rfl)

/-- What a call of the storage does to its table, and whether it succeeds. -/
inductive StorageCall (op : CommandTable → Except StorageError CommandTable)
    (table : CommandTable) : Bool → CommandTable → Prop
  | done {after : CommandTable} (h : op table = .ok after) : StorageCall op table true after
  | refused {error : StorageError} (h : op table = .error error) : StorageCall op table false table
  /-- The connection fails, or the call is dropped, before the statement is done. -/
  | broken : StorageCall op table false table
  /-- The connection fails, or the call is dropped, after the statement is done. -/
  | lost {after : CommandTable} (h : op table = .ok after) : StorageCall op table false after

section Calls

variable {table after : CommandTable} {id : CommandExecutionId} {ok : Bool}

/-- A call does all of its statement or nothing, and nothing only when it fails. -/
theorem StorageCall.all_or_nothing {op : CommandTable → Except StorageError CommandTable}
    (h : StorageCall op table ok after) : op table = .ok after ∨ (ok = false ∧ after = table) := by
  cases h with
  | done hok => exact .inl hok
  | refused herror => exact .inr ⟨rfl, rfl⟩
  | broken => exact .inr ⟨rfl, rfl⟩
  | lost hok => exact .inl hok

theorem CommandTable.status_modify {f : NewCommandExecution → NewCommandExecution}
    (hf : ∀ row, (f row).commandExecutionId = row.commandExecutionId)
    (status : CommandExecutionStatus) (hstatus : ∀ row, (f row).status = status) :
    CommandTable.status (table.modify id f hf) =
      Function.update (CommandTable.status table) id
        ((CommandTable.status table id).map fun _ => status) := by
  funext k
  rw [CommandTable.status, Table.find?_modify]
  by_cases hk : k = id
  · subst hk
    rw [if_pos rfl, Function.update_self, CommandTable.status, Option.map_map, Option.map_map]
    exact congrArg (fun g => (table.find? k).map g) (funext hstatus)
  · rw [if_neg hk, Function.update_of_ne hk]
    rfl

theorem StorageCall.inserted {execution : NewCommandExecution}
    (hqueued : execution.status = .queued)
    (h : StorageCall (recordCommandExecution execution) table ok after) :
    Inserted (CommandTable.status table) execution.commandExecutionId ok
      (CommandTable.status after) := by
  rcases h.all_or_nothing with hdone | ⟨hfailed, rfl⟩
  · obtain ⟨-, -, hdone⟩ := bind_eq_ok_iff.mp hdone
    obtain ⟨-, hdone⟩ := guard_eq_ok_iff.mp hdone
    split at hdone
    · cases hdone
    · next hfresh =>
      obtain rfl := Except.ok.inj hdone
      refine .inl (funext fun k => ?_)
      rw [CommandTable.status, Table.find?_insert]
      by_cases hk : k = execution.commandExecutionId
      · subst hk
        rw [if_pos rfl, Function.update_self, Option.map_some, hqueued]
      · rw [if_neg (Ne.symm hk), Function.update_of_ne hk]
        rfl
  · exact .inr ⟨hfailed, rfl⟩

theorem StorageCall.markFailed {reason : String}
    (h : StorageCall (markCommandExecutionFailed id reason) table ok after) :
    Updated (CommandTable.status table) id .failed ok (CommandTable.status after) := by
  rcases h.all_or_nothing with hdone | ⟨hfailed, rfl⟩
  · obtain ⟨-, -, hdone⟩ := bind_eq_ok_iff.mp hdone
    obtain rfl := Except.ok.inj hdone
    refine .inl (CommandTable.status_modify _ .failed ?_)
    exact fun _ => rfl
  · exact .inr ⟨hfailed, rfl⟩

theorem StorageCall.markPublished
    (h : StorageCall (markCommandExecutionPublished id) table ok after) :
    Updated (CommandTable.status table) id .published ok (CommandTable.status after) := by
  rcases h.all_or_nothing with hdone | ⟨hfailed, rfl⟩
  · obtain rfl := Except.ok.inj hdone
    refine .inl (CommandTable.status_modify _ .published ?_)
    exact fun _ => rfl
  · exact .inr ⟨hfailed, rfl⟩

end Calls

end Daemon
end PipeBolt
