import PipeBolt.Domain.Rule
import PipeBolt.Rust.BTreeMap

/-!
# Storage records

The part of `pipe_bolt_storage::model` that configuration writes and runtime reloads use: the
audit context, audit events and the result of a configuration write.
-/

namespace PipeBolt
namespace Storage

open Domain

/-- `AuditContext`. -/
structure AuditContext where
  actorId : Option UserId
  reason : Option String
  deriving DecidableEq, Repr

/-- `AuditContext::system`. -/
def AuditContext.system (reason : String) : AuditContext := ⟨none, some reason⟩

/-- `ProjectConfigWriteResult`. -/
structure ProjectConfigWriteResult where
  projectId : ProjectId
  version : UInt64
  revisionId : String
  configHash : String
  deriving DecidableEq, Repr

/-- `AuditStatus`. -/
inductive AuditStatus where
  | succeeded
  | failed
  deriving DecidableEq, Repr

/-- `AuditStatus::as_str`. -/
def AuditStatus.asStr : AuditStatus → String
  | .succeeded => "succeeded"
  | .failed => "failed"

/-- `NewAuditEvent`. -/
structure NewAuditEvent where
  projectId : Option ProjectId
  actorId : Option UserId
  action : String
  targetType : String
  targetId : String
  status : AuditStatus
  reason : Option String
  metadata : ValueMap

/-- `json!` of a `u64`. -/
def jsonU64 (n : UInt64) : Value := .number (.posInt n)

/-- `json!` of an `Option<u64>`. -/
def jsonOptionU64 : Option UInt64 → Value
  | some n => jsonU64 n
  | none => .null

end Storage
end PipeBolt
