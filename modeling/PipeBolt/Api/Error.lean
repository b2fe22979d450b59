import PipeBolt.Daemon.Supervisor
import PipeBolt.Storage.Secret

/-!
# Errors of the management API

`pipe_bolt_api::error`: `ApiError`, its conversions from the errors of the domain, of the storage
and of the runtime, and the response that it is written as.  The text of a database error is the
database's own.
-/

namespace PipeBolt
namespace Storage

/-- An `Option<u64>` in `{:?}`. -/
def debugOptionU64 : Option UInt64 → String
  | some n => s!"Some({n.toNat})"
  | none => "None"

/-- The text of a `StorageError`. -/
def StorageError.display (sqlxText : SqlxError → String) : StorageError → String
  | .invalidField field reason => s!"invalid field '{field}': {reason}"
  | .fieldTooLarge field actualBytes maxBytes =>
    s!"field '{field}' is too large: {actualBytes} bytes exceeds {maxBytes} bytes"
  | .invalidSecretKey reason => s!"invalid secret key: {reason}"
  | .unknownSecretKey keyId => s!"unknown secret key id '{keyId}'"
  | .invalidSecretEncoding source => s!"invalid secret encoding: {source}"
  | .secretCrypto operation => s!"secret {operation} failed"
  | .versionOverflow version =>
    s!"project config version {version.toNat} exceeds database bigint range"
  | .numericOverflow field => s!"numeric field '{field}' exceeds database range"
  | .projectConfigNotFound projectId => s!"project config '{projectId}' was not found"
  | .versionConflict projectId expectedVersion actualVersion =>
    let expected := debugOptionU64 expectedVersion
    let actual := debugOptionU64 actualVersion
    s!"project config version conflict for '{projectId}': expected {expected}, actual {actual}"
  | .invalidStoredState reason => s!"stored state is invalid: {reason}"
  | .failureNotFound projectId failureId =>
    s!"failure '{failureId}' was not found for project '{projectId}'"
  | .failureAlreadyResolved projectId failureId =>
    s!"failure '{failureId}' for project '{projectId}' is already resolved"
  | .domain error =>
    let text := error.display
    s!"domain validation failed: {text}"
  | .sqlx error =>
    let text := sqlxText error
    s!"database error: {text}"
  | .json reason => s!"JSON error: {reason}"

end Storage

namespace Api

open Domain Daemon Storage

/-- `ApiError`. -/
inductive ApiError where
  | unauthorized
  | forbidden (message : String)
  | badRequest (message : String)
  | notFound (message : String)
  | conflict (message : String) (details : Option Value)
  | unprocessableEntity (message : String) (details : Option Value)
  | payloadTooLarge (actualBytes maxBytes : Nat)
  | tooManyRequests (message : String)
  | serviceUnavailable (message : String)
  | internal (message : String)

namespace ApiError

/-- `From<DomainError> for ApiError`. -/
def ofDomain (error : DomainError) : ApiError := .unprocessableEntity error.display none

/-- `From<StorageError> for ApiError`. -/
def ofStorage (sqlxText : SqlxError → String) (error : StorageError) : ApiError :=
  match error with
  | .versionConflict projectId expectedVersion actualVersion =>
    let details := Rust.BTreeMap.insert "project_id" (.string projectId) []
    let details := Rust.BTreeMap.insert "expected_version" (jsonOptionU64 expectedVersion) details
    let details := Rust.BTreeMap.insert "actual_version" (jsonOptionU64 actualVersion) details
    .conflict "project config version conflict" (some (.object details))
  | .projectConfigNotFound projectId => .notFound s!"project config '{projectId}' was not found"
  | .failureNotFound projectId failureId =>
    .notFound s!"failure '{failureId}' was not found for project '{projectId}'"
  | .failureAlreadyResolved projectId failureId =>
    .conflict s!"failure '{failureId}' for project '{projectId}' is already resolved" none
  | .invalidField _ _ | .fieldTooLarge _ _ _ | .domain _ | .json _ | .versionOverflow _
  | .numericOverflow _ => .unprocessableEntity (error.display sqlxText) none
  | .invalidStoredState _ | .invalidSecretKey _ | .unknownSecretKey _ | .invalidSecretEncoding _
  | .secretCrypto _ | .sqlx _ => .internal (error.display sqlxText)

/-- `From<RuntimeControlError> for ApiError`. -/
def ofRuntimeControl : RuntimeControlError → ApiError
  | .projectNotManaged projectId =>
    .notFound s!"runtime for project '{projectId}' is not managed by this daemon"
  | .reloadInProgress => .conflict "runtime reload or shutdown is already in progress" none
  | .invalidConfig reason => .unprocessableEntity reason none
  | .commandTemplateNotFound commandTemplateId =>
    .notFound s!"command template '{commandTemplateId}' was not found"
  | .commandRejected reason => .unprocessableEntity reason none
  | .commandQueueFull => .tooManyRequests "command queue is full"
  | .commandQueueUnavailable reason => .serviceUnavailable reason
  | .unsafeOldRuntimeShutdown reason | .runtimeUnavailable reason | .startFailed reason
  | .shuttingDown reason => .serviceUnavailable reason
  | .storage reason => .internal reason

/-- `status_code`. -/
def statusCode : ApiError → Nat
  | .unauthorized => 401
  | .forbidden _ => 403
  | .badRequest _ => 400
  | .notFound _ => 404
  | .conflict _ _ => 409
  | .unprocessableEntity _ _ => 422
  | .payloadTooLarge _ _ => 413
  | .tooManyRequests _ => 429
  | .serviceUnavailable _ => 503
  | .internal _ => 500

/-- `code`. -/
def code : ApiError → String
  | .unauthorized => "unauthorized"
  | .forbidden _ => "forbidden"
  | .badRequest _ => "bad_request"
  | .notFound _ => "not_found"
  | .conflict _ _ => "conflict"
  | .unprocessableEntity _ _ => "unprocessable_entity"
  | .payloadTooLarge _ _ => "payload_too_large"
  | .tooManyRequests _ => "too_many_requests"
  | .serviceUnavailable _ => "service_unavailable"
  | .internal _ => "internal_server_error"

/-- `safe_message`. -/
def safeMessage : ApiError → String
  | .unauthorized => "valid bearer token is required"
  | .forbidden message | .badRequest message | .notFound message | .conflict message _
  | .unprocessableEntity message _ | .tooManyRequests message | .serviceUnavailable message =>
    message
  | .payloadTooLarge actualBytes maxBytes =>
    s!"request body is too large: {actualBytes} bytes exceeds {maxBytes} bytes"
  | .internal _ => "internal server error"

/-- `details`. -/
def details : ApiError → Option Value
  | .conflict _ details | .unprocessableEntity _ details => details
  | .payloadTooLarge actualBytes maxBytes =>
    some (.object [("actual_bytes", jsonU64 (.ofNat actualBytes)),
      ("max_bytes", jsonU64 (.ofNat maxBytes))])
  | .unauthorized | .forbidden _ | .badRequest _ | .notFound _ | .tooManyRequests _
  | .serviceUnavailable _ | .internal _ => none

end ApiError

/-- `ErrorPayload`, which is all of an `ErrorResponse`. -/
structure ErrorPayload where
  code : String
  message : String
  details : Option Value

/-- A response with an error: its status, the `WWW-Authenticate` header and its body. -/
structure ErrorReply where
  status : Nat
  wwwAuthenticate : Option String
  body : ErrorPayload

/-- `write_error_response`. -/
def writeErrorResponse (error : ApiError) : ErrorReply where
  status := error.statusCode
  wwwAuthenticate :=
    match error with
    | .unauthorized => some "Bearer realm=\"pipe-bolt-management\""
    | _ => none
  body := { code := error.code, message := error.safeMessage, details := error.details }

end Api
end PipeBolt
