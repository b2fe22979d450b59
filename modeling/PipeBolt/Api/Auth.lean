import PipeBolt.Api.Error

/-!
# Authorisation

`pipe_bolt_api::auth`: the permissions of the management API, the roles and project scopes of its
tokens, and the bearer token of a request.

* `authorizeProject_eq_ok_iff`: what `authorize_project` asks for.
-/

namespace PipeBolt
namespace Api

open Domain Rust Fallible

/-! ## Roles and scopes -/

/-- `ManagementPermission`. -/
inductive ManagementPermission where
  | projectRead
  | projectConfigWrite
  | commandExecute
  | runtimeReload
  | failureResolve
  deriving DecidableEq, Repr

/-- `as_str`. -/
def ManagementPermission.asStr : ManagementPermission → String
  | .projectRead => "project:read"
  | .projectConfigWrite => "project_config:write"
  | .commandExecute => "command:execute"
  | .runtimeReload => "runtime:reload"
  | .failureResolve => "failure:resolve"

/-- `ManagementRole`. -/
inductive ManagementRole where
  | admin
  | operator
  | viewer
  deriving DecidableEq, Repr

/-- `as_str`, which is also what `Display` writes. -/
def ManagementRole.asStr : ManagementRole → String
  | .admin => "admin"
  | .operator => "operator"
  | .viewer => "viewer"

/-- `ManagementRole::allows`. -/
def ManagementRole.allows : ManagementRole → ManagementPermission → Bool
  | .admin, _ => true
  | .operator, .projectRead | .operator, .commandExecute | .operator, .runtimeReload
  | .operator, .failureResolve => true
  | .operator, .projectConfigWrite => false
  | .viewer, permission => permission == .projectRead

/-- `ManagementProjectScope`. -/
inductive ManagementProjectScope where
  | all
  | projects (projects : List ProjectId)
  deriving DecidableEq, Repr

/-- `ManagementProjectScope::allows`. -/
def ManagementProjectScope.allows : ManagementProjectScope → ProjectId → Bool
  | .all, _ => true
  | .projects allowed, projectId => allowed.any (· == projectId)

/-- `AuthContext`. -/
structure AuthContext where
  actorId : UserId
  role : ManagementRole
  projectScope : ManagementProjectScope
  deriving DecidableEq, Repr

/-- `AuthContext::authorize_project`. -/
def AuthContext.authorizeProject (auth : AuthContext) (projectId : ProjectId)
    (permission : ManagementPermission) : Except ApiError Unit :=
  if !auth.role.allows permission then
    .error (.forbidden
      s!"permission '{permission.asStr}' is required for role '{auth.role.asStr}'")
  else if !auth.projectScope.allows projectId then
    .error (.forbidden
      s!"actor '{auth.actorId.raw}' is not authorized for project '{projectId.raw}'")
  else .ok ()

/-- A project is authorised for a role with the permission and a scope with the project. -/
theorem authorizeProject_eq_ok_iff {auth : AuthContext} {projectId : ProjectId}
    {permission : ManagementPermission} :
    auth.authorizeProject projectId permission = .ok () ↔
      auth.role.allows permission = true ∧ auth.projectScope.allows projectId = true := by
  rw [AuthContext.authorizeProject, guard_eq_ok_iff, guard_eq_ok_iff]
  simp

/-! ## Bearer tokens -/

/-- The digest of a token. -/
abbrev Digest := List UInt8

/-- `ManagementToken`. -/
structure ManagementToken where
  digest : Digest
  context : AuthContext

/-- `ManagementAuth`. -/
structure ManagementAuth where
  tokens : List ManagementToken

/-- `bearer_token_format_is_valid`. -/
def bearerTokenFormatIsValid (token : String) : Bool :=
  !token.isEmpty && !token.toList.any isAsciiWhitespace

/-- `parse_bearer_token`. -/
def parseBearerToken : Option String → Except ApiError String
  | none => .error .unauthorized
  | some header =>
    match splitOnce header ' ' with
    | none => .error .unauthorized
    | some (scheme, token) =>
      if !eqIgnoreAsciiCase scheme "Bearer" || !bearerTokenFormatIsValid token then
        .error .unauthorized
      else .ok token

/-- `ManagementAuth::authenticate`, with `sha256` for `bearer_token_digest`.  Of the tokens that
match, the last one counts. -/
def ManagementAuth.authenticate (sha256 : String → Digest) (auth : ManagementAuth)
    (authorizationHeader : Option String) : Except ApiError AuthContext := do
  let token ← parseBearerToken authorizationHeader
  let presentedDigest := sha256 token
  let matched := auth.tokens.foldl (fun matched configured =>
    if configured.digest = presentedDigest then some configured.context else matched) none
  match matched with
  | some context => return context
  | none => .error .unauthorized

end Api
end PipeBolt
