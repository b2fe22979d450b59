import PipeBolt.Daemon.RuntimeConfig
import PipeBolt.Domain.Event
import PipeBolt.Lib.Transition
import PipeBolt.Storage.Model

/-!
# The runtime supervisor

`RuntimeSupervisor` of `pipe_bolt_daemon::runtime_control`: the state behind its mutex, and its
`reload` and `shutdown` as small steps.

A call that holds the lifecycle lock stands at a program point.  Every program point is an await:
of the state mutex, of the storage, or of a runtime that starts or stops.  A step from a point is
the rest of the code up to the next await, with the outcome of the awaited operation given; so a
step is one critical section, and the future of a reload can be dropped exactly at its points.

* `reloadStep`, `shutdownStep`: the steps of the two operations.
* `Step`: the transitions of the supervisor, for any interleaving of calls.
* `Facts`: what holds of the state at each point, in every run (`facts_step`).
-/

namespace PipeBolt
namespace Daemon

open Domain Storage

/-! ## The state of the supervisor -/

/-- `RuntimeLifecycleState`. -/
inductive RuntimeLifecycleState where
  | running
  | reloading
  | stopping
  | stopped
  deriving DecidableEq, Repr

/-- A started `ProjectRuntime`, by a number of its own. -/
abbrev RuntimeId := Nat

/-- `RuntimeSlot`. -/
structure RuntimeSlot where
  config : ProjectConfig
  runtime : RuntimeId
  startedAt : OffsetDateTime

/-- `RuntimeState`. -/
structure RuntimeState where
  phase : RuntimeLifecycleState
  stopping : Bool
  slot : Option RuntimeSlot
  lastReloadAt : Option OffsetDateTime
  lastReloadError : Option String

/-- `RuntimeControlError`. -/
inductive RuntimeControlError where
  | projectNotManaged (projectId : String)
  | reloadInProgress
  | shuttingDown (reason : String)
  | runtimeUnavailable (reason : String)
  | invalidConfig (reason : String)
  | unsafeOldRuntimeShutdown (reason : String)
  | startFailed (reason : String)
  | commandTemplateNotFound (commandTemplateId : String)
  | commandRejected (reason : String)
  | commandQueueFull
  | commandQueueUnavailable (reason : String)
  | storage (reason : String)
  deriving DecidableEq, Repr

/-- `RuntimeReloadResponse`. -/
structure RuntimeReloadResponse where
  projectId : ProjectId
  previousVersion : UInt64
  activeVersion : UInt64
  reloadedAt : OffsetDateTime
  oldRuntimeShutdownError : Option String
  auditEventId : String
  deriving DecidableEq, Repr

/-! ## Reloads -/

/-- The arguments of a call of `reload`. -/
structure ReloadCall where
  projectId : ProjectId
  audit : AuditContext
  deriving DecidableEq, Repr

/-- The awaits of `reload`, in the order of the source. -/
inductive ReloadPoint where
  /-- `ensure_not_stopping` waits for the state. -/
  | ensureNotStopping
  /-- The configuration is loaded from storage. -/
  | loadConfig
  /-- The old slot is to be taken out of the state. -/
  | takeSlot (next : ProjectConfig)
  /-- The old runtime shuts down. -/
  | shutdownOld (old : RuntimeSlot) (next : ProjectConfig)
  /-- `set_reload_failed` waits for the state, after a failed shutdown. -/
  | setReloadFailed (old : RuntimeSlot) (next : ProjectConfig) (error : String)
  /-- The failed shutdown is recorded. -/
  | auditShutdownFailure (old : RuntimeSlot) (next : ProjectConfig) (error : String)
  /-- The new runtime starts. -/
  | startNew (old : RuntimeSlot) (next : ProjectConfig)
  /-- The new runtime is to be put into the state. -/
  | installNew (old : RuntimeSlot) (next : ProjectConfig) (runtime : RuntimeId)
      (reloadedAt : OffsetDateTime)
  /-- The success is recorded. -/
  | auditSuccess (old : RuntimeSlot) (next : ProjectConfig) (reloadedAt : OffsetDateTime)
  /-- The old configuration starts again, after a failed start. -/
  | startRollback (old : RuntimeSlot) (next : ProjectConfig) (startError : String)
  /-- The runtime of the old configuration is to be put into the state. -/
  | installRollback (old : RuntimeSlot) (next : ProjectConfig) (startError : String)
      (runtime : RuntimeId)
  /-- The state is to be emptied, after a failed rollback. -/
  | rollbackFailed (old : RuntimeSlot) (next : ProjectConfig) (startError rollbackError : String)
  /-- The failure is to be noted in the state. -/
  | recordFailure (old : RuntimeSlot) (next : ProjectConfig) (message : String)
  /-- The version that is active after the failure is read. -/
  | readActiveVersion (old : RuntimeSlot) (next : ProjectConfig) (message : String)
  /-- The failure is recorded. -/
  | auditStartFailure (old : RuntimeSlot) (next : ProjectConfig) (message : String)
      (activeVersionAfter : Option UInt64)

/-- What the awaited operation of a point returns; waiting for the state returns nothing. -/
def ReloadPoint.Outcome : ReloadPoint → Type
  | .loadConfig => Except String (Option ProjectConfig)
  | .shutdownOld _ _ => Except String Unit
  | .startNew _ _ | .startRollback _ _ _ => Except String RuntimeId
  | .auditShutdownFailure _ _ _ | .auditSuccess _ _ _ | .auditStartFailure _ _ _ _ =>
    Except String String
  | .ensureNotStopping | .takeSlot _ | .setReloadFailed _ _ _ | .installNew _ _ _ _
  | .installRollback _ _ _ _ | .rollbackFailed _ _ _ _ | .recordFailure _ _ _
  | .readActiveVersion _ _ _ => Unit

abbrev ReloadResult := Except RuntimeControlError RuntimeReloadResponse

/-- Where a step of a reload leads. -/
inductive Progress where
  | at (point : ReloadPoint)
  | returned (result : ReloadResult)

/-- The audit event that `record_reload_audit` writes. -/
def reloadAudit (managed : ProjectId) (call : ReloadCall) (status : AuditStatus)
    (previousVersion candidateVersion activeVersionAfter : Option UInt64)
    (oldShutdownError reloadError : Option String) : NewAuditEvent :=
  let metadata := Rust.BTreeMap.insert "previous_version" (jsonOptionU64 previousVersion) []
  let metadata := Rust.BTreeMap.insert "candidate_version" (jsonOptionU64 candidateVersion) metadata
  let metadata := Rust.BTreeMap.insert "active_version_after" (jsonOptionU64 activeVersionAfter) metadata
  let metadata := oldShutdownError.elim metadata fun error =>
    Rust.BTreeMap.insert "old_shutdown_error" (.string error) metadata
  let metadata := reloadError.elim metadata fun error =>
    Rust.BTreeMap.insert "reload_error" (.string error) metadata
  { projectId := some managed
    actorId := call.audit.actorId
    action := "runtime.reload"
    targetType := "runtime"
    targetId := managed.raw
    status := status
    reason := call.audit.reason
    metadata := metadata }

/-- The audit event of a point that writes one. -/
def ReloadPoint.auditEvent (managed : ProjectId) (call : ReloadCall) :
    ReloadPoint → Option NewAuditEvent
  | .auditShutdownFailure old next error =>
    let message := s!"old runtime shutdown failed; reload aborted: {error}"
    some (reloadAudit managed call .failed (some old.config.version) (some next.version) none
      (some error)
      (some message))
  | .auditSuccess old next _ =>
    some (reloadAudit managed call .succeeded (some old.config.version) (some next.version)
      (some next.version) none none)
  | .auditStartFailure old next message activeVersionAfter =>
    some (reloadAudit managed call .failed (some old.config.version) (some next.version)
      activeVersionAfter none (some message))
  | .ensureNotStopping | .loadConfig | .takeSlot _ | .shutdownOld _ _ | .setReloadFailed _ _ _
  | .startNew _ _ | .installNew _ _ _ _ | .startRollback _ _ _ | .installRollback _ _ _ _
  | .rollbackFailed _ _ _ _ | .recordFailure _ _ _ | .readActiveVersion _ _ _ => none

/-- The code of `reload` from one await to the next, at time `now`, in a supervisor that manages
the project `managed`. -/
def reloadStep (managed : ProjectId) (call : ReloadCall) (now : OffsetDateTime) (state : RuntimeState) :
    (point : ReloadPoint) → point.Outcome → RuntimeState × Progress
  | .ensureNotStopping, _ =>
    if state.stopping then
      (state, .returned (.error (.shuttingDown "daemon shutdown has started")))
    else (state, .at .loadConfig)
  | .loadConfig, .error reason => (state, .returned (.error (.storage reason)))
  | .loadConfig, .ok none => (state, .returned (.error (.projectNotManaged call.projectId.raw)))
  | .loadConfig, .ok (some next) =>
    match validateRuntimeConfig next with
    | .error error => (state, .returned (.error (.invalidConfig error.display)))
    | .ok () => (state, .at (.takeSlot next))
  | .takeSlot next, _ =>
    if state.stopping then
      (state, .returned (.error (.shuttingDown "daemon shutdown has started")))
    else
      match state.slot with
      -- The phase is set before the empty slot is noticed, and this return keeps it.
      | none => ({ state with phase := .reloading },
          .returned (.error (.runtimeUnavailable "runtime is not running")))
      | some old => ({ state with phase := .reloading, slot := none }, .at (.shutdownOld old next))
  | .shutdownOld old next, .error error => (state, .at (.setReloadFailed old next error))
  | .shutdownOld old next, .ok () => (state, .at (.startNew old next))
  | .setReloadFailed old next error, _ =>
    let message := s!"old runtime shutdown failed; reload aborted: {error}"
    ({ state with
        phase := .stopped
        slot := none
        lastReloadAt := some now
        lastReloadError := some message }, .at (.auditShutdownFailure old next error))
  -- The outcome of the two failure audits is thrown away, that of the success audit is not.
  | .auditShutdownFailure _ _ error, _ =>
    let message := s!"old runtime shutdown failed; reload aborted: {error}"
    (state, .returned (.error (.unsafeOldRuntimeShutdown message)))
  | .startNew old next, .ok runtime => (state, .at (.installNew old next runtime now))
  | .startNew old next, .error startError => (state, .at (.startRollback old next startError))
  | .installNew old next runtime reloadedAt, _ =>
    ({ state with
        phase := .running
        slot := some { config := next, runtime := runtime, startedAt := reloadedAt }
        lastReloadAt := some reloadedAt
        lastReloadError := none }, .at (.auditSuccess old next reloadedAt))
  | .auditSuccess _ _ _, .error reason => (state, .returned (.error (.storage reason)))
  | .auditSuccess old next reloadedAt, .ok auditEventId =>
    (state, .returned (.ok {
      projectId := managed
      previousVersion := old.config.version
      activeVersion := next.version
      reloadedAt := reloadedAt
      oldRuntimeShutdownError := none
      auditEventId := auditEventId }))
  | .startRollback old next startError, .ok runtime =>
    (state, .at (.installRollback old next startError runtime))
  | .startRollback old next startError, .error rollbackError =>
    (state, .at (.rollbackFailed old next startError rollbackError))
  | .installRollback old next startError runtime, _ =>
    ({ state with
        phase := .running
        slot := some { config := old.config, runtime := runtime, startedAt := now } },
      .at (.recordFailure old next s!"reload failed: {startError}; rollback succeeded"))
  | .rollbackFailed old next startError rollbackError, _ =>
    ({ state with phase := .stopped, slot := none },
      .at (.recordFailure old next
        s!"reload failed: {startError}; rollback failed: {rollbackError}"))
  | .recordFailure old next message, _ =>
    ({ state with lastReloadAt := some now, lastReloadError := some message },
      .at (.readActiveVersion old next message))
  | .readActiveVersion old next message, _ =>
    (state, .at (.auditStartFailure old next message
      (state.slot.map fun slot => slot.config.version)))
  | .auditStartFailure _ _ message _, _ => (state, .returned (.error (.startFailed message)))

/-! ## Shutdowns -/

/-- The awaits of `shutdown` after it has the lifecycle lock. -/
inductive ShutdownPoint where
  | takeSlot
  | shutdownRuntime (slot : RuntimeSlot)
  | finish (result : Except String Unit)

/-- What the awaited operation of a point returns. -/
def ShutdownPoint.Outcome : ShutdownPoint → Type
  | .shutdownRuntime _ => Except String Unit
  | .takeSlot | .finish _ => Unit

/-- The code of `shutdown` from one await to the next; no point is left when it returns. -/
def shutdownStep (state : RuntimeState) :
    (point : ShutdownPoint) → point.Outcome → RuntimeState × Option ShutdownPoint
  | .takeSlot, _ =>
    ({ state with stopping := true, phase := .stopping, slot := none },
      some (state.slot.elim (.finish (.ok ())) .shutdownRuntime))
  | .shutdownRuntime _, result => (state, some (.finish result))
  | .finish (.ok ()), _ => ({ state with phase := .stopped }, none)
  | .finish (.error error), _ =>
    ({ state with phase := .stopped, lastReloadError := some s!"shutdown failed: {error}" }, none)

/-! ## The transitions of the supervisor -/

/-- The call that holds the lifecycle lock, and where it stands. -/
inductive Lifecycle where
  | reload (call : ReloadCall) (point : ReloadPoint)
  | shutdown (point : ShutdownPoint)

/-- The supervisor: its state, the holder of its lifecycle lock, the number of calls of `shutdown`
that wait for the lock, and the audit events that reloads have written. -/
structure System where
  state : RuntimeState
  lifecycle : Option Lifecycle
  waiting : Nat
  audits : List NewAuditEvent

/-- `RuntimeSupervisor::new`. -/
def System.new (config : ProjectConfig) (runtime : RuntimeId) (startedAt : OffsetDateTime) : System where
  state := {
    phase := .running
    stopping := false
    slot := some { config := config, runtime := runtime, startedAt := startedAt }
    lastReloadAt := none
    lastReloadError := none }
  lifecycle := none
  waiting := 0
  audits := []

/-- What happens in a transition. -/
inductive Label where
  | rejected (call : ReloadCall) (error : RuntimeControlError)
  | begin (call : ReloadCall)
  | advance (now : OffsetDateTime) (point : ReloadPoint) (outcome : point.Outcome)
  | drop (point : ReloadPoint)
  | shutdown
  | acquire
  | stop (point : ShutdownPoint) (outcome : point.Outcome)

/-- The start of `reload`: `ensure_project`, then `try_lock` on the lifecycle lock. -/
def beginReload (managed : ProjectId) (system : System) (call : ReloadCall) :
    Except RuntimeControlError Unit :=
  if call.projectId ≠ managed then .error (.projectNotManaged call.projectId.raw)
  else if system.lifecycle.isSome then .error .reloadInProgress
  else .ok ()

/-- A reload begins only while nobody holds the lock. -/
theorem beginReload_free {managed : ProjectId} {s : System} {call : ReloadCall}
    (h : beginReload managed s call = .ok ()) : s.lifecycle = none := by
  obtain ⟨-, h⟩ := Fallible.guard_eq_ok_iff.mp h
  obtain ⟨h, -⟩ := Fallible.guard_eq_ok_iff.mp h
  exact Option.not_isSome_iff_eq_none.mp h

/-- The audit event of a point, when its write succeeded. -/
def writtenAudit (managed : ProjectId) (call : ReloadCall) :
    (point : ReloadPoint) → point.Outcome → List NewAuditEvent
  | .auditShutdownFailure old next error, .ok _ =>
    (ReloadPoint.auditShutdownFailure old next error).auditEvent managed call |>.toList
  | .auditSuccess old next reloadedAt, .ok _ =>
    (ReloadPoint.auditSuccess old next reloadedAt).auditEvent managed call |>.toList
  | .auditStartFailure old next message activeVersionAfter, .ok _ =>
    ((ReloadPoint.auditStartFailure old next message activeVersionAfter).auditEvent managed
      call).toList
  | _, _ => []

/-- The lock after a step of a reload: kept until the call returns. -/
def Progress.lifecycle (call : ReloadCall) : Progress → Option Lifecycle
  | .at point => some (.reload call point)
  | .returned _ => none

/-- The supervisor of a project, for any interleaving of calls and any outcome of what they
await.  A dropped reload releases the lock and runs no later statement. -/
inductive Step (managed : ProjectId) : System → Label → System → Prop
  | rejected {s : System} {call : ReloadCall} {error : RuntimeControlError} :
      beginReload managed s call = .error error → Step managed s (.rejected call error) s
  | begin {s : System} (call : ReloadCall) :
      beginReload managed s call = .ok () →
      Step managed s (.begin call)
        { s with lifecycle := some (.reload call .ensureNotStopping) }
  | advance {s : System} {call : ReloadCall} {point : ReloadPoint} (now : OffsetDateTime)
      (outcome : point.Outcome) :
      s.lifecycle = some (.reload call point) →
      Step managed s (.advance now point outcome)
        { s with
          state := (reloadStep managed call now s.state point outcome).1
          lifecycle := (reloadStep managed call now s.state point outcome).2.lifecycle call
          audits := s.audits ++ writtenAudit managed call point outcome }
  | drop {s : System} {call : ReloadCall} {point : ReloadPoint} :
      s.lifecycle = some (.reload call point) →
      Step managed s (.drop point) { s with lifecycle := none }
  | shutdown {s : System} :
      Step managed s .shutdown { s with waiting := s.waiting + 1 }
  | acquire {s : System} {waiting : Nat} :
      s.lifecycle = none → s.waiting = waiting + 1 →
      Step managed s .acquire
        { s with lifecycle := some (.shutdown .takeSlot), waiting := waiting }
  | stop {s : System} {point : ShutdownPoint} (outcome : point.Outcome) :
      s.lifecycle = some (.shutdown point) →
      Step managed s (.stop point outcome)
        { s with
          state := (shutdownStep s.state point outcome).1
          lifecycle := (shutdownStep s.state point outcome).2.map .shutdown }

/-- A step of a reload, by what `reloadStep` computes for it. -/
theorem Step.of_reloadStep {managed : ProjectId} {s : System} {call : ReloadCall}
    {state : RuntimeState} {progress : Progress} (point : ReloadPoint) (now : OffsetDateTime)
    (outcome : point.Outcome) (hlock : s.lifecycle = some (.reload call point))
    (hstep : reloadStep managed call now s.state point outcome = (state, progress)) :
    Step managed s (.advance now point outcome)
      { s with
        state := state
        lifecycle := progress.lifecycle call
        audits := s.audits ++ writtenAudit managed call point outcome } := by
  have h := @Step.advance managed s call point now outcome hlock
  rw [hstep] at h
  exact h

/-- A valid configuration becomes the candidate. -/
theorem reloadStep_loadConfig {managed : ProjectId} {call : ReloadCall} {now : OffsetDateTime}
    {state : RuntimeState} {next : ProjectConfig} (hvalid : validateRuntimeConfig next = .ok ()) :
    reloadStep managed call now state .loadConfig (.ok (some next)) =
      (state, .at (.takeSlot next)) := by
  simp only [reloadStep, hvalid]

/-! ## What a step of a reload can do -/

/-- The steps of a reload from one point to the next. -/
inductive Advances (state : RuntimeState) :
    ReloadPoint → RuntimeState → ReloadPoint → Prop
  | checked : state.stopping = false → Advances state .ensureNotStopping state .loadConfig
  | loaded {next : ProjectConfig} : validateRuntimeConfig next = .ok () →
      Advances state .loadConfig state (.takeSlot next)
  | taken {next : ProjectConfig} {old : RuntimeSlot} :
      state.stopping = false → state.slot = some old →
      Advances state (.takeSlot next) { state with phase := .reloading, slot := none }
        (.shutdownOld old next)
  | oldStopped {old : RuntimeSlot} {next : ProjectConfig} :
      Advances state (.shutdownOld old next) state (.startNew old next)
  | oldFailed {old : RuntimeSlot} {next : ProjectConfig} {error : String} :
      Advances state (.shutdownOld old next) state (.setReloadFailed old next error)
  | emptied {old : RuntimeSlot} {next : ProjectConfig} {error message : String} {now : OffsetDateTime} :
      Advances state (.setReloadFailed old next error)
        { state with
          phase := .stopped
          slot := none
          lastReloadAt := some now
          lastReloadError := some message }
        (.auditShutdownFailure old next error)
  | started {old : RuntimeSlot} {next : ProjectConfig} {runtime : RuntimeId} {now : OffsetDateTime} :
      Advances state (.startNew old next) state (.installNew old next runtime now)
  | startFailed {old : RuntimeSlot} {next : ProjectConfig} {startError : String} :
      Advances state (.startNew old next) state (.startRollback old next startError)
  | installed {old : RuntimeSlot} {next : ProjectConfig} {runtime : RuntimeId} {now : OffsetDateTime} :
      Advances state (.installNew old next runtime now)
        { state with
          phase := .running
          slot := some { config := next, runtime := runtime, startedAt := now }
          lastReloadAt := some now
          lastReloadError := none }
        (.auditSuccess old next now)
  | rolledBack {old : RuntimeSlot} {next : ProjectConfig} {startError : String}
      {runtime : RuntimeId} :
      Advances state (.startRollback old next startError) state
        (.installRollback old next startError runtime)
  | rollbackFailed {old : RuntimeSlot} {next : ProjectConfig} {startError rollbackError : String} :
      Advances state (.startRollback old next startError) state
        (.rollbackFailed old next startError rollbackError)
  | reinstalled {old : RuntimeSlot} {next : ProjectConfig} {startError message : String}
      {runtime : RuntimeId} {now : OffsetDateTime} :
      Advances state (.installRollback old next startError runtime)
        { state with
          phase := .running
          slot := some { config := old.config, runtime := runtime, startedAt := now } }
        (.recordFailure old next message)
  | abandoned {old : RuntimeSlot} {next : ProjectConfig}
      {startError rollbackError message : String} :
      Advances state (.rollbackFailed old next startError rollbackError)
        { state with phase := .stopped, slot := none } (.recordFailure old next message)
  | noted {old : RuntimeSlot} {next : ProjectConfig} {message : String} {now : OffsetDateTime} :
      Advances state (.recordFailure old next message)
        { state with lastReloadAt := some now, lastReloadError := some message }
        (.readActiveVersion old next message)
  | read {old : RuntimeSlot} {next : ProjectConfig} {message : String}
      {activeVersionAfter : Option UInt64} :
      Advances state (.readActiveVersion old next message) state
        (.auditStartFailure old next message activeVersionAfter)

section ReloadStep

variable {managed : ProjectId} {call : ReloadCall} {now : OffsetDateTime} {state : RuntimeState}

/-- A step to another point is one of those listed. -/
theorem reloadStep_at {point next : ReloadPoint} {outcome : point.Outcome}
    (h : (reloadStep managed call now state point outcome).2 = .at next) :
    Advances state point (reloadStep managed call now state point outcome).1 next := by
  cases point with
  | ensureNotStopping =>
    cases hstop : state.stopping with
    | true => simp [reloadStep, hstop] at h
    | false =>
      simp only [reloadStep, hstop] at h ⊢
      cases h
      exact .checked hstop
  | loadConfig =>
    cases outcome with
    | error reason => cases h
    | ok loaded =>
      cases loaded with
      | none => cases h
      | some config =>
        cases hvalid : validateRuntimeConfig config with
        | error error => simp [reloadStep, hvalid] at h
        | ok =>
          simp only [reloadStep, hvalid] at h ⊢
          cases h
          exact .loaded hvalid
  | takeSlot config =>
    cases hstop : state.stopping with
    | true => simp [reloadStep, hstop] at h
    | false =>
      cases hslot : state.slot with
      | none => simp [reloadStep, hstop, hslot] at h
      | some old =>
        have hstep : reloadStep managed call now state (.takeSlot config) outcome =
            ({ state with phase := .reloading, slot := none }, .at (.shutdownOld old config)) := by
          simp [reloadStep, hstop, hslot]
        rw [hstep] at h ⊢
        cases h
        exact .taken hstop hslot
  | shutdownOld old config =>
    cases outcome with
    | error error => cases h; exact .oldFailed
    | ok => cases h; exact .oldStopped
  | setReloadFailed old config error => cases h; exact .emptied
  | auditShutdownFailure old config error => cases h
  | startNew old config =>
    cases outcome with
    | error startError => cases h; exact .startFailed
    | ok runtime => cases h; exact .started
  | installNew old config runtime reloadedAt => cases h; exact .installed
  | auditSuccess old config reloadedAt =>
    cases outcome with
    | error reason => cases h
    | ok auditEventId => cases h
  | startRollback old config startError =>
    cases outcome with
    | error rollbackError => cases h; exact .rollbackFailed
    | ok runtime => cases h; exact .rolledBack
  | installRollback old config startError runtime => cases h; exact .reinstalled
  | rollbackFailed old config startError rollbackError => cases h; exact .abandoned
  | recordFailure old config message => cases h; exact .noted
  | readActiveVersion old config message => cases h; exact .read
  | auditStartFailure old config message activeVersionAfter => cases h

/-- A step takes an empty slot: the reload has a candidate, no shutdown has begun and no runtime
is in the state. -/
def TakesEmptySlot (state : RuntimeState) (point : ReloadPoint) : Prop :=
  (∃ next, point = .takeSlot next) ∧ state.stopping = false ∧ state.slot = none

/-- A step that returns leaves the state as it is, unless it takes an empty slot; then the phase
stays at `Reloading`. -/
theorem reloadStep_returned {point : ReloadPoint} {outcome : point.Outcome} {result : ReloadResult}
    (h : (reloadStep managed call now state point outcome).2 = .returned result) :
    (reloadStep managed call now state point outcome).1 = state ∨
      TakesEmptySlot state point ∧
        (reloadStep managed call now state point outcome).1 =
          { state with phase := .reloading } := by
  cases point with
  | ensureNotStopping =>
    left
    cases hstop : state.stopping <;> simp [reloadStep, hstop]
  | loadConfig =>
    left
    cases outcome with
    | error reason => rfl
    | ok loaded =>
      cases loaded with
      | none => rfl
      | some config => cases hvalid : validateRuntimeConfig config <;> simp [reloadStep, hvalid]
  | takeSlot config =>
    cases hstop : state.stopping with
    | true => left; simp [reloadStep, hstop]
    | false =>
      cases hslot : state.slot with
      | none => right; exact ⟨⟨⟨config, rfl⟩, hstop, hslot⟩, by simp [reloadStep, hstop, hslot]⟩
      | some old => simp [reloadStep, hstop, hslot] at h
  | shutdownOld old config => cases outcome <;> cases h
  | setReloadFailed old config error => cases h
  | auditShutdownFailure old config error => exact Or.inl rfl
  | startNew old config => cases outcome <;> cases h
  | installNew old config runtime reloadedAt => cases h
  | auditSuccess old config reloadedAt => cases outcome <;> exact Or.inl rfl
  | startRollback old config startError => cases outcome <;> cases h
  | installRollback old config startError runtime => cases h
  | rollbackFailed old config startError rollbackError => cases h
  | recordFailure old config message => cases h
  | readActiveVersion old config message => cases h
  | auditStartFailure old config message activeVersionAfter => exact Or.inl rfl

end ReloadStep

/-! ## What holds at each point -/

/-- What holds of the state while a reload stands at a point. -/
def ReloadPoint.Facts (state : RuntimeState) : ReloadPoint → Prop
  | .ensureNotStopping => True
  | .loadConfig | .takeSlot _ => state.stopping = false
  | .shutdownOld _ _ | .setReloadFailed _ _ _ | .startNew _ _ | .installNew _ _ _ _
  | .startRollback _ _ _ | .installRollback _ _ _ _ | .rollbackFailed _ _ _ _ =>
    state.stopping = false ∧ state.phase = .reloading ∧ state.slot = none
  | .auditShutdownFailure _ _ _ =>
    state.stopping = false ∧ state.phase = .stopped ∧ state.slot = none ∧
      state.lastReloadError.isSome = true
  | .auditSuccess _ next _ =>
    state.stopping = false ∧ state.phase = .running ∧
      state.slot.map RuntimeSlot.config = some next
  | .recordFailure old _ _ =>
    state.stopping = false ∧
      (state.phase = .running ∧ state.slot.map RuntimeSlot.config = some old.config ∨
        state.phase = .stopped ∧ state.slot = none)
  | .readActiveVersion old _ _ | .auditStartFailure old _ _ _ =>
    state.stopping = false ∧ state.lastReloadError.isSome = true ∧
      (state.phase = .running ∧ state.slot.map RuntimeSlot.config = some old.config ∨
        state.phase = .stopped ∧ state.slot = none)

/-- What holds of the state while a shutdown stands at a point. -/
def ShutdownPoint.Facts (state : RuntimeState) : ShutdownPoint → Prop
  | .takeSlot => True
  | .shutdownRuntime _ | .finish _ => state.stopping = true ∧ state.slot = none

/-- What holds of the supervisor in every run: the facts of the point where the holder of the lock
stands, and an empty slot once a shutdown has begun. -/
structure Facts (s : System) : Prop where
  stopping_empty : s.state.stopping = true → s.state.slot = none
  reload : ∀ call point, s.lifecycle = some (.reload call point) → point.Facts s.state
  shutdown : ∀ point, s.lifecycle = some (.shutdown point) → point.Facts s.state

/-- A step of a reload establishes the facts of the point it reaches. -/
theorem Advances.facts {state state' : RuntimeState} {point next : ReloadPoint}
    (h : Advances state point state' next) (hfacts : point.Facts state) : next.Facts state' := by
  cases h with
  | checked hstop => exact hstop
  | loaded hvalid => exact hfacts
  | taken hstop hslot => exact ⟨hstop, rfl, rfl⟩
  | oldStopped => exact hfacts
  | oldFailed => exact hfacts
  | emptied => exact ⟨hfacts.1, rfl, rfl, rfl⟩
  | started => exact hfacts
  | startFailed => exact hfacts
  | installed => exact ⟨hfacts.1, rfl, rfl⟩
  | rolledBack => exact hfacts
  | rollbackFailed => exact hfacts
  | reinstalled => exact ⟨hfacts.1, Or.inl ⟨rfl, rfl⟩⟩
  | abandoned => exact ⟨hfacts.1, Or.inr ⟨rfl, rfl⟩⟩
  | noted => exact ⟨hfacts.1, rfl, hfacts.2⟩
  | read => exact hfacts

/-- No step of a reload ends a shutdown, and none fills the slot after one has begun. -/
theorem Advances.stopping {state state' : RuntimeState} {point next : ReloadPoint}
    (h : Advances state point state' next) (hfacts : point.Facts state)
    (hempty : state.stopping = true → state.slot = none) :
    state'.stopping = true → state'.slot = none := by
  cases h with
  | checked | loaded | oldStopped | oldFailed | started | startFailed | rolledBack
  | rollbackFailed | noted | read => exact hempty
  | taken | emptied | abandoned => exact fun _ => rfl
  | installed | reinstalled =>
    intro hstop
    rw [hfacts.1] at hstop
    cases hstop

/-- A step of a shutdown establishes the facts of the point it reaches. -/
theorem shutdownStep_facts {state : RuntimeState} {point next : ShutdownPoint}
    {outcome : point.Outcome} (h : (shutdownStep state point outcome).2 = some next)
    (hfacts : point.Facts state) : next.Facts (shutdownStep state point outcome).1 := by
  cases point with
  | takeSlot =>
    have hnext : state.slot.elim (.finish (.ok ())) .shutdownRuntime = next := Option.some.inj h
    rw [← hnext]
    cases state.slot with
    | none => exact ⟨rfl, rfl⟩
    | some slot => exact ⟨rfl, rfl⟩
  | shutdownRuntime slot =>
    cases h
    exact hfacts
  | finish result => cases result <;> cases h

/-- No step of a shutdown fills the slot. -/
theorem shutdownStep_stopping {state : RuntimeState} {point : ShutdownPoint}
    {outcome : point.Outcome} (hempty : state.stopping = true → state.slot = none) :
    (shutdownStep state point outcome).1.stopping = true →
      (shutdownStep state point outcome).1.slot = none := by
  cases point with
  | takeSlot => exact fun _ => rfl
  | shutdownRuntime slot => exact hempty
  | finish result => cases result <;> exact hempty

/-- The facts hold in every state of every run. -/
theorem facts_step {managed : ProjectId} {s t : System} {label : Label}
    (h : Step managed s label t) (hs : Facts s) : Facts t := by
  cases h with
  | rejected => exact hs
  | begin =>
    refine ⟨hs.stopping_empty, ?_, fun _ h => nomatch h⟩
    rintro _ _ ⟨⟩
    trivial
  | @advance call point now outcome hlock =>
    have hfacts := hs.reload call point hlock
    cases hnext : (reloadStep managed call now s.state point outcome).2 with
    | «at» next =>
      have hadvance := reloadStep_at hnext
      refine ⟨hadvance.stopping hfacts hs.stopping_empty, ?_, ?_⟩
      · rintro _ _ ⟨⟩
        exact hadvance.facts hfacts
      · exact fun _ h => (nomatch h)
    | returned result =>
      -- A call that returns changes the phase at most, and the slot is what matters here.
      refine ⟨?_, fun _ _ h => (nomatch h), fun _ h => (nomatch h)⟩
      rcases reloadStep_returned hnext with h | ⟨-, h⟩
      · rw [h]
        exact hs.stopping_empty
      · rw [h]
        exact hs.stopping_empty
  | drop => exact ⟨hs.stopping_empty, fun _ _ h => (nomatch h), fun _ h => (nomatch h)⟩
  | shutdown => exact ⟨hs.stopping_empty, hs.reload, hs.shutdown⟩
  | acquire =>
    refine ⟨hs.stopping_empty, fun _ _ h => (nomatch h), ?_⟩
    rintro _ ⟨⟩
    trivial
  | @stop point outcome hlock =>
    refine ⟨shutdownStep_stopping hs.stopping_empty, fun call point' h => ?_, fun point' h => ?_⟩
    · obtain ⟨next, -, hnext⟩ := Option.map_eq_some_iff.mp h
      cases hnext
    · obtain ⟨next, hstep, hnext⟩ := Option.map_eq_some_iff.mp h
      cases hnext
      exact shutdownStep_facts hstep (hs.shutdown point hlock)

theorem facts_new (config : ProjectConfig) (runtime : RuntimeId) (startedAt : OffsetDateTime) :
    Facts (.new config runtime startedAt) :=
  ⟨fun h => (nomatch h), fun _ _ h => (nomatch h), fun _ h => (nomatch h)⟩

end Daemon
end PipeBolt
