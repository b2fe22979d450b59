import PipeBolt.Daemon.SupervisorRest

/-!
# The runtimes of a supervisor

`ProjectRuntime::start` is called at two places of `reload`, for the new configuration and for the
rollback.  This module follows the runtimes that have started and have not shut down, over every
run of the supervisor.

* `runtimesAfter`: the runtimes that run after the steps of a run, from the labels alone.
* `Alive`: which of them the state and the call under way account for.
* `start_alone`: a start is called only when none runs, and never once a shutdown has begun.
-/

namespace PipeBolt
namespace Daemon

open Domain Storage Transition

/-! ## The runtimes of a run -/

/-- The runtimes that run after a step: a start that succeeds adds its runtime, and a shutdown
that succeeds takes its runtime away. -/
def Label.runtimes (live : List RuntimeId) : Label → List RuntimeId
  | .advance _ (.startNew _ _) (.ok runtime) => runtime :: live
  | .advance _ (.startRollback _ _ _) (.ok runtime) => runtime :: live
  | .advance _ (.shutdownOld old _) (.ok ()) => live.erase old.runtime
  | .stop (.shutdownRuntime slot) (.ok ()) => live.erase slot.runtime
  | _ => live

/-- The runtimes that run after the steps of a run, in a supervisor built over `runtime`. -/
def runtimesAfter (runtime : RuntimeId) (es : List (Edge System Label)) : List RuntimeId :=
  es.foldl (fun live e => e.label.runtimes live) [runtime]

@[simp] theorem runtimesAfter_nil (runtime : RuntimeId) : runtimesAfter runtime [] = [runtime] :=
  rfl

@[simp] theorem runtimesAfter_snoc (runtime : RuntimeId) (es : List (Edge System Label))
    (e : Edge System Label) :
    runtimesAfter runtime (es ++ [e]) = e.label.runtimes (runtimesAfter runtime es) := by
  simp [runtimesAfter]

/-- The two points of `reload` at which `ProjectRuntime::start` has been called and has not
returned. -/
def ReloadPoint.IsStart : ReloadPoint → Prop
  | .startNew _ _ | .startRollback _ _ _ => True
  | .ensureNotStopping | .loadConfig | .takeSlot _ | .shutdownOld _ _ | .setReloadFailed _ _ _
  | .auditShutdownFailure _ _ _ | .installNew _ _ _ _ | .auditSuccess _ _ _
  | .installRollback _ _ _ _ | .rollbackFailed _ _ _ _ | .recordFailure _ _ _
  | .readActiveVersion _ _ _ | .auditStartFailure _ _ _ _ => False

/-- A call of `ProjectRuntime::start` is under way. -/
def System.Starting (s : System) : Prop :=
  ∃ call point, s.lifecycle = some (.reload call point) ∧ point.IsStart

/-! ## What accounts for a runtime -/

/-- The runtimes that may run while no call holds one: that of the slot, or one at most that was
given up by a call that was dropped or whose shutdown failed. -/
def RuntimeState.Alive (state : RuntimeState) (live : List RuntimeId) : Prop :=
  match state.slot with
  | some slot => live = [slot.runtime]
  | none => live.length ≤ 1

/-- The runtimes that may run while a reload stands at a point. -/
def ReloadPoint.Alive (state : RuntimeState) (live : List RuntimeId) : ReloadPoint → Prop
  | .shutdownOld old _ => live = [old.runtime]
  | .startNew _ _ | .startRollback _ _ _ | .rollbackFailed _ _ _ _ => live = []
  | .installNew _ _ runtime _ | .installRollback _ _ _ runtime => live = [runtime]
  | .ensureNotStopping | .loadConfig | .takeSlot _ | .setReloadFailed _ _ _
  | .auditShutdownFailure _ _ _ | .auditSuccess _ _ _ | .recordFailure _ _ _
  | .readActiveVersion _ _ _ | .auditStartFailure _ _ _ _ => state.Alive live

/-- The runtimes that may run while a shutdown stands at a point. -/
def ShutdownPoint.Alive (state : RuntimeState) (live : List RuntimeId) : ShutdownPoint → Prop
  | .shutdownRuntime slot => live = [slot.runtime]
  | .takeSlot | .finish _ => state.Alive live

/-- The runtimes that may run. -/
def Alive (s : System) (live : List RuntimeId) : Prop :=
  match s.lifecycle with
  | some (.reload _ point) => point.Alive s.state live
  | some (.shutdown point) => point.Alive s.state live
  | none => s.state.Alive live

theorem RuntimeState.Alive.length_le {state : RuntimeState} {live : List RuntimeId}
    (h : state.Alive live) : live.length ≤ 1 := by
  unfold RuntimeState.Alive at h
  cases hslot : state.slot with
  | none =>
    rw [hslot] at h
    exact h
  | some slot =>
    rw [hslot] at h
    have h : live = [slot.runtime] := h
    simp [h]

theorem RuntimeState.alive_of_empty {state : RuntimeState} {live : List RuntimeId}
    (hslot : state.slot = none) (hlive : live.length ≤ 1) : state.Alive live := by
  unfold RuntimeState.Alive
  rw [hslot]
  exact hlive

/-- A point that holds a runtime, or none, accounts for one at most. -/
theorem ReloadPoint.Alive.length_le {state : RuntimeState} {live : List RuntimeId}
    {point : ReloadPoint} (h : point.Alive state live) : live.length ≤ 1 := by
  cases point with
  | shutdownOld old next =>
    have h : live = [old.runtime] := h
    simp [h]
  | startNew old next =>
    have h : live = [] := h
    simp [h]
  | startRollback old next startError =>
    have h : live = [] := h
    simp [h]
  | rollbackFailed old next startError rollbackError =>
    have h : live = [] := h
    simp [h]
  | installNew old next runtime reloadedAt =>
    have h : live = [runtime] := h
    simp [h]
  | installRollback old next startError runtime =>
    have h : live = [runtime] := h
    simp [h]
  | ensureNotStopping => exact RuntimeState.Alive.length_le h
  | loadConfig => exact RuntimeState.Alive.length_le h
  | takeSlot next => exact RuntimeState.Alive.length_le h
  | setReloadFailed old next error => exact RuntimeState.Alive.length_le h
  | auditShutdownFailure old next error => exact RuntimeState.Alive.length_le h
  | auditSuccess old next reloadedAt => exact RuntimeState.Alive.length_le h
  | recordFailure old next message => exact RuntimeState.Alive.length_le h
  | readActiveVersion old next message => exact RuntimeState.Alive.length_le h
  | auditStartFailure old next message activeVersionAfter => exact RuntimeState.Alive.length_le h

theorem ShutdownPoint.Alive.length_le {state : RuntimeState} {live : List RuntimeId}
    {point : ShutdownPoint} (h : point.Alive state live) : live.length ≤ 1 := by
  cases point with
  | takeSlot => exact RuntimeState.Alive.length_le h
  | shutdownRuntime slot =>
    have h : live = [slot.runtime] := h
    simp [h]
  | finish result => exact RuntimeState.Alive.length_le h

theorem Alive.length_le {s : System} {live : List RuntimeId} (h : Alive s live) :
    live.length ≤ 1 := by
  unfold Alive at h
  cases hlock : s.lifecycle with
  | none =>
    rw [hlock] at h
    exact h.length_le
  | some holder =>
    rw [hlock] at h
    cases holder with
    | reload call point => exact ReloadPoint.Alive.length_le h
    | shutdown point => exact ShutdownPoint.Alive.length_le h

/-- A reload that is dropped gives up what its point holds; the slot is empty wherever that is a
runtime. -/
theorem ReloadPoint.Alive.dropped {state : RuntimeState} {live : List RuntimeId}
    {point : ReloadPoint} (h : point.Alive state live) (hfacts : point.Facts state) :
    state.Alive live := by
  cases point with
  | shutdownOld old next => exact RuntimeState.alive_of_empty hfacts.2.2 h.length_le
  | startNew old next => exact RuntimeState.alive_of_empty hfacts.2.2 h.length_le
  | installNew old next runtime reloadedAt =>
    exact RuntimeState.alive_of_empty hfacts.2.2 h.length_le
  | startRollback old next startError => exact RuntimeState.alive_of_empty hfacts.2.2 h.length_le
  | installRollback old next startError runtime =>
    exact RuntimeState.alive_of_empty hfacts.2.2 h.length_le
  | rollbackFailed old next startError rollbackError =>
    exact RuntimeState.alive_of_empty hfacts.2.2 h.length_le
  | ensureNotStopping => exact h
  | loadConfig => exact h
  | takeSlot next => exact h
  | setReloadFailed old next error => exact h
  | auditShutdownFailure old next error => exact h
  | auditSuccess old next reloadedAt => exact h
  | recordFailure old next message => exact h
  | readActiveVersion old next message => exact h
  | auditStartFailure old next message activeVersionAfter => exact h

/-! ## What a step does to the runtimes -/

section ReloadStep

variable {managed : ProjectId} {call : ReloadCall} {now : OffsetDateTime} {state : RuntimeState}
  {live : List RuntimeId}

/-- What a step of a reload leaves to account for the runtimes. -/
def Progress.Alive (state : RuntimeState) (live : List RuntimeId) : Progress → Prop
  | .at point => point.Alive state live
  | .returned _ => state.Alive live

/-- After a step of a reload the runtimes are accounted for, with the one it started or shut
down. -/
theorem reloadStep_alive {point : ReloadPoint} (outcome : point.Outcome)
    (h : point.Alive state live) (hfacts : point.Facts state) :
    (reloadStep managed call now state point outcome).2.Alive
      (reloadStep managed call now state point outcome).1
      ((Label.advance now point outcome).runtimes live) := by
  cases point with
  | ensureNotStopping =>
    have h : state.Alive live := h
    cases hstop : state.stopping with
    | true => simpa [reloadStep, hstop, Label.runtimes, Progress.Alive] using h
    | false =>
      simpa [reloadStep, hstop, Label.runtimes, Progress.Alive, ReloadPoint.Alive] using h
  | loadConfig =>
    cases outcome with
    | error reason => exact h
    | ok loaded =>
      cases loaded with
      | none => exact h
      | some config =>
        cases hvalid : validateRuntimeConfig config with
        | error error =>
          simp only [reloadStep, hvalid, Label.runtimes]
          exact h
        | ok =>
          simp only [reloadStep, hvalid, Label.runtimes]
          exact h
  | takeSlot next =>
    have h : state.Alive live := h
    cases hstop : state.stopping with
    | true => simpa [reloadStep, hstop, Label.runtimes, Progress.Alive] using h
    | false =>
      unfold RuntimeState.Alive at h
      cases hslot : state.slot with
      | none =>
        rw [hslot] at h
        have hempty : ({ state with phase := .reloading } : RuntimeState).Alive live :=
          RuntimeState.alive_of_empty hslot h
        simpa [reloadStep, hstop, hslot, Label.runtimes, Progress.Alive] using hempty
      | some old =>
        -- The runtime of the slot passes to the call, which is about to shut it down.
        rw [hslot] at h
        simpa [reloadStep, hstop, hslot, Label.runtimes, Progress.Alive, ReloadPoint.Alive] using h
  | shutdownOld old next =>
    have hlive : live = [old.runtime] := h
    cases outcome with
    | error error => exact RuntimeState.alive_of_empty hfacts.2.2 h.length_le
    | ok =>
      have herase : live.erase old.runtime = [] := by simp [hlive]
      exact herase
  | setReloadFailed old next error =>
    have hempty : (reloadStep managed call now state (.setReloadFailed old next error)
        outcome).1.slot = none := rfl
    exact RuntimeState.alive_of_empty hempty h.length_le
  | auditShutdownFailure old next error => exact h
  | startNew old next =>
    have hlive : live = [] := h
    cases outcome with
    | error startError => exact hlive
    | ok runtime =>
      have hcons : runtime :: live = [runtime] := by rw [hlive]
      exact hcons
  | installNew old next runtime reloadedAt => exact h
  | auditSuccess old next reloadedAt =>
    cases outcome with
    | error reason => exact h
    | ok auditEventId => exact h
  | startRollback old next startError =>
    have hlive : live = [] := h
    cases outcome with
    | error rollbackError => exact hlive
    | ok runtime =>
      have hcons : runtime :: live = [runtime] := by rw [hlive]
      exact hcons
  | installRollback old next startError runtime => exact h
  | rollbackFailed old next startError rollbackError =>
    have hempty : (reloadStep managed call now state
        (.rollbackFailed old next startError rollbackError) outcome).1.slot = none := rfl
    exact RuntimeState.alive_of_empty hempty h.length_le
  | recordFailure old next message => exact h
  | readActiveVersion old next message => exact h
  | auditStartFailure old next message activeVersionAfter => exact h

/-- A reload never touches the mark of the shutdown. -/
theorem reloadStep_keeps_stopping (point : ReloadPoint) (outcome : point.Outcome) :
    (reloadStep managed call now state point outcome).1.stopping = state.stopping := by
  cases hnext : (reloadStep managed call now state point outcome).2 with
  | «at» next =>
    have hadvance := reloadStep_at hnext
    generalize (reloadStep managed call now state point outcome).1 = state' at hadvance ⊢
    cases hadvance with
    | checked | loaded | taken | oldStopped | oldFailed | emptied | started | startFailed
    | installed | rolledBack | rollbackFailed | reinstalled | abandoned | noted | read => rfl
  | returned result =>
    rcases reloadStep_returned hnext with h | ⟨-, h⟩
    · rw [h]
    · rw [h]

end ReloadStep

/-- After a step of a shutdown the runtimes are accounted for. -/
theorem shutdownStep_alive {state : RuntimeState} {live : List RuntimeId} {point : ShutdownPoint}
    (outcome : point.Outcome) (h : point.Alive state live) (hfacts : point.Facts state) :
    match (shutdownStep state point outcome).2 with
    | some next => next.Alive (shutdownStep state point outcome).1
        ((Label.stop point outcome).runtimes live)
    | none => (shutdownStep state point outcome).1.Alive
        ((Label.stop point outcome).runtimes live) := by
  cases point with
  | takeSlot =>
    have hlive : state.Alive live := h
    unfold RuntimeState.Alive at hlive
    cases hslot : state.slot with
    | none =>
      rw [hslot] at hlive
      simp only [shutdownStep, hslot, Label.runtimes, Option.elim_none, ShutdownPoint.Alive]
      exact hlive
    | some slot =>
      rw [hslot] at hlive
      simp only [shutdownStep, hslot, Label.runtimes, Option.elim_some, ShutdownPoint.Alive]
      exact hlive
  | shutdownRuntime slot =>
    have hlive : live = [slot.runtime] := h
    cases outcome with
    | error error => exact RuntimeState.alive_of_empty hfacts.2 h.length_le
    | ok =>
      have herase : (live.erase slot.runtime).length ≤ 1 := by simp [hlive]
      exact RuntimeState.alive_of_empty hfacts.2 herase
  | finish result =>
    have hempty : state.Alive live := h
    cases result with
    | error error => exact hempty
    | ok => exact hempty

/-- A shutdown only ever sets its mark. -/
theorem shutdownStep_keeps_stopping {state : RuntimeState} {point : ShutdownPoint}
    (outcome : point.Outcome) (h : state.stopping = true) :
    (shutdownStep state point outcome).1.stopping = true := by
  cases point with
  | takeSlot => rfl
  | shutdownRuntime slot => exact h
  | finish result =>
    cases result with
    | error error => exact h
    | ok => exact h

/-! ## Runs -/

/-- A step keeps the runtimes accounted for. -/
theorem alive_step {managed : ProjectId} {s t : System} {label : Label} {live : List RuntimeId}
    (h : Step managed s label t) (hfacts : Facts s) (halive : Alive s live) :
    Alive t (label.runtimes live) := by
  unfold Alive at halive
  cases h with
  | rejected hrejected => exact halive
  | begin call hbegin =>
    -- The lock was free, so what accounts for the runtimes is the state alone.
    have hfree : s.lifecycle = none := beginReload_free hbegin
    rw [hfree] at halive
    exact halive
  | @advance call point now outcome hlock =>
    rw [hlock] at halive
    have hpoint := hfacts.reload call point hlock
    have hstep : (reloadStep managed call now s.state point outcome).2.Alive
        (reloadStep managed call now s.state point outcome).1
        ((Label.advance now point outcome).runtimes _) :=
      reloadStep_alive outcome halive hpoint
    unfold Alive
    cases hnext : (reloadStep managed call now s.state point outcome).2 with
    | «at» next =>
      rw [hnext] at hstep
      exact hstep
    | returned result =>
      rw [hnext] at hstep
      exact hstep
  | @drop call point hlock =>
    rw [hlock] at halive
    exact ReloadPoint.Alive.dropped halive (hfacts.reload call point hlock)
  | shutdown => exact halive
  | acquire hfree hwaiting =>
    rw [hfree] at halive
    exact halive
  | @stop point outcome hlock =>
    rw [hlock] at halive
    have hstep := shutdownStep_alive outcome halive (hfacts.shutdown point hlock)
    unfold Alive
    cases hnext : (shutdownStep s.state point outcome).2 with
    | none =>
      rw [hnext] at hstep
      exact hstep
    | some next =>
      rw [hnext] at hstep
      exact hstep

/-- No step takes the mark of the shutdown back. -/
theorem Step.keeps_stopping {managed : ProjectId} {s t : System} {label : Label}
    (h : Step managed s label t) (hstop : s.state.stopping = true) : t.state.stopping = true := by
  cases h with
  | rejected | begin | drop | shutdown | acquire => exact hstop
  | @advance call point now outcome hlock =>
    exact (reloadStep_keeps_stopping point outcome).trans hstop
  | @stop point outcome hlock => exact shutdownStep_keeps_stopping outcome hstop

/-- What every run of a supervisor keeps: the facts of the points, the account of the runtimes, and
the mark of a shutdown that has begun. -/
structure Supervised (runtime : RuntimeId) (es : List (Edge System Label)) (s : System) : Prop where
  facts : Facts s
  alive : Alive s (runtimesAfter runtime es)
  stopping : (∃ e ∈ es, e.target.state.stopping = true) → s.state.stopping = true

theorem supervised_new (config : ProjectConfig) (runtime : RuntimeId) (startedAt : OffsetDateTime) :
    Supervised runtime [] (.new config runtime startedAt) where
  facts := facts_new config runtime startedAt
  alive := rfl
  stopping := by
    rintro ⟨e, he, -⟩
    cases he

theorem supervised_step {managed : ProjectId} {runtime : RuntimeId} (es : List (Edge System Label))
    (s : System) (label : Label) (t : System) (hs : Supervised runtime es s)
    (h : Step managed s label t) : Supervised runtime (es ++ [⟨s, label, t⟩]) t where
  facts := facts_step h hs.facts
  alive := by
    rw [runtimesAfter_snoc]
    exact alive_step h hs.facts hs.alive
  stopping := by
    rintro ⟨e, he, hstop⟩
    rcases List.mem_append.mp he with he | he
    · exact h.keeps_stopping (hs.stopping ⟨e, he, hstop⟩)
    · rw [List.mem_singleton.mp he] at hstop
      exact hstop

/-- While a start is under way, no runtime is accounted for and no shutdown has begun. -/
theorem System.Starting.alone {s : System} {live : List RuntimeId} (h : s.Starting)
    (hfacts : Facts s) (halive : Alive s live) : live = [] ∧ s.state.stopping = false := by
  obtain ⟨call, point, hlock, hstart⟩ := h
  have hpoint := hfacts.reload call point hlock
  unfold Alive at halive
  rw [hlock] at halive
  cases point with
  | startNew old next => exact ⟨halive, hpoint.1⟩
  | startRollback old next startError => exact ⟨halive, hpoint.1⟩
  | ensureNotStopping | loadConfig | takeSlot | shutdownOld | setReloadFailed
  | auditShutdownFailure | installNew | auditSuccess | installRollback | rollbackFailed
  | recordFailure | readActiveVersion | auditStartFailure => cases hstart

/-- In every run of a supervisor over a first runtime, one runtime runs at most.  A start is called
only when every runtime that was started has shut down without an error, and never in or after a
state in which a shutdown has begun. -/
theorem start_alone {managed : ProjectId} {config : ProjectConfig} {runtime : RuntimeId}
    {startedAt : OffsetDateTime} {es : List (Edge System Label)} {s : System}
    (h : Run (Step managed) (.new config runtime startedAt) es s) :
    (runtimesAfter runtime es).length ≤ 1 ∧
      (s.Starting → runtimesAfter runtime es = [] ∧ s.state.stopping = false ∧
        ∀ e ∈ es, e.target.state.stopping = false) := by
  have hs : Supervised runtime es s :=
    h.history (Supervised runtime) supervised_step (supervised_new config runtime startedAt)
  refine ⟨hs.alive.length_le, fun hstart => ?_⟩
  obtain ⟨hnone, hstop⟩ := hstart.alone hs.facts hs.alive
  refine ⟨hnone, hstop, fun e he => ?_⟩
  by_contra hmark
  have hmarked := hs.stopping ⟨e, he, Bool.not_eq_false _ ▸ hmark⟩
  rw [hstop] at hmarked
  cases hmarked

/-- A reload of the plant whose old runtime shut down without an error calls a start. -/
theorem plant_reaches_startNew :
    ∃ es s, Run (Step ⟨"plant"⟩) plantSystem es s ∧ s.Starting := by
  refine ⟨_, _,
    .cons (.begin plantCall rfl) <|
    .cons (.of_reloadStep .ensureNotStopping 1 () rfl rfl) <|
    .cons (.of_reloadStep .loadConfig 2 (.ok (some _)) rfl
      (reloadStep_loadConfig plantProject_valid)) <|
    .cons (.of_reloadStep (.takeSlot _) 3 () rfl rfl) <|
    .cons (.of_reloadStep (.shutdownOld _ _) 4 (.ok ()) rfl rfl) <| .nil _, ?_⟩
  exact ⟨plantCall, _, rfl, trivial⟩

theorem start_alone_plant :
    ∃ es s, Run (Step ⟨"plant"⟩) plantSystem es s ∧ s.Starting ∧ runtimesAfter 0 es = [] := by
  obtain ⟨es, s, hrun, hstart⟩ := plant_reaches_startNew
  exact ⟨es, s, hrun, hstart, ((start_alone hrun).2 hstart).1⟩

end Daemon
end PipeBolt
