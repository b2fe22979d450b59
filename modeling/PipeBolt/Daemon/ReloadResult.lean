import PipeBolt.Daemon.SupervisorRest

/-!
# The result of a reload and the runtime it leaves

A call of `reload` that returns `Ok` should leave the candidate configuration running, and one that
returns an error the configuration that was active before the call, or none.

The success is recorded after the new runtime is in place, and the error of that write is returned
as the error of the reload.

* `CallInv`: what holds while the lock belongs to one call, relative to the state it began in.
* `reload_agrees_iff`: the result of a call agrees with the runtime it leaves, unless the record of
  a success is lost.
-/

namespace PipeBolt
namespace Daemon

open Domain Storage Transition

/-- The configuration that `load_project_config` returns in a step, the candidate of the call. -/
def Label.loaded? : Label → Option ProjectConfig
  | .advance _ .loadConfig (.ok loaded) => loaded
  | _ => none

/-- What is loaded in some steps. -/
def loads (es : List (Edge System Label)) : List ProjectConfig :=
  es.filterMap fun e => e.label.loaded?

/-- The last step of a call: what was loaded in the call before it, the point it returns from and
the outcome of the last await. -/
structure Exit where
  candidate : Option ProjectConfig
  point : ReloadPoint
  outcome : point.Outcome

/-- A call of `reload` that begins in one state, returns a result and leaves another state.
Between its beginning and its return other calls may be made, and the lock is never free. -/
inductive Returns (managed : ProjectId) (call : ReloadCall) :
    System → Option Exit → ReloadResult → System → Prop
  | rejected {s : System} {error : RuntimeControlError} :
      beginReload managed s call = .error error → Returns managed call s none (.error error) s
  | finished {s u : System} {es : List (Edge System Label)} {point : ReloadPoint} {now : OffsetDateTime}
      {outcome : point.Outcome} {result : ReloadResult} :
      beginReload managed s call = .ok () →
      Run (Step managed) { s with lifecycle := some (.reload call .ensureNotStopping) } es u →
      (∀ e ∈ es, e.target.lifecycle.isSome = true) →
      u.lifecycle = some (.reload call point) →
      (reloadStep managed call now u.state point outcome).2 = .returned result →
      Returns managed call s (some ⟨(loads es).head?, point, outcome⟩) result
        { u with
          state := (reloadStep managed call now u.state point outcome).1
          lifecycle := none
          audits := u.audits ++ writtenAudit managed call point outcome }

/-- The configuration a state runs. -/
def RuntimeState.active (state : RuntimeState) : Option ProjectConfig :=
  state.slot.map RuntimeSlot.config

/-- The result of a call agrees with the configurations that are active before and after it. -/
def Agrees (before : RuntimeState) (exit : Option Exit) (result : ReloadResult)
    (after : RuntimeState) : Prop :=
  match result with
  | .ok _ => ∃ next, exit.bind Exit.candidate = some next ∧ after.active = some next
  | .error _ => after.active = before.active ∨ after.active = none

/-- The call has got as far as the record of its success, with a candidate that is not what was
active before, and the record fails. -/
def AuditLost (before : RuntimeState) : Option Exit → Prop
  | some ⟨candidate, .auditSuccess _ _ _, .error _⟩ => candidate ≠ before.active
  | _ => False

/-! ## Inside a call -/

/-- The slot a call has taken is the one its beginning state held. -/
def ReloadPoint.Since (before state : RuntimeState) : ReloadPoint → Prop
  | .ensureNotStopping | .loadConfig | .takeSlot _ => state.slot = before.slot
  | .shutdownOld old _ | .setReloadFailed old _ _ | .auditShutdownFailure old _ _
  | .startNew old _ | .installNew old _ _ _ | .auditSuccess old _ _ | .startRollback old _ _
  | .installRollback old _ _ _ | .rollbackFailed old _ _ _ | .recordFailure old _ _
  | .readActiveVersion old _ _ | .auditStartFailure old _ _ _ => before.slot = some old

theorem Advances.since {before state state' : RuntimeState} {point next : ReloadPoint}
    (h : Advances state point state' next) (hsince : point.Since before state) :
    next.Since before state' := by
  cases h with
  | taken hstop hslot => exact hsince.symm.trans hslot
  | checked | loaded | oldStopped | oldFailed | emptied | started | startFailed | installed
  | rolledBack | rollbackFailed | reinstalled | abandoned | noted | read => exact hsince

/-- What a call has loaded when it stands at a point. -/
def ReloadPoint.candidates : ReloadPoint → List ProjectConfig
  | .ensureNotStopping | .loadConfig => []
  | .takeSlot next | .shutdownOld _ next | .setReloadFailed _ next _
  | .auditShutdownFailure _ next _ | .startNew _ next | .installNew _ next _ _
  | .auditSuccess _ next _ | .startRollback _ next _ | .installRollback _ next _ _
  | .rollbackFailed _ next _ _ | .recordFailure _ next _ | .readActiveVersion _ next _
  | .auditStartFailure _ next _ _ => [next]

/-- Past the load, a call keeps its candidate. -/
theorem Advances.candidates {state state' : RuntimeState} {point next : ReloadPoint}
    (h : Advances state point state' next) (hpoint : point ≠ .loadConfig) :
    next.candidates = point.candidates := by
  cases h with
  | loaded => exact absurd rfl hpoint
  | checked | taken | oldStopped | oldFailed | emptied | started | startFailed | installed
  | rolledBack | rollbackFailed | reinstalled | abandoned | noted | read => rfl

/-- The candidate of a call is what it has loaded. -/
theorem reloadStep_candidates {managed : ProjectId} {call : ReloadCall} {now : OffsetDateTime}
    {state : RuntimeState} {point next : ReloadPoint} {outcome : point.Outcome}
    (h : (reloadStep managed call now state point outcome).2 = .at next) :
    next.candidates =
      point.candidates ++ (Label.advance now point outcome).loaded?.toList := by
  cases point with
  | loadConfig =>
    cases outcome with
    | error reason => cases h
    | ok loaded =>
      cases loaded with
      | none => cases h
      | some config =>
        cases hvalid : validateRuntimeConfig config with
        | error error => simp [reloadStep, hvalid] at h
        | ok =>
          rw [reloadStep_loadConfig hvalid] at h
          cases h
          rfl
  | ensureNotStopping | takeSlot | shutdownOld | setReloadFailed | auditShutdownFailure | startNew
  | installNew | auditSuccess | startRollback | installRollback | rollbackFailed | recordFailure
  | readActiveVersion | auditStartFailure =>
    refine ((reloadStep_at h).candidates ?_).trans (List.append_nil _).symm
    intro heq
    cases heq

/-- The lock belongs to the call, the state is what the call has made of the one it began in, and
its candidate is what it has loaded. -/
def CallInv (call : ReloadCall) (before : RuntimeState) (es : List (Edge System Label))
    (s : System) : Prop :=
  ∃ point, s.lifecycle = some (.reload call point) ∧ point.Facts s.state ∧
    point.Since before s.state ∧ loads es = point.candidates

theorem callInv_step {managed : ProjectId} {call : ReloadCall} {before : RuntimeState}
    {es : List (Edge System Label)} {s t : System} {label : Label} (h : Step managed s label t)
    (hheld : t.lifecycle.isSome = true) (hs : CallInv call before es s) :
    CallInv call before (es ++ [⟨s, label, t⟩]) t := by
  obtain ⟨point, hlock, hfacts, hsince, hloads⟩ := hs
  have hnothing (hlabel : label.loaded? = none) :
      loads (es ++ [⟨s, label, t⟩]) = point.candidates := by
    rw [loads, filterMap_snoc, hlabel]
    exact (List.append_nil _).trans hloads
  cases h with
  | rejected => exact ⟨point, hlock, hfacts, hsince, hnothing rfl⟩
  | begin call' hbegin =>
    rw [beginReload_free hbegin] at hlock
    exact nomatch hlock
  | @advance call' point' now outcome hlock' =>
    rw [hlock] at hlock'
    cases hlock'
    cases hnext : (reloadStep managed call now s.state point outcome).2 with
    | «at» next =>
      have hadvance := reloadStep_at hnext
      refine ⟨next, rfl, hadvance.facts hfacts, hadvance.since hsince, ?_⟩
      rw [reloadStep_candidates hnext, loads, filterMap_snoc, ← hloads]
      rfl
    | returned result =>
      rw [hnext] at hheld
      exact nomatch hheld
  | drop => exact nomatch hheld
  | shutdown => exact ⟨point, hlock, hfacts, hsince, hnothing rfl⟩
  | acquire hfree =>
    rw [hlock] at hfree
    exact nomatch hfree
  | stop outcome hlock' =>
    rw [hlock] at hlock'
    exact nomatch hlock'

/-- The invariant of a call, at the end of steps in which it keeps the lock. -/
theorem CallInv.run {managed : ProjectId} {call : ReloadCall} {s u : System}
    {es : List (Edge System Label)}
    (h : Run (Step managed) { s with lifecycle := some (.reload call .ensureNotStopping) } es u)
    (hheld : ∀ e ∈ es, e.target.lifecycle.isSome = true) : CallInv call s.state es u := by
  refine h.history (fun es u => (∀ e ∈ es, e.target.lifecycle.isSome = true) →
    CallInv call s.state es u) ?_ (fun _ => ⟨.ensureNotStopping, rfl, trivial, rfl, rfl⟩) hheld
  intro past t label u hpast hstep hheld
  obtain ⟨hbefore, hlast⟩ := List.forall_mem_append.mp hheld
  exact callInv_step hstep (hlast _ (List.mem_singleton_self _)) (hpast hbefore)

/-- Only the record of a success returns `Ok`. -/
theorem returned_error {managed : ProjectId} {call : ReloadCall} {now : OffsetDateTime}
    {state : RuntimeState} {point : ReloadPoint} {outcome : point.Outcome} {result : ReloadResult}
    (h : (reloadStep managed call now state point outcome).2 = .returned result)
    (hpoint : ∀ old next reloadedAt, point ≠ .auditSuccess old next reloadedAt) :
    ∃ error, result = .error error := by
  cases point with
  | ensureNotStopping =>
    cases hstop : state.stopping <;> simp [reloadStep, hstop] at h
    exact ⟨_, h.symm⟩
  | loadConfig =>
    cases outcome with
    | error reason => cases h; exact ⟨_, rfl⟩
    | ok loaded =>
      cases loaded with
      | none => cases h; exact ⟨_, rfl⟩
      | some config =>
        cases hvalid : validateRuntimeConfig config <;> simp [reloadStep, hvalid] at h
        exact ⟨_, h.symm⟩
  | takeSlot config =>
    cases hstop : state.stopping <;> cases hslot : state.slot <;>
      simp [reloadStep, hstop, hslot] at h
    all_goals exact ⟨_, h.symm⟩
  | auditShutdownFailure old config error => cases h; exact ⟨_, rfl⟩
  | auditStartFailure old config message activeVersionAfter => cases h; exact ⟨_, rfl⟩
  | auditSuccess old config reloadedAt => exact absurd rfl (hpoint old config reloadedAt)
  | shutdownOld | startNew | startRollback => cases outcome <;> cases h
  | setReloadFailed | installNew | installRollback | rollbackFailed | recordFailure
  | readActiveVersion => cases h

/-- Only the record of a success can be lost. -/
theorem not_auditLost {before : RuntimeState} {candidate : Option ProjectConfig}
    {point : ReloadPoint} (outcome : point.Outcome)
    (hpoint : ∀ old next reloadedAt, point ≠ .auditSuccess old next reloadedAt) :
    ¬ AuditLost before (some ⟨candidate, point, outcome⟩) := by
  cases point with
  | auditSuccess old next reloadedAt => exact absurd rfl (hpoint old next reloadedAt)
  | ensureNotStopping | loadConfig | takeSlot | shutdownOld | setReloadFailed
  | auditShutdownFailure | startNew | installNew | startRollback | installRollback
  | rollbackFailed | recordFailure | readActiveVersion | auditStartFailure => exact id

/-- Wherever else a call returns from, the configuration it began with is active, or none. -/
theorem returned_active {managed : ProjectId} {call : ReloadCall} {now : OffsetDateTime}
    {before state : RuntimeState} {point : ReloadPoint} {outcome : point.Outcome}
    {result : ReloadResult}
    (h : (reloadStep managed call now state point outcome).2 = .returned result)
    (hpoint : ∀ old next reloadedAt, point ≠ .auditSuccess old next reloadedAt)
    (hfacts : point.Facts state) (hsince : point.Since before state) :
    state.active = before.active ∨ state.active = none := by
  cases point with
  | ensureNotStopping | loadConfig | takeSlot =>
    left
    rw [RuntimeState.active, RuntimeState.active, hsince]
  | auditShutdownFailure old next error =>
    right
    rw [RuntimeState.active, hfacts.2.2.1]
    rfl
  | auditStartFailure old next message activeVersionAfter =>
    rcases hfacts.2.2 with ⟨-, hactive⟩ | ⟨-, hempty⟩
    · left
      rw [RuntimeState.active, hactive, RuntimeState.active, hsince]
      rfl
    · right
      rw [RuntimeState.active, hempty]
      rfl
  | auditSuccess old next reloadedAt => exact absurd rfl (hpoint old next reloadedAt)
  | shutdownOld | startNew | startRollback => cases outcome <;> cases h
  | setReloadFailed | installNew | installRollback | rollbackFailed | recordFailure
  | readActiveVersion => cases h

/-! ## The result of a call -/

/-- The result of a call agrees with the runtime it leaves, unless the record of a success is
lost. -/
theorem reload_agrees_iff {managed : ProjectId} {call : ReloadCall} {s t : System}
    {exit : Option Exit} {result : ReloadResult} (h : Returns managed call s exit result t) :
    Agrees s.state exit result t.state ↔ ¬ AuditLost s.state exit := by
  cases h with
  | rejected => exact ⟨fun _ h => h, fun _ => Or.inl rfl⟩
  | @finished u es point now outcome result hbegin hrun hheld hlock hreturn =>
    obtain ⟨point', hlock', hfacts, hsince, hloads⟩ := CallInv.run hrun hheld
    rw [hlock] at hlock'
    cases hlock'
    have hslot : (reloadStep managed call now u.state point outcome).1.active = u.state.active := by
      rcases reloadStep_returned hreturn with hstate | ⟨-, hstate⟩
      · rw [hstate]
      · rw [hstate]
        rfl
    -- Only a return from the record of a success can disagree with the state.
    by_cases hsuccess : ∃ old next reloadedAt, point = .auditSuccess old next reloadedAt
    · obtain ⟨old, next, reloadedAt, rfl⟩ := hsuccess
      have hactive : u.state.active = some next := hfacts.2.2
      have hcandidate : (loads es).head? = some next := by
        rw [hloads]
        rfl
      cases outcome with
      | ok auditEventId =>
        cases hreturn
        exact ⟨fun _ h => h, fun _ => ⟨next, hcandidate, hslot.trans hactive⟩⟩
      | error reason =>
        cases hreturn
        show (_ = s.state.active ∨ _ = none) ↔ ¬ (loads es).head? ≠ s.state.active
        rw [hslot, hactive, hcandidate, not_not]
        exact or_iff_left (Option.some_ne_none next)
    · have hpoint : ∀ old next reloadedAt, point ≠ .auditSuccess old next reloadedAt :=
        fun old next reloadedAt h => hsuccess ⟨old, next, reloadedAt, h⟩
      obtain ⟨error, rfl⟩ := returned_error hreturn hpoint
      refine iff_of_true ?_ (not_auditLost outcome hpoint)
      show _ = s.state.active ∨ _ = none
      rw [hslot]
      exact returned_active hreturn hpoint hfacts hsince

/-- The plant in its second version. -/
def plantProjectV2 : ProjectConfig := { plantProject "s3cret" [] [] with version := 2 }

theorem plantProjectV2_valid : validateRuntimeConfig plantProjectV2 = .ok () := by
  decide +kernel

/-- A reload of the plant gets as far as the record of its success. -/
theorem plant_reaches_auditSuccess :
    ∃ es u old, Run (Step ⟨"plant"⟩)
        { plantSystem with lifecycle := some (.reload plantCall .ensureNotStopping) } es u ∧
      (∀ e ∈ es, e.target.lifecycle.isSome = true) ∧
      u.lifecycle = some (.reload plantCall (.auditSuccess old plantProjectV2 4)) ∧
      u.state.active = some plantProjectV2 ∧ loads es = [plantProjectV2] := by
  refine ⟨_, _, _,
    .cons (.of_reloadStep .ensureNotStopping 1 () rfl rfl) <|
    .cons (.of_reloadStep .loadConfig 2 (.ok (some plantProjectV2)) rfl
      (reloadStep_loadConfig plantProjectV2_valid)) <|
    .cons (.of_reloadStep (.takeSlot _) 3 () rfl rfl) <|
    .cons (.of_reloadStep (.shutdownOld _ _) 3 (.ok ()) rfl rfl) <|
    .cons (.of_reloadStep (.startNew _ _) 4 (.ok 1) rfl rfl) <|
    .cons (.of_reloadStep (.installNew _ _ _ _) 5 () rfl rfl) <| .nil _, ?_, rfl, rfl, rfl⟩
  simp [Progress.lifecycle]

/-- A reload of the plant returns `Ok` and leaves what it has loaded running. -/
theorem reload_agrees_iff_reloaded : ∃ exit response t,
    Returns ⟨"plant"⟩ plantCall plantSystem exit (.ok response) t ∧
      exit.bind Exit.candidate = some plantProjectV2 ∧
      (Agrees plantSystem.state exit (.ok response) t.state ↔ ¬ AuditLost plantSystem.state exit) ∧
      t.state.active = some plantProjectV2 := by
  obtain ⟨es, u, old, hrun, hheld, hlock, hactive, hloads⟩ := plant_reaches_auditSuccess
  have hreturns := @Returns.finished ⟨"plant"⟩ plantCall plantSystem u es
    (.auditSuccess old plantProjectV2 4) 6 (.ok "a1") _ rfl hrun hheld hlock rfl
  exact ⟨_, _, _, hreturns, congrArg List.head? hloads, reload_agrees_iff hreturns, hactive⟩

/-- A reload whose success cannot be recorded returns an error and leaves the candidate running. -/
theorem reload_error_leaves_candidate :
    ∃ exit error t, Returns ⟨"plant"⟩ plantCall plantSystem exit (.error error) t ∧
      t.state.active = some plantProjectV2 ∧
      ¬ Agrees plantSystem.state exit (.error error) t.state := by
  obtain ⟨es, u, old, hrun, hheld, hlock, hactive, -⟩ := plant_reaches_auditSuccess
  have hreturns := @Returns.finished ⟨"plant"⟩ plantCall plantSystem u es
    (.auditSuccess old plantProjectV2 4) 6 (.error "connection refused") _ rfl hrun hheld hlock rfl
  refine ⟨_, _, _, hreturns, hactive, ?_⟩
  rintro (hkept | hempty)
  · have hconfig : plantProjectV2 = plantProject "s3cret" [] [] :=
      Option.some.inj (hactive.symm.trans hkept)
    exact absurd (congrArg ProjectConfig.version hconfig) (by decide)
  · exact nomatch hactive.symm.trans hempty

end Daemon
end PipeBolt
