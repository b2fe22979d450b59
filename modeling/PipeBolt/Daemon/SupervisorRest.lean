import PipeBolt.Daemon.Supervisor

/-!
# What calls of the supervisor leave behind

A finished call of `reload` or `shutdown` should leave a settled state: no reload in progress, and
the phase `Running` exactly when there is a runtime.  A dropped reload should leave a state that a
finished one could leave.

Two kinds of steps break this.  A reload that passes its checks while the slot is empty sets the
phase to `Reloading` and returns; and a reload dropped between taking the old slot out and putting
a slot back leaves the slot empty and the phase at `Reloading`.

* `rested_step`: every other step keeps what calls leave behind.
* `settled_iff`: without drops, every free state of a run is settled exactly when no reload of the
  run takes an empty slot.
* `drops_safe_iff`: when no reload takes an empty slot, every drop of a run is safe exactly when
  none falls between the taking and the filling of the slot.
-/

namespace PipeBolt
namespace Daemon

open Domain Storage Transition

/-! ## Settled and resumable states -/

/-- No reload is in progress and the phase says whether there is a runtime. -/
def Settled (state : RuntimeState) : Prop :=
  state.phase ≠ .reloading ∧ (state.phase = .running ↔ state.slot.isSome = true)

/-- No reload is in progress, and there is a runtime or a stop with its error. -/
def Resumable (state : RuntimeState) : Prop :=
  state.phase ≠ .reloading ∧
    (state.slot.isSome = true ∨ state.phase = .stopped ∧ state.lastReloadError.isSome = true)

/-- What a finished call leaves. -/
structure Rest (state : RuntimeState) : Prop where
  running_of_slot : state.slot.isSome = true → state.phase = .running
  stopped_of_empty : state.slot = none → state.phase = .stopped
  noted : state.stopping = false → state.slot = none → state.lastReloadError.isSome = true

theorem Rest.settled {state : RuntimeState} (h : Rest state) : Settled state := by
  cases hslot : state.slot with
  | none =>
    have hphase := h.stopped_of_empty hslot
    simp [Settled, hphase, hslot]
  | some slot =>
    have hphase := h.running_of_slot (by rw [hslot]; rfl)
    simp [Settled, hphase, hslot]

theorem Rest.resumable {state : RuntimeState} (h : Rest state)
    (hnoted : state.stopping = true → state.lastReloadError.isSome = true) : Resumable state := by
  refine ⟨h.settled.1, ?_⟩
  cases hslot : state.slot with
  | some slot => exact Or.inl rfl
  | none =>
    refine Or.inr ⟨h.stopped_of_empty hslot, ?_⟩
    cases hstop : state.stopping with
    | true => exact hnoted hstop
    | false => exact h.noted hstop hslot

/-- The points of a reload that has not touched the state yet. -/
def ReloadPoint.Untouched : ReloadPoint → Prop
  | .ensureNotStopping | .loadConfig | .takeSlot _ => True
  | .shutdownOld _ _ | .setReloadFailed _ _ _ | .auditShutdownFailure _ _ _ | .startNew _ _
  | .installNew _ _ _ _ | .auditSuccess _ _ _ | .startRollback _ _ _ | .installRollback _ _ _ _
  | .rollbackFailed _ _ _ _ | .recordFailure _ _ _ | .readActiveVersion _ _ _
  | .auditStartFailure _ _ _ _ => False

/-- The points between taking the old slot out and putting a slot back or noting the failure. -/
def HalfDone (state : RuntimeState) : ReloadPoint → Prop
  | .shutdownOld _ _ | .setReloadFailed _ _ _ | .startNew _ _ | .installNew _ _ _ _
  | .startRollback _ _ _ | .installRollback _ _ _ _ | .rollbackFailed _ _ _ _ => True
  | .recordFailure _ _ _ => state.slot = none ∧ state.lastReloadError = none
  | .ensureNotStopping | .loadConfig | .takeSlot _ | .auditShutdownFailure _ _ _
  | .auditSuccess _ _ _ | .readActiveVersion _ _ _ | .auditStartFailure _ _ _ _ => False

/-- At every other point the state is one a finished call could leave. -/
theorem ReloadPoint.rest {state : RuntimeState} {point : ReloadPoint} (h : point.Facts state)
    (huntouched : point.Untouched → Rest state) (hdone : ¬ HalfDone state point) : Rest state := by
  have hrunning : ∀ config : ProjectConfig, state.phase = .running →
      state.slot.map RuntimeSlot.config = some config → Rest state := by
    intro config hphase hslot
    obtain ⟨slot, hslot, -⟩ := Option.map_eq_some_iff.mp hslot
    refine ⟨fun _ => hphase, fun h => ?_, fun _ h => ?_⟩
    · rw [hslot] at h
      exact nomatch h
    · rw [hslot] at h
      exact nomatch h
  have hstopped : state.phase = .stopped → state.slot = none →
      state.lastReloadError.isSome = true → Rest state := by
    intro hphase hslot hnoted
    refine ⟨fun h => ?_, fun _ => hphase, fun _ _ => hnoted⟩
    rw [hslot] at h
    exact nomatch h
  cases point with
  | ensureNotStopping => exact huntouched trivial
  | loadConfig => exact huntouched trivial
  | takeSlot => exact huntouched trivial
  | auditShutdownFailure => exact hstopped h.2.1 h.2.2.1 h.2.2.2
  | auditSuccess old next reloadedAt => exact hrunning next h.2.1 h.2.2
  | recordFailure old next message =>
    rcases h.2 with ⟨hphase, hslot⟩ | ⟨hphase, hslot⟩
    · exact hrunning old.config hphase hslot
    · refine hstopped hphase hslot ?_
      cases herror : state.lastReloadError with
      | none => exact absurd ⟨hslot, herror⟩ hdone
      | some message => rfl
  | readActiveVersion old next message =>
    rcases h.2.2 with ⟨hphase, hslot⟩ | ⟨hphase, hslot⟩
    · exact hrunning old.config hphase hslot
    · exact hstopped hphase hslot h.2.1
  | auditStartFailure old next message activeVersionAfter =>
    rcases h.2.2 with ⟨hphase, hslot⟩ | ⟨hphase, hslot⟩
    · exact hrunning old.config hphase hslot
    · exact hstopped hphase hslot h.2.1
  | shutdownOld | setReloadFailed | startNew | installNew | startRollback | installRollback
  | rollbackFailed => exact absurd trivial hdone

/-! ## The invariant -/

/-- Whenever nobody holds the lock, or its holder has not touched the state, the state is one a
finished call leaves. -/
structure Rested (s : System) : Prop where
  free : s.lifecycle = none → Rest s.state
  reload : ∀ call point, s.lifecycle = some (.reload call point) → point.Untouched → Rest s.state
  shutdown : s.lifecycle = some (.shutdown .takeSlot) → Rest s.state

theorem Rested.of_free {s : System} (hlock : s.lifecycle = none) (h : Rest s.state) :
    Rested s := by
  refine ⟨fun _ => h, fun call point hreload => ?_, fun hshutdown => ?_⟩
  · rw [hlock] at hreload
    cases hreload
  · rw [hlock] at hshutdown
    cases hshutdown

theorem Rested.of_reload {s : System} {call : ReloadCall} {point : ReloadPoint}
    (hlock : s.lifecycle = some (.reload call point)) (h : point.Untouched → Rest s.state) :
    Rested s := by
  refine ⟨fun hfree => ?_, fun call' point' hreload => ?_, fun hshutdown => ?_⟩
  · rw [hlock] at hfree
    cases hfree
  · rw [hlock] at hreload
    cases hreload
    exact h
  · rw [hlock] at hshutdown
    cases hshutdown

theorem Rested.of_shutdown {s : System} {point : ShutdownPoint}
    (hlock : s.lifecycle = some (.shutdown point)) (h : point = .takeSlot → Rest s.state) :
    Rested s := by
  refine ⟨fun hfree => ?_, fun call point' hreload => ?_, fun hshutdown => ?_⟩
  · rw [hlock] at hfree
    cases hfree
  · rw [hlock] at hreload
    cases hreload
  · rw [hlock] at hshutdown
    cases hshutdown
    exact h rfl

/-- The edge is a reload that takes an empty slot. -/
def TakesEmpty (e : Edge System Label) : Prop :=
  match e.label with
  | .advance _ point _ => TakesEmptySlot e.source.state point
  | _ => False

/-- The edge drops a reload whose work is half done. -/
def DropsHalfDone (e : Edge System Label) : Prop :=
  match e.label with
  | .drop point => HalfDone e.source.state point
  | _ => False

/-- The edge drops a reload. -/
def Label.IsDrop : Label → Prop
  | .drop _ => True
  | .rejected _ _ | .begin _ | .advance _ _ _ | .shutdown | .acquire | .stop _ _ => False

theorem DropsHalfDone.isDrop {e : Edge System Label} (h : DropsHalfDone e) : e.label.IsDrop := by
  obtain ⟨s, label, t⟩ := e
  cases label with
  | drop point => trivial
  | rejected | begin | advance | shutdown | acquire | stop => exact h

section Steps

variable {managed : ProjectId}

/-- A step to an untouched point leaves the state as it is. -/
theorem Advances.untouched {state state' : RuntimeState} {point next : ReloadPoint}
    (h : Advances state point state' next) (hnext : next.Untouched) :
    point.Untouched ∧ state' = state := by
  cases h with
  | checked | loaded => exact ⟨trivial, rfl⟩
  | taken | oldStopped | oldFailed | emptied | started | startFailed | installed | rolledBack
  | rollbackFailed | reinstalled | abandoned | noted | read => exact hnext.elim

/-- A reload that returns has no work half done. -/
theorem returned_not_halfDone {call : ReloadCall} {now : OffsetDateTime} {state : RuntimeState}
    {point : ReloadPoint} {outcome : point.Outcome} {result : ReloadResult}
    (h : (reloadStep managed call now state point outcome).2 = .returned result) :
    ¬ HalfDone state point := by
  intro hhalf
  cases point with
  | ensureNotStopping | loadConfig | takeSlot | auditShutdownFailure | auditSuccess
  | readActiveVersion | auditStartFailure => exact hhalf
  | setReloadFailed | installNew | installRollback | rollbackFailed | recordFailure => cases h
  | shutdownOld | startNew | startRollback => cases outcome <;> cases h

/-- What calls leave behind is kept by every step that neither takes an empty slot nor drops a
reload whose work is half done. -/
theorem rested_step {s t : System} {label : Label} (h : Step managed s label t)
    (htake : ¬ TakesEmpty ⟨s, label, t⟩) (hdrop : ¬ DropsHalfDone ⟨s, label, t⟩)
    (hfacts : Facts s) (hrested : Rested s) : Rested t := by
  cases h with
  | rejected => exact hrested
  | begin call hbegin =>
    have hfree : s.lifecycle = none := beginReload_free hbegin
    exact .of_reload rfl fun _ => hrested.free hfree
  | @advance call point now outcome hlock =>
    have hpoint := hfacts.reload call point hlock
    cases hnext : (reloadStep managed call now s.state point outcome).2 with
    | «at» next =>
      refine .of_reload rfl fun huntouched => ?_
      obtain ⟨huntouched, hstate⟩ := (reloadStep_at hnext).untouched huntouched
      show Rest (reloadStep managed call now s.state point outcome).1
      rw [hstate]
      exact hrested.reload call point hlock huntouched
    | returned result =>
      -- The state changes with a return only where an empty slot is taken.
      refine .of_free rfl ?_
      rcases reloadStep_returned hnext with hstate | ⟨htakes, -⟩
      · show Rest (reloadStep managed call now s.state point outcome).1
        rw [hstate]
        exact ReloadPoint.rest hpoint (hrested.reload call point hlock)
          (returned_not_halfDone hnext)
      · exact absurd htakes htake
  | @drop call point hlock =>
    have hpoint := hfacts.reload call point hlock
    exact .of_free rfl (ReloadPoint.rest hpoint (hrested.reload call point hlock) hdrop)
  | shutdown => exact ⟨hrested.free, hrested.reload, hrested.shutdown⟩
  | acquire hfree => exact .of_shutdown rfl fun _ => hrested.free hfree
  | @stop point outcome hlock =>
    have hpoint := hfacts.shutdown point hlock
    cases point with
    | takeSlot =>
      refine .of_shutdown rfl fun h => ?_
      cases hslot : s.state.slot with
      | none => simp [hslot] at h
      | some slot => simp [hslot] at h
    | shutdownRuntime slot => exact .of_shutdown rfl fun h => by cases h
    | finish result =>
      obtain ⟨hstop, hslot⟩ := hpoint
      cases result with
      | ok =>
        refine .of_free rfl ⟨fun h => ?_, fun _ => rfl, fun h _ => ?_⟩
        · simp [shutdownStep, hslot] at h
        · simp [shutdownStep, hstop] at h
      | error error =>
        refine .of_free rfl ⟨fun h => ?_, fun _ => rfl, fun h _ => ?_⟩
        · simp [shutdownStep, hslot] at h
        · simp [shutdownStep, hstop] at h

theorem rested_new (config : ProjectConfig) (runtime : RuntimeId) (startedAt : OffsetDateTime) :
    Rested (.new config runtime startedAt) :=
  .of_free rfl ⟨fun _ => rfl, fun h => (nomatch h), fun _ h => (nomatch h)⟩

/-- A reload that takes an empty slot returns and leaves the phase at `Reloading`. -/
theorem takesEmpty_reloading {s t : System} {label : Label} (h : Step managed s label t)
    (htake : TakesEmpty ⟨s, label, t⟩) : t.lifecycle = none ∧ t.state.phase = .reloading := by
  cases h with
  | rejected | begin | drop | shutdown | acquire | stop => exact htake.elim
  | advance now outcome hlock =>
    obtain ⟨⟨next, rfl⟩, hstop, hslot⟩ := htake
    simp only at hstop hslot
    simp [reloadStep, hstop, hslot, Progress.lifecycle]

/-- A drop releases the lock and leaves the state as it found it. -/
theorem step_drop {s t : System} {label : Label} (h : Step managed s label t)
    (hdrop : label.IsDrop) : ∃ call point, label = .drop point ∧
      s.lifecycle = some (.reload call point) ∧ t = { s with lifecycle := none } := by
  cases h with
  | @drop call point hlock => exact ⟨call, point, rfl, hlock, rfl⟩
  | rejected | begin | advance | shutdown | acquire | stop => exact hdrop.elim

/-- Where the work of a reload is half done, the state is not resumable. -/
theorem halfDone_not_resumable {state : RuntimeState} {point : ReloadPoint}
    (hfacts : point.Facts state) (h : HalfDone state point) : ¬ Resumable state := by
  rintro ⟨hphase, hslot⟩
  cases point with
  | shutdownOld | setReloadFailed | startNew | installNew | startRollback | installRollback
  | rollbackFailed => exact hphase hfacts.2.1
  | recordFailure old next message =>
    rcases hslot with hslot | ⟨-, hnoted⟩
    · rw [h.1] at hslot
      exact nomatch hslot
    · rw [h.2] at hnoted
      exact nomatch hnoted
  | ensureNotStopping | loadConfig | takeSlot | auditShutdownFailure | auditSuccess
  | readActiveVersion | auditStartFailure => exact h

end Steps

/-! ## Runs without drops -/

/-- Both invariants hold along a run whose steps neither take an empty slot nor drop a reload
whose work is half done. -/
theorem rested_run {config : ProjectConfig} {runtime : RuntimeId} {startedAt : OffsetDateTime}
    {es : List (Edge System Label)} {t : System}
    (hrun : Run (Step config.id) (.new config runtime startedAt) es t)
    (hok : ∀ e ∈ es, ¬ TakesEmpty e ∧ ¬ DropsHalfDone e) :
    ∀ e ∈ es, (Facts e.source ∧ Rested e.source) ∧ (Facts e.target ∧ Rested e.target) := by
  refine (hrun.invariant (fun s => Facts s ∧ Rested s) (fun e => ¬ TakesEmpty e ∧ ¬ DropsHalfDone e)
    ?_ hok ⟨facts_new _ _ _, rested_new _ _ _⟩).2
  intro e hok h hs
  exact ⟨facts_step h hs.1, rested_step h hok.1 hok.2 hs.1 hs.2⟩

/-- Without drops, every state of a run in which the lock is free is settled exactly when no
reload of the run takes an empty slot. -/
theorem settled_iff (config : ProjectConfig) (runtime : RuntimeId) (startedAt : OffsetDateTime)
    {es : List (Edge System Label)} {t : System}
    (hrun : Run (Step config.id) (.new config runtime startedAt) es t)
    (hkeep : ∀ e ∈ es, ¬ e.label.IsDrop) :
    (∀ e ∈ es, e.target.lifecycle = none → Settled e.target.state) ↔
      ∀ e ∈ es, ¬ TakesEmpty e := by
  constructor
  · intro hsettled e he htake
    obtain ⟨hfree, hphase⟩ := takesEmpty_reloading (hrun.step_of_mem e he) htake
    exact (hsettled e he hfree).1 hphase
  · intro htake e he hfree
    have hdrop : ∀ e ∈ es, ¬ DropsHalfDone e := fun e he hhalf => hkeep e he hhalf.isDrop
    obtain ⟨-, -, hrested⟩ := rested_run hrun (fun e he => ⟨htake e he, hdrop e he⟩) e he
    exact (hrested.free hfree).settled

/-- A call of the operator of the plant. -/
def plantCall : ReloadCall := ⟨⟨"plant"⟩, .system "operator"⟩

/-- The supervisor of the plant. -/
def plantSystem : System := .new (plantProject "s3cret" [] []) 0 0

/-- A reload that cannot load its configuration, step by step. -/
def failedLoad : List (Edge System Label) :=
  [⟨plantSystem, .begin plantCall,
      { plantSystem with lifecycle := some (.reload plantCall .ensureNotStopping) }⟩,
    ⟨{ plantSystem with lifecycle := some (.reload plantCall .ensureNotStopping) },
      .advance 1 .ensureNotStopping (),
      { plantSystem with lifecycle := some (.reload plantCall .loadConfig) }⟩,
    ⟨{ plantSystem with lifecycle := some (.reload plantCall .loadConfig) },
      .advance 2 .loadConfig (.error "connection refused"), plantSystem⟩]

theorem failedLoad_run : Run (Step ⟨"plant"⟩) plantSystem failedLoad plantSystem :=
  .cons (.begin plantCall rfl) (.cons (.of_reloadStep .ensureNotStopping 1 () rfl rfl)
    (.cons (.of_reloadStep .loadConfig 2 (.error "connection refused") rfl rfl) (.nil _)))

theorem settled_iff_failedLoad :
    (∀ e ∈ failedLoad, e.target.lifecycle = none → Settled e.target.state) ↔
      ∀ e ∈ failedLoad, ¬ TakesEmpty e :=
  settled_iff (plantProject "s3cret" [] []) 0 0 failedLoad_run (by simp [failedLoad, Label.IsDrop])

theorem plantProject_valid : validateRuntimeConfig (plantProject "s3cret" [] []) = .ok () := by
  decide +kernel

/-- After a reload whose old runtime failed to shut down, the next reload returns an error and
leaves the phase at `Reloading`. -/
theorem settled_fails_after_failedShutdown :
    ∃ es t, Run (Step ⟨"plant"⟩) plantSystem es t ∧ (∀ e ∈ es, ¬ e.label.IsDrop) ∧
      t.lifecycle = none ∧ t.state.phase = .reloading ∧ ¬ Settled t.state := by
  refine ⟨_, _,
    .cons (.begin plantCall rfl) <|
    .cons (.of_reloadStep .ensureNotStopping 1 () rfl rfl) <|
    .cons (.of_reloadStep .loadConfig 2 (.ok (some _)) rfl
      (reloadStep_loadConfig plantProject_valid)) <|
    .cons (.of_reloadStep (.takeSlot _) 3 () rfl rfl) <|
    .cons (.of_reloadStep (.shutdownOld _ _) 4 (.error "worker join timed out") rfl rfl) <|
    .cons (.of_reloadStep (.setReloadFailed _ _ _) 5 () rfl rfl) <|
    .cons (.of_reloadStep (.auditShutdownFailure _ _ _) 6 (.ok "audit_1") rfl rfl) <|
    .cons (.begin plantCall rfl) <|
    .cons (.of_reloadStep .ensureNotStopping 7 () rfl rfl) <|
    .cons (.of_reloadStep .loadConfig 8 (.ok (some _)) rfl
      (reloadStep_loadConfig plantProject_valid)) <|
    .cons (.of_reloadStep (.takeSlot _) 9 () rfl rfl) <| .nil _, ?_, rfl, rfl, fun h => h.1 rfl⟩
  simp [Label.IsDrop]

/-! ## Drops -/

/-- The edge drops a reload after a shutdown that left no error. -/
def DropsStopped (e : Edge System Label) : Prop :=
  e.label.IsDrop ∧ e.source.state.stopping = true ∧ e.source.state.lastReloadError = none

/-- When no reload takes an empty slot, every drop of a run leaves a resumable state exactly when
none falls where the work of its reload is half done, nor after a shutdown that left no error. -/
theorem drops_safe_iff (config : ProjectConfig) (runtime : RuntimeId) (startedAt : OffsetDateTime)
    {es : List (Edge System Label)} {t : System}
    (hrun : Run (Step config.id) (.new config runtime startedAt) es t)
    (htake : ∀ e ∈ es, ¬ TakesEmpty e) :
    (∀ e ∈ es, e.label.IsDrop → Resumable e.target.state) ↔
      ∀ e ∈ es, ¬ DropsHalfDone e ∧ ¬ DropsStopped e := by
  have hfacts : ∀ e ∈ es, Facts e.source := fun e he =>
    ((hrun.invariant' Facts (fun _ _ _ => facts_step) (facts_new _ _ _)).2 e he).1
  constructor
  · intro hsafe e he
    constructor
    · intro hhalf
      have hdrop : e.label.IsDrop := hhalf.isDrop
      obtain ⟨call, point, hlabel, hlock, htarget⟩ := step_drop (hrun.step_of_mem e he) hdrop
      have hresumable := hsafe e he hdrop
      rw [htarget] at hresumable
      rw [DropsHalfDone, hlabel] at hhalf
      exact halfDone_not_resumable ((hfacts e he).reload call point hlock) hhalf hresumable
    · rintro ⟨hdrop, hstop, hnone⟩
      obtain ⟨call, point, -, -, htarget⟩ := step_drop (hrun.step_of_mem e he) hdrop
      have hempty := (hfacts e he).stopping_empty hstop
      have hresumable := hsafe e he hdrop
      rw [htarget] at hresumable
      rcases hresumable.2 with hslot | ⟨-, hnoted⟩
      · rw [hempty] at hslot
        exact nomatch hslot
      · rw [hnone] at hnoted
        exact nomatch hnoted
  · intro hok e he hdrop
    obtain ⟨-, -, hrested⟩ := rested_run hrun (fun e he => ⟨htake e he, (hok e he).1⟩) e he
    obtain ⟨call, point, -, -, htarget⟩ := step_drop (hrun.step_of_mem e he) hdrop
    refine (hrested.free (by rw [htarget])).resumable ?_
    rw [htarget]
    intro hstop
    cases herror : e.source.state.lastReloadError with
    | none => exact absurd ⟨hdrop, hstop, herror⟩ (hok e he).2
    | some message => rfl

/-- A reload that is dropped before it has read the state. -/
def droppedReload : List (Edge System Label) :=
  [⟨plantSystem, .begin plantCall,
      { plantSystem with lifecycle := some (.reload plantCall .ensureNotStopping) }⟩,
    ⟨{ plantSystem with lifecycle := some (.reload plantCall .ensureNotStopping) },
      .drop .ensureNotStopping, plantSystem⟩]

theorem drops_safe_iff_droppedReload :
    (∀ e ∈ droppedReload, e.label.IsDrop → Resumable e.target.state) ↔
      ∀ e ∈ droppedReload, ¬ DropsHalfDone e ∧ ¬ DropsStopped e :=
  drops_safe_iff (plantProject "s3cret" [] []) 0 0
    (.cons (.begin plantCall rfl) (.cons (.drop rfl) (.nil plantSystem)))
    (by simp [droppedReload, TakesEmpty])

/-- A reload of the plant gets as far as the shutdown of the old runtime. -/
theorem plant_reaches_shutdownOld :
    ∃ es s old next, Run (Step ⟨"plant"⟩) plantSystem es s ∧
      s.lifecycle = some (.reload plantCall (.shutdownOld old next)) ∧
      s.state.slot.isNone = true ∧ s.state.phase = .reloading := by
  refine ⟨_, _, _, _,
    .cons (.begin plantCall rfl) <|
    .cons (.of_reloadStep .ensureNotStopping 1 () rfl rfl) <|
    .cons (.of_reloadStep .loadConfig 2 (.ok (some _)) rfl
      (reloadStep_loadConfig plantProject_valid)) <|
    .cons (.of_reloadStep (.takeSlot _) 3 () rfl rfl) <| .nil _, rfl, rfl, rfl⟩

/-- A reload dropped while the old runtime shuts down leaves an empty slot and the phase at
`Reloading`. -/
theorem drops_strand_supervisor :
    ∃ es t, Run (Step ⟨"plant"⟩) plantSystem es t ∧
      (∃ e ∈ es, e.label.IsDrop ∧ e.target = t) ∧ t.lifecycle = none ∧
      t.state.slot.isNone = true ∧ t.state.phase = .reloading ∧ ¬ Resumable t.state := by
  obtain ⟨es, s, old, next, hrun, hlock, hslot, hphase⟩ := plant_reaches_shutdownOld
  exact ⟨_, { s with lifecycle := none }, hrun.snoc (.drop hlock),
    ⟨_, List.mem_append_right _ List.mem_cons_self, trivial, rfl⟩, rfl, hslot, hphase,
    fun h => h.1 hphase⟩

end Daemon
end PipeBolt
