import PipeBolt.Web.RealtimeStream

/-!
# What the realtime sessions keep

A session that resumes changes what is shown only where it is the current one, and every event that
is buffered comes from a stream that was opened.

* `SessionsKept`: which sessions are aborted and which have ended.
* `StreamStep.view_of_stale`: a session that is not current changes nothing that is shown.
* `Sourced`: from which streams the buffered events are.
-/

namespace PipeBolt
namespace Web

open Js Transition

/-! ## What a session changes -/

namespace RealtimeEventBuffer

variable {A : Type} {buffer after : RealtimeEventBuffer A}

/-- What is in a buffer after a push was there before, or is the event. -/
theorem mem_of_push {fuel : Nat} {event : A} {frameLength : JsNumber}
    {result : RealtimeBufferPushResult}
    (h : buffer.push fuel event frameLength = some (result, after)) {a : A}
    (ha : a ∈ after.events) : a ∈ buffer.events ∨ a = event := by
  unfold push at h
  split at h
  · obtain ⟨-, rfl⟩ := Prod.mk.inj (Option.some.inj h)
    exact .inl ha
  · split at h
    · obtain ⟨-, rfl⟩ := Prod.mk.inj (Option.some.inj h)
      exact .inl ha
    · obtain ⟨⟨removeCount, removedWeight⟩, -, hrest⟩ := Option.bind_eq_some_iff.mp h
      obtain ⟨-, rfl⟩ := Prod.mk.inj (Option.some.inj hrest)
      rcases List.mem_append.mp ha with hkept | hnew
      · refine .inl ?_
        split at hkept
        · exact List.mem_of_mem_drop hkept
        · exact hkept
      · exact .inr (List.mem_singleton.mp hnew)

end RealtimeEventBuffer

section Effects

variable {E F : Type} {modules : StreamModules E F}

/-- A view that shows no event but those of another one and those of a stream. -/
structure ViewEffect (inputs : StreamInputs F) (view view' : StreamView E F) : Prop where
  desiredState : view'.desiredState = view.desiredState
  sourced : ∀ r ∈ view'.eventBuffer.events,
    r ∈ view.eventBuffer.events ∨ r.inputs = inputs
  skipped : view.backendSkipped ≤ MAX_SAFE_INTEGER → view'.backendSkipped ≤ MAX_SAFE_INTEGER

theorem ViewEffect.refl (inputs : StreamInputs F) (view : StreamView E F) :
    ViewEffect inputs view view := ⟨rfl, fun _ hr => .inl hr, id⟩

theorem ViewEffect.trans {inputs : StreamInputs F} {u v w : StreamView E F}
    (h : ViewEffect inputs u v) (k : ViewEffect inputs v w) : ViewEffect inputs u w := by
  refine ⟨k.desiredState.trans h.desiredState, fun r hr => ?_,
    fun hu => k.skipped (h.skipped hu)⟩
  rcases k.sourced r hr with hv | hinputs
  · exact h.sourced r hv
  · exact .inr hinputs

theorem viewEffect_pushEvent (inputs : StreamInputs F) (view : StreamView E F) (event : E)
    (frameLength : JsNumber) :
    ViewEffect inputs view (view.pushEvent ⟨event, inputs⟩ frameLength) := by
  unfold StreamView.pushEvent
  split
  · exact .refl inputs view
  · next result eventBuffer hpush =>
    have hbuffer : ViewEffect inputs view { view with eventBuffer } := by
      refine ⟨rfl, fun r hr => ?_, id⟩
      rcases RealtimeEventBuffer.mem_of_push hpush hr with hold | rfl
      · exact .inl hold
      · exact .inr rfl
    -- The counter, the message and the flush leave the buffer as it is.
    refine hbuffer.trans ?_
    split
    · split <;> exact ⟨rfl, fun _ hr => .inl hr, id⟩
    · split <;> exact ⟨rfl, fun _ hr => .inl hr, id⟩

theorem viewEffect_handleMessage (inputs : StreamInputs F) (view : StreamView E F) (now : Nat)
    (data : FrameText) (message : RealtimeMessage E) :
    ViewEffect inputs view (view.handleMessage modules inputs now data message).2 := by
  cases message with
  | event event =>
    have hconnected : ViewEffect inputs view { view with connectionState := .connected } :=
      ⟨rfl, fun _ hr => .inl hr, id⟩
    exact hconnected.trans (viewEffect_pushEvent inputs _ event data.length)
  | lagged => exact ⟨rfl, fun _ hr => .inl hr, fun _ => Nat.min_le_left _ _⟩
  | ready | error | filterUpdated => exact ⟨rfl, fun _ hr => .inl hr, id⟩

/-- A message that does not connect is no event. -/
theorem eventBuffer_of_not_connected {inputs : StreamInputs F} {view : StreamView E F} {now : Nat}
    {data : FrameText} {message : RealtimeMessage E}
    (h : ¬ (view.handleMessage modules inputs now data message).1 = true) :
    (view.handleMessage modules inputs now data message).2.eventBuffer = view.eventBuffer := by
  cases message with
  | ready | event => exact absurd rfl h
  | lagged | error | filterUpdated => rfl

/-- What the callbacks of a session change. -/
structure ReadingEffect (generation : Nat) (r r' : Reading E F) : Prop where
  session : r'.session.generation = r.session.generation
  aborted : r'.session.aborted = r.session.aborted
  connected : r.session.wasConnected = true → r'.session.wasConnected = true
  announced : r'.session.wasConnected = true →
    r.session.wasConnected = true ∨ r.attempt.aborted = false
  attempt : r'.attempt.aborted = r.attempt.aborted
  inputs : r'.attempt.inputs = r.attempt.inputs
  view : ViewEffect r.attempt.inputs r.view r'.view
  delivered : ∀ e ∈ r'.view.eventBuffer.events,
    e ∈ r.view.eventBuffer.events ∨ r'.session.wasConnected = true
  stale : ¬ (r.session.generation = generation ∧ r.view.desiredState = .running) →
    r'.view = r.view

theorem ReadingEffect.trans {generation : Nat} {r₁ r₂ r₃ : Reading E F}
    (h : ReadingEffect generation r₁ r₂) (k : ReadingEffect generation r₂ r₃) :
    ReadingEffect generation r₁ r₃ where
  session := k.session.trans h.session
  aborted := k.aborted.trans h.aborted
  connected hconnected := k.connected (h.connected hconnected)
  announced hconnected := by
    rcases k.announced hconnected with hmiddle | haborted
    · exact h.announced hmiddle
    · exact .inr (h.attempt.symm.trans haborted)
  attempt := k.attempt.trans h.attempt
  inputs := k.inputs.trans h.inputs
  view := h.view.trans (h.inputs ▸ k.view)
  delivered e he := by
    rcases k.delivered e he with hmiddle | hconnected
    · exact (h.delivered e hmiddle).imp_right k.connected
    · exact .inr hconnected
  stale hstale := by
    have hsame := h.stale hstale
    rw [k.stale (by rw [h.session, hsame]; exact hstale), hsame]

/-- Callbacks that change neither what is shown nor whether the session has connected. -/
theorem ReadingEffect.unseen {generation : Nat} {r r' : Reading E F}
    (hsession : r'.session.generation = r.session.generation)
    (haborted : r'.session.aborted = r.session.aborted)
    (hconnected : r'.session.wasConnected = r.session.wasConnected)
    (hattempt : r'.attempt = r.attempt) (hview : r'.view = r.view) :
    ReadingEffect generation r r' where
  session := hsession
  aborted := haborted
  connected h := hconnected.trans h
  announced h := .inl (hconnected.symm.trans h)
  attempt := by rw [hattempt]
  inputs := by rw [hattempt]
  view := by
    rw [hview]
    exact .refl _ _
  delivered e he := by
    rw [hview] at he
    exact .inl he
  stale _ := hview

theorem readingEffect_onEvent (generation now : Nat) (r : Reading E F) (data : FrameText)
    (name : Option JsString) :
    ReadingEffect generation r (r.onEvent modules generation now data name).1 := by
  unfold Reading.onEvent
  split
  · exact .unseen rfl rfl rfl rfl rfl
  · next hguard =>
    simp only [Bool.or_eq_true, bne_iff_ne, not_or, not_not] at hguard
    obtain ⟨⟨haborted, hgeneration⟩, hrunning⟩ := hguard
    have haborted : r.attempt.aborted = false := Bool.eq_false_iff.mpr haborted
    dsimp only
    split
    · exact .unseen rfl rfl rfl rfl rfl
    · next message hparsed =>
      have hview : ViewEffect r.attempt.inputs r.view
          (r.view.handleMessage modules r.attempt.inputs now data message).2 :=
        viewEffect_handleMessage r.attempt.inputs r.view now data message
      split
      · exact ⟨rfl, rfl, fun _ => rfl, fun _ => .inr haborted, rfl, rfl, hview,
          fun _ _ => .inr rfl, fun hstale => absurd ⟨hgeneration, hrunning⟩ hstale⟩
      · next hnot =>
        refine ⟨rfl, rfl, id, .inl, rfl, rfl, hview, fun e he => .inl ?_,
          fun hstale => absurd ⟨hgeneration, hrunning⟩ hstale⟩
        rw [← eventBuffer_of_not_connected hnot]
        exact he

theorem readingEffect_callback (generation now : Nat) (r : Reading E F)
    (callback : ParserCallback) :
    ReadingEffect generation r (r.callback modules generation now callback).1 := by
  cases callback with
  | event data name => exact readingEffect_onEvent generation now r data name
  | comment | error | retry => exact .unseen rfl rfl rfl rfl rfl

/-- What a chunk changes. -/
theorem readingEffect_feed (generation now : Nat) (callbacks : List ParserCallback) :
    ∀ r : Reading E F, ReadingEffect generation r (r.feed modules generation now callbacks).1 := by
  induction callbacks with
  | nil => exact fun _ => .unseen rfl rfl rfl rfl rfl
  | cons callback callbacks ih =>
    intro r
    have hfirst : ReadingEffect generation r (r.callback modules generation now callback).1 :=
      readingEffect_callback generation now r callback
    rw [Reading.feed]
    split
    · next next hcallback =>
      rw [hcallback] at hfirst
      exact hfirst.trans (ih next)
    · next next error hcallback =>
      rw [hcallback] at hfirst
      exact hfirst

/-- What a session changes when it resumes. -/
structure SessionEffect (s : RealtimeStream E F) (x : StreamSession F) (t : RealtimeStream E F)
    (y : StreamSession F) : Prop where
  inputs : t.inputs = s.inputs
  watchedInputs : t.watchedInputs = s.watchedInputs
  watchPending : t.watchPending = s.watchPending
  sessions : t.sessions = s.sessions
  sessionGeneration : t.sessionGeneration = s.sessionGeneration
  generation : y.generation = x.generation
  aborted : y.aborted = x.aborted
  connected : x.wasConnected = true → y.wasConnected = true
  announced : y.wasConnected = true →
    x.wasConnected = true ∨ ∃ attempt, x.phase.attempt = some attempt ∧ attempt.aborted = false
  stale : x.generation ≠ s.sessionGeneration → t.view = s.view
  stopped : s.view.desiredState = .running → t.view.desiredState ≠ .running → y.phase = .ended
  opened : t.opened = s.opened ∨ t.opened = ⟨x.generation, s.inputs⟩ :: s.opened
  sourced : ∀ r ∈ t.view.eventBuffer.events, r ∈ s.view.eventBuffer.events ∨
    y.wasConnected = true ∧ ∃ attempt, x.phase.attempt = some attempt ∧ r.inputs = attempt.inputs
  attempt : ∀ attempt, y.phase.attempt = some attempt →
    (∃ before, x.phase.attempt = some before ∧ attempt.inputs = before.inputs ∧
      (before.aborted = true → attempt.aborted = true)) ∨
    x.aborted = false ∧ attempt.inputs = s.inputs ∧ ⟨x.generation, s.inputs⟩ ∈ t.opened
  skipped : s.view.backendSkipped ≤ MAX_SAFE_INTEGER → t.view.backendSkipped ≤ MAX_SAFE_INTEGER

variable {s : RealtimeStream E F} {x : StreamSession F}

/-- A session that changes only where it is suspended, and keeps its attempt or none. -/
theorem SessionEffect.self {phase : SessionPhase F}
    (hattempt : ∀ attempt, phase.attempt = some attempt →
      ∃ before, x.phase.attempt = some before ∧ attempt.inputs = before.inputs ∧
        (before.aborted = true → attempt.aborted = true)) :
    SessionEffect s x s { x with phase } where
  inputs := rfl
  watchedInputs := rfl
  watchPending := rfl
  sessions := rfl
  sessionGeneration := rfl
  generation := rfl
  aborted := rfl
  connected := id
  announced := .inl
  stale _ := rfl
  stopped hrunning hstopped := absurd hrunning hstopped
  opened := .inl rfl
  sourced _ hr := .inl hr
  attempt attempt h := .inl (hattempt attempt h)
  skipped := id

theorem SessionEffect.finish (s : RealtimeStream E F) (x : StreamSession F) :
    SessionEffect s x s x.finish := .self nofun

/-- A current session that changes what is shown, but no event, and has no attempt afterwards. -/
theorem SessionEffect.shown {view : StreamView E F} {y : StreamSession F}
    (hcurrent : x.generation = s.sessionGeneration)
    (hbuffer : view.eventBuffer = s.view.eventBuffer)
    (hskipped : view.backendSkipped = s.view.backendSkipped)
    (hy : y.generation = x.generation ∧ y.aborted = x.aborted ∧ y.wasConnected = x.wasConnected)
    (hattempt : y.phase.attempt = none)
    (hstopped : s.view.desiredState = .running → view.desiredState ≠ .running → y.phase = .ended) :
    SessionEffect s x { s with view } y where
  inputs := rfl
  watchedInputs := rfl
  watchPending := rfl
  sessions := rfl
  sessionGeneration := rfl
  generation := hy.1
  aborted := hy.2.1
  connected h := hy.2.2.trans h
  announced h := .inl (hy.2.2.symm.trans h)
  stale hstale := absurd hcurrent hstale
  stopped := hstopped
  opened := .inl rfl
  sourced r hr := by
    rw [hbuffer] at hr
    exact .inl hr
  attempt attempt h := by
    rw [hattempt] at h
    cases h
  skipped h := hskipped.trans_le h

theorem sessionEffect_stop (error : StreamError) (hcurrent : x.generation = s.sessionGeneration) :
    SessionEffect s x (s.stop error) x.finish :=
  .shown hcurrent rfl rfl ⟨rfl, rfl, rfl⟩ rfl fun _ _ => rfl

theorem sessionEffect_attemptNext :
    SessionEffect s x (s.attemptNext x).1 (s.attemptNext x).2 := by
  unfold RealtimeStream.attemptNext
  split
  · exact .finish s x
  · next hguard =>
    simp only [Bool.or_eq_true, bne_iff_ne, not_or, not_not] at hguard
    obtain ⟨⟨haborted, hcurrent⟩, -⟩ := hguard
    split
    · next projectId token hproject htoken =>
      refine ⟨rfl, rfl, rfl, rfl, rfl, rfl, rfl, id, .inl, fun hstale => absurd hcurrent hstale,
        fun hrunning hstopped => absurd hrunning hstopped, .inr rfl, fun r hr => .inl hr, ?_, id⟩
      rintro attempt ⟨⟩
      exact .inr ⟨Bool.eq_false_iff.mpr haborted, rfl, List.mem_cons_self⟩
    · exact .shown hcurrent rfl rfl ⟨rfl, rfl, rfl⟩ rfl fun _ _ => rfl

theorem sessionEffect_catchError (error : StreamError) :
    SessionEffect s x (s.catchError x error).1 (s.catchError x error).2 := by
  unfold RealtimeStream.catchError
  split
  · exact .finish s x
  · next hguard =>
    simp only [Bool.or_eq_true, bne_iff_ne, not_or, not_not] at hguard
    obtain ⟨-, hcurrent⟩ := hguard
    split
    · exact sessionEffect_stop error hcurrent
    · refine .shown hcurrent ?_ ?_ ⟨rfl, rfl, rfl⟩ rfl fun hrunning hstopped => absurd ?_ hstopped
      · split <;> rfl
      · split <;> rfl
      · split <;> exact hrunning

theorem sessionEffect_consume {attempt : Attempt F} {guard : FrameGuard} (now : Nat)
    (text : JsString) (callbacks : List ParserCallback)
    {next : Attempt F → FrameGuard → SessionPhase F} (hx : x.phase.attempt = some attempt)
    (hnext : ∀ attempt guard, (next attempt guard).attempt = some attempt) :
    SessionEffect s x (s.consume modules x attempt guard now text callbacks next).1
      (s.consume modules x attempt guard now text callbacks next).2 := by
  unfold RealtimeStream.consume
  split
  · refine .self ?_
    rintro _ ⟨⟩
    exact ⟨attempt, hx, rfl, id⟩
  · next guard' hguard =>
    have heffect : ReadingEffect s.sessionGeneration ⟨s.view, x, attempt, s.lastActivityMs⟩
        ((Reading.mk s.view x attempt s.lastActivityMs).feed modules s.sessionGeneration now
          callbacks).1 :=
      readingEffect_feed s.sessionGeneration now callbacks _
    generalize (Reading.mk s.view x attempt s.lastActivityMs).feed modules s.sessionGeneration now
      callbacks = result at heffect ⊢
    obtain ⟨reading, thrown⟩ := result
    -- However the session goes on, it keeps the attempt that was read.
    have hgo (phase : SessionPhase F) (hphase : phase.attempt = some reading.attempt) :
        SessionEffect s x
          { s with view := reading.view, lastActivityMs := reading.lastActivityMs }
          { reading.session with phase } := by
      refine ⟨rfl, rfl, rfl, rfl, rfl, heffect.session, heffect.aborted, heffect.connected, ?_, ?_,
        ?_, .inl rfl, ?_, ?_, heffect.view.skipped⟩
      · exact fun hconnected =>
          (heffect.announced hconnected).imp_right fun haborted => ⟨attempt, hx, haborted⟩
      · exact fun hstale => heffect.stale fun hcurrent => hstale hcurrent.1
      · exact fun hrunning hstopped =>
          absurd (heffect.view.desiredState.trans hrunning) hstopped
      · intro r hr
        rcases heffect.view.sourced r hr with hold | hnew
        · exact .inl hold
        · exact (heffect.delivered r hr).imp_right fun hconnected => ⟨hconnected, attempt, hx, hnew⟩
      · intro after hafter
        obtain rfl := Option.some.inj (hphase.symm.trans hafter)
        exact .inl ⟨attempt, hx, heffect.inputs, fun haborted => heffect.attempt.trans haborted⟩
    cases thrown with
    | none => exact hgo _ (hnext _ _)
    | some error => exact hgo _ rfl

theorem attempt_abortAttempt {phase : SessionPhase F} {stopTimer : Bool} {attempt : Attempt F}
    (h : (phase.abortAttempt stopTimer).attempt = some attempt) :
    attempt.aborted = true ∧
      ∃ before, phase.attempt = some before ∧ attempt.inputs = before.inputs := by
  cases phase with
  | opening before | reading before | cancelling before =>
    obtain rfl := Option.some.inj h
    exact ⟨rfl, before, rfl, rfl⟩
  | delaying | rejected | ended => cases h

/-- What a session changes when it resumes. -/
theorem SessionStep.effect {event : SessionEvent} {result : RealtimeStream E F × StreamSession F}
    (h : SessionStep modules s x event result) : SessionEffect s x result.1 result.2 := by
  cases h with
  | readyTimeout hphase htimer =>
    refine .self fun attempt hattempt => ?_
    obtain ⟨haborted, before, hbefore, hinputs⟩ := attempt_abortAttempt hattempt
    exact ⟨before, hbefore, hinputs, fun _ => haborted⟩
  | @opened attempt now hphase =>
    have hattempt : attempt.startReading.attempt = some attempt := by
      unfold Attempt.startReading
      split <;> rfl
    have hx : x.phase.attempt = some attempt := by rw [hphase]; rfl
    refine ⟨rfl, rfl, rfl, rfl, rfl, rfl, rfl, id, .inl, fun _ => rfl,
      fun hrunning hstopped => absurd hrunning hstopped, .inl rfl, fun r hr => .inl hr, ?_, id⟩
    intro after hafter
    obtain rfl := Option.some.inj (hattempt.symm.trans hafter)
    exact .inl ⟨attempt, hx, rfl, id⟩
  | openFailed error hphase => exact sessionEffect_catchError error
  | chunk now text callbacks hphase hcurrent =>
    exact sessionEffect_consume now text callbacks (by rw [hphase]; rfl) fun _ _ => rfl
  | @chunkIgnored attempt guard now text callbacks hphase hcurrent =>
    refine .self ?_
    rintro _ ⟨⟩
    exact ⟨attempt, by rw [hphase]; rfl, rfl, id⟩
  | finished now text callbacks hphase =>
    exact sessionEffect_consume now text callbacks (by rw [hphase]; rfl) fun _ _ => rfl
  | @readFailed attempt guard error hphase =>
    refine .self ?_
    rintro _ ⟨⟩
    exact ⟨attempt, by rw [hphase]; rfl, rfl, id⟩
  | cancelledAborted hphase haborted => exact .finish s x
  | cancelledClosed hphase haborted => exact sessionEffect_catchError _
  | cancelled hphase => exact sessionEffect_catchError _
  | delayed hphase => exact sessionEffect_attemptNext
  | delayAborted hphase haborted => exact .finish s x
  | threw error hphase => exact .self nofun
  | caught hphase hcurrent => exact sessionEffect_stop _ hcurrent.1
  | caughtIgnored hphase hcurrent => exact .finish s x

/-- A session that has ended does not resume. -/
theorem SessionStep.not_ended {event : SessionEvent}
    {result : RealtimeStream E F × StreamSession F}
    (h : SessionStep modules s x event result) : x.phase ≠ .ended := by
  intro hended
  cases h with
  | readyTimeout hphase => rw [hended] at hphase; cases hphase
  | threw error hphase => exact hphase hended
  | opened _ hphase | openFailed _ hphase | chunk _ _ _ hphase | chunkIgnored _ _ _ hphase
  | finished _ _ _ hphase | readFailed _ hphase | cancelledAborted hphase | cancelledClosed hphase
  | cancelled hphase | delayed hphase | delayAborted hphase | caught hphase
  | caughtIgnored hphase => rw [hended] at hphase; cases hphase

end Effects

/-! ## What is kept -/

section Kept

variable {E F : Type} {modules : StreamModules E F} {s t : RealtimeStream E F}

/-- The sessions have generations of their own, none newer than the current one; the current one has
ended unless the stream is to run, and a session that is aborted reads with a signal that is. -/
structure SessionsKept (s : RealtimeStream E F) : Prop where
  bounded : ∀ x ∈ s.sessions, x.generation ≤ s.sessionGeneration
  distinct : (s.sessions.map StreamSession.generation).Nodup
  ended : ∀ x ∈ s.sessions, x.generation = s.sessionGeneration →
    s.view.desiredState ≠ .running → x.phase = .ended
  aborted : ∀ x ∈ s.sessions, x.aborted = true → ∀ attempt, x.phase.attempt = some attempt →
    attempt.aborted = true
  opened : ∀ o ∈ s.opened, o.generation ≤ s.sessionGeneration

/-- The session of a stream has connected. -/
def RealtimeStream.Connected (s : RealtimeStream E F) (o : OpenedStream F) : Prop :=
  ∃ x ∈ s.sessions, x.generation = o.generation ∧ x.wasConnected = true

/-- The session of a stream is not aborted, or has connected. -/
def RealtimeStream.Live (s : RealtimeStream E F) (o : OpenedStream F) : Prop :=
  ∃ x ∈ s.sessions, x.generation = o.generation ∧ (x.aborted = false ∨ x.wasConnected = true)

theorem RealtimeStream.Connected.live {o : OpenedStream F} (h : s.Connected o) : s.Live o := by
  obtain ⟨x, hx, hgeneration, hconnected⟩ := h
  exact ⟨x, hx, hgeneration, .inr hconnected⟩

/-- A buffered event, and the stream of the current session, has what the watcher saw last, or is of
a stream that was opened since. -/
structure Sourced (modules : StreamModules E F) (s : RealtimeStream E F) : Prop where
  buffered : ∀ r ∈ s.view.eventBuffer.events,
    modules.watched r.inputs = modules.watched s.watchedInputs ∨
      ∃ o ∈ s.opened, o.inputs = r.inputs ∧ s.Connected o
  current : ∀ x ∈ s.sessions, x.generation = s.sessionGeneration → ∀ attempt,
    x.phase.attempt = some attempt →
      modules.watched attempt.inputs = modules.watched s.watchedInputs ∨
        ⟨x.generation, attempt.inputs⟩ ∈ s.opened

/-- What is kept along every run. -/
structure StreamKept (modules : StreamModules E F) (s : RealtimeStream E F) : Prop where
  sessions : SessionsKept s
  sourced : Sourced modules s
  skipped : s.view.backendSkipped ≤ MAX_SAFE_INTEGER

theorem generations_abortController (sessions : List (StreamSession F)) :
    (abortController sessions).map StreamSession.generation =
      sessions.map StreamSession.generation := by
  cases sessions with
  | nil => rfl
  | cons newest older => rfl

/-- A session after an abort. -/
theorem mem_abortController {sessions : List (StreamSession F)} {x : StreamSession F}
    (hx : x ∈ abortController sessions) :
    x ∈ sessions ∨ ∃ newest ∈ sessions, x = newest.abort := by
  cases sessions with
  | nil => exact absurd hx List.not_mem_nil
  | cons newest older =>
    rcases List.mem_cons.mp hx with rfl | hx
    · exact .inr ⟨newest, List.mem_cons_self, rfl⟩
    · exact .inl (List.mem_cons_of_mem _ hx)

/-- An abort leaves the sessions that have connected. -/
theorem exists_abortController {sessions : List (StreamSession F)} {x : StreamSession F}
    (hx : x ∈ sessions) : ∃ y ∈ abortController sessions, y.generation = x.generation ∧
      y.wasConnected = x.wasConnected := by
  cases sessions with
  | nil => exact absurd hx List.not_mem_nil
  | cons newest older =>
    rcases List.mem_cons.mp hx with rfl | hx
    · exact ⟨_, List.mem_cons_self, rfl, rfl⟩
    · exact ⟨x, List.mem_cons_of_mem _ hx, rfl, rfl⟩

/-- An abort makes no stream live. -/
theorem RealtimeStream.Live.of_abandon {o : OpenedStream F} {desiredState : DesiredState}
    (h : (s.abandon desiredState).Live o) : s.Live o := by
  obtain ⟨x, hx, hgeneration, hlive⟩ := h
  rcases mem_abortController hx with hx | ⟨newest, hnewest, rfl⟩
  · exact ⟨x, hx, hgeneration, hlive⟩
  · exact ⟨newest, hnewest, hgeneration, .inr (hlive.resolve_left nofun)⟩

/-- The generations of the sessions after an abort are older than the next one. -/
theorem SessionsKept.older (h : SessionsKept s) :
    ∀ x ∈ abortController s.sessions, x.generation < s.sessionGeneration + 1 := by
  intro x hx
  rcases mem_abortController hx with hx | ⟨newest, hnewest, rfl⟩
  · exact Nat.lt_succ_of_le (h.bounded x hx)
  · exact Nat.lt_succ_of_le (h.bounded newest hnewest)

/-- Where what is shown holds no other event, and the stream is to run as before. -/
theorem StreamKept.view {view : StreamView E F} (h : StreamKept modules s)
    (hdesired : view.desiredState = s.view.desiredState)
    (hevents : ∀ r ∈ view.eventBuffer.events, r ∈ s.view.eventBuffer.events)
    (hskipped : view.backendSkipped ≤ MAX_SAFE_INTEGER) : StreamKept modules { s with view } where
  sessions := ⟨h.sessions.bounded, h.sessions.distinct, fun x hx hcurrent hstopped =>
    h.sessions.ended x hx hcurrent (hdesired ▸ hstopped), h.sessions.aborted, h.sessions.opened⟩
  sourced := ⟨fun r hr => h.sourced.buffered r (hevents r hr), h.sourced.current⟩
  skipped := hskipped

/-- A stream that is abandoned has no current session. -/
theorem SessionsKept.abandon_none (h : SessionsKept s) (desiredState : DesiredState) :
    ∀ x ∈ (s.abandon desiredState).sessions,
      x.generation ≠ (s.abandon desiredState).sessionGeneration :=
  fun x hx => Nat.ne_of_lt (h.older x hx)

theorem SessionsKept.abandon (h : SessionsKept s) (desiredState : DesiredState) :
    SessionsKept (s.abandon desiredState) := by
  refine ⟨fun x hx => Nat.le_of_lt (h.older x hx), ?_, ?_, ?_, ?_⟩
  · show ((abortController s.sessions).map StreamSession.generation).Nodup
    rw [generations_abortController]
    exact h.distinct
  · exact fun x hx hcurrent => absurd hcurrent (h.abandon_none desiredState x hx)
  · intro x hx haborted attempt hattempt
    rcases mem_abortController hx with hx | ⟨newest, -, rfl⟩
    · exact h.aborted x hx haborted attempt hattempt
    · exact (attempt_abortAttempt hattempt).1
  · exact fun o ho => Nat.le_succ_of_le (h.opened o ho)

theorem StreamKept.abandon (h : StreamKept modules s) (desiredState : DesiredState) :
    StreamKept modules (s.abandon desiredState) := by
  refine ⟨h.sessions.abandon desiredState, ⟨fun r hr => ?_, fun x hx hcurrent =>
    absurd hcurrent (h.sessions.abandon_none desiredState x hx)⟩, h.skipped⟩
  refine (h.sourced.buffered r hr).imp_right ?_
  rintro ⟨o, ho, hinputs, x, hx, hgeneration, hconnected⟩
  obtain ⟨y, hy, hsame, hkept⟩ := exists_abortController hx
  exact ⟨o, ho, hinputs, y, hy, hsame.trans hgeneration, hkept.trans hconnected⟩

/-- A session opens streams of its own, with the inputs of the page. -/
theorem SessionEffect.opened_cases {x y : StreamSession F} (h : SessionEffect s x t y)
    {o : OpenedStream F} (ho : o ∈ t.opened) : o = ⟨x.generation, s.inputs⟩ ∨ o ∈ s.opened := by
  rcases h.opened with hsame | hnew
  · exact .inr (hsame ▸ ho)
  · exact List.mem_cons.mp (hnew ▸ ho)

theorem SessionEffect.opened_le {x y : StreamSession F} (h : SessionEffect s x t y)
    (hkept : SessionsKept s) (hx : x.generation ≤ s.sessionGeneration) :
    ∀ o ∈ t.opened, o.generation ≤ t.sessionGeneration := by
  rw [h.sessionGeneration]
  intro o ho
  rcases h.opened_cases ho with rfl | ho
  · exact hx
  · exact hkept.opened o ho

theorem SessionEffect.mem_opened {x y : StreamSession F} (h : SessionEffect s x t y)
    {o : OpenedStream F} (ho : o ∈ s.opened) : o ∈ t.opened := by
  rcases h.opened with hsame | hnew
  · rwa [hsame]
  · rw [hnew]
    exact List.mem_cons_of_mem _ ho

/-- A first session of a generation, which has run to where it is suspended. -/
theorem StreamKept.add {x y : StreamSession F} (h : StreamKept modules s)
    (hnone : ∀ x ∈ s.sessions, x.generation ≠ s.sessionGeneration)
    (hx : x.generation = s.sessionGeneration) (hrunning : s.view.desiredState = .running)
    (hattempt : x.phase.attempt = none) (heffect : SessionEffect s x t y) :
    StreamKept modules { t with sessions := y :: t.sessions } := by
  have hy : y.generation = s.sessionGeneration := heffect.generation.trans hx
  refine ⟨⟨?_, ?_, ?_, ?_, ?_⟩, ⟨fun r hr => ?_, ?_⟩, heffect.skipped h.skipped⟩
  · show ∀ z ∈ y :: t.sessions, z.generation ≤ t.sessionGeneration
    rw [heffect.sessions, heffect.sessionGeneration, List.forall_mem_cons]
    exact ⟨Nat.le_of_eq hy, h.sessions.bounded⟩
  · show (y.generation :: t.sessions.map StreamSession.generation).Nodup
    rw [heffect.sessions, List.nodup_cons]
    refine ⟨?_, h.sessions.distinct⟩
    rw [hy]
    intro hmem
    obtain ⟨z, hz, hgeneration⟩ := List.mem_map.mp hmem
    exact hnone z hz hgeneration
  · show ∀ z ∈ y :: t.sessions, z.generation = t.sessionGeneration →
      t.view.desiredState ≠ .running → z.phase = .ended
    rw [heffect.sessions, heffect.sessionGeneration, List.forall_mem_cons]
    exact ⟨fun _ hstopped => heffect.stopped hrunning hstopped,
      fun z hz hcurrent => absurd hcurrent (hnone z hz)⟩
  · show ∀ z ∈ y :: t.sessions, z.aborted = true → ∀ attempt, z.phase.attempt = some attempt →
      attempt.aborted = true
    rw [heffect.sessions, List.forall_mem_cons]
    refine ⟨fun haborted attempt hphase => ?_, h.sessions.aborted⟩
    rcases heffect.attempt attempt hphase with ⟨before, hbefore, -⟩ | ⟨hnot, -⟩
    · rw [hattempt] at hbefore
      cases hbefore
    · rw [heffect.aborted, hnot] at haborted
      cases haborted
  · exact heffect.opened_le h.sessions (Nat.le_of_eq hx)
  · show modules.watched r.inputs = modules.watched t.watchedInputs ∨ _
    rw [heffect.watchedInputs]
    rcases heffect.sourced r hr with hold | ⟨-, attempt, hphase, -⟩
    · refine (h.sourced.buffered r hold).imp_right
        fun ⟨o, ho, hinputs, z, hz, hgeneration, hconnected⟩ =>
          ⟨o, heffect.mem_opened ho, hinputs, z, List.mem_cons_of_mem _ ?_, hgeneration, hconnected⟩
      rw [heffect.sessions]
      exact hz
    · rw [hattempt] at hphase
      cases hphase
  · show ∀ z ∈ y :: t.sessions, z.generation = t.sessionGeneration → ∀ attempt,
      z.phase.attempt = some attempt →
        modules.watched attempt.inputs = modules.watched t.watchedInputs ∨
          ⟨z.generation, attempt.inputs⟩ ∈ t.opened
    rw [List.forall_mem_cons]
    refine ⟨fun _ attempt hphase => ?_, fun z hz hcurrent => ?_⟩
    · rcases heffect.attempt attempt hphase with ⟨before, hbefore, -⟩ | ⟨-, hinputs, hmem⟩
      · rw [hattempt] at hbefore
        cases hbefore
      · rw [hinputs, heffect.generation]
        exact .inr hmem
    · rw [heffect.sessions] at hz
      rw [heffect.sessionGeneration] at hcurrent
      exact absurd hcurrent (hnone z hz)

/-- A new session is the current one. -/
theorem StreamKept.restart (hsessions : SessionsKept s)
    (habandoned : StreamKept modules (s.abandon .running)) :
    StreamKept modules s.startSession := by
  have hcleared : StreamKept modules { s.abandon .running with view :=
      { (s.abandon .running).view with
        errorMessage := none
        streamNotice := none
        connectedAt := none } } :=
    habandoned.view rfl (fun r hr => hr) habandoned.skipped
  exact hcleared.add (hsessions.abandon_none .running) rfl rfl rfl sessionEffect_attemptNext

theorem StreamKept.startSession (h : StreamKept modules s) :
    StreamKept modules s.startSession :=
  .restart h.sessions (h.abandon .running)

/-- The sessions after one of them has resumed. -/
theorem SessionsKept.mem_set {x y z : StreamSession F} {index : Nat} (h : SessionsKept s)
    (hx : s.sessions[index]? = some x) (hz : z ∈ s.sessions.set index y) :
    z = y ∨ z ∈ s.sessions ∧ z.generation ≠ x.generation := by
  obtain ⟨other, hother⟩ := List.mem_iff_getElem?.mp hz
  rw [List.getElem?_set] at hother
  split at hother
  · split at hother
    · exact .inl (Option.some.inj hother).symm
    · cases hother
  · next hne =>
    refine .inr ⟨List.mem_of_getElem? hother, fun hgeneration => hne ?_⟩
    have hlt : index < (s.sessions.map StreamSession.generation).length := by
      rw [List.length_map]
      exact (List.getElem?_eq_some_iff.mp hx).1
    refine (List.getElem?_inj hlt h.distinct).mp ?_
    rw [List.getElem?_map, List.getElem?_map, hx, hother, Option.map_some, Option.map_some,
      hgeneration]

/-- A session that has resumed is one of the sessions. -/
theorem mem_set_self {x y : StreamSession F} {index : Nat} (hx : s.sessions[index]? = some x) :
    y ∈ s.sessions.set index y :=
  List.mem_set (List.getElem?_eq_some_iff.mp hx).1 y

/-- The sessions that have connected, after one of them has resumed. -/
theorem RealtimeStream.Connected.set {x y : StreamSession F} {index : Nat} {o : OpenedStream F}
    (h : s.Connected o) (heffect : SessionEffect s x t y) (hx : s.sessions[index]? = some x) :
    ({ t with sessions := t.sessions.set index y } : RealtimeStream E F).Connected o := by
  obtain ⟨z, hz, hgeneration, hconnected⟩ := h
  show ∃ z ∈ t.sessions.set index y, _
  rw [heffect.sessions]
  obtain ⟨other, hother⟩ := List.mem_iff_getElem?.mp hz
  by_cases hindex : other = index
  · obtain rfl : z = x := Option.some.inj (hother.symm.trans (hindex ▸ hx))
    exact ⟨y, mem_set_self hx, heffect.generation.trans hgeneration, heffect.connected hconnected⟩
  · refine ⟨z, List.mem_iff_getElem?.mpr ⟨other, ?_⟩, hgeneration, hconnected⟩
    rw [List.getElem?_set_ne (Ne.symm hindex), hother]

/-- A session that resumes makes no stream live. -/
theorem RealtimeStream.Live.of_set {x y : StreamSession F} {index : Nat} {o : OpenedStream F}
    (h : ({ t with sessions := t.sessions.set index y } : RealtimeStream E F).Live o)
    (hkept : SessionsKept s) (heffect : SessionEffect s x t y)
    (hx : s.sessions[index]? = some x) : s.Live o := by
  have hmem : x ∈ s.sessions := List.mem_of_getElem? hx
  obtain ⟨z, hz, hgeneration, hlive⟩ := h
  have hz : z ∈ t.sessions.set index y := hz
  rw [heffect.sessions] at hz
  rcases hkept.mem_set hx hz with rfl | ⟨hz, -⟩
  · refine ⟨x, hmem, heffect.generation.symm.trans hgeneration, ?_⟩
    rcases hlive with hnot | hconnected
    · exact .inl (heffect.aborted.symm.trans hnot)
    · rcases heffect.announced hconnected with hbefore | ⟨attempt, hphase, hnot⟩
      · exact .inr hbefore
      · refine .inl (Bool.eq_false_iff.mpr fun haborted => ?_)
        rw [hkept.aborted x hmem haborted attempt hphase] at hnot
        cases hnot
  · exact ⟨z, hz, hgeneration, hlive⟩

/-- A session resumes. -/
theorem SessionsKept.session {x : StreamSession F} {index : Nat} {event : SessionEvent}
    {y : StreamSession F} (h : SessionsKept s) (hx : s.sessions[index]? = some x)
    (hstep : SessionStep modules s x event (t, y)) :
    SessionsKept { t with sessions := t.sessions.set index y } := by
  have heffect : SessionEffect s x t y := hstep.effect
  have hmem : x ∈ s.sessions := List.mem_of_getElem? hx
  have hset := fun z => h.mem_set (z := z) (y := y) hx
  -- A session that can resume is to run where it is the current one.
  have hrunning : x.generation = s.sessionGeneration → s.view.desiredState = .running := by
    intro hcurrent
    by_contra hstopped
    exact hstep.not_ended (h.ended x hmem hcurrent hstopped)
  refine ⟨?_, ?_, ?_, ?_, heffect.opened_le h (h.bounded x hmem)⟩
  · show ∀ z ∈ t.sessions.set index y, z.generation ≤ t.sessionGeneration
    rw [heffect.sessions, heffect.sessionGeneration]
    intro z hz
    rcases hset z hz with rfl | ⟨hz, -⟩
    · rw [heffect.generation]
      exact h.bounded x hmem
    · exact h.bounded z hz
  · show ((t.sessions.set index y).map StreamSession.generation).Nodup
    have hsame : (s.sessions.set index y).map StreamSession.generation =
        s.sessions.map StreamSession.generation := by
      rw [List.map_set, heffect.generation, ← List.map_set]
      obtain ⟨hlt, rfl⟩ := List.getElem?_eq_some_iff.mp hx
      rw [List.set_getElem_self]
    rw [heffect.sessions, hsame]
    exact h.distinct
  · show ∀ z ∈ t.sessions.set index y, z.generation = t.sessionGeneration →
      t.view.desiredState ≠ .running → z.phase = .ended
    rw [heffect.sessions, heffect.sessionGeneration]
    intro z hz hcurrent hstopped
    rcases hset z hz with rfl | ⟨hz, hne⟩
    · exact heffect.stopped (hrunning (heffect.generation.symm.trans hcurrent)) hstopped
    · -- Another session is the current one, and what is shown stays.
      refine h.ended z hz hcurrent ?_
      rwa [← heffect.stale fun hx => hne (hcurrent.trans hx.symm)]
  · show ∀ z ∈ t.sessions.set index y, z.aborted = true → ∀ attempt,
      z.phase.attempt = some attempt → attempt.aborted = true
    rw [heffect.sessions]
    intro z hz haborted attempt hphase
    rcases hset z hz with rfl | ⟨hz, -⟩
    · rw [heffect.aborted] at haborted
      rcases heffect.attempt attempt hphase with ⟨before, hbefore, -, hkept⟩ | ⟨hnot, -⟩
      · exact hkept (h.aborted x hmem haborted before hbefore)
      · rw [hnot] at haborted
        cases haborted
    · exact h.aborted z hz haborted attempt hphase

theorem StreamKept.session {x : StreamSession F} {index : Nat} {event : SessionEvent}
    {result : RealtimeStream E F × StreamSession F} (h : StreamKept modules s)
    (hx : s.sessions[index]? = some x) (hstep : SessionStep modules s x event result) :
    StreamKept modules
      { result.1 with sessions := result.1.sessions.set index result.2 } := by
  obtain ⟨t, y⟩ := result
  have heffect : SessionEffect s x t y := hstep.effect
  have hmem : x ∈ s.sessions := List.mem_of_getElem? hx
  refine ⟨h.sessions.session hx hstep, ⟨fun r hr => ?_, ?_⟩, heffect.skipped h.skipped⟩
  · have hold : r ∈ s.view.eventBuffer.events →
        modules.watched r.inputs = modules.watched t.watchedInputs ∨
          ∃ o ∈ t.opened, o.inputs = r.inputs ∧
            ({ t with sessions := t.sessions.set index y } : RealtimeStream E F).Connected o := by
      intro hr
      rw [heffect.watchedInputs]
      exact (h.sourced.buffered r hr).imp_right fun ⟨o, ho, hinputs, hconnected⟩ =>
        ⟨o, heffect.mem_opened ho, hinputs, hconnected.set heffect hx⟩
    by_cases hcurrent : x.generation = s.sessionGeneration
    · rcases heffect.sourced r hr with hr | ⟨hconnected, attempt, hphase, hinputs⟩
      · exact hold hr
      · show modules.watched r.inputs = modules.watched t.watchedInputs ∨ _
        rw [heffect.watchedInputs, hinputs]
        refine (h.sourced.current x hmem hcurrent attempt hphase).imp_right fun ho =>
          ⟨_, heffect.mem_opened ho, rfl, y, ?_, heffect.generation, hconnected⟩
        show y ∈ t.sessions.set index y
        rw [heffect.sessions]
        exact mem_set_self hx
    · have hr : r ∈ t.view.eventBuffer.events := hr
      rw [heffect.stale hcurrent] at hr
      exact hold hr
  · show ∀ z ∈ t.sessions.set index y, z.generation = t.sessionGeneration → ∀ attempt,
      z.phase.attempt = some attempt →
        modules.watched attempt.inputs = modules.watched t.watchedInputs ∨
          ⟨z.generation, attempt.inputs⟩ ∈ t.opened
    rw [heffect.sessions, heffect.sessionGeneration, heffect.watchedInputs]
    intro z hz hcurrent attempt hphase
    rcases h.sessions.mem_set hx hz with rfl | ⟨hz, -⟩
    · rw [heffect.generation] at hcurrent ⊢
      rcases heffect.attempt attempt hphase with ⟨before, hbefore, hinputs, -⟩ | ⟨-, hinputs, ho⟩
      · rw [hinputs]
        exact (h.sourced.current x hmem hcurrent before hbefore).imp_right heffect.mem_opened
      · rw [hinputs]
        exact .inr ho
    · exact (h.sourced.current z hz hcurrent attempt hphase).imp_right heffect.mem_opened

/-- What is shown of no events. -/
theorem StreamKept.clearEvents (h : StreamKept modules s) :
    StreamKept modules { s with view := s.view.clearEvents } :=
  h.view rfl nofun (Nat.zero_le _)

theorem StreamKept.disconnect (h : StreamKept modules s) (now : Nat) :
    StreamKept modules (s.disconnect now) := by
  have habandoned := h.abandon .stopped
  unfold RealtimeStream.disconnect StreamView.flushScheduledEvents
  dsimp only
  split
  · exact habandoned.view rfl (fun r hr => hr) habandoned.skipped
  · exact habandoned.view rfl (fun r hr => hr) habandoned.skipped

theorem StreamKept.pause (h : StreamKept modules s) (now : Nat) :
    StreamKept modules (s.pause now) := by
  have habandoned := h.abandon .paused
  unfold RealtimeStream.pause StreamView.flushScheduledEvents
  dsimp only
  split
  · exact habandoned.view rfl (fun r hr => hr) habandoned.skipped
  · exact habandoned.view rfl (fun r hr => hr) habandoned.skipped

/-- Other inputs or another token of the page. -/
theorem SessionsKept.of_sessions (h : SessionsKept s) (hsessions : t.sessions = s.sessions)
    (hgeneration : t.sessionGeneration = s.sessionGeneration)
    (hdesired : t.view.desiredState = s.view.desiredState)
    (hopened : ∀ o ∈ t.opened, o ∈ s.opened) : SessionsKept t := by
  refine ⟨?_, ?_, ?_, ?_, fun o ho => ?_⟩
  · rw [hsessions, hgeneration]
    exact h.bounded
  · rw [hsessions]
    exact h.distinct
  · rw [hsessions, hgeneration, hdesired]
    exact h.ended
  · rw [hsessions]
    exact h.aborted
  · rw [hgeneration]
    exact h.opened o (hopened o ho)

/-- An action of the page. -/
theorem StreamKept.perform (h : StreamKept modules s) (action : PageAction F) :
    StreamKept modules (s.perform action) := by
  cases action with
  | mounted => exact h.startSession
  | unmounted now =>
    have hdisconnected := h.disconnect now
    exact hdisconnected.view rfl (fun r hr => hr) hdisconnected.skipped
  | connect =>
    show StreamKept modules (if s.view.desiredState = .running then s else s.startSession)
    split
    · exact h
    · exact h.startSession
  | resume =>
    show StreamKept modules (if s.view.desiredState = .paused then s.startSession else s)
    split
    · exact h.startSession
    · exact h
  | pause now => exact h.pause now
  | disconnect now => exact h.disconnect now
  | clearEvents => exact h.clearEvents
  | dismissLag => exact h.view rfl (fun r hr => hr) h.skipped
  | watchdog now =>
    show StreamKept modules (s.runWatchdog now)
    unfold RealtimeStream.runWatchdog
    split
    · exact StreamKept.startSession (h.view rfl (fun r hr => hr) h.skipped)
    · exact h
  | change | signIn =>
    exact ⟨h.sessions.of_sessions rfl rfl rfl fun o ho => ho,
      ⟨h.sourced.buffered, h.sourced.current⟩, h.skipped⟩

/-- The watcher leaves everything as it is, or starts anew with no events. -/
theorem StreamKept.runWatcher (h : StreamKept modules s) :
    StreamKept modules (s.runWatcher modules) := by
  unfold RealtimeStream.runWatcher
  dsimp only
  by_cases hchanged : modules.watched s.inputs ≠ modules.watched s.watchedInputs
  · have hcleared : SessionsKept { s with
        watchedInputs := s.inputs
        watchPending := false
        opened := []
        view := s.view.clearEvents } :=
      h.sessions.of_sessions rfl rfl rfl nofun
    rw [if_pos hchanged]
    split
    · exact .restart hcleared ⟨hcleared.abandon .running, ⟨nofun, fun x hx hcurrent =>
        absurd hcurrent (hcleared.abandon_none .running x hx)⟩, Nat.zero_le _⟩
    · next hstopped =>
      refine ⟨hcleared, ⟨nofun, fun x hx hcurrent attempt hphase => ?_⟩, Nat.zero_le _⟩
      -- The current session has ended, and reads no stream.
      rw [h.sessions.ended x hx hcurrent hstopped] at hphase
      cases hphase
  · rw [if_neg hchanged]
    have hsame : modules.watched s.inputs = modules.watched s.watchedInputs := not_not.mp hchanged
    refine ⟨h.sessions.of_sessions rfl rfl rfl fun o ho => ho, ⟨fun r hr => ?_,
      fun x hx hcurrent attempt hphase => ?_⟩, h.skipped⟩
    · show modules.watched r.inputs = modules.watched s.inputs ∨ _
      rw [hsame]
      exact h.sourced.buffered r hr
    · show modules.watched attempt.inputs = modules.watched s.inputs ∨ _
      rw [hsame]
      exact h.sourced.current x hx hcurrent attempt hphase

/-- What every step keeps. -/
theorem StreamKept.step {label : StreamLabel F} (h : StreamKept modules s)
    (hstep : StreamStep modules s label t) : StreamKept modules t := by
  cases hstep with
  | page action => exact h.perform action
  | watcher hpending => exact h.runWatcher
  | animationFrame now hframe => exact h.view rfl (fun r hr => hr) h.skipped
  | session hx hstep => exact h.session hx hstep

theorem StreamKept.new (inputs : StreamInputs F) (accessToken : Option String) :
    StreamKept modules (.new inputs accessToken) where
  sessions := ⟨fun _ hx => absurd hx List.not_mem_nil, List.nodup_nil,
    fun _ hx => absurd hx List.not_mem_nil, fun _ hx => absurd hx List.not_mem_nil,
    fun _ ho => absurd ho List.not_mem_nil⟩
  sourced := ⟨fun _ hr => absurd hr List.not_mem_nil, fun _ hx => absurd hx List.not_mem_nil⟩
  skipped := Nat.zero_le _

/-- A session that is not the current one, or that runs while the stream is not to run, changes
nothing that is shown. -/
theorem StreamStep.view_of_stale {index : Nat} {event : SessionEvent} {x : StreamSession F}
    (h : StreamKept modules s) (hstep : StreamStep modules s (.session index event) t)
    (hx : s.sessions[index]? = some x)
    (hstale : x.generation ≠ s.sessionGeneration ∨ s.view.desiredState ≠ .running) :
    t.view = s.view := by
  cases hstep with
  | session hx' hsession =>
    obtain rfl := Option.some.inj (hx.symm.trans hx')
    refine hsession.effect.stale ?_
    rcases hstale with hother | hstopped
    · exact hother
    · intro hcurrent
      exact hsession.not_ended
        (h.sessions.ended x (List.mem_of_getElem? hx) hcurrent hstopped)

end Kept

end Web
end PipeBolt
