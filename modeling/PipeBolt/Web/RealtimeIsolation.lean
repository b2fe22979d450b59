import PipeBolt.Web.RealtimeSessions

/-!
# The project and the filters of a realtime stream

The watcher of `useRealtimeStream.ts` restarts the stream where the project or the filters have
changed since it ran last, and finds no change where the page has left a project and returned to it.

* `realtimeStream_isolated`: what is shown comes from the current session, and what is buffered from
  streams of the page's project and filters.
* `switched_back`: an event of a project that the page has left and returned from.
-/

namespace PipeBolt
namespace Web

open Js Transition

/-! ## Changes of the project and of the filters -/

section Changes

variable {E F : Type} {modules : StreamModules E F} {s t : RealtimeStream E F}

/-- The project and the filters are not set back to what the watcher saw last while a stream that
was opened with others is live. -/
def NotSwitchedBack (modules : StreamModules E F)
    (e : Edge (RealtimeStream E F) (StreamLabel F)) : Prop :=
  ∀ inputs, e.label = .page (.change inputs) →
    modules.watched inputs = modules.watched e.source.watchedInputs →
    ∀ o ∈ e.source.opened, e.source.Live o → modules.watched o.inputs = modules.watched inputs

/-- Where the page has what the watcher saw last, so has every live stream; where it has not, the
watcher is to run. -/
structure Settled (modules : StreamModules E F) (s : RealtimeStream E F) : Prop where
  opened : modules.watched s.inputs = modules.watched s.watchedInputs →
    ∀ o ∈ s.opened, s.Live o → modules.watched o.inputs = modules.watched s.watchedInputs
  pending : s.watchPending = false → modules.watched s.inputs = modules.watched s.watchedInputs

/-- A step that opens streams with the inputs of the page only, and makes none live. -/
theorem Settled.open (h : Settled modules s) (hinputs : t.inputs = s.inputs)
    (hwatched : t.watchedInputs = s.watchedInputs) (hpending : t.watchPending = s.watchPending)
    (hopened : ∀ o ∈ t.opened, t.Live o → o ∈ s.opened ∧ s.Live o ∨ o.inputs = s.inputs) :
    Settled modules t := by
  refine ⟨?_, ?_⟩
  · rw [hinputs, hwatched]
    intro hsame o ho hlive
    rcases hopened o ho hlive with ⟨hold, hlive⟩ | hnew
    · exact h.opened hsame o hold hlive
    · rw [hnew]
      exact hsame
  · rw [hinputs, hwatched, hpending]
    exact h.pending

theorem Settled.abandon (h : Settled modules s) (desiredState : DesiredState) :
    Settled modules (s.abandon desiredState) :=
  h.open rfl rfl rfl fun _ ho hlive => .inl ⟨ho, hlive.of_abandon⟩

/-- A first session of a generation, in which no stream was opened before. -/
theorem Settled.add {x y : StreamSession F} (h : Settled modules s)
    (hopened : ∀ o ∈ s.opened, o.generation < x.generation) (heffect : SessionEffect s x t y) :
    Settled modules { t with sessions := y :: t.sessions } := by
  refine h.open heffect.inputs heffect.watchedInputs heffect.watchPending ?_
  intro o ho hlive
  rcases heffect.opened_cases ho with rfl | hold
  · exact .inr rfl
  · refine .inl ⟨hold, ?_⟩
    obtain ⟨z, hz, hgeneration, hz'⟩ := hlive
    rcases List.mem_cons.mp hz with rfl | hz
    · have hlt := hopened o hold
      rw [← hgeneration, heffect.generation] at hlt
      exact absurd hlt (Nat.lt_irrefl _)
    · rw [heffect.sessions] at hz
      exact ⟨z, hz, hgeneration, hz'⟩

theorem Settled.startSession (h : Settled modules s)
    (hopened : ∀ o ∈ s.opened, o.generation ≤ s.sessionGeneration) :
    Settled modules s.startSession := by
  have habandoned : Settled modules { s.abandon .running with view :=
      { (s.abandon .running).view with
        errorMessage := none
        streamNotice := none
        connectedAt := none } } := ⟨(h.abandon .running).opened, h.pending⟩
  exact habandoned.add (fun o ho => Nat.lt_succ_of_le (hopened o ho)) sessionEffect_attemptNext

theorem Settled.perform (h : Settled modules s)
    (hopened : ∀ o ∈ s.opened, o.generation ≤ s.sessionGeneration) (action : PageAction F)
    (hback : ∀ inputs, action = .change inputs →
      modules.watched inputs = modules.watched s.watchedInputs →
      ∀ o ∈ s.opened, s.Live o → modules.watched o.inputs = modules.watched inputs) :
    Settled modules (s.perform action) := by
  cases action with
  | mounted => exact h.startSession hopened
  | connect =>
    show Settled modules (if s.view.desiredState = .running then s else s.startSession)
    split
    · exact h
    · exact h.startSession hopened
  | resume =>
    show Settled modules (if s.view.desiredState = .paused then s.startSession else s)
    split
    · exact h.startSession hopened
    · exact h
  | watchdog now =>
    show Settled modules (s.runWatchdog now)
    unfold RealtimeStream.runWatchdog
    split
    · exact Settled.startSession ⟨h.opened, h.pending⟩ hopened
    · exact h
  | change inputs =>
    refine ⟨fun hsame o ho hlive => ?_, nofun⟩
    exact (hback inputs rfl hsame o ho hlive).trans hsame
  | pause => exact ⟨(h.abandon .paused).opened, h.pending⟩
  | unmounted | disconnect => exact ⟨(h.abandon .stopped).opened, h.pending⟩
  | clearEvents | dismissLag | signIn => exact ⟨h.opened, h.pending⟩

theorem Settled.runWatcher (h : Settled modules s) : Settled modules (s.runWatcher modules) := by
  unfold RealtimeStream.runWatcher
  dsimp only
  by_cases hchanged : modules.watched s.inputs ≠ modules.watched s.watchedInputs
  · rw [if_pos hchanged]
    split
    · exact Settled.startSession ⟨fun _ => nofun, fun _ => rfl⟩ nofun
    · exact ⟨fun _ => nofun, fun _ => rfl⟩
  · rw [if_neg hchanged]
    have hsame : modules.watched s.inputs = modules.watched s.watchedInputs := not_not.mp hchanged
    exact ⟨fun _ o ho hlive => (h.opened hsame o ho hlive).trans hsame.symm, fun _ => rfl⟩

theorem Settled.session {x y : StreamSession F} {index : Nat} {event : SessionEvent}
    (h : Settled modules s) (hkept : StreamKept modules s) (hx : s.sessions[index]? = some x)
    (hstep : SessionStep modules s x event (t, y)) :
    Settled modules { t with sessions := t.sessions.set index y } := by
  have heffect : SessionEffect s x t y := hstep.effect
  refine h.open heffect.inputs heffect.watchedInputs heffect.watchPending ?_
  intro o ho hlive
  rcases heffect.opened_cases ho with rfl | hold
  · exact .inr rfl
  · exact .inl ⟨hold, hlive.of_set hkept.sessions heffect hx⟩

theorem Settled.step {label : StreamLabel F} (h : Settled modules s)
    (hkept : StreamKept modules s) (hstep : StreamStep modules s label t)
    (hback : NotSwitchedBack modules ⟨s, label, t⟩) : Settled modules t := by
  cases hstep with
  | page action =>
    exact h.perform hkept.sessions.opened action fun inputs heq => hback inputs (congrArg _ heq)
  | watcher hpending => exact h.runWatcher
  | animationFrame now hframe => exact ⟨h.opened, h.pending⟩
  | session hx hstep => exact h.session hkept hx hstep

/-- **Realtime sessions.**  Along every run no session that is not the current one, or that runs
while the stream is not to run, changes what is shown.  Where the project and the filters are not
set back before the watcher has run to what it saw last, while a stream that was opened with others
is live, every buffered event is from a stream that was opened with those of the page once the
watcher has run. -/
theorem realtimeStream_isolated (modules : StreamModules E F) (inputs : StreamInputs F)
    (accessToken : Option String) (s : RealtimeStream E F)
    (es : List (Edge (RealtimeStream E F) (StreamLabel F)))
    (h : Run (StreamStep modules) (.new inputs accessToken) es s) :
    (∀ e ∈ es, ∀ index event x, e.label = .session index event →
      e.source.sessions[index]? = some x →
      (x.generation ≠ e.source.sessionGeneration ∨ e.source.view.desiredState ≠ .running) →
      e.target.view = e.source.view) ∧
    ((∀ e ∈ es, NotSwitchedBack modules e) → s.watchPending = false →
      ∀ r ∈ s.view.eventBuffer.events, modules.watched r.inputs = modules.watched s.inputs) := by
  have hkept := h.invariant' (StreamKept modules) (fun s l t hstep hs => hs.step hstep)
    (.new inputs accessToken)
  refine ⟨?_, fun hback hpending r hr => ?_⟩
  · rintro e he index event x hlabel hx hstale
    have hstep := h.step_of_mem e he
    rw [hlabel] at hstep
    exact hstep.view_of_stale (hkept.2 e he).1 hx hstale
  · have hsettled := (h.invariant (fun s => StreamKept modules s ∧ Settled modules s)
      (NotSwitchedBack modules)
      (fun e hok hstep hs => ⟨hs.1.step hstep, hs.2.step hs.1 hstep hok⟩) hback
      ⟨.new inputs accessToken, fun _ => nofun, fun _ => rfl⟩).1.2
    have hsame := hsettled.pending hpending
    rw [hsame]
    rcases hkept.1.sourced.buffered r hr with hwatched | ⟨o, ho, hinputs, hconnected⟩
    · exact hwatched
    · rw [← hinputs]
      exact hsettled.opened hsame o ho hconnected.live

end Changes

/-! ## A project that is left and returned to -/

section SwitchedBack

variable {E F : Type} {modules : StreamModules E F}

/-- The first event of a buffer is accepted where it is not too heavy. -/
theorem push_first {A : Type} {buffer : RealtimeEventBuffer A} {event : A} {frameLength : JsNumber}
    {weight : Nat} (hevents : buffer.events = []) (hempty : buffer.weight = 0)
    (hweight : (frameWeight frameLength).safeNat = some weight)
    (hlight : weight ≤ buffer.maxWeight.value) :
    ∃ after, buffer.push 1 event frameLength = some (⟨true, 0⟩, after) ∧
      after.events = [event] := by
  have hpos := buffer.maxEvents.pos
  have hsafe := buffer.maxWeight.safe
  have hroom : ¬ (buffer.maxEvents.value ≤ buffer.events.length - 0 ∨
      buffer.maxWeight.value < addNat (buffer.weight - 0) weight) := by
    rw [hevents, hempty, Nat.sub_zero, addNat_of_le (by omega), List.length_nil]
    omega
  have hloop : buffer.evictLoop weight 1 0 0 = some (0, 0) := by
    rw [RealtimeEventBuffer.evictLoop, if_neg hroom]
  rw [RealtimeEventBuffer.push, hweight]
  simp only [if_neg (Nat.not_lt.mpr hlight), hloop]
  exact ⟨_, rfl, by simp only [Nat.lt_irrefl, if_false, hevents, List.nil_append]⟩

theorem pushEvent_eventBuffer {view : StreamView E F} {event : ReceivedEvent E F}
    {frameLength : JsNumber} {result : RealtimeBufferPushResult}
    {after : RealtimeEventBuffer (ReceivedEvent E F)}
    (h : view.eventBuffer.push (view.eventBuffer.events.length + 1) event frameLength =
      some (result, after)) : (view.pushEvent event frameLength).eventBuffer = after := by
  unfold StreamView.pushEvent
  split
  · next hnone =>
    rw [h] at hnone
    cases hnone
  · next result' after' hsome =>
    rw [h] at hsome
    obtain ⟨rfl, rfl⟩ := Prod.mk.inj (Option.some.inj hsome)
    split
    · split <;> rfl
    · split <;> rfl

/-- A chunk with the message of one event. -/
theorem consume_event {s : RealtimeStream E F} {x : StreamSession F} {attempt : Attempt F}
    {guard guard' : FrameGuard} {now : Nat} {text : JsString} {data : FrameText} {event : E}
    {next : Attempt F → FrameGuard → SessionPhase F} (hguard : guardFrames guard text = .ok guard')
    (hcurrent : attempt.aborted = false ∧ x.generation = s.sessionGeneration ∧
      s.view.desiredState = .running)
    (hparsed : modules.parseRealtimeMessage data none attempt.projectId = .ok (.event event)) :
    (s.consume modules x attempt guard now text [.event data none] next).1.view =
      { s.view with connectionState := .connected }.pushEvent ⟨event, attempt.inputs⟩
        data.length := by
  obtain ⟨haborted, hgeneration, hdesired⟩ := hcurrent
  simp only [RealtimeStream.consume, hguard, Reading.feed, Reading.callback, Reading.onEvent,
    haborted, hgeneration, hdesired, bne_self_eq_false, Bool.or_self, Bool.false_eq_true, if_false,
    hparsed, StreamView.handleMessage, if_true]

/-- A session that reads a chunk with one event shows it first. -/
theorem chunk_buffered {s : RealtimeStream E F} {index : Nat} {x : StreamSession F}
    {attempt : Attempt F} {guard guard' : FrameGuard} {text : JsString} {data : FrameText}
    {event : E}
    (hx : s.sessions[index]? = some x) (hphase : x.phase = .reading attempt guard)
    (hcurrent : attempt.aborted = false ∧ x.generation = s.sessionGeneration ∧
      s.view.desiredState = .running)
    (hguard : guardFrames guard text = .ok guard')
    (hparsed : modules.parseRealtimeMessage data none attempt.projectId = .ok (.event event))
    (hpos : 1 ≤ data.units.length) (hshort : data.units.length ≤ 1000)
    (hempty : s.view.eventBuffer =
      ⟨[], [], REALTIME_EVENT_LIMIT, REALTIME_BUFFER_WEIGHT_LIMIT, 0⟩) :
    ∃ t, StreamStep modules s (.session index (.chunk 0 text [.event data none])) t ∧
      t.inputs = s.inputs ∧ t.watchPending = s.watchPending ∧
      t.view.eventBuffer.events = [⟨event, attempt.inputs⟩] := by
  have hstep : SessionStep modules s x (.chunk 0 text [.event data none]) _ :=
    .chunk 0 text [.event data none] hphase hcurrent
  refine ⟨_, .session hx hstep, hstep.effect.inputs, hstep.effect.watchPending, ?_⟩
  have hweight : (frameWeight data.length).safeNat = some (2 * data.units.length) := by
    rw [FrameText.length]
    exact safeNat_frameWeight hpos (by omega)
  have hlight : 2 * data.units.length ≤ s.view.eventBuffer.maxWeight.value := by
    have hlimit : REALTIME_BUFFER_WEIGHT_LIMIT.value = 16 * 1024 * 1024 := rfl
    rw [hempty]
    dsimp only
    omega
  obtain ⟨after, hpush, hevents⟩ :
      ∃ after, s.view.eventBuffer.push 1 ⟨event, attempt.inputs⟩ data.length =
        some (⟨true, 0⟩, after) ∧ after.events = [⟨event, attempt.inputs⟩] :=
    push_first (congrArg RealtimeEventBuffer.events hempty)
      (congrArg RealtimeEventBuffer.weight hempty) hweight hlight
  have hlength : s.view.eventBuffer.events.length + 1 = 1 := by rw [hempty]; rfl
  rw [← hlength] at hpush
  have hafter : ({ s.view with connectionState := .connected }.pushEvent ⟨event, attempt.inputs⟩
      data.length).eventBuffer = after := pushEvent_eventBuffer hpush
  show (s.consume modules x attempt guard 0 text [.event data none]
    .reading).1.view.eventBuffer.events = _
  rw [consume_event hguard hcurrent hparsed, hafter]
  exact hevents

/-- A page without filters. -/
def pageOf (project : String) : StreamInputs Unit := ⟨some project, ()⟩

/-- An event of the project `b`, as the server sends it. -/
@[irreducible] def eventJson : String :=
  "\x7b\"type\":\"event\",\"data\":\x7b\"id\":\"e\"," ++
  "\"correlation_id\":\"e\",\"project_id\":\"b\"," ++
  "\"broker_id\":\"m\",\"route_id\":\"r\"," ++ "\"topic\":\"t\",\"event_type\":\"telemetry\"," ++
  "\"received_at\":\"1970-01-01T00:00:00Z\"," ++ "\"payload_size_bytes\":0,\"payload\":\x7b" ++
  "\"type\":\"raw_base64\",\"value\":\"\"\x7d,\"fields\":\x7b\x7d," ++
  "\"normalization_errors\":[],\"metadata\":\x7b\x7d\x7d\x7d"

theorem length_eventJson :
    1 ≤ (ofString eventJson).length ∧ (ofString eventJson).length ≤ 1000 := by
  have hbytes : 1 ≤ eventJson.utf8ByteSize ∧ eventJson.utf8ByteSize ≤ 1000 := by decide +kernel
  rw [← byteLength_ofString] at hbytes
  refine ⟨List.length_pos_iff.mpr fun hempty => ?_,
    (length_le_byteLength _).2.trans hbytes.2⟩
  rw [hempty] at hbytes
  exact absurd hbytes.1 (by decide)

def eventData : FrameText :=
  ⟨ofString eventJson, length_eventJson.2.trans (Nat.le_of_ble_eq_true rfl)⟩

theorem length_eventData : 1 ≤ eventData.units.length ∧ eventData.units.length ≤ 1000 := by
  rw [eventData]
  exact length_eventJson

def eventChunk : JsString := ofString ("data: " ++ eventJson ++ "\n\n")

/-- The page has no filters; `eventJson` is the only message that is parsed below, and its event is
kept by its identifier. -/
def eventModules : StreamModules String Unit where
  parseRealtimeMessage := fun _ _ _ => .ok (.event "e")
  stringify := fun _ => ofString "\x7b\x7d"
  toLocaleString := toString

theorem guardFrames_eventChunk :
    ∃ guard, guardFrames ⟨0, 0, false⟩ eventChunk = .ok guard := by
  have hbytes : byteLength eventChunk ≤ 1000 := by
    rw [eventChunk, byteLength_ofString]
    decide +kernel
  have hcount := (length_le_byteLength eventChunk).1.trans hbytes
  exact guardFrames_first (hcount.trans (by decide))

/-- The project is left and returned to while the stream is paused, and in between it is resumed:
the watcher finds no change, and the stream that was opened stays. -/
theorem returned_run : ∃ es s x attempt,
    Run (StreamStep eventModules) (.new (pageOf "a") (some "token")) es s ∧
      s.sessions[0]? = some x ∧ x.phase = .reading attempt ⟨0, 0, false⟩ ∧
      (attempt.aborted = false ∧ x.generation = s.sessionGeneration ∧
        s.view.desiredState = .running) ∧
      s.view.eventBuffer = ⟨[], [], REALTIME_EVENT_LIMIT, REALTIME_BUFFER_WEIGHT_LIMIT, 0⟩ ∧
      attempt.inputs = pageOf "b" ∧ s.inputs = pageOf "a" ∧ s.watchPending = false := by
  have hrun : Run (StreamStep eventModules) (.new (pageOf "a") (some "token")) _ _ :=
    .cons (.page .mounted) <|
    .cons (.page (.pause 0)) <|
    .cons (.page (.change (pageOf "b"))) <|
    .cons (.page .resume) <|
    .cons (.page (.change (pageOf "a"))) <|
    .cons (.watcher rfl) <|
    .cons (@StreamStep.session _ _ _ _ 0 _ _ _ rfl (.opened 0 rfl)) <| .nil _
  exact ⟨_, _, _, _, hrun, rfl, rfl, ⟨rfl, rfl, rfl⟩, rfl, rfl, rfl, rfl⟩

/-- An event of a project is buffered although the page has left the project, and the watcher has
run: the page had returned before it. -/
theorem switched_back : ¬ ∀ (modules : StreamModules String Unit) (inputs : StreamInputs Unit)
    (accessToken : Option String) (s : RealtimeStream String Unit)
    (es : List (Edge (RealtimeStream String Unit) (StreamLabel Unit))),
    Run (StreamStep modules) (.new inputs accessToken) es s → s.watchPending = false →
      ∀ r ∈ s.view.eventBuffer.events, modules.watched r.inputs = modules.watched s.inputs := by
  intro hclaim
  obtain ⟨es, s, x, attempt, hrun, hx, hphase, hcurrent, hempty, hattempt, hinputs, hpending⟩ :=
    returned_run
  obtain ⟨guard, hguard⟩ := guardFrames_eventChunk
  have hparsed : eventModules.parseRealtimeMessage eventData none attempt.projectId =
      .ok (.event "e") := rfl
  obtain ⟨t, hstep, htinputs, htpending, hevents⟩ :=
    chunk_buffered hx hphase hcurrent hguard hparsed length_eventData.1 length_eventData.2 hempty
  have hsame := hclaim _ _ _ _ _ (hrun.snoc hstep) (htpending.trans hpending)
    ⟨"e", attempt.inputs⟩ (by rw [hevents]; exact List.mem_singleton_self _)
  rw [hattempt, htinputs, hinputs] at hsame
  exact absurd (congrArg Prod.fst hsame) (by decide)

/-- A stream is restarted while its first session waits for its response; the second one reads. -/
theorem restart_run : ∃ es s x y attempt,
    Run (StreamStep eventModules) (.new (pageOf "b") (some "token")) es s ∧
      (∃ e ∈ es, e.label = .session 1 (.openFailed .aborted) ∧
        e.source.sessions[1]? = some y ∧ y.generation ≠ e.source.sessionGeneration) ∧
      (∀ e ∈ es, NotSwitchedBack eventModules e) ∧
      s.sessions[0]? = some x ∧ x.phase = .reading attempt ⟨0, 0, false⟩ ∧
      (attempt.aborted = false ∧ x.generation = s.sessionGeneration ∧
        s.view.desiredState = .running) ∧
      s.view.eventBuffer = ⟨[], [], REALTIME_EVENT_LIMIT, REALTIME_BUFFER_WEIGHT_LIMIT, 0⟩ ∧
      attempt.inputs = pageOf "b" ∧ s.watchPending = false := by
  have hrun : Run (StreamStep eventModules) (.new (pageOf "b") (some "token")) _ _ :=
    .cons (.page .mounted) <|
    .cons (.page (.pause 0)) <|
    .cons (.page .resume) <|
    .cons (@StreamStep.session _ _ _ _ 1 _ _ _ rfl (.openFailed .aborted rfl)) <|
    .cons (@StreamStep.session _ _ _ _ 0 _ _ _ rfl (.opened 0 rfl)) <| .nil _
  refine ⟨_, _, _, _, _, hrun, ⟨_, .tail _ (.tail _ (.tail _ (.head _))), rfl, rfl,
    by decide⟩, ?_, rfl,
    rfl, ⟨rfl, rfl, rfl⟩, rfl, rfl, rfl⟩
  simp only [List.forall_mem_cons]
  exact ⟨nofun, nofun, nofun, nofun, nofun, fun _ he => absurd he List.not_mem_nil⟩

/-- The session of the first stream changes nothing, and the event of the second one is buffered. -/
theorem realtimeStream_isolated_restart : ∃ es s y,
    Run (StreamStep eventModules) (.new (pageOf "b") (some "token")) es s ∧
      (∃ e ∈ es, e.label = .session 1 (.openFailed .aborted) ∧
        e.source.sessions[1]? = some y ∧ y.generation ≠ e.source.sessionGeneration ∧
        e.target.view = e.source.view) ∧
      s.view.eventBuffer.events = [⟨"e", pageOf "b"⟩] ∧
      eventModules.watched (pageOf "b") = eventModules.watched s.inputs := by
  obtain ⟨es, s, x, y, attempt, hrun, ⟨e, he, hlabel, hy, hstale⟩, hback, hx, hphase, hcurrent,
    hempty, hattempt, hpending⟩ := restart_run
  obtain ⟨guard, hguard⟩ := guardFrames_eventChunk
  have hparsed : eventModules.parseRealtimeMessage eventData none attempt.projectId =
      .ok (.event "e") := rfl
  obtain ⟨t, hstep, htinputs, htpending, hevents⟩ :=
    chunk_buffered hx hphase hcurrent hguard hparsed length_eventData.1 length_eventData.2 hempty
  have hisolated := realtimeStream_isolated _ _ _ _ _ (hrun.snoc hstep)
  rw [hattempt] at hevents
  refine ⟨_, t, y, hrun.snoc hstep, ⟨e, List.mem_append_left _ he, hlabel, hy, hstale, ?_⟩,
    hevents, ?_⟩
  · exact hisolated.1 e (List.mem_append_left _ he) 1 _ y hlabel hy (.inl hstale)
  · refine hisolated.2 ?_ (htpending.trans hpending) ⟨"e", pageOf "b"⟩ ?_
    · intro e' he'
      rcases List.mem_append.mp he' with hpast | hlast
      · exact hback e' hpast
      · obtain rfl := List.mem_singleton.mp hlast
        exact nofun
    · rw [hevents]
      exact List.mem_singleton_self _

end SwitchedBack

end Web
end PipeBolt
