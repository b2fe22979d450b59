import Mathlib.Data.List.ReduceOption
import PipeBolt.Web.RealtimeMessages
import PipeBolt.Web.RealtimeSessions

/-!
# What the page shows of a stream

The stream of the server, read by the session of a page that reaches it in chunks of any sizes: a
frame that the page refuses, or one that is longer than `guardFrames` lets through, ends the session
for good.

* `Streaming`: a session that is the current one and reads.
* `Streaming.run`: such a session goes on reading while nothing ends it, and what it shows.
* `stream_shown`: the frames of the server are shown in order, and none ends the session.
-/

namespace PipeBolt
namespace Web

open Js LossyChannel Transition

/-! ## What a chunk shows -/

/-- The data of an event that the parser calls back. -/
def ParserCallback.data? : ParserCallback → Option FrameText
  | .event data _ => some data
  | .comment | .error | .retry _ => none

/-- A callback that the page reads as a message, or as nothing where it is a comment. -/
inductive Understood (projectId : String) :
    ParserCallback → Option (RealtimeMessage JsValue) → Prop
  | comment : Understood projectId .comment none
  | event {data : FrameText} {name : Option JsString} {message : RealtimeMessage JsValue}
      (h : parseRealtimeMessage data.units name (ofString projectId) = .ok message) :
      Understood projectId (.event data name) (some message)

/-- There is a message for each event. -/
theorem Understood.length_eq {projectId : String} {callbacks : List ParserCallback}
    {parsed : List (Option (RealtimeMessage JsValue))}
    (h : List.Forall₂ (Understood projectId) callbacks parsed) :
    parsed.reduceOption.length = (callbacks.filterMap ParserCallback.data?).length := by
  induction h with
  | nil => rfl
  | cons hfirst _ ih =>
    cases hfirst with
    | comment => exact ih
    | event => exact congrArg Nat.succ ih

section Shown

variable {F : Type} (stringify : F → JsString) (toLocaleString : Nat → String)

/-- The modules of the page, with the parser of its messages. -/
def messageModules : StreamModules JsValue F where
  parseRealtimeMessage data name projectId :=
    parseRealtimeMessage data.units name (ofString projectId)
  stringify
  toLocaleString

/-- A session that is the current one, and reads a stream of a project. -/
structure Reading.Current (generation : Nat) (projectId : String) (reading : Reading JsValue F) :
    Prop where
  aborted : reading.attempt.aborted = false
  generation : reading.session.generation = generation
  running : reading.view.desiredState = .running
  projectId : reading.attempt.projectId = projectId

/-- What is shown after the messages of some frames. -/
def showMessages (inputs : StreamInputs F) (now : Nat) (view : StreamView JsValue F)
    (messages : List (FrameText × RealtimeMessage JsValue)) : StreamView JsValue F :=
  messages.foldl (fun view (data, message) =>
    (view.handleMessage (messageModules stringify toLocaleString) inputs now data message).2) view

theorem showMessages_cons (inputs : StreamInputs F) (now : Nat) (view : StreamView JsValue F)
    (text : FrameText) (message : RealtimeMessage JsValue)
    (messages : List (FrameText × RealtimeMessage JsValue)) :
    showMessages stringify toLocaleString inputs now view ((text, message) :: messages) =
      showMessages stringify toLocaleString inputs now
        (view.handleMessage (messageModules stringify toLocaleString) inputs now text message).2
        messages := rfl

variable {stringify : F → JsString} {toLocaleString : Nat → String}
  {generation now : Nat} {projectId : String} {reading : Reading JsValue F}

/-- A message that is read is handled, and the session goes on. -/
theorem onEvent_of_read (hcurrent : reading.Current generation projectId)
    {data : FrameText} {name : Option JsString} {message : RealtimeMessage JsValue}
    (h : parseRealtimeMessage data.units name (ofString projectId) = .ok message) :
    ∃ after, reading.onEvent (messageModules stringify toLocaleString) generation now data name =
        (after, none) ∧ after.Current generation projectId ∧
      after.attempt.inputs = reading.attempt.inputs ∧
      after.view = showMessages stringify toLocaleString reading.attempt.inputs now reading.view
        [(data, message)] := by
  have hparse : (messageModules stringify toLocaleString).parseRealtimeMessage data name
      reading.attempt.projectId = .ok message := by
    rw [hcurrent.projectId]
    exact h
  have hgate : ¬ (reading.attempt.aborted || reading.session.generation != generation ||
      reading.view.desiredState != .running) = true := by
    rw [hcurrent.aborted, hcurrent.generation, hcurrent.running]
    simp
  have hrunning : (reading.view.handleMessage (messageModules stringify toLocaleString)
      reading.attempt.inputs now data message).2.desiredState = .running :=
    (viewEffect_handleMessage _ reading.view now data message).desiredState.trans
      hcurrent.running
  unfold Reading.onEvent
  rw [if_neg hgate]
  simp only [hparse]
  split
  · exact ⟨_, rfl, ⟨hcurrent.aborted, hcurrent.generation, hrunning, hcurrent.projectId⟩, rfl, rfl⟩
  · exact ⟨_, rfl, ⟨hcurrent.aborted, hcurrent.generation, hrunning, hcurrent.projectId⟩, rfl, rfl⟩

/-- Messages that are read are handled one after the other. -/
theorem feed_of_understood {callbacks : List ParserCallback}
    {parsed : List (Option (RealtimeMessage JsValue))}
    (h : List.Forall₂ (Understood projectId) callbacks parsed)
    (hcurrent : reading.Current generation projectId) :
    ∃ after, reading.feed (messageModules stringify toLocaleString) generation now callbacks =
        (after, none) ∧ after.Current generation projectId ∧
      after.attempt.inputs = reading.attempt.inputs ∧
      after.view = showMessages stringify toLocaleString reading.attempt.inputs now reading.view
        ((callbacks.filterMap ParserCallback.data?).zip parsed.reduceOption) := by
  induction h generalizing reading with
  | nil => exact ⟨reading, rfl, hcurrent, rfl, rfl⟩
  | cons hfirst _ ih =>
    cases hfirst with
    | comment =>
      have hheard : Reading.Current generation projectId { reading with lastActivityMs := now } :=
        ⟨hcurrent.aborted, hcurrent.generation, hcurrent.running, hcurrent.projectId⟩
      exact ih hheard
    | event hread =>
      obtain ⟨middle, hevent, hmiddle, hinputs, hview⟩ := onEvent_of_read hcurrent hread
      obtain ⟨after, hfeed, hafter, hkept, hshown⟩ := ih hmiddle
      refine ⟨after, ?_, hafter, hkept.trans hinputs, ?_⟩
      · rw [Reading.feed]
        have hcallback : reading.callback (messageModules stringify toLocaleString) generation now
            (.event _ _) = (middle, none) := hevent
        rw [hcallback]
        exact hfeed
      · rw [hshown, hinputs, hview]
        rfl

/-- What a message adds to the events that the page counts as skipped. -/
def skippedOf : RealtimeMessage JsValue → Nat
  | .lagged skipped => skipped
  | .ready | .event _ | .error _ | .filterUpdated => 0

/-- What some messages add to them. -/
def skippedBy : List (RealtimeMessage JsValue) → Nat
  | [] => 0
  | message :: messages => skippedOf message + skippedBy messages

theorem pushEvent_backendSkipped (view : StreamView JsValue F) (event : ReceivedEvent JsValue F)
    (frameLength : JsNumber) :
    (view.pushEvent event frameLength).backendSkipped = view.backendSkipped := by
  unfold StreamView.pushEvent
  cases view.eventBuffer.push (view.eventBuffer.events.length + 1) event frameLength with
  | none => rfl
  | some pushed =>
    dsimp only
    rw [apply_ite StreamView.backendSkipped, StreamView.scheduleFlush, ite_self]
    rw [apply_ite StreamView.backendSkipped, StreamView.markLag, ite_self]

theorem handleMessage_backendSkipped {inputs : StreamInputs F} {view : StreamView JsValue F}
    (hview : view.backendSkipped ≤ MAX_SAFE_INTEGER) (data : FrameText)
    (message : RealtimeMessage JsValue) :
    (view.handleMessage (messageModules stringify toLocaleString) inputs now data
      message).2.backendSkipped =
        min MAX_SAFE_INTEGER (view.backendSkipped + skippedOf message) := by
  cases message with
  | lagged skipped =>
    rw [skippedOf]
    rfl
  | event event =>
    rw [skippedOf, Nat.add_zero, Nat.min_eq_right hview]
    exact pushEvent_backendSkipped { view with connectionState := .connected } _ _
  | ready | error | filterUpdated =>
    rw [skippedOf, Nat.add_zero, Nat.min_eq_right hview]
    rfl

/-- A counter with a limit counts as if it had the limit at the end only. -/
theorem min_add_min (limit a b c : Nat) :
    min limit (min limit (a + b) + c) = min limit (a + (b + c)) := by
  omega

/-- The events that the page counts as skipped after some messages. -/
theorem showMessages_backendSkipped {inputs : StreamInputs F} {texts : List FrameText}
    {messages : List (RealtimeMessage JsValue)} (hlength : texts.length = messages.length)
    {view : StreamView JsValue F} (hview : view.backendSkipped ≤ MAX_SAFE_INTEGER) :
    (showMessages stringify toLocaleString inputs now view (texts.zip messages)).backendSkipped =
      min MAX_SAFE_INTEGER (view.backendSkipped + skippedBy messages) := by
  induction messages generalizing view texts with
  | nil =>
    rw [List.zip_nil_right, skippedBy, Nat.add_zero, Nat.min_eq_right hview]
    rfl
  | cons message messages ih =>
    obtain ⟨text, rest, rfl⟩ := List.exists_cons_of_length_eq_add_one hlength
    have hhead : (view.handleMessage (messageModules stringify toLocaleString) inputs now text
        message).2.backendSkipped =
          min MAX_SAFE_INTEGER (view.backendSkipped + skippedOf message) :=
      handleMessage_backendSkipped hview text message
    have hbound : (view.handleMessage (messageModules stringify toLocaleString) inputs now text
        message).2.backendSkipped ≤ MAX_SAFE_INTEGER := by
      rw [hhead]
      exact Nat.min_le_left _ _
    rw [List.zip_cons_cons, showMessages_cons, ih (Nat.succ.inj hlength) hbound, hhead, skippedBy,
      min_add_min]

/-- What the page counts as skipped is what the receipts of the stream count as lost. -/
theorem skippedBy_receipts {crates : Api.SseCrates} {got : List (Received Domain.NormalizedEvent)}
    (hwritten : ∀ skipped, .lagged skipped ∈ got → crates.toJson (.lagged skipped) ≠ none)
    (filter : Api.RealtimeFilter) :
    skippedBy (got.filterMap (pageReceipt crates filter)) = lost got := by
  have hevent (event : Domain.NormalizedEvent) : skippedOf (pageMessage crates (.event
      (.fromEvent crates.toRealtimeCrates event))) = 0 := by
    unfold pageMessage
    split <;> rfl
  induction got with
  | nil => rfl
  | cons receipt got ih =>
    have hrest := ih fun skipped hmem => hwritten skipped (List.mem_cons_of_mem _ hmem)
    cases receipt with
    | value event =>
      cases hmatches : filter.matches event with
      | true =>
        have hpage : pageReceipt crates filter (.value event) = some _ := if_pos hmatches
        rw [List.filterMap_cons_some hpage, skippedBy, hevent, Nat.zero_add, hrest]
        rfl
      | false =>
        have hpage : pageReceipt crates filter (.value event) = none :=
          if_neg (Bool.eq_false_iff.mp hmatches)
        rw [List.filterMap_cons_none hpage, hrest]
        rfl
    | lagged skipped =>
      obtain ⟨text, htext⟩ :=
        Option.ne_none_iff_exists'.mp (hwritten skipped List.mem_cons_self)
      have hpage : pageReceipt crates filter (.lagged skipped) = some (.lagged skipped) := by
        rw [pageReceipt, pageMessage, htext]
        rfl
      rw [List.filterMap_cons_some hpage, skippedBy, hrest, skippedOf, lost, Nat.add_comm]

/-! ## A session that goes on -/

/-- A session of a page is the current one, and reads a stream of a project that it asked for with
some inputs. -/
structure Streaming (projectId : String) (inputs : StreamInputs F) (index : Nat)
    (guard : FrameGuard) (s : RealtimeStream JsValue F) : Prop where
  reading : ∃ x attempt, s.sessions[index]? = some x ∧ x.phase = .reading attempt guard ∧
    x.generation = s.sessionGeneration ∧ attempt.aborted = false ∧
    attempt.projectId = projectId ∧ attempt.inputs = inputs
  running : s.view.desiredState = .running

/-- The characters of a session's chunk. -/
def chunkText (index : Nat) : StreamLabel F → List Nat
  | .session i (.chunk _ text _) => if i = index then codePoints text else []
  | _ => []

/-- What the parser calls back for a session's chunk. -/
def chunkCallbacks (index : Nat) : StreamLabel F → List ParserCallback
  | .session i (.chunk _ _ callbacks) => if i = index then callbacks else []
  | _ => []

theorem chunkText_chunk (index now : Nat) (text : JsString) (callbacks : List ParserCallback) :
    chunkText index (.session index (.chunk now text callbacks) : StreamLabel F) =
      codePoints text := if_pos rfl

theorem chunkCallbacks_chunk (index now : Nat) (text : JsString)
    (callbacks : List ParserCallback) :
    chunkCallbacks index (.session index (.chunk now text callbacks) : StreamLabel F) =
      callbacks := if_pos rfl

/-- A step of another kind has no chunk of a session. -/
theorem chunkText_of_other {index : Nat} {label : StreamLabel F}
    (h : ∀ event, label ≠ .session index event) : chunkText index label = [] := by
  unfold chunkText
  split
  · next i _ _ _ =>
    have hne : ¬ i = index := fun heq => h _ (by rw [heq])
    exact if_neg hne
  · rfl

theorem chunkCallbacks_of_other {index : Nat} {label : StreamLabel F}
    (h : ∀ event, label ≠ .session index event) : chunkCallbacks index label = [] := by
  unfold chunkCallbacks
  split
  · next i _ _ _ =>
    have hne : ¬ i = index := fun heq => h _ (by rw [heq])
    exact if_neg hne
  · rfl

/-- A step that starts no session and abandons none, and in which a session does nothing but read a
chunk. -/
structure Undisturbed (index : Nat) (e : Edge (RealtimeStream JsValue F) (StreamLabel F)) :
    Prop where
  generation : e.target.sessionGeneration = e.source.sessionGeneration
  chunk : ∀ event, e.label = .session index event →
    ∃ now text callbacks, event = .chunk now text callbacks

/-- What a step shows of the messages of a session's chunk. -/
inductive ChunkShown (stringify : F → JsString) (toLocaleString : Nat → String) (index : Nat)
    (inputs : StreamInputs F) :
    Edge (RealtimeStream JsValue F) (StreamLabel F) → List (RealtimeMessage JsValue) → Prop
  | chunk {s t : RealtimeStream JsValue F} {now : Nat} {text : JsString}
      {callbacks : List ParserCallback} {messages : List (RealtimeMessage JsValue)}
      (hlength : messages.length = (callbacks.filterMap ParserCallback.data?).length)
      (hview : t.view = showMessages stringify toLocaleString inputs now s.view
        ((callbacks.filterMap ParserCallback.data?).zip messages)) :
      ChunkShown stringify toLocaleString index inputs
        ⟨s, .session index (.chunk now text callbacks), t⟩ messages
  | other {e : Edge (RealtimeStream JsValue F) (StreamLabel F)}
      (h : ∀ event, e.label ≠ .session index event) :
      ChunkShown stringify toLocaleString index inputs e []

variable {inputs : StreamInputs F} {index : Nat} {guard : FrameGuard}
  {s t : RealtimeStream JsValue F}

/-- A chunk that passes, and whose events are understood, leaves the session reading. -/
theorem Streaming.chunk (h : Streaming projectId inputs index guard s) {text : JsString}
    {callbacks : List ParserCallback} {next : FrameGuard}
    (hguard : guardFrames guard text = .ok next)
    {parsed : List (Option (RealtimeMessage JsValue))}
    (hunderstood : List.Forall₂ (Understood projectId) callbacks parsed)
    (hstep : StreamStep (messageModules stringify toLocaleString) s
      (.session index (.chunk now text callbacks)) t) :
    Streaming projectId inputs index next t ∧
      t.view = showMessages stringify toLocaleString inputs now s.view
        ((callbacks.filterMap ParserCallback.data?).zip parsed.reduceOption) := by
  obtain ⟨x, attempt, hx, hphase, hgeneration, haborted, hproject, rfl⟩ := h.reading
  have hcurrent : Reading.Current s.sessionGeneration projectId
      ⟨s.view, x, attempt, s.lastActivityMs⟩ := ⟨haborted, hgeneration, h.running, hproject⟩
  obtain ⟨after, hfeed, hafter, hinputs, hview⟩ :=
    @feed_of_understood _ stringify toLocaleString _ now _ _ _ _ hunderstood hcurrent
  cases hstep with
  | session hx' hsession =>
    obtain rfl := Option.some.inj (hx.symm.trans hx')
    cases hsession with
    | chunkIgnored _ _ _ hphase' hnot =>
      obtain ⟨rfl, -⟩ := SessionPhase.reading.inj (hphase.symm.trans hphase')
      exact absurd ⟨haborted, hgeneration, h.running⟩ hnot
    | chunk _ _ _ hphase' hcurrent' =>
      obtain ⟨rfl, rfl⟩ := SessionPhase.reading.inj (hphase.symm.trans hphase')
      have hconsumed : s.consume (messageModules stringify toLocaleString) x attempt guard now text
          callbacks .reading =
            ({ s with view := after.view, lastActivityMs := after.lastActivityMs },
              { after.session with phase := .reading after.attempt next }) := by
        simp only [RealtimeStream.consume, hguard, hfeed]
      rw [hconsumed]
      refine ⟨⟨⟨{ after.session with phase := .reading after.attempt next }, after.attempt, ?_, rfl,
        hafter.generation, hafter.aborted, hafter.projectId, hinputs⟩, hafter.running⟩, hview⟩
      have hlt : index < s.sessions.length := (List.getElem?_eq_some_iff.mp hx).1
      exact List.getElem?_set_self hlt

/-- A session that reads can be given a chunk. -/
theorem Streaming.exists_chunk (h : Streaming projectId inputs index guard s) (now : Nat)
    (text : JsString) (callbacks : List ParserCallback) :
    ∃ t, StreamStep (messageModules stringify toLocaleString) s
        (.session index (.chunk now text callbacks)) t ∧
      t.sessionGeneration = s.sessionGeneration := by
  obtain ⟨x, attempt, hx, hphase, hgeneration, haborted, -⟩ := h.reading
  have hstep : SessionStep (messageModules stringify toLocaleString) s x
      (.chunk now text callbacks) _ :=
    .chunk now text callbacks hphase ⟨haborted, hgeneration, h.running⟩
  exact ⟨_, .session hx hstep, hstep.effect.sessionGeneration⟩

/-- A new session is of a new generation. -/
theorem startSession_generation (s : RealtimeStream JsValue F) :
    s.startSession.sessionGeneration = s.sessionGeneration + 1 :=
  (sessionEffect_attemptNext (s := { s.abandon .running with view :=
    { (s.abandon .running).view with
      errorMessage := none
      streamNotice := none
      connectedAt := none } })).sessionGeneration

/-- What leaves the sessions as they are leaves a session reading. -/
theorem Streaming.of_sessions (h : Streaming projectId inputs index guard s)
    (hsessions : t.sessions = s.sessions) (hgeneration : t.sessionGeneration = s.sessionGeneration)
    (hdesired : t.view.desiredState = s.view.desiredState) :
    Streaming projectId inputs index guard t := by
  refine ⟨?_, hdesired.trans h.running⟩
  rw [hsessions, hgeneration]
  exact h.reading

/-- An action of the page that starts no session and abandons none. -/
theorem Streaming.perform (h : Streaming projectId inputs index guard s) {action : PageAction F}
    (hgeneration : (s.perform action).sessionGeneration = s.sessionGeneration) :
    Streaming projectId inputs index guard (s.perform action) ∧
      (action ≠ .clearEvents →
        (s.perform action).view.backendSkipped = s.view.backendSkipped) := by
  have hstart (r : RealtimeStream JsValue F) (hr : r.sessionGeneration = s.sessionGeneration) :
      r.startSession.sessionGeneration ≠ s.sessionGeneration := by
    rw [startSession_generation, hr]
    exact Nat.succ_ne_self _
  cases action with
  | mounted => exact absurd hgeneration (hstart s rfl)
  | unmounted | pause | disconnect => exact absurd hgeneration (Nat.succ_ne_self _)
  | connect =>
    have hsame : s.perform .connect = s := if_pos h.running
    rw [hsame]
    exact ⟨h, fun _ => rfl⟩
  | resume =>
    have hsame : s.perform .resume = s := if_neg (by rw [h.running]; decide)
    rw [hsame]
    exact ⟨h, fun _ => rfl⟩
  | watchdog now =>
    revert hgeneration
    show (s.runWatchdog now).sessionGeneration = _ →
      Streaming projectId inputs index guard (s.runWatchdog now) ∧
        (_ → (s.runWatchdog now).view.backendSkipped = _)
    unfold RealtimeStream.runWatchdog
    split
    · exact fun hgeneration => absurd hgeneration (hstart _ rfl)
    · exact fun _ => ⟨h, fun _ => rfl⟩
  | clearEvents => exact ⟨h.of_sessions rfl rfl rfl, fun hnot => absurd rfl hnot⟩
  | dismissLag | change | signIn => exact ⟨h.of_sessions rfl rfl rfl, fun _ => rfl⟩

/-- Another step that starts no session and abandons none leaves the session reading. -/
theorem Streaming.other (hkept : StreamKept (messageModules stringify toLocaleString) s)
    (h : Streaming projectId inputs index guard s) {label : StreamLabel F}
    (hstep : StreamStep (messageModules stringify toLocaleString) s label t)
    (hgeneration : t.sessionGeneration = s.sessionGeneration)
    (hlabel : ∀ event, label ≠ .session index event) :
    Streaming projectId inputs index guard t ∧
      (label ≠ .page .clearEvents → t.view.backendSkipped = s.view.backendSkipped) := by
  cases hstep with
  | page action =>
    obtain ⟨hstreaming, hskipped⟩ := h.perform hgeneration
    exact ⟨hstreaming, fun hne => hskipped fun heq => hne (congrArg _ heq)⟩
  | watcher hpending =>
    revert hgeneration
    unfold RealtimeStream.runWatcher
    dsimp only
    by_cases hchanged : (messageModules stringify toLocaleString).watched s.inputs ≠
        (messageModules stringify toLocaleString).watched s.watchedInputs
    · have hrunning : s.view.clearEvents.desiredState = .running := h.running
      rw [if_pos hchanged, if_pos hrunning, startSession_generation]
      exact fun hgeneration => absurd hgeneration (Nat.succ_ne_self _)
    · rw [if_neg hchanged]
      exact fun _ => ⟨h.of_sessions rfl rfl rfl, fun _ => rfl⟩
  | animationFrame now hframe => exact ⟨h.of_sessions rfl rfl rfl, fun _ => rfl⟩
  | @session other event y result hy hsession =>
    have hne : other ≠ index := fun heq => hlabel event (by rw [heq])
    obtain ⟨x, attempt, hx, hrest⟩ := h.reading
    -- Another session is not the current one.
    have hstale : y.generation ≠ s.sessionGeneration := by
      intro hy'
      have hlt : other < (s.sessions.map StreamSession.generation).length := by
        rw [List.length_map]
        exact (List.getElem?_eq_some_iff.mp hy).1
      refine hne ((List.getElem?_inj hlt hkept.sessions.distinct).mp ?_)
      rw [List.getElem?_map, List.getElem?_map, hy, hx, Option.map_some, Option.map_some, hy',
        hrest.2.1]
    have heffect := hsession.effect
    have hview : result.1.view = s.view := heffect.stale hstale
    refine ⟨⟨⟨x, attempt, ?_, ?_⟩, ?_⟩, fun _ => congrArg StreamView.backendSkipped hview⟩
    · show (result.1.sessions.set other result.2)[index]? = some x
      rw [heffect.sessions, List.getElem?_set_ne hne, hx]
    · show x.phase = _ ∧ x.generation = result.1.sessionGeneration ∧ _
      rw [heffect.sessionGeneration]
      exact hrest
    · show result.1.view.desiredState = .running
      rw [hview]
      exact h.running

theorem skippedBy_append (messages messages' : List (RealtimeMessage JsValue)) :
    skippedBy (messages ++ messages') = skippedBy messages + skippedBy messages' := by
  induction messages with
  | nil => exact (Nat.zero_add _).symm
  | cons message messages ih => rw [List.cons_append, skippedBy, skippedBy, ih, Nat.add_assoc]

/-- What is shown in some steps of a session's messages. -/
structure RunShown (stringify : F → JsString) (toLocaleString : Nat → String) (index : Nat)
    (inputs : StreamInputs F) (fs : List (Edge (RealtimeStream JsValue F) (StreamLabel F)))
    (messages : List (RealtimeMessage JsValue)) (s t : RealtimeStream JsValue F) : Prop where
  /-- Each message is shown in the step that reads it, in this order. -/
  parts : ∃ parts, parts.flatten = messages ∧
    List.Forall₂ (ChunkShown stringify toLocaleString index inputs) fs parts
  skipped : (∀ e ∈ fs, e.label ≠ .page .clearEvents) →
    s.view.backendSkipped ≤ MAX_SAFE_INTEGER →
    t.view.backendSkipped = min MAX_SAFE_INTEGER (s.view.backendSkipped + skippedBy messages)

/-- A session goes on reading while nothing ends it, its text passes and its events are
understood. -/
theorem Streaming.run {fs : List (Edge (RealtimeStream JsValue F) (StreamLabel F))}
    {last : FrameGuard} {parsed : List (Option (RealtimeMessage JsValue))}
    (hrun : Run (StreamStep (messageModules stringify toLocaleString)) s fs t)
    (hkept : StreamKept (messageModules stringify toLocaleString) s)
    (h : Streaming projectId inputs index guard s) (hundisturbed : ∀ e ∈ fs, Undisturbed index e)
    (hpasses : (fs.flatMap fun e => chunkText index e.label).foldlM FrameGuard.character guard =
      some last)
    (hunderstood : List.Forall₂ (Understood projectId)
      (fs.flatMap fun e => chunkCallbacks index e.label) parsed) :
    Streaming projectId inputs index last t ∧
      RunShown stringify toLocaleString index inputs fs parsed.reduceOption s t := by
  induction hrun generalizing guard parsed with
  | nil s =>
    obtain rfl := List.forall₂_nil_left_iff.mp hunderstood
    obtain rfl := Option.some.inj hpasses
    exact ⟨h, ⟨[], rfl, .nil⟩, fun _ hbound => (Nat.min_eq_right hbound).symm⟩
  | @cons s r t label fs hstep hrest ih =>
    obtain ⟨hfirst, hlater⟩ := List.forall_mem_cons.mp hundisturbed
    rw [List.flatMap_cons] at hpasses hunderstood
    by_cases hchunk : ∃ event, label = .session index event
    · obtain ⟨event, rfl⟩ := hchunk
      obtain ⟨now, text, callbacks, rfl⟩ := hfirst.chunk event rfl
      rw [chunkText_chunk, List.foldlM_append] at hpasses
      rw [chunkCallbacks_chunk] at hunderstood
      obtain ⟨next, hnext, hpasses⟩ := Option.bind_eq_some_iff.mp hpasses
      have hguard : guardFrames guard text = .ok next := by rw [guardFrames, hnext]
      obtain ⟨first, later, rfl, hread, hunread⟩ := Fallible.forall₂_of_append hunderstood
      obtain ⟨hstreaming, hview⟩ := h.chunk hguard hread hstep
      obtain ⟨hstays, ⟨parts, hparts, hshown⟩, hskipped⟩ :=
        ih (hkept.step hstep) hstreaming hlater hpasses hunread
      refine ⟨hstays, ⟨first.reduceOption :: parts, ?_, .cons ?_ hshown⟩, ?_⟩
      · rw [List.flatten_cons, hparts, List.reduceOption_append]
      · exact .chunk (Understood.length_eq hread) hview
      · intro hclear hbound
        have hmiddle : r.view.backendSkipped =
            min MAX_SAFE_INTEGER (s.view.backendSkipped + skippedBy first.reduceOption) := by
          rw [hview]
          exact showMessages_backendSkipped (Understood.length_eq hread).symm hbound
        have hbounded : r.view.backendSkipped ≤ MAX_SAFE_INTEGER := by
          rw [hmiddle]
          exact Nat.min_le_left _ _
        rw [hskipped (List.forall_mem_cons.mp hclear).2 hbounded, hmiddle, List.reduceOption_append,
          skippedBy_append, min_add_min]
    · have hlabel : ∀ event, label ≠ .session index event := fun event heq => hchunk ⟨event, heq⟩
      rw [chunkText_of_other hlabel] at hpasses
      rw [chunkCallbacks_of_other hlabel] at hunderstood
      obtain ⟨hstreaming, hsame⟩ := h.other hkept hstep hfirst.generation hlabel
      obtain ⟨hstays, ⟨parts, hparts, hshown⟩, hskipped⟩ :=
        ih (hkept.step hstep) hstreaming hlater hpasses hunderstood
      refine ⟨hstays, ⟨[] :: parts, hparts, .cons (.other hlabel) hshown⟩, ?_⟩
      intro hclear hbound
      obtain ⟨hfirstClear, hlaterClear⟩ := List.forall_mem_cons.mp hclear
      have hskips : r.view.backendSkipped = s.view.backendSkipped := hsame hfirstClear
      rw [hskipped hlaterClear (by rw [hskips]; exact hbound), hskips]

/-! ## The stream of the server -/

/-- What the parser calls back for a frame of the server, or for a comment that keeps the stream
alive. -/
inductive CalledBack : ParserCallback → Option Api.SseEvent → Prop
  | comment : CalledBack .comment none
  | event {data : FrameText} {event : Api.SseEvent} (h : data.units = ofString event.data) :
      CalledBack (.event data (some (ofString event.name))) (some event)

/-- The frames that are read are understood where the page reads them as messages. -/
theorem understood_of_calledBack {projectId : String} {callbacks : List ParserCallback}
    {blocks : List (Option Api.SseEvent)} (h : List.Forall₂ CalledBack callbacks blocks)
    {messages : List (RealtimeMessage JsValue)}
    (hreads : List.Forall₂ (ReadsAs (ofString projectId)) blocks.reduceOption messages) :
    ∃ parsed, List.Forall₂ (Understood projectId) callbacks parsed ∧
      parsed.reduceOption = messages := by
  induction h generalizing messages with
  | nil =>
    obtain rfl := List.forall₂_nil_left_iff.mp hreads
    exact ⟨[], .nil, rfl⟩
  | cons hfirst _ ih =>
    cases hfirst with
    | comment =>
      obtain ⟨parsed, hparsed, rfl⟩ := ih hreads
      exact ⟨none :: parsed, .cons .comment hparsed, rfl⟩
    | event hdata =>
      obtain ⟨message, rest, hmessage, hrest, rfl⟩ := List.forall₂_cons_left_iff.mp hreads
      obtain ⟨parsed, hparsed, rfl⟩ := ih hrest
      refine ⟨some message :: parsed, .cons (.event ?_) hparsed, rfl⟩
      rw [hdata]
      exact hmessage

/-- What a session has read of a stream of the server: its frames, comments between them, and a part
of what comes next.  `wire` is what the server writes for a frame or a comment. -/
structure Delivered (wire : Option Api.SseEvent → List Nat) (index : Nat) (es : List Api.SseEdge)
    (blocks : List (Option Api.SseEvent))
    (fs : List (Edge (RealtimeStream JsValue F) (StreamLabel F))) : Prop where
  yielded : blocks.reduceOption = Api.yieldedBy es
  text : ∃ rest, (fs.flatMap fun e => chunkText index e.label) = (blocks.map wire).flatten ++ rest ∧
    countedCharacters rest ≤ MAX_SSE_FRAME_CHARS
  callbacks : List.Forall₂ CalledBack (fs.flatMap fun e => chunkCallbacks index e.label) blocks

/-- What the page shows of a stream of the server, in the steps `fs`. -/
structure StreamShown (stringify : F → JsString) (toLocaleString : Nat → String)
    (crates : Api.SseCrates) (projectId : Domain.ProjectId) (filter : Api.RealtimeFilter)
    (es : List Api.SseEdge) (index : Nat) (inputs : StreamInputs F)
    (fs : List (Edge (RealtimeStream JsValue F) (StreamLabel F))) (s t : RealtimeStream JsValue F) :
    Prop where
  /-- The session is still the current one, and reads on. -/
  streaming : ∃ guard, Streaming projectId.raw inputs index guard t
  /-- The messages are `Ready` and then what each receipt is for the page; each is shown in the step
  that reads it, in this order. -/
  handled : ∃ messages, (messages = [] ∧ Api.receivedBy es = [] ∨
      messages = pageMessage crates (.ready "sse" filter) ::
        (Api.receivedBy es).filterMap (pageReceipt crates filter)) ∧
    ∃ parts, parts.flatten = messages ∧
      List.Forall₂ (ChunkShown stringify toLocaleString index inputs) fs parts
  /-- The page counts the events that the stream has lost, unless it is told to start anew. -/
  skipped : (∀ skipped, .lagged skipped ∈ Api.receivedBy es →
      crates.toJson (.lagged skipped) ≠ none) → (∀ e ∈ fs, e.label ≠ .page .clearEvents) →
    t.view.backendSkipped =
      min MAX_SAFE_INTEGER (s.view.backendSkipped + lost (Api.receivedBy es))

/-- **The page understands the stream of its project**: in any run of the server, and in any run of
the page in which nothing else ends the session that reads the stream, no frame within the limit of
`guardFrames` does, however the stream is cut into chunks. -/
theorem stream_shown (stringify : F → JsString) (toLocaleString : Nat → String)
    (crates : Api.SseCrates) (hjson : WritesJson crates) (wire : Option Api.SseEvent → List Nat)
    (hwire : ∀ block, ∃ content, wire block = content ++ ['\n'.toNat, '\n'.toNat])
    (projectId : Domain.ProjectId) (filter : Api.RealtimeFilter) (capacity : Nat)
    {es : List Api.SseEdge} {stream : Api.SseStream}
    (hserver : Run (Api.SseStep crates) (.new filter (.subscribe capacity)) es stream)
    (hevents : ∀ event ∈ Api.publishedBy es, Holds projectId event)
    (hcount : (Api.publishedBy es).length < 2 ^ 53)
    (page : StreamInputs F) (accessToken : Option String)
    {past fs : List (Edge (RealtimeStream JsValue F) (StreamLabel F))}
    (hpast : Run (StreamStep (messageModules stringify toLocaleString)) (.new page accessToken) past
      s)
    (hstart : Streaming projectId.raw inputs index ⟨0, 0, false⟩ s)
    (hrun : Run (StreamStep (messageModules stringify toLocaleString)) s fs t)
    (hundisturbed : ∀ e ∈ fs, Undisturbed index e) {blocks : List (Option Api.SseEvent)}
    (hdelivered : Delivered wire index es blocks fs)
    (hlimit : ∀ block ∈ blocks, countedCharacters (wire block) ≤ MAX_SSE_FRAME_CHARS) :
    StreamShown stringify toLocaleString crates projectId filter es index inputs fs s t := by
  obtain ⟨messages, hreads, hmessages⟩ := reads_stream hjson hserver hevents hcount
  rw [← hdelivered.yielded] at hreads
  obtain ⟨parsed, hunderstood, rfl⟩ := understood_of_calledBack hdelivered.callbacks hreads
  obtain ⟨rest, htext, hrest⟩ := hdelivered.text
  have hframes : (blocks.map wire).flatten.foldlM FrameGuard.character ⟨0, 0, false⟩ =
      some ⟨0, 0, false⟩ :=
    FrameGuard.frames (List.forall_mem_map.mpr fun block _ => hwire block)
      (List.forall_mem_map.mpr hlimit)
  obtain ⟨last, hlast, -⟩ := FrameGuard.counts_first hrest
  have hpasses : (fs.flatMap fun e => chunkText index e.label).foldlM FrameGuard.character
      ⟨0, 0, false⟩ = some last := by
    rw [htext, List.foldlM_append, hframes]
    exact hlast
  have hkept := (hpast.invariant' (StreamKept (messageModules stringify toLocaleString))
    (fun s l t hstep hs => hs.step hstep) (.new page accessToken)).1
  obtain ⟨hstreaming, hshown, hskipped⟩ :=
    hstart.run hrun hkept hundisturbed hpasses hunderstood
  refine ⟨⟨last, hstreaming⟩, ⟨_, hmessages, hshown⟩, fun hwritten hclear => ?_⟩
  rw [hskipped hclear hkept.skipped]
  rcases hmessages with ⟨hnone, hreceived⟩ | hall
  · rw [hnone, hreceived]
    rfl
  · have hready : skippedOf (pageMessage crates (.ready "sse" filter)) = 0 := by
      unfold pageMessage
      split <;> rfl
    rw [hall, skippedBy, hready, Nat.zero_add, skippedBy_receipts hwritten]

end Shown

/-! ## A stream that loses an event -/

/-- The event that is sent below. -/
def noticeEvent : Api.RealtimeEventResponse := .fromEvent Api.staleCrates Api.staleEvent

/-- The JSON of the messages below, in pieces. -/
def readyPieces : List String :=
  ["\x7b\"type\":\"ready\",\"transport\":\"sse\",", "\"filter\":\x7b\"device_id\":null,",
    "\"topic\":null,\"topic_prefix\":null,", "\"event_type\":null,\"route_id\":null\x7d\x7d"]

def laggedPieces : List String := ["\x7b\"type\":\"lagged\",", "\"skipped\":1\x7d"]

def eventPieces : List String :=
  ["\x7b\"type\":\"event\",\"data\":\x7b\"id\":\"e\",", "\"correlation_id\":\"e\",",
    "\"project_id\":\"p\",\"broker_id\":\"b\",", "\"route_id\":\"r\",",
    "\"schema_mapping_id\":null,\"topic\":\"t\",", "\"device_id\":\"a\",",
    "\"event_type\":\"telemetry\",\"received_at\":", "\"1970-01-01 0:00:00.0 +00:00:00\",",
    "\"payload_size_bytes\":0,\"payload\":", "\x7b\"type\":\"raw_base64\",\"value\":\"\"\x7d,",
    "\"fields\":\x7b\x7d,\"raw\":null,", "\"normalization_errors\":[],",
    "\"metadata\":\x7b\x7d\x7d\x7d"]

def notices : List (Api.RealtimeServerMessage × List String) :=
  [(.ready "sse" Api.anyFilter, readyPieces), (.lagged 1, laggedPieces),
    (.event noticeEvent, eventPieces)]

/-- JSON of the messages above; nothing else is sent. -/
def noticeCrates : Api.SseCrates where
  toRealtimeCrates :=
    { Api.staleCrates with
      toJson := fun message => notices.findSome? fun notice =>
        if (messageToJs notice.1).beq (messageToJs message) then some (String.join notice.2)
        else none }
  toJsonError := fun _ => "key must be a string"

theorem ofString_join (pieces : List String) :
    ofString (String.join pieces) = pieces.flatMap ofString := by
  induction pieces with
  | nil => rfl
  | cons piece pieces ih => rw [String.join_cons, ofString_append, ih, List.flatMap_cons]

/-- A text is read as a value when what is read is found to be the value. -/
theorem parseJson_join {pieces : List String} {value : JsValue}
    (h : (parseJson (pieces.flatMap ofString)).any (JsValue.beq · value) = true) :
    parseJson (ofString (String.join pieces)) = some value := by
  obtain ⟨read, hread, hbeq⟩ := (Option.any_eq_true _ _).mp h
  rw [ofString_join, hread, JsValue.eq_of_beq hbeq]

theorem parseJson_notices : ∀ notice ∈ notices,
    parseJson (ofString (String.join notice.2)) = some (messageToJs notice.1) :=
  List.forall_mem_cons.mpr ⟨parseJson_join (by decide +kernel),
    List.forall_mem_cons.mpr ⟨parseJson_join (by decide +kernel),
      List.forall_mem_singleton.mpr (parseJson_join (by decide +kernel))⟩⟩

theorem writesJson_notice : WritesJson noticeCrates := by
  intro message text h
  obtain ⟨notice, hmem, hnotice⟩ := List.exists_of_findSome?_eq_some h
  obtain ⟨hbeq, htext⟩ := Option.ite_none_right_eq_some.mp hnotice
  rw [← Option.some.inj htext, ← JsValue.eq_of_beq hbeq]
  exact parseJson_notices notice hmem

theorem toJson_notices :
    noticeCrates.toJson (.ready "sse" Api.anyFilter) = some (String.join readyPieces) ∧
      noticeCrates.toJson (.lagged 1) = some (String.join laggedPieces) ∧
      noticeCrates.toJson (.event noticeEvent) = some (String.join eventPieces) := by
  have hjson (message : Api.RealtimeServerMessage) : noticeCrates.toJson message =
      notices.findSome? fun notice =>
        if (messageToJs notice.1).beq (messageToJs message) then some (String.join notice.2)
        else none :=
    rfl
  refine ⟨?_, ?_, ?_⟩
  · rw [hjson, notices, List.findSome?_cons, if_pos (by decide +kernel)]
  · rw [hjson, notices, List.findSome?_cons, if_neg (by decide +kernel), List.findSome?_cons,
      if_pos (by decide +kernel)]
  · rw [hjson, notices, List.findSome?_cons, if_neg (by decide +kernel), List.findSome?_cons,
      if_neg (by decide +kernel), List.findSome?_cons, if_pos (by decide +kernel)]

/-- The frames below. -/
def readyNotice : Api.SseEvent := ⟨"ready", String.join readyPieces⟩
def laggedNotice : Api.SseEvent := ⟨"lagged", String.join laggedPieces⟩
def eventNotice : Api.SseEvent := ⟨"event", String.join eventPieces⟩

/-- Two events are published before the stream of a receiver for one is polled. -/
theorem notice_run : ∃ es stream,
    Run (Api.SseStep noticeCrates) (.new Api.anyFilter (.subscribe 1)) es stream ∧
      Api.publishedBy es = [Api.staleEvent, Api.staleEvent] ∧
      Api.receivedBy es = [.lagged 1, .value Api.staleEvent] ∧
      Api.yieldedBy es = [readyNotice, laggedNotice, eventNotice] := by
  have hrun : Run (Api.SseStep noticeCrates) (.new Api.anyFilter (.subscribe 1)) _ _ :=
    .cons (.publish Api.staleEvent rfl) <|
    .cons (.publish Api.staleEvent rfl) <|
    .cons (.ready rfl) <|
    .cons (.lagged rfl rfl) <|
    .cons (.event rfl rfl rfl) <| .nil _
  refine ⟨_, _, hrun, rfl, rfl, ?_⟩
  have hframe {name : String} {message : Api.RealtimeServerMessage} {pieces : List String}
      (h : noticeCrates.toJson message = some (String.join pieces)) :
      Api.sseJsonEvent noticeCrates name message = ⟨name, String.join pieces⟩ := by
    rw [Api.sseJsonEvent, h]
  obtain ⟨hready, hlagged, hevent⟩ := toJson_notices
  show [Api.sseJsonEvent noticeCrates "ready" (.ready "sse" Api.anyFilter),
    Api.sseJsonEvent noticeCrates "lagged" (.lagged 1),
    Api.sseJsonEvent noticeCrates "event" (.event noticeEvent)] = _
  rw [hframe hready, hframe hlagged, hframe hevent]
  rfl

/-- The text of a frame or a comment. -/
def noticeText : Option Api.SseEvent → String
  | none => ":\n\n"
  | some event => "event:" ++ (event.name ++ ("\ndata:" ++ (event.data ++ "\n\n")))

def noticeWire (block : Option Api.SseEvent) : List Nat := codePoints (ofString (noticeText block))

theorem noticeWire_ends (block : Option Api.SseEvent) :
    ∃ content, noticeWire block = content ++ ['\n'.toNat, '\n'.toNat] := by
  have hblank : codePoints (ofString "\n\n") = ['\n'.toNat, '\n'.toNat] := by decide +kernel
  cases block with
  | none => exact ⟨codePoints (ofString ":"), by decide +kernel⟩
  | some event =>
    refine ⟨codePoints (ofString ("event:" ++ (event.name ++ ("\ndata:" ++ event.data)))), ?_⟩
    rw [noticeWire, noticeText]
    simp only [codePoints_ofString_append, hblank, List.append_assoc]

theorem countedCharacters_le (text : String) :
    countedCharacters (codePoints (ofString text)) ≤ text.utf8ByteSize := by
  rw [← byteLength_ofString]
  exact List.countP_le_length.trans (length_le_byteLength _).1

/-- The frames that the server sends below, with a comment after the second one. -/
def noticeBlocks : List (Option Api.SseEvent) :=
  [some readyNotice, some laggedNotice, none, some eventNotice]

theorem noticeBlocks_short : ∀ block ∈ noticeBlocks, (noticeText block).utf8ByteSize ≤ 1000 := by
  decide +kernel

/-- The first chunk ends inside of the second frame. -/
def firstChunk : String := noticeText (some readyNotice) ++ "event:"

def secondChunk : String :=
  (laggedNotice.name ++ ("\ndata:" ++ (laggedNotice.data ++ "\n\n"))) ++
    (noticeText none ++ noticeText (some eventNotice))

theorem noticeChunks_eq :
    codePoints (ofString firstChunk) ++ codePoints (ofString secondChunk) =
      (noticeBlocks.map noticeWire).flatten := by
  have hlagged : noticeText (some laggedNotice) = "event:" ++
      (laggedNotice.name ++ ("\ndata:" ++ (laggedNotice.data ++ "\n\n"))) := rfl
  rw [noticeBlocks, List.map_cons, List.map_cons, List.map_cons, List.map_cons, List.map_nil,
    List.flatten_cons, List.flatten_cons, List.flatten_cons, List.flatten_cons, List.flatten_nil,
    List.append_nil]
  simp only [noticeWire]
  rw [hlagged, firstChunk, secondChunk]
  simp only [codePoints_ofString_append, List.append_assoc]

theorem firstChunk_short : firstChunk.utf8ByteSize ≤ 1000 := by decide +kernel

/-- What the parser calls back for a frame. -/
def noticeCallback (event : Api.SseEvent) (h : (ofString event.data).length ≤ 2 ^ 53) :
    ParserCallback :=
  .event ⟨ofString event.data, h⟩ (some (ofString event.name))

theorem calledBack_notice {event : Api.SseEvent} (h : (ofString event.data).length ≤ 2 ^ 53) :
    CalledBack (noticeCallback event h) (some event) := .event rfl

theorem length_noticeData : ∀ event ∈ noticeBlocks.reduceOption,
    (ofString event.data).length ≤ 2 ^ 53 := by
  have hbytes : ∀ event ∈ noticeBlocks.reduceOption, event.data.utf8ByteSize ≤ 1000 := by
    decide +kernel
  intro event hmem
  have hshort := hbytes event hmem
  rw [← byteLength_ofString] at hshort
  exact ((length_le_byteLength _).2.trans hshort).trans (Nat.le_of_ble_eq_true rfl)

/-- A page of the project of `staleEvent`, without filters. -/
def noticePage : StreamInputs Unit := ⟨some "p", ()⟩

def noticeModules : StreamModules JsValue Unit := messageModules (fun _ => []) toString

/-- The page is mounted, and its stream is opened. -/
theorem noticePage_run : ∃ past s,
    Run (StreamStep noticeModules) (.new noticePage (some "token")) past s ∧
      Streaming "p" noticePage 0 ⟨0, 0, false⟩ s ∧ s.view.backendSkipped = 0 := by
  have hrun : Run (StreamStep noticeModules) (.new noticePage (some "token")) _ _ :=
    .cons (.page .mounted) <|
    .cons (@StreamStep.session _ _ _ _ 0 _ _ _ rfl (.opened 0 rfl)) <| .nil _
  exact ⟨_, _, hrun, ⟨⟨_, _, rfl, rfl, rfl, rfl, rfl, rfl⟩, rfl⟩, rfl⟩

/-- The steps of the page: two chunks, and a step of its own between them. -/
def noticeEdges (s r t : RealtimeStream JsValue Unit)
    (hready : (ofString readyNotice.data).length ≤ 2 ^ 53)
    (hlagged : (ofString laggedNotice.data).length ≤ 2 ^ 53)
    (hevent : (ofString eventNotice.data).length ≤ 2 ^ 53) :
    List (Edge (RealtimeStream JsValue Unit) (StreamLabel Unit)) :=
  [⟨s, .session 0 (.chunk 0 (ofString firstChunk) [noticeCallback readyNotice hready]), r⟩,
    ⟨r, .page .dismissLag, r.perform .dismissLag⟩,
    ⟨r.perform .dismissLag, .session 0 (.chunk 1 (ofString secondChunk)
      [noticeCallback laggedNotice hlagged, .comment, noticeCallback eventNotice hevent]), t⟩]

section Edges

variable (s r t : RealtimeStream JsValue Unit)
  (hready : (ofString readyNotice.data).length ≤ 2 ^ 53)
  (hlagged : (ofString laggedNotice.data).length ≤ 2 ^ 53)
  (hevent : (ofString eventNotice.data).length ≤ 2 ^ 53)

theorem noticeEdges_text :
    ((noticeEdges s r t hready hlagged hevent).flatMap fun e => chunkText 0 e.label) =
      (noticeBlocks.map noticeWire).flatten := by
  have hpage : chunkText 0 (.page .dismissLag : StreamLabel Unit) = [] := rfl
  rw [noticeEdges, List.flatMap_cons, List.flatMap_cons, List.flatMap_cons, List.flatMap_nil,
    chunkText_chunk, chunkText_chunk, hpage, List.nil_append, List.append_nil, noticeChunks_eq]

theorem noticeEdges_callbacks :
    ((noticeEdges s r t hready hlagged hevent).flatMap fun e => chunkCallbacks 0 e.label) =
      [noticeCallback readyNotice hready] ++
        [noticeCallback laggedNotice hlagged, .comment, noticeCallback eventNotice hevent] := by
  have hpage : chunkCallbacks 0 (.page .dismissLag : StreamLabel Unit) = [] := rfl
  rw [noticeEdges, List.flatMap_cons, List.flatMap_cons, List.flatMap_cons, List.flatMap_nil,
    chunkCallbacks_chunk, chunkCallbacks_chunk, hpage, List.nil_append, List.append_nil]

theorem noticeEdges_keeps :
    ∀ e ∈ noticeEdges s r t hready hlagged hevent, e.label ≠ .page .clearEvents := by
  intro e hmem heq
  rw [noticeEdges, List.mem_cons, List.mem_pair] at hmem
  obtain rfl | rfl | rfl := hmem <;> cases heq

theorem noticeCallbacks_calledBack :
    List.Forall₂ CalledBack ([noticeCallback readyNotice hready] ++
      [noticeCallback laggedNotice hlagged, .comment, noticeCallback eventNotice hevent])
      noticeBlocks :=
  .cons (calledBack_notice hready) (.cons (calledBack_notice hlagged)
    (.cons .comment (.cons (calledBack_notice hevent) .nil)))

variable {s} in
/-- The page reads the two chunks where it understands the first. -/
theorem noticeEdges_exists_run (hstart : Streaming "p" noticePage 0 ⟨0, 0, false⟩ s)
    {parsed : List (Option (RealtimeMessage JsValue))}
    (hunderstood : List.Forall₂ (Understood "p") [noticeCallback readyNotice hready] parsed) :
    ∃ r t, Run (StreamStep noticeModules) s (noticeEdges s r t hready hlagged hevent) t ∧
      ∀ e ∈ noticeEdges s r t hready hlagged hevent, Undisturbed 0 e := by
  obtain ⟨r, hfirst, hgeneration⟩ : ∃ r, StreamStep noticeModules s (.session 0
      (.chunk 0 (ofString firstChunk) [noticeCallback readyNotice hready])) r ∧
        r.sessionGeneration = s.sessionGeneration :=
    hstart.exists_chunk 0 _ _
  obtain ⟨guard, hguard, -⟩ := FrameGuard.counts_first
    ((countedCharacters_le firstChunk).trans (firstChunk_short.trans (by decide)))
  have hreading : Streaming "p" noticePage 0 guard r :=
    (hstart.chunk (by rw [guardFrames, hguard]) hunderstood hfirst).1
  have hdismissed : Streaming "p" noticePage 0 guard (r.perform .dismissLag) :=
    hreading.of_sessions rfl rfl rfl
  obtain ⟨t, hsecond, hkept⟩ : ∃ t, StreamStep noticeModules (r.perform .dismissLag) (.session 0
      (.chunk 1 (ofString secondChunk)
        [noticeCallback laggedNotice hlagged, .comment, noticeCallback eventNotice hevent])) t ∧
        t.sessionGeneration = r.sessionGeneration :=
    hdismissed.exists_chunk 1 _ _
  refine ⟨r, t, .cons hfirst (.cons (.page .dismissLag) (.cons hsecond (.nil _))), ?_⟩
  exact List.forall_mem_cons.mpr
    ⟨⟨hgeneration, fun event h => by cases h; exact ⟨_, _, _, rfl⟩⟩,
      List.forall_mem_cons.mpr ⟨⟨rfl, fun event h => by cases h⟩,
        List.forall_mem_singleton.mpr
          ⟨hkept, fun event h => by cases h; exact ⟨_, _, _, rfl⟩⟩⟩⟩

end Edges

/-- The frames reach the page in two chunks, of which the first ends inside of a frame; the page
shows the event, and that it has missed one. -/
theorem stream_shown_notices : ∃ es stream past s fs t,
    Run (Api.SseStep noticeCrates) (.new Api.anyFilter (.subscribe 1)) es stream ∧
      Api.yieldedBy es = [readyNotice, laggedNotice, eventNotice] ∧
      Run (StreamStep noticeModules) (.new noticePage (some "token")) past s ∧
      Run (StreamStep noticeModules) s fs t ∧ fs.length = 3 ∧
      (fs.flatMap fun e => chunkText 0 e.label) = (noticeBlocks.map noticeWire).flatten ∧
      StreamShown (fun _ => []) toString noticeCrates ⟨"p"⟩ Api.anyFilter es 0 noticePage fs s t ∧
      t.view.backendSkipped = 1 := by
  obtain ⟨es, stream, hserver, hpublished, hreceived, hyielded⟩ := notice_run
  obtain ⟨past, s, hpast, hstart, hnone⟩ := noticePage_run
  have hevents : ∀ event ∈ Api.publishedBy es, Holds ⟨"p"⟩ event := by
    intro event hmem
    rw [hpublished] at hmem
    obtain rfl | rfl := List.mem_pair.mp hmem <;>
      exact ⟨rfl, by decide, fun raw hraw => absurd hraw (Option.not_mem_none raw)⟩
  have hcount : (Api.publishedBy es).length < 2 ^ 53 := by
    rw [hpublished]
    decide
  have hblocks : noticeBlocks.reduceOption = Api.yieldedBy es := by
    rw [hyielded]
    rfl
  -- The callbacks of the two chunks.
  have hready := length_noticeData readyNotice (.head _)
  have hlagged := length_noticeData laggedNotice (.tail _ (.head _))
  have hevent := length_noticeData eventNotice (.tail _ (.tail _ (.head _)))
  have hcalled := noticeCallbacks_calledBack hready hlagged hevent
  obtain ⟨messages, hreads, -⟩ := reads_stream writesJson_notice hserver hevents hcount
  rw [← hblocks] at hreads
  obtain ⟨parsed, hparsed, -⟩ := understood_of_calledBack hcalled hreads
  obtain ⟨first, later, rfl, hfirst, -⟩ := Fallible.forall₂_of_append hparsed
  obtain ⟨r, t, hrun, hundisturbed⟩ := noticeEdges_exists_run hready hlagged hevent hstart hfirst
  have htext := noticeEdges_text s r t hready hlagged hevent
  have hdelivered : Delivered noticeWire 0 es noticeBlocks
      (noticeEdges s r t hready hlagged hevent) := by
    refine ⟨hblocks, ⟨[], htext.trans (List.append_nil _).symm, Nat.zero_le _⟩, ?_⟩
    rw [noticeEdges_callbacks]
    exact hcalled
  have hshown := stream_shown (fun _ => []) toString noticeCrates writesJson_notice noticeWire
    noticeWire_ends ⟨"p"⟩ Api.anyFilter 1 hserver hevents hcount noticePage (some "token") hpast
    hstart hrun hundisturbed hdelivered
    fun block hmem => (countedCharacters_le _).trans
      ((noticeBlocks_short block hmem).trans (by decide))
  refine ⟨es, stream, past, s, _, t, hserver, hyielded, hpast, hrun, rfl, htext, hshown, ?_⟩
  have hwritten : ∀ skipped, .lagged skipped ∈ Api.receivedBy es →
      noticeCrates.toJson (.lagged skipped) ≠ none := by
    rw [hreceived]
    intro skipped hmem
    obtain hlagged | hvalue := List.mem_pair.mp hmem
    · cases hlagged
      rw [toJson_notices.2.1]
      exact Option.some_ne_none _
    · cases hvalue
  have hskipped := hshown.skipped hwritten (noticeEdges_keeps s r t hready hlagged hevent)
  rw [hnone, hreceived] at hskipped
  exact hskipped

end Web
end PipeBolt
