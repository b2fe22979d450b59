import PipeBolt.Js.Utf16
import PipeBolt.Web.RealtimeBuffer

/-!
# Realtime sessions

`useRealtimeStream.ts`: the sessions that read a stream of events and what the page shows of it.  A
session is suspended at a fetch, at a read, at the cancelling of its reader or at a delay, and any
number of older sessions may be suspended when a new one starts.

The page's own steps, the steps of the sessions and those of the watcher come in any order.  What a
parser of server-sent events calls back for a chunk is part of the step that reads the chunk.

* `RealtimeStream`: what the composable holds.
* `guardFrames`: the limit of a frame.
* `StreamStep`: the steps.
-/

namespace PipeBolt
namespace Web

open Js

/-! ## Messages and errors -/

/-- `RealtimeConnectionState`. -/
inductive RealtimeConnectionState where
  | idle
  | connecting
  | connected
  | reconnecting
  | paused
  | error
  deriving DecidableEq, Repr

/-- `DesiredState`. -/
inductive DesiredState where
  | running
  | paused
  | stopped
  deriving DecidableEq, Repr

/-- What `parseRealtimeMessage` returns, with events of a type `E`. -/
inductive RealtimeMessage (E : Type) where
  | ready
  | event (data : E)
  | lagged (skipped : Nat)
  | error (message : JsString)
  | filterUpdated

/-- The errors that end an attempt: `RealtimeProtocolError`, `ApiError`, an `AbortError`, a
`TimeoutError`, and any other one. -/
inductive StreamError where
  | protocol (message : String)
  | api (code : String) (status : Option Nat) (message : String)
  | aborted
  | timeout
  | other (message : String)
  deriving DecidableEq, Repr

/-- `isTerminalError`. -/
def isTerminalError : StreamError → Bool
  | .protocol _ => true
  | .api code status _ =>
    code == "invalid_stream_content_type" || code == "missing_stream_body" ||
    status == some 400 || status == some 401 || status == some 403 || status == some 404 ||
    status == some 422
  | .aborted | .timeout | .other _ => false

/-- `getApiErrorMessage`, of an error without a response. -/
def getApiErrorMessage : StreamError → String
  | .api _ _ message => message
  | .aborted => "Request was cancelled."
  | .timeout => "Backend request timed out."
  | .protocol _ | .other _ => "Backend is unreachable."

/-- `streamErrorMessage`. -/
def streamErrorMessage : StreamError → String
  | .protocol message => message
  | .other message =>
    if message = "Realtime stream closed." then message else getApiErrorMessage (.other message)
  | error => getApiErrorMessage error

/-- The data of a server-sent event.  A string has fewer than `2 ** 53` code units. -/
structure FrameText where
  units : JsString
  length_le : units.length ≤ 2 ^ 53

/-- `data.length`. -/
def FrameText.length (data : FrameText) : JsNumber := .ofNat data.units.length data.length_le

/-- What the page asks for: the project and the filters. -/
structure StreamInputs (F : Type) where
  projectId : Option String
  filters : F

/-- What the composable uses of other modules: the parser of a message, which throws a
`RealtimeProtocolError`, and the texts of the filters and of a number. -/
structure StreamModules (E F : Type) where
  parseRealtimeMessage : FrameText → Option JsString → String → Except String (RealtimeMessage E)
  stringify : F → JsString
  toLocaleString : Nat → String

/-- What the watcher compares. -/
def StreamModules.watched {E F : Type} (modules : StreamModules E F) (inputs : StreamInputs F) :
    Option String × JsString :=
  (inputs.projectId, modules.stringify inputs.filters)

/-! ## State -/

/-- An event, with the inputs of the stream that it was read from. -/
structure ReceivedEvent (E F : Type) where
  event : E
  inputs : StreamInputs F

/-- What the page is shown of the stream, and what the page wants it to do. -/
structure StreamView (E F : Type) where
  eventBuffer : RealtimeEventBuffer (ReceivedEvent E F)
  events : List (ReceivedEvent E F)
  /-- A flush is scheduled. -/
  animationFrame : Bool
  connectionState : RealtimeConnectionState
  errorMessage : Option String
  streamNotice : Option JsString
  backendSkipped : Nat
  browserDropped : Nat
  reconnectAttempt : Nat
  lagVisible : Bool
  lagMessage : Option String
  lastEventAt : Option Nat
  connectedAt : Option Nat
  desiredState : DesiredState

/-- An attempt to read a stream: what it asked for, whether its signal is aborted, and whether its
`readyTimer` runs. -/
structure Attempt (F : Type) where
  projectId : String
  inputs : StreamInputs F
  aborted : Bool
  readyTimer : Bool

/-- What `guardFrames` counts. -/
structure FrameGuard where
  eventCharacterCount : Nat
  lineCharacterCount : Nat
  previousWasCarriageReturn : Bool
  deriving DecidableEq, Repr

/-- Where a session is suspended. -/
inductive SessionPhase (F : Type) where
  /-- `await openRealtimeStream(..)`. -/
  | opening (attempt : Attempt F)
  /-- `await reader.read()`. -/
  | reading (attempt : Attempt F) (guard : FrameGuard)
  /-- `await reader.cancel()`, with what `consumeResponse` throws afterwards. -/
  | cancelling (attempt : Attempt F) (failure : Option StreamError)
  /-- `await abortableDelay(..)`. -/
  | delaying (delay : Nat)
  /-- `runSession` has thrown. -/
  | rejected (error : StreamError)
  | ended

/-- A call of `runSession`, with its controller. -/
structure StreamSession (F : Type) where
  generation : Nat
  aborted : Bool
  failureCount : Nat
  retryDelay : Nat
  wasConnected : Bool
  phase : SessionPhase F

/-- A stream that was opened: by the session of which generation, and with which inputs. -/
structure OpenedStream (F : Type) where
  generation : Nat
  inputs : StreamInputs F

/-- A call of `useRealtimeStream`: the inputs of the page, what the watcher saw of them when it ran
last and whether it is to run again, and the sessions ever started, the newest first.
`sessionController` is the controller of the newest one. -/
structure RealtimeStream (E F : Type) where
  inputs : StreamInputs F
  watchedInputs : StreamInputs F
  watchPending : Bool
  /-- The streams that were opened since the watcher last found a change. -/
  opened : List (OpenedStream F)
  accessToken : Option String
  view : StreamView E F
  sessions : List (StreamSession F)
  sessionGeneration : Nat
  lastActivityMs : Nat

def MAX_SSE_FRAME_CHARS : Nat := 1024 * 1024
def INITIAL_RETRY_MS : Nat := 1000
def MAX_RETRY_MS : Nat := 30000
def MAX_SAFE_INTEGER : Nat := 2 ^ 53 - 1

/-! ## What is shown -/

namespace StreamView

variable {E F : Type}

/-- `flushEvents`. -/
def flushEvents (view : StreamView E F) (now : Nat) : StreamView E F :=
  { view with animationFrame := false, events := view.eventBuffer.events, lastEventAt := some now }

/-- `scheduleFlush`. -/
def scheduleFlush (view : StreamView E F) : StreamView E F := { view with animationFrame := true }

/-- `flushScheduledEvents`. -/
def flushScheduledEvents (view : StreamView E F) (now : Nat) : StreamView E F :=
  if view.animationFrame then view.flushEvents now else view

/-- `markLag`. -/
def markLag (view : StreamView E F) (message : String) : StreamView E F :=
  { view with lagMessage := some message, lagVisible := true }

/-- `pushEvent`; the loop of the buffer's `push` runs at most once for each event. -/
def pushEvent (view : StreamView E F) (event : ReceivedEvent E F) (frameLength : JsNumber) :
    StreamView E F :=
  match view.eventBuffer.push (view.eventBuffer.events.length + 1) event frameLength with
  | none => view
  | some (result, eventBuffer) =>
    let view := { view with eventBuffer }
    let view :=
      if 0 < result.dropped then
        { view with browserDropped := min MAX_SAFE_INTEGER (view.browserDropped + result.dropped) }
          |>.markLag "Browser buffer overflowed; oldest events were discarded."
      else view
    if result.accepted then view.scheduleFlush else view

/-- `clearEvents`. -/
def clearEvents (view : StreamView E F) : StreamView E F :=
  { view with
    eventBuffer := view.eventBuffer.clear
    animationFrame := false
    events := []
    backendSkipped := 0
    browserDropped := 0
    lagVisible := false
    lagMessage := none
    lastEventAt := none }

/-- `handleMessage`, of a message that was parsed: whether it connects, and what is shown. -/
def handleMessage (modules : StreamModules E F) (view : StreamView E F) (inputs : StreamInputs F)
    (now : Nat) (data : FrameText) : RealtimeMessage E → Bool × StreamView E F
  | .ready => (true, { view with
      connectionState := .connected
      connectedAt := some now
      reconnectAttempt := 0
      errorMessage := none
      streamNotice := none })
  | .event event =>
    (true, { view with connectionState := .connected }.pushEvent ⟨event, inputs⟩ data.length)
  | .lagged skipped =>
    (false, { view with
      backendSkipped := min MAX_SAFE_INTEGER (view.backendSkipped + skipped) }.markLag
        s!"Backend stream skipped {modules.toLocaleString skipped} event(s).")
  | .error message => (false, { view with streamNotice := some (message.take 500) })
  | .filterUpdated => (false, view)

end StreamView

/-! ## Frames -/

/-- `lineEnded`. -/
def FrameGuard.lineEnded (guard : FrameGuard) : FrameGuard :=
  { guard with
    eventCharacterCount := if guard.lineCharacterCount = 0 then 0 else guard.eventCharacterCount
    lineCharacterCount := 0 }

/-- The body of the loop of `guardFrames`, which may throw. -/
def FrameGuard.character (guard : FrameGuard) (character : Nat) : Option FrameGuard :=
  if guard.previousWasCarriageReturn && character == '\n'.toNat then
    some { guard with previousWasCarriageReturn := false }
  else if character == '\r'.toNat then
    some { guard.lineEnded with previousWasCarriageReturn := true }
  else if character == '\n'.toNat then
    some { guard.lineEnded with previousWasCarriageReturn := false }
  else if MAX_SSE_FRAME_CHARS < guard.eventCharacterCount + 1 then none
  else some ⟨guard.eventCharacterCount + 1, guard.lineCharacterCount + 1, false⟩

/-- `guardFrames`. -/
def guardFrames (guard : FrameGuard) (chunk : JsString) : Except StreamError FrameGuard :=
  match (codePoints chunk).foldlM FrameGuard.character guard with
  | some guard => .ok guard
  | none => .error (.protocol "Realtime SSE frame exceeded browser safety limit.")

/-- The characters of a text that `guardFrames` counts. -/
def countedCharacters (text : List Nat) : Nat :=
  text.countP fun character => !(character == '\r'.toNat || character == '\n'.toNat)

/-- A line has no characters right after a carriage return. -/
def FrameGuard.Fine (guard : FrameGuard) : Prop :=
  guard.previousWasCarriageReturn = true → guard.lineCharacterCount = 0

/-- A character counts for one at most, and a line end for none. -/
theorem FrameGuard.character_counts {guard : FrameGuard} {character : Nat}
    (h : guard.eventCharacterCount + countedCharacters [character] ≤ MAX_SSE_FRAME_CHARS) :
    ∃ next, guard.character character = some next ∧ next.Fine ∧
      next.eventCharacterCount ≤ guard.eventCharacterCount + countedCharacters [character] := by
  have hended : guard.lineEnded.eventCharacterCount ≤ guard.eventCharacterCount := by
    rw [FrameGuard.lineEnded]
    dsimp only
    split
    · exact Nat.zero_le _
    · exact Nat.le_refl _
  unfold FrameGuard.character
  split
  · exact ⟨_, rfl, nofun, Nat.le_add_right _ _⟩
  · split
    · exact ⟨_, rfl, fun _ => rfl, Nat.le_add_right_of_le hended⟩
    · next hreturn =>
      split
      · exact ⟨_, rfl, nofun, Nat.le_add_right_of_le hended⟩
      · next hfeed =>
        have hone : countedCharacters [character] = 1 := by
          rw [countedCharacters, List.countP_singleton, if_pos]
          rw [Bool.eq_false_iff.mpr hreturn, Bool.eq_false_iff.mpr hfeed]
          rfl
        rw [hone] at h ⊢
        rw [if_neg (Nat.not_lt.mpr h)]
        exact ⟨_, rfl, nofun, Nat.le_refl _⟩

/-- A text with no more characters than the limit passes. -/
theorem FrameGuard.counts {text : List Nat} {guard : FrameGuard} (hfine : guard.Fine)
    (h : guard.eventCharacterCount + countedCharacters text ≤ MAX_SSE_FRAME_CHARS) :
    ∃ last, text.foldlM FrameGuard.character guard = some last ∧ last.Fine := by
  induction text generalizing guard with
  | nil => exact ⟨guard, rfl, hfine⟩
  | cons character text ih =>
    have hcons : countedCharacters (character :: text) =
        countedCharacters [character] + countedCharacters text := by
      rw [countedCharacters, ← List.singleton_append, List.countP_append]
      rfl
    obtain ⟨next, hnext, hnextFine, hcount⟩ : ∃ next, guard.character character = some next ∧
        next.Fine ∧ next.eventCharacterCount ≤
          guard.eventCharacterCount + countedCharacters [character] :=
      FrameGuard.character_counts (by omega)
    obtain ⟨last, hlast, hlastFine⟩ := ih hnextFine (by omega)
    refine ⟨last, ?_, hlastFine⟩
    rw [List.foldlM_cons, hnext]
    exact hlast

/-- At the start of a frame only the text counts. -/
theorem FrameGuard.counts_first {text : List Nat}
    (h : countedCharacters text ≤ MAX_SSE_FRAME_CHARS) :
    ∃ last, text.foldlM FrameGuard.character ⟨0, 0, false⟩ = some last ∧ last.Fine := by
  have hfine : FrameGuard.Fine ⟨0, 0, false⟩ := nofun
  exact FrameGuard.counts hfine (by rwa [Nat.zero_add])

/-- An empty line starts a new frame. -/
theorem FrameGuard.blankLine {guard : FrameGuard} (hfine : guard.Fine) :
    ['\n'.toNat, '\n'.toNat].foldlM FrameGuard.character guard = some ⟨0, 0, false⟩ := by
  obtain ⟨events, line, carriageReturn⟩ := guard
  cases carriageReturn with
  | false => rfl
  | true =>
    obtain rfl : line = 0 := hfine rfl
    rfl

/-- A frame within the limit passes, and leaves nothing behind. -/
theorem FrameGuard.frame {content : List Nat}
    (h : countedCharacters content ≤ MAX_SSE_FRAME_CHARS) :
    (content ++ ['\n'.toNat, '\n'.toNat]).foldlM FrameGuard.character ⟨0, 0, false⟩ =
      some ⟨0, 0, false⟩ := by
  obtain ⟨last, hlast, hfine⟩ := FrameGuard.counts_first h
  rw [List.foldlM_append, hlast]
  exact FrameGuard.blankLine hfine

/-- Frames within the limit pass. -/
theorem FrameGuard.frames {texts : List (List Nat)}
    (hended : ∀ text ∈ texts, ∃ content, text = content ++ ['\n'.toNat, '\n'.toNat])
    (hlimit : ∀ text ∈ texts, countedCharacters text ≤ MAX_SSE_FRAME_CHARS) :
    texts.flatten.foldlM FrameGuard.character ⟨0, 0, false⟩ = some ⟨0, 0, false⟩ := by
  induction texts with
  | nil => rfl
  | cons text texts ih =>
    obtain ⟨⟨content, rfl⟩, hendedRest⟩ := List.forall_mem_cons.mp hended
    obtain ⟨hfirst, hlimitRest⟩ := List.forall_mem_cons.mp hlimit
    have hcontent : countedCharacters content ≤ MAX_SSE_FRAME_CHARS := by
      rw [countedCharacters, List.countP_append] at hfirst
      exact (Nat.le_add_right _ _).trans hfirst
    rw [List.flatten_cons, List.foldlM_append, FrameGuard.frame hcontent]
    exact ih hendedRest hlimitRest

theorem guardFrames_first {chunk : JsString}
    (h : (codePoints chunk).length ≤ MAX_SSE_FRAME_CHARS) :
    ∃ guard, guardFrames ⟨0, 0, false⟩ chunk = .ok guard := by
  have hcount : countedCharacters (codePoints chunk) ≤ MAX_SSE_FRAME_CHARS :=
    List.countP_le_length.trans h
  obtain ⟨guard, hguard, -⟩ := FrameGuard.counts_first hcount
  exact ⟨guard, by rw [guardFrames, hguard]⟩

/-! ## Sessions -/

/-- What a parser of server-sent events calls back. -/
inductive ParserCallback where
  | comment
  | error
  | event (data : FrameText) (name : Option JsString)
  | retry (milliseconds : Nat)

/-- What the callbacks of a session change. -/
structure Reading (E F : Type) where
  view : StreamView E F
  session : StreamSession F
  attempt : Attempt F
  lastActivityMs : Nat

section Sessions

variable {E F : Type} (modules : StreamModules E F)

/-- The attempt of a session that is suspended. -/
def SessionPhase.attempt : SessionPhase F → Option (Attempt F)
  | .opening attempt | .reading attempt _ | .cancelling attempt _ => some attempt
  | .delaying _ | .rejected _ | .ended => none

/-- The signal of the attempt is aborted, and its timer is stopped or not. -/
def SessionPhase.abortAttempt (phase : SessionPhase F) (stopTimer : Bool) : SessionPhase F :=
  let abort (attempt : Attempt F) :=
    { attempt with aborted := true, readyTimer := attempt.readyTimer && !stopTimer }
  match phase with
  | .opening attempt => .opening (abort attempt)
  | .reading attempt guard => .reading (abort attempt) guard
  | .cancelling attempt failure => .cancelling (abort attempt) failure
  | phase => phase

/-- The start of `consumeResponse`.  Nothing is read for an attempt that is aborted. -/
def Attempt.startReading (attempt : Attempt F) : SessionPhase F :=
  if attempt.aborted then .cancelling attempt none else .reading attempt ⟨0, 0, false⟩

/-- `controller.abort()`, which the attempt listens to. -/
def StreamSession.abort (session : StreamSession F) : StreamSession F :=
  { session with aborted := true, phase := session.phase.abortAttempt false }

/-- `sessionController?.abort()`. -/
def abortController : List (StreamSession F) → List (StreamSession F)
  | [] => []
  | newest :: older => newest.abort :: older

def StreamSession.finish (session : StreamSession F) : StreamSession F :=
  { session with phase := .ended }

namespace Reading

/-- `onEvent`. -/
def onEvent (generation now : Nat) (reading : Reading E F) (data : FrameText)
    (name : Option JsString) : Reading E F × Option StreamError :=
  if reading.attempt.aborted || reading.session.generation != generation ||
      reading.view.desiredState != .running then (reading, none)
  else
    let reading := { reading with lastActivityMs := now }
    match modules.parseRealtimeMessage data name reading.attempt.projectId with
    | .error message => (reading, some (.protocol message))
    | .ok message =>
      let (connected, view) :=
        reading.view.handleMessage modules reading.attempt.inputs now data message
      let reading := { reading with view }
      if connected then
        -- `onConnected`
        ({ reading with
          attempt := { reading.attempt with readyTimer := false }
          session := { reading.session with failureCount := 0, wasConnected := true } }, none)
      else (reading, none)

/-- A callback, which may throw. -/
def callback (generation now : Nat) (reading : Reading E F) :
    ParserCallback → Reading E F × Option StreamError
  | .comment => ({ reading with lastActivityMs := now }, none)
  | .error => (reading, none)
  | .event data name => reading.onEvent modules generation now data name
  | .retry milliseconds =>
    ({ reading with session := { reading.session with
      retryDelay := min MAX_RETRY_MS (max INITIAL_RETRY_MS milliseconds) } }, none)

/-- `parser.feed`: the callbacks one after the other, until one throws. -/
def feed (generation now : Nat) (reading : Reading E F) :
    List ParserCallback → Reading E F × Option StreamError
  | [] => (reading, none)
  | callback :: callbacks =>
    match reading.callback modules generation now callback with
    | (reading, none) => reading.feed generation now callbacks
    | (reading, some error) => (reading, some error)

end Reading

namespace RealtimeStream

/-- Nothing is shown, and no session has been started. -/
def new (inputs : StreamInputs F) (accessToken : Option String) : RealtimeStream E F where
  inputs := inputs
  watchedInputs := inputs
  watchPending := false
  opened := []
  accessToken := accessToken
  view :=
    { eventBuffer := ⟨[], [], REALTIME_EVENT_LIMIT, REALTIME_BUFFER_WEIGHT_LIMIT, 0⟩
      events := []
      animationFrame := false
      connectionState := .idle
      errorMessage := none
      streamNotice := none
      backendSkipped := 0
      browserDropped := 0
      reconnectAttempt := 0
      lagVisible := false
      lagMessage := none
      lastEventAt := none
      connectedAt := none
      desiredState := .stopped }
  sessions := []
  sessionGeneration := 0
  lastActivityMs := 0

/-- The head of the loop of `runSession`: the next attempt, or the end. -/
def attemptNext (s : RealtimeStream E F) (x : StreamSession F) :
    RealtimeStream E F × StreamSession F :=
  if x.aborted || x.generation != s.sessionGeneration || s.view.desiredState != .running then
    (s, x.finish)
  else
    match s.inputs.projectId.filter (· ≠ ""), s.accessToken.filter (· ≠ "") with
    | some projectId, some _ =>
      ({ s with
        view := { s.view with
          connectionState := if x.failureCount = 0 then .connecting else .reconnecting }
        opened := ⟨x.generation, s.inputs⟩ :: s.opened },
        { x with phase := .opening ⟨projectId, s.inputs, false, true⟩ })
    | _, _ =>
      ({ s with view := { s.view with
        connectionState := .error
        errorMessage := some "Project context and bearer token are required."
        desiredState := .stopped } }, x.finish)

/-- The page is told of an error, and the stream is stopped. -/
def stop (s : RealtimeStream E F) (error : StreamError) : RealtimeStream E F :=
  { s with view := { s.view with
    connectionState := .error
    errorMessage := some (streamErrorMessage error)
    desiredState := .stopped } }

/-- The `catch` of `runSession`. -/
def catchError (s : RealtimeStream E F) (x : StreamSession F) (error : StreamError) :
    RealtimeStream E F × StreamSession F :=
  if x.aborted || x.generation != s.sessionGeneration then (s, x.finish)
  else if isTerminalError error then (s.stop error, x.finish)
  else
    let failureCount := x.failureCount + 1
    let view := { s.view with
      reconnectAttempt := failureCount
      connectionState := .reconnecting
      errorMessage := some (streamErrorMessage error) }
    let view :=
      if x.wasConnected || s.view.connectedAt.isSome then
        view.markLag
          "Connection interrupted; events emitted during reconnect cannot be replayed."
      else view
    let delay := min (x.retryDelay * 2 ^ min (failureCount - 1) 10) MAX_RETRY_MS
    ({ s with view }, { x with failureCount, phase := .delaying delay })

/-- A chunk, or what is left at the end: `guardFrames` and `parser.feed`, of which either may throw.
`next` is where the session is suspended afterwards. -/
def consume (s : RealtimeStream E F) (x : StreamSession F) (attempt : Attempt F)
    (guard : FrameGuard) (now : Nat) (text : JsString) (callbacks : List ParserCallback)
    (next : Attempt F → FrameGuard → SessionPhase F) : RealtimeStream E F × StreamSession F :=
  match guardFrames guard text with
  | .error error => (s, { x with phase := .cancelling attempt (some error) })
  | .ok guard =>
    let (reading, thrown) :=
      (Reading.mk s.view x attempt s.lastActivityMs).feed modules s.sessionGeneration now callbacks
    let s := { s with view := reading.view, lastActivityMs := reading.lastActivityMs }
    match thrown with
    | some error =>
      (s, { reading.session with phase := .cancelling reading.attempt (some error) })
    | none => (s, { reading.session with phase := next reading.attempt guard })

/-- The sessions are aborted, and none is current. -/
def abandon (s : RealtimeStream E F) (desiredState : DesiredState) : RealtimeStream E F :=
  { s with
    sessions := abortController s.sessions
    sessionGeneration := s.sessionGeneration + 1
    view := { s.view with desiredState } }

/-- `startSession`; `runSession` runs to its first suspension. -/
def startSession (s : RealtimeStream E F) : RealtimeStream E F :=
  let s := s.abandon .running
  let s := { s with view := { s.view with
    errorMessage := none
    streamNotice := none
    connectedAt := none } }
  let (s, session) :=
    s.attemptNext ⟨s.sessionGeneration, false, 0, INITIAL_RETRY_MS, false, .ended⟩
  { s with sessions := session :: s.sessions }

/-- `pause`. -/
def pause (s : RealtimeStream E F) (now : Nat) : RealtimeStream E F :=
  let s := s.abandon .paused
  { s with view := { s.view.flushScheduledEvents now with connectionState := .paused } }

/-- `disconnect`. -/
def disconnect (s : RealtimeStream E F) (now : Nat) : RealtimeStream E F :=
  let s := s.abandon .stopped
  { s with view := { s.view.flushScheduledEvents now with
    connectionState := .idle
    reconnectAttempt := 0
    errorMessage := none
    streamNotice := none } }

/-- The callback of the watcher, which compares what there is with what it saw last. -/
def runWatcher (s : RealtimeStream E F) : RealtimeStream E F :=
  let changed := modules.watched s.inputs ≠ modules.watched s.watchedInputs
  let s := { s with watchedInputs := s.inputs, watchPending := false }
  if changed then
    let s := { s with opened := [], view := s.view.clearEvents }
    if s.view.desiredState = .running then s.startSession else s
  else s

def STALE_CONNECTION_MS : Nat := 40000

/-- The callback of the watchdog. -/
def runWatchdog (s : RealtimeStream E F) (now : Nat) : RealtimeStream E F :=
  if s.view.desiredState = .running ∧ s.view.connectionState = .connected ∧
      STALE_CONNECTION_MS < now - s.lastActivityMs then
    let view := s.view.markLag
      "Heartbeat timed out; reconnecting because event continuity is uncertain."
    { s with view }.startSession
  else s

end RealtimeStream

/-! ## Steps -/

/-- What the page does. -/
inductive PageAction (F : Type) where
  | mounted
  | unmounted (now : Nat)
  | connect
  | resume
  | pause (now : Nat)
  | disconnect (now : Nat)
  | clearEvents
  | dismissLag
  | watchdog (now : Nat)
  | change (inputs : StreamInputs F)
  | signIn (accessToken : Option String)

/-- What a session resumes with. -/
inductive SessionEvent where
  | readyTimeout
  | opened (now : Nat)
  | openFailed (error : StreamError)
  | chunk (now : Nat) (text : JsString) (callbacks : List ParserCallback)
  | finished (now : Nat) (text : JsString) (callbacks : List ParserCallback)
  | readFailed (error : StreamError)
  | cancelled
  | delayed
  | delayAborted
  | threw (error : StreamError)
  | caught

inductive StreamLabel (F : Type) where
  | page (action : PageAction F)
  | watcher
  | animationFrame (now : Nat)
  | session (index : Nat) (event : SessionEvent)

/-- An action of the page. -/
def RealtimeStream.perform (s : RealtimeStream E F) : PageAction F → RealtimeStream E F
  | .mounted => s.startSession
  | .unmounted now =>
    let s := s.disconnect now
    { s with view := { s.view with animationFrame := false } }
  | .connect => if s.view.desiredState = .running then s else s.startSession
  | .resume => if s.view.desiredState = .paused then s.startSession else s
  | .pause now => s.pause now
  | .disconnect now => s.disconnect now
  | .clearEvents => { s with view := s.view.clearEvents }
  | .dismissLag => { s with view := { s.view with lagVisible := false } }
  | .watchdog now => s.runWatchdog now
  | .change inputs => { s with inputs, watchPending := true }
  | .signIn accessToken => { s with accessToken }

/-- A session resumes.  What a promise was settled with before its session was aborted may still
arrive after it. -/
inductive SessionStep (s : RealtimeStream E F) (x : StreamSession F) :
    SessionEvent → RealtimeStream E F × StreamSession F → Prop
  | readyTimeout {attempt} (hphase : x.phase.attempt = some attempt)
      (htimer : attempt.readyTimer = true) :
      SessionStep s x .readyTimeout (s, { x with phase := x.phase.abortAttempt true })
  | opened {attempt} (now : Nat) (hphase : x.phase = .opening attempt) :
      SessionStep s x (.opened now)
        ({ s with lastActivityMs := now }, { x with phase := attempt.startReading })
  | openFailed {attempt} (error : StreamError) (hphase : x.phase = .opening attempt) :
      SessionStep s x (.openFailed error) (s.catchError x error)
  | chunk {attempt guard} (now : Nat) (text : JsString) (callbacks : List ParserCallback)
      (hphase : x.phase = .reading attempt guard)
      (hcurrent : attempt.aborted = false ∧ x.generation = s.sessionGeneration ∧
        s.view.desiredState = .running) :
      SessionStep s x (.chunk now text callbacks)
        (s.consume modules x attempt guard now text callbacks .reading)
  | chunkIgnored {attempt guard} (now : Nat) (text : JsString) (callbacks : List ParserCallback)
      (hphase : x.phase = .reading attempt guard)
      (hcurrent : ¬ (attempt.aborted = false ∧ x.generation = s.sessionGeneration ∧
        s.view.desiredState = .running)) :
      SessionStep s x (.chunk now text callbacks)
        (s, { x with phase := .cancelling attempt none })
  /-- What the decoder and the parser still hold; the session is not compared again. -/
  | finished {attempt guard} (now : Nat) (text : JsString) (callbacks : List ParserCallback)
      (hphase : x.phase = .reading attempt guard) :
      SessionStep s x (.finished now text callbacks)
        (s.consume modules x attempt guard now text callbacks fun attempt _ =>
          .cancelling attempt none)
  | readFailed {attempt guard} (error : StreamError) (hphase : x.phase = .reading attempt guard) :
      SessionStep s x (.readFailed error)
        (s, { x with phase := .cancelling attempt (some error) })
  | cancelledAborted {attempt} (hphase : x.phase = .cancelling attempt none)
      (haborted : x.aborted = true) : SessionStep s x .cancelled (s, x.finish)
  | cancelledClosed {attempt} (hphase : x.phase = .cancelling attempt none)
      (haborted : x.aborted = false) :
      SessionStep s x .cancelled (s.catchError x (.other "Realtime stream closed."))
  | cancelled {attempt error} (hphase : x.phase = .cancelling attempt (some error)) :
      SessionStep s x .cancelled (s.catchError x error)
  | delayed {delay} (hphase : x.phase = .delaying delay) :
      SessionStep s x .delayed (s.attemptNext x)
  | delayAborted {delay} (hphase : x.phase = .delaying delay) (haborted : x.aborted = true) :
      SessionStep s x .delayAborted (s, x.finish)
  /-- `runSession` throws what it does not catch. -/
  | threw (error : StreamError) (hphase : x.phase ≠ .ended) :
      SessionStep s x (.threw error) (s, { x with phase := .rejected error })
  /-- The `catch` of `startSession`. -/
  | caught {error} (hphase : x.phase = .rejected error)
      (hcurrent : x.generation = s.sessionGeneration ∧ x.aborted = false) :
      SessionStep s x .caught (s.stop error, x.finish)
  | caughtIgnored {error} (hphase : x.phase = .rejected error)
      (hcurrent : ¬ (x.generation = s.sessionGeneration ∧ x.aborted = false)) :
      SessionStep s x .caught (s, x.finish)

/-- A step of the page, of the watcher, of the browser or of a session. -/
inductive StreamStep : RealtimeStream E F → StreamLabel F → RealtimeStream E F → Prop
  | page {s : RealtimeStream E F} (action : PageAction F) :
      StreamStep s (.page action) (s.perform action)
  | watcher {s : RealtimeStream E F} (hpending : s.watchPending = true) :
      StreamStep s .watcher (s.runWatcher modules)
  | animationFrame {s : RealtimeStream E F} (now : Nat) (hframe : s.view.animationFrame = true) :
      StreamStep s (.animationFrame now) { s with view := s.view.flushEvents now }
  | session {s : RealtimeStream E F} {index : Nat} {event : SessionEvent}
      {x : StreamSession F} {result : RealtimeStream E F × StreamSession F}
      (hx : s.sessions[index]? = some x) (hstep : SessionStep modules s x event result) :
      StreamStep s (.session index event)
        { result.1 with sessions := result.1.sessions.set index result.2 }

end Sessions

end Web
end PipeBolt
