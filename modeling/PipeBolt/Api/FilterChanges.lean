import PipeBolt.Api.SocketThreads

/-!
# Filter changes under events

A `Subscribe` may be accepted while the telemetry task compares an event with the filter it has
read, or announces an earlier change.

* `FilterKept`: what the filter is, from the `Subscribe`s that were accepted.
* `filters_coherent`: the messages of the telemetry task and the filters that were accepted.
* `stale_event`: an event that is enqueued under a filter that has just been replaced.
-/

namespace PipeBolt
namespace Api

open Domain BoundedChannel Transition
open scoped List

/-! ## What happens in a run -/

/-- A step that is taken by a thread. -/
abbrev ThreadEdge := Edge SocketThreads ThreadLabel

/-- The filter that a step accepts. -/
def accepted (crates : RealtimeCrates) (e : ThreadEdge) : Option RealtimeFilter :=
  match e.label with
  | .whole label => e.source.session.accepts crates label
  | _ => none

/-- The event that is broadcast in a step. -/
def published (e : ThreadEdge) : Option NormalizedEvent :=
  match e.label with
  | .whole (.published event) => some event
  | _ => none

/-- The event whose message is enqueued in a step. -/
def enqueued (crates : RealtimeCrates) (e : ThreadEdge) : Option NormalizedEvent :=
  match e.label with
  | .enqueue event _ =>
    if e.source.session.sends crates (.event (.fromEvent crates event)) then some event else none
  | _ => none

/-- The filter of the `FilterUpdated` message that is enqueued in a step. -/
def updated (crates : RealtimeCrates) (e : ThreadEdge) : Option RealtimeFilter :=
  match e.label with
  | .announce filter =>
    if e.source.session.sends crates (.filterUpdated filter) then some filter else none
  | _ => none

/-- The filter that the telemetry task announces in a step, by `Ready` or by `FilterUpdated`. -/
def announced (crates : RealtimeCrates) (e : ThreadEdge) : Option RealtimeFilter :=
  match e.label with
  | .ready filter =>
    if e.source.session.sends crates (.ready "websocket" filter) then some filter else none
  | .announce _ => updated crates e
  | _ => none

/-- The filter that was accepted last. -/
def lastAccepted (crates : RealtimeCrates) (initial : RealtimeFilter) (es : List ThreadEdge) :
    RealtimeFilter :=
  (es.filterMap (accepted crates)).getLastD initial

/-- The filter that was announced last. -/
def lastAnnounced (crates : RealtimeCrates) (es : List ThreadEdge) : Option RealtimeFilter :=
  (es.filterMap (announced crates)).getLast?

/-- The telemetry task waits in its `select!`, and has no change of the filter to see. -/
structure SocketThreads.Idle (s : SocketThreads) : Prop where
  telemetry : s.session.telemetry = .looping
  hold : s.hold = .nothing
  filterSeen : s.session.filterSeen = true

/-- The telemetry task took a step after `before`, and none since then. -/
def TookLast (past before between : List ThreadEdge) (label : ThreadLabel) : Prop :=
  ∃ e : ThreadEdge, past = before ++ e :: between ∧ e.label = label ∧
    ∀ a ∈ between, ∃ label, a.label = .whole label

/-- The filter that the telemetry task holds is the one that had been accepted when it read it. -/
def HoldsRead (crates : RealtimeCrates) (initial : RealtimeFilter) (es : List ThreadEdge) :
    TelemetryHold → Prop
  | .update filter => ∃ before between, TookLast es before between (.readChange filter) ∧
    filter = lastAccepted crates initial before
  | .compared event filter => ∃ before between,
    TookLast es before between (.readFilter event filter) ∧
      filter = lastAccepted crates initial before
  | .nothing | .changed | .received _ | .lagged _ | .refused => True

/-- The telemetry task is not announcing a change, nor about to end. -/
def TelemetryHold.Settled : TelemetryHold → Prop
  | .nothing | .received _ | .compared _ _ | .lagged _ => True
  | .changed | .update _ | .refused => False

/-- What was announced last, against the filter that is accepted, by where the telemetry task is. -/
def Announces (last : Option RealtimeFilter) (filter : RealtimeFilter) :
    TelemetryPhase → TelemetryHold → Prop
  | .ended, _ => True
  | .starting first, _ => filter = first
  | .looping, .changed | .looping, .refused => True
  | .looping, .update read => filter = read
  | .looping, .nothing | .looping, .received _ | .looping, .compared _ _ | .looping, .lagged _ =>
    last = some filter

/-- What has been announced, where the telemetry task has seen every change of the filter. -/
def AnnouncedKept (crates : RealtimeCrates) (es : List ThreadEdge) (s : SocketThreads) : Prop :=
  s.session.filterSeen = true →
    Announces (lastAnnounced crates es) s.session.filter s.session.telemetry s.hold

section Runs

variable {crates : RealtimeCrates} {initial : RealtimeFilter} {s t : SocketThreads}
  {label : ThreadLabel} {es : List ThreadEdge}

theorem lastAccepted_snoc (e : ThreadEdge) : lastAccepted crates initial (es ++ [e]) =
    (accepted crates e).getD (lastAccepted crates initial es) := by
  rw [lastAccepted, filterMap_snoc]
  cases accepted crates e with
  | none => rw [Option.toList_none, List.append_nil, Option.getD_none, lastAccepted]
  | some filter => rw [Option.toList_some, List.getLastD_concat, Option.getD_some]

/-- Where nothing is accepted, the filter that was accepted last stays. -/
theorem lastAccepted_append {later : List ThreadEdge} (h : ∀ e ∈ later, accepted crates e = none) :
    lastAccepted crates initial (es ++ later) = lastAccepted crates initial es := by
  have hlater : later.filterMap (accepted crates) = [] := List.filterMap_eq_nil_iff.mpr h
  rw [lastAccepted, List.filterMap_append, hlater, List.append_nil, lastAccepted]

theorem lastAnnounced_snoc (e : ThreadEdge) : lastAnnounced crates (es ++ [e]) =
    (announced crates e).or (lastAnnounced crates es) := by
  rw [lastAnnounced, filterMap_snoc]
  cases announced crates e with
  | none => rw [Option.toList_none, List.append_nil, Option.none_or, lastAnnounced]
  | some filter => rw [Option.toList_some, List.getLast?_concat, Option.some_or]

/-- The filter after a step is the one that the step accepts, or the one before it. -/
theorem ThreadStep.filter_eq (h : ThreadStep crates s label t) :
    t.session.filter = (accepted crates ⟨s, label, t⟩).getD s.session.filter := by
  cases h with
  | whole hwhole hstep => exact hstep.filter_eq
  | ready | announce | enqueue | enqueueLagged => exact say_filter
  | seeChange | readChange | receive | readFilter | skip | receiveLagged | closeFull => rfl

theorem TookLast.now (es : List ThreadEdge) (s t : SocketThreads) (label : ThreadLabel) :
    TookLast (es ++ [⟨s, label, t⟩]) es [] label :=
  ⟨⟨s, label, t⟩, rfl, rfl, fun _ ha => absurd ha List.not_mem_nil⟩

/-- The last step of the telemetry task stays the last one in a step of the other tasks. -/
theorem TookLast.whole {before between : List ThreadEdge} {last : ThreadLabel}
    {label : SocketLabel} (h : TookLast es before between last) (s t : SocketThreads) :
    TookLast (es ++ [⟨s, .whole label, t⟩]) before (between ++ [⟨s, .whole label, t⟩]) last := by
  obtain ⟨e, rfl, hlabel, hbetween⟩ := h
  refine ⟨e, by rw [List.append_assoc, List.cons_append], hlabel, ?_⟩
  rw [List.forall_mem_append, List.forall_mem_singleton]
  exact ⟨hbetween, label, rfl⟩

theorem HoldsRead.whole {hold : TelemetryHold} {label : SocketLabel}
    (h : HoldsRead crates initial es hold) (s t : SocketThreads) :
    HoldsRead crates initial (es ++ [⟨s, .whole label, t⟩]) hold := by
  cases hold with
  | nothing | changed | received | lagged | refused => trivial
  | update filter =>
    obtain ⟨before, between, htook, hfilter⟩ := h
    exact ⟨before, between ++ [⟨s, .whole label, t⟩], htook.whole s t, hfilter⟩
  | compared event filter =>
    obtain ⟨before, between, htook, hfilter⟩ := h
    exact ⟨before, between ++ [⟨s, .whole label, t⟩], htook.whole s t, hfilter⟩

/-- After a message the task has read nothing. -/
theorem HoldsRead.say {s : SocketSession} {message : RealtimeServerMessage} :
    HoldsRead crates initial es (s.say crates message).hold := by
  rcases say_hold crates s message with hhold | hhold
  · rw [hhold]
    trivial
  · rw [hhold]
    trivial

/-- A step keeps what the telemetry task has read. -/
theorem HoldsRead.step (h : ThreadStep crates s label t)
    (hfilter : s.session.filter = lastAccepted crates initial es)
    (hs : HoldsRead crates initial es s.hold) :
    HoldsRead crates initial (es ++ [⟨s, label, t⟩]) t.hold := by
  cases h with
  | whole hwhole hstep => exact hs.whole _ _
  | readChange => exact ⟨es, [], .now es _ _ _, hfilter⟩
  | readFilter => exact ⟨es, [], .now es _ _ _, hfilter⟩
  | ready | announce | enqueue | enqueueLagged => exact .say
  | seeChange | receive | skip | receiveLagged | closeFull => trivial

/-- What has been announced is kept by a step that announces nothing. -/
theorem lastAnnounced_same (hnone : announced crates ⟨s, label, t⟩ = none) :
    lastAnnounced crates (es ++ [⟨s, label, t⟩]) = lastAnnounced crates es := by
  rw [lastAnnounced_snoc, hnone, Option.none_or]

theorem Announces.move {last : Option RealtimeFilter} {filter : RealtimeFilter}
    {phase : TelemetryPhase} {hold hold' : TelemetryHold} (hhold : hold.Settled)
    (hhold' : hold'.Settled) (h : Announces last filter phase hold) :
    Announces last filter phase hold' := by
  cases phase with
  | ended => trivial
  | starting first => exact h
  | looping =>
    have hlast : last = some filter := by
      cases hold with
      | changed | update | refused => exact hhold.elim
      | nothing | received | compared | lagged => exact h
    cases hold' with
    | changed | update | refused => exact hhold'.elim
    | nothing | received | compared | lagged => exact hlast

/-- A message that announces nothing may end the telemetry task. -/
theorem Announces.say {last : Option RealtimeFilter} {filter : RealtimeFilter} {s : SocketSession}
    {hold : TelemetryHold} {message : RealtimeServerMessage} (hhold : hold.Settled)
    (h : Announces last filter s.telemetry hold) :
    Announces last filter (s.say crates message).session.telemetry
      (s.say crates message).hold := by
  rcases say_cases crates s message with ⟨-, outbound, heq⟩ | ⟨-, heq | heq⟩
  · rw [heq]
    exact h.move hhold trivial
  · rw [heq]
    trivial
  · rw [heq]
    cases hphase : s.telemetry with
    | starting first =>
      rw [hphase] at h
      exact h
    | looping | ended => trivial

/-- A message that announces a filter. -/
theorem Announces.announce {last : Option RealtimeFilter} {filter : RealtimeFilter}
    {s : SocketSession} {message : RealtimeServerMessage}
    (hstarting : ∀ first, s.telemetry = .starting first → filter = first)
    (hlast : s.sends crates message = true → s.telemetry = .looping → last = some filter) :
    Announces last filter (s.say crates message).session.telemetry
      (s.say crates message).hold := by
  rcases say_cases crates s message with ⟨hsends, outbound, heq⟩ | ⟨-, heq | heq⟩
  · rw [heq]
    show Announces last filter s.telemetry .nothing
    cases hphase : s.telemetry with
    | starting first => exact hstarting first hphase
    | looping => exact hlast hsends hphase
    | ended => trivial
  · rw [heq]
    trivial
  · rw [heq]
    show Announces last filter s.telemetry .refused
    cases hphase : s.telemetry with
    | starting first => exact hstarting first hphase
    | looping | ended => trivial

/-- The `Ready` of the telemetry task. -/
theorem AnnouncedKept.ready {s : SocketSession} {filter : RealtimeFilter} {t : SocketThreads}
    (ht : t = ({ s with telemetry := .looping } : SocketSession).say crates
      (.ready "websocket" filter))
    (hphase : s.telemetry = .starting filter) (hs : AnnouncedKept crates es ⟨s, .nothing⟩) :
    AnnouncedKept crates (es ++ [⟨⟨s, .nothing⟩, .ready filter, t⟩]) t := by
  subst ht
  intro hseen
  rw [say_filterSeen] at hseen
  have hfilter : s.filter = filter := by
    have hkept := hs hseen
    simp only [hphase] at hkept
    exact hkept
  rw [say_filter]
  refine .announce nofun fun hsends _ => ?_
  have hsends : s.sends crates (.ready "websocket" filter) = true := hsends
  rw [lastAnnounced_snoc, announced]
  simp only [hsends, if_true, Option.some_or]
  rw [hfilter]

/-- A step of another task keeps what has been announced. -/
theorem AnnouncedKept.whole {s t : SocketSession} {hold : TelemetryHold} {label : SocketLabel}
    (h : SocketStep crates s label t) (hwhole : SocketLabel.Whole hold label)
    (hs : AnnouncedKept crates es ⟨s, hold⟩) :
    AnnouncedKept crates (es ++ [⟨⟨s, hold⟩, .whole label, ⟨t, hold⟩⟩]) ⟨t, hold⟩ := by
  intro hseen
  obtain ⟨hseen', hnone⟩ := h.filterSeen_eq hwhole hseen
  have hfilter : t.filter = s.filter := by rw [h.filter_eq, hnone, Option.getD_none]
  have hkept := hs hseen'
  rw [lastAnnounced_same rfl]
  rcases h.telemetry_eq hwhole with htelemetry | htelemetry
  · simp only [htelemetry, hfilter]
    exact hkept
  · simp only [htelemetry]
    trivial

/-- The `FilterUpdated` of the telemetry task. -/
theorem AnnouncedKept.announce {s : SocketSession} {filter : RealtimeFilter} {t : SocketThreads}
    (ht : t = s.say crates (.filterUpdated filter))
    (hs : AnnouncedKept crates es ⟨s, .update filter⟩) :
    AnnouncedKept crates (es ++ [⟨⟨s, .update filter⟩, .announce filter, t⟩]) t := by
  subst ht
  intro hseen
  rw [say_filterSeen] at hseen
  have hkept := hs hseen
  rw [say_filter]
  refine .announce (fun first hphase => ?_) fun hsends hphase => ?_
  · simp only [hphase] at hkept
    exact hkept
  · simp only [hphase] at hkept
    have hfilter : s.filter = filter := hkept
    rw [lastAnnounced_snoc, announced, updated, hfilter]
    simp only [hsends, if_true, Option.some_or]

/-- A step keeps what has been announced. -/
theorem AnnouncedKept.step (h : ThreadStep crates s label t) (hs : AnnouncedKept crates es s) :
    AnnouncedKept crates (es ++ [⟨s, label, t⟩]) t := by
  cases h with
  | whole hwhole hstep => exact hs.whole hstep hwhole
  | ready hphase => exact hs.ready rfl hphase
  | seeChange hphase hunseen =>
    intro _
    simp only [hphase]
    trivial
  | @readChange s =>
    intro hseen
    have hkept := hs hseen
    cases hphase : s.telemetry with
    | starting first =>
      simp only [hphase] at hkept
      exact hkept
    | looping => rfl
    | ended => trivial
  | announce => exact hs.announce rfl
  | receive | readFilter | skip | receiveLagged =>
    intro hseen
    rw [lastAnnounced_same rfl]
    exact Announces.move (by trivial) (by trivial) (hs hseen)
  | enqueue | enqueueLagged =>
    intro hseen
    rw [say_filterSeen] at hseen
    rw [lastAnnounced_same rfl, say_filter]
    exact .say (by trivial) (hs hseen)
  | closeFull => exact fun _ => trivial

/-- The event that the telemetry task holds. -/
def TelemetryHold.events : TelemetryHold → List NormalizedEvent
  | .received event | .compared event _ => [event]
  | .nothing | .changed | .update _ | .lagged _ | .refused => []

/-- After a message it holds none. -/
theorem say_hold_events {s : SocketSession} {message : RealtimeServerMessage} :
    (s.say crates message).hold.events = [] := by
  rcases say_hold crates s message with hhold | hhold
  · rw [hhold]
    rfl
  · rw [hhold]
    rfl

/-- The events that were enqueued, the one that the telemetry task holds and those that wait are
some of those that were broadcast, in this order. -/
def OrderKept (crates : RealtimeCrates) (events : BroadcastReceiver) (es : List ThreadEdge)
    (s : SocketThreads) : Prop :=
  es.filterMap (enqueued crates) ++ s.hold.events ++ s.session.events.pending <+
    events.pending ++ es.filterMap published

/-- What is enqueued, held or waiting after a step. -/
theorem OrderKept.of_step {events : BroadcastReceiver} (hs : OrderKept crates events es s)
    (h : (enqueued crates ⟨s, label, t⟩).toList ++ t.hold.events ++ t.session.events.pending <+
      s.hold.events ++ s.session.events.pending ++ (published ⟨s, label, t⟩).toList) :
    OrderKept crates events (es ++ [⟨s, label, t⟩]) t := by
  unfold OrderKept at hs ⊢
  rw [filterMap_snoc, filterMap_snoc, ← List.append_assoc events.pending]
  calc es.filterMap (enqueued crates) ++ (enqueued crates ⟨s, label, t⟩).toList ++
        t.hold.events ++ t.session.events.pending
      = es.filterMap (enqueued crates) ++ ((enqueued crates ⟨s, label, t⟩).toList ++
        t.hold.events ++ t.session.events.pending) := by simp only [List.append_assoc]
    _ <+ es.filterMap (enqueued crates) ++ (s.hold.events ++ s.session.events.pending ++
        (published ⟨s, label, t⟩).toList) := List.Sublist.append_left h _
    _ = es.filterMap (enqueued crates) ++ s.hold.events ++ s.session.events.pending ++
        (published ⟨s, label, t⟩).toList := by simp only [List.append_assoc]
    _ <+ events.pending ++ es.filterMap published ++ (published ⟨s, label, t⟩).toList :=
      hs.append_right _

/-- A step keeps the order of the events. -/
theorem OrderKept.step {events : BroadcastReceiver} (h : ThreadStep crates s label t)
    (hs : OrderKept crates events es s) : OrderKept crates events (es ++ [⟨s, label, t⟩]) t := by
  refine hs.of_step ?_
  cases h with
  | @whole s hold label t hwhole hstep =>
    show hold.events ++ t.events.pending <+ _
    cases label with
    | published event =>
      cases hstep with
      | publish _ hopen =>
        show _ <+ hold.events ++ s.events.pending ++ [event]
        rw [List.append_assoc]
        exact (BroadcastReceiver.pending_send s.events event).append_left _
    | _ =>
      rw [hstep.pending_eq hwhole nofun]
      exact List.sublist_append_left _ _
  | receive hphase hrecv | receiveLagged hphase hrecv =>
    have hpending := BroadcastReceiver.pending_of_recv hrecv
    show _ <+ [] ++ _ ++ []
    rw [List.nil_append, List.append_nil, hpending]
    exact .refl _
  | @enqueue s event filter hmatches =>
    simp only [say_events, say_hold_events, enqueued, List.append_nil]
    show _ <+ event :: (s.events.pending ++ [])
    rw [List.append_nil]
    cases s.sends crates (.event (.fromEvent crates event)) with
    | true => exact .refl _
    | false => exact List.sublist_cons_self event s.events.pending
  | @skip s event filter hmatches =>
    show s.events.pending <+ event :: (s.events.pending ++ [])
    rw [List.append_nil]
    exact List.sublist_cons_self event s.events.pending
  | ready | announce | enqueueLagged =>
    simp only [say_events, say_hold_events]
    exact List.sublist_append_left _ _
  | seeChange | readChange | readFilter | closeFull => exact List.sublist_append_left _ _

/-- What is kept along a run. -/
structure ThreadsKept (crates : RealtimeCrates) (initial : RealtimeFilter)
    (events : BroadcastReceiver) (es : List ThreadEdge) (s : SocketThreads) : Prop where
  filter : s.session.filter = lastAccepted crates initial es
  hold : HoldsRead crates initial es s.hold
  announced : AnnouncedKept crates es s
  order : OrderKept crates events es s

theorem ThreadsKept.run {events : BroadcastReceiver}
    (h : Run (ThreadStep crates) (.new initial events) es s) :
    ThreadsKept crates initial events es s := by
  refine h.history (ThreadsKept crates initial events) ?_ ?_
  · intro es s label t hs hstep
    refine ⟨?_, hs.hold.step hstep hs.filter, hs.announced.step hstep, hs.order.step hstep⟩
    rw [lastAccepted_snoc, hstep.filter_eq, hs.filter]
  · exact ⟨rfl, trivial, fun _ => rfl, List.sublist_append_left _ _⟩

end Runs

/-! ## The messages and the filters -/

/-- What the messages of the telemetry task have to do with the filters that were accepted. -/
structure FiltersCoherent (crates : RealtimeCrates) (initial : RealtimeFilter)
    (events : BroadcastReceiver) (es : List ThreadEdge) (s : SocketThreads) : Prop where
  /-- An event that is enqueued matches the filter that had been accepted last when the task read
  it, which is the one that was accepted last unless one has been accepted since then. -/
  matched : ∀ past e rest event, es = past ++ e :: rest → enqueued crates e = some event →
    ∃ before between,
      TookLast past before between (.readFilter event (lastAccepted crates initial before)) ∧
      (lastAccepted crates initial before).matches event = true ∧
      ((∀ a ∈ between, accepted crates a = none) →
        (lastAccepted crates initial past).matches event = true)
  /-- The events are enqueued in the order in which they were broadcast, each at most once. -/
  order : es.filterMap (enqueued crates) <+ events.pending ++ es.filterMap published
  /-- A `Subscribe` whose filter fails its validation changes no filter. -/
  refused : ∀ e ∈ es, ∀ text filter, e.label = .whole (.inbound (.text text)) →
    crates.fromJson text = .ok (.subscribe filter) → validateFilter filter.normalized ≠ .ok () →
    accepted crates e = none ∧ e.target.session.filter = e.source.session.filter ∧
      e.target.hold = e.source.hold
  /-- `FilterUpdated` announces the filter that had been accepted last when the task read it, and
  every event that is enqueued later matches it while none has been accepted since then. -/
  updated : ∀ past e rest filter, es = past ++ e :: rest → updated crates e = some filter →
    ∃ before between, TookLast past before between (.readChange filter) ∧
      filter = lastAccepted crates initial before ∧
      ∀ later e' rest' event, rest = later ++ e' :: rest' → enqueued crates e' = some event →
        (∀ a ∈ between ++ later, accepted crates a = none) → filter.matches event = true
  /-- An idle task has announced the filter that was accepted last. -/
  idle : s.Idle → lastAnnounced crates es = some (lastAccepted crates initial es)

section Coherent

variable {crates : RealtimeCrates} {initial : RealtimeFilter} {events : BroadcastReceiver}
  {s : SocketThreads} {es past rest : List ThreadEdge} {e : ThreadEdge}

theorem enqueued_eq_some_iff {event : NormalizedEvent} : enqueued crates e = some event ↔
    ∃ filter, e.label = .enqueue event filter ∧
      e.source.session.sends crates (.event (.fromEvent crates event)) = true := by
  unfold enqueued
  split
  · next event' filter hlabel =>
    rw [hlabel]
    constructor
    · intro h
      split at h
      · next hsends =>
        obtain rfl := Option.some.inj h
        exact ⟨filter, rfl, hsends⟩
      · cases h
    · rintro ⟨filter', heq, hsends⟩
      obtain ⟨rfl, -⟩ := ThreadLabel.enqueue.inj heq
      rw [if_pos hsends]
  · next hlabel =>
    constructor
    · exact nofun
    · rintro ⟨filter, heq, -⟩
      exact absurd heq (hlabel event filter)

theorem label_of_updated {filter : RealtimeFilter} (h : updated crates e = some filter) :
    e.label = .announce filter := by
  unfold updated at h
  split at h
  · next filter' hlabel =>
    split at h
    · obtain rfl := Option.some.inj h
      exact hlabel
    · cases h
  · cases h

/-- An event is enqueued under the filter that the task has read for it. -/
theorem ThreadsKept.enqueued (h : Run (ThreadStep crates) (.new initial events)
    (past ++ e :: rest) s) {event : NormalizedEvent} (henqueued : enqueued crates e = some event) :
    ∃ before between,
      TookLast past before between (.readFilter event (lastAccepted crates initial before)) ∧
      (lastAccepted crates initial before).matches event = true := by
  obtain ⟨filter, hlabel, -⟩ := enqueued_eq_some_iff.mp henqueued
  obtain ⟨r, hpast, hlater⟩ := h.cut
  obtain _ | ⟨hstep, -⟩ := hlater
  obtain rfl : _ = ThreadLabel.enqueue event filter := hlabel
  have hkept := ThreadsKept.run hpast
  cases hstep with
  | enqueue hmatches =>
    obtain ⟨before, between, htook, rfl⟩ := hkept.hold
    exact ⟨before, between, htook, hmatches⟩

/-- A change is announced with the filter that the task has read after it. -/
theorem ThreadsKept.updated (h : Run (ThreadStep crates) (.new initial events)
    (past ++ e :: rest) s) {filter : RealtimeFilter} (hupdated : updated crates e = some filter) :
    ∃ before between, TookLast past before between (.readChange filter) ∧
      filter = lastAccepted crates initial before := by
  have hlabel := label_of_updated hupdated
  obtain ⟨r, hpast, hlater⟩ := h.cut
  obtain _ | ⟨hstep, -⟩ := hlater
  obtain rfl : _ = ThreadLabel.announce filter := hlabel
  have hkept := ThreadsKept.run hpast
  cases hstep with
  | announce => exact hkept.hold

/-- The step that the task took last comes after every other step that it took. -/
theorem TookLast.later {before between later : List ThreadEdge} {label : ThreadLabel}
    (h : TookLast (past ++ e :: later) before between label) (hne : e.label ≠ label)
    (hown : ∀ label, e.label ≠ .whole label) :
    ∃ middle, before = past ++ e :: middle ∧ ∀ a ∈ middle, a ∈ later := by
  obtain ⟨last, heq, hlast, hbetween⟩ := h
  rcases List.append_eq_append_iff.mp heq with ⟨middle, hbefore, hlater⟩ | ⟨middle, hpast, hlater⟩
  · cases middle with
    | nil =>
      obtain ⟨rfl, -⟩ := List.cons.inj hlater
      exact absurd hlast hne
    | cons a middle =>
      obtain ⟨rfl, rfl⟩ := List.cons.inj hlater
      exact ⟨middle, hbefore, fun a ha => List.mem_append_left _ ha⟩
  · cases middle with
    | nil =>
      obtain ⟨rfl, -⟩ := List.cons.inj hlater
      exact absurd hlast hne
    | cons a middle =>
      obtain ⟨rfl, rfl⟩ := List.cons.inj hlater
      obtain ⟨label, hlabel⟩ := hbetween e (List.mem_append_right _ List.mem_cons_self)
      exact absurd hlabel (hown label)

end Coherent

/-- **Filter changes under events.**  However the two tasks of a WebSocket interleave: an event is
enqueued under the filter that had been accepted last when the telemetry task read it, events are
enqueued in the order in which they were broadcast and at most once, a `Subscribe` that fails its
validation changes no filter, after `FilterUpdated` every event matches its filter unless another
one has been accepted since the task read it, and an idle task has announced the filter that was
accepted last. -/
theorem filters_coherent (crates : RealtimeCrates) (initial : RealtimeFilter)
    (events : BroadcastReceiver) (es : List ThreadEdge) (s : SocketThreads)
    (h : Run (ThreadStep crates) (.new initial events) es s) :
    FiltersCoherent crates initial events es s := by
  have hkept := ThreadsKept.run h
  refine ⟨?_, ?_, ?_, ?_, ?_⟩
  · rintro past e rest event rfl henqueued
    obtain ⟨before, between, htook, hmatches⟩ := ThreadsKept.enqueued h henqueued
    refine ⟨before, between, htook, hmatches, fun hnone => ?_⟩
    -- The step that reads the filter accepts none itself.
    obtain ⟨reading, rfl, hlabel, -⟩ := htook
    have hreading : accepted crates reading = none := by rw [accepted, hlabel]
    rw [lastAccepted_append (List.forall_mem_cons.mpr ⟨hreading, hnone⟩)]
    exact hmatches
  · exact ((List.sublist_append_left _ _).trans (List.sublist_append_left _ _)).trans hkept.order
  · intro e he text filter hlabel hjson hinvalid
    have hstep := h.step_of_mem e he
    obtain ⟨source, label, target⟩ := e
    obtain rfl : label = .whole (.inbound (.text text)) := hlabel
    cases hstep with
    | whole hwhole hstep =>
      obtain ⟨hnone, hfilter, -⟩ := hstep.refused hjson hinvalid
      exact ⟨hnone, hfilter, rfl⟩
  · rintro past e rest filter rfl hupdated
    obtain ⟨before, between, htook, hfilter⟩ := ThreadsKept.updated h hupdated
    refine ⟨before, between, htook, hfilter, ?_⟩
    rintro later e' rest' event rfl henqueued hnone
    have hlabel := label_of_updated hupdated
    have hrun : Run (ThreadStep crates) (.new initial events)
        ((past ++ e :: later) ++ e' :: rest') s := by
      rw [List.append_assoc]
      exact h
    obtain ⟨before', between', htook', hmatches⟩ := ThreadsKept.enqueued hrun henqueued
    obtain ⟨middle, rfl, hmiddle⟩ := htook'.later (by rw [hlabel]; nofun) (by rw [hlabel]; nofun)
    -- From the reading of the change to that of the event nothing is accepted.
    obtain ⟨reading, rfl, hreading, -⟩ := htook
    have hsame : lastAccepted crates initial
        ((before ++ reading :: between) ++ e :: middle) = lastAccepted crates initial before := by
      rw [List.append_assoc]
      refine lastAccepted_append ?_
      rw [List.cons_append, List.forall_mem_cons, List.forall_mem_append, List.forall_mem_cons]
      refine ⟨by rw [accepted, hreading], fun a ha => ?_, by rw [accepted, hlabel], fun a ha => ?_⟩
      · exact hnone a (List.mem_append_left _ ha)
      · exact hnone a (List.mem_append_right _ (hmiddle a ha))
    rw [hsame, ← hfilter] at hmatches
    exact hmatches
  · rintro ⟨htelemetry, hhold, hseen⟩
    have hannounced := hkept.announced hseen
    rw [htelemetry, hhold] at hannounced
    rw [← hkept.filter]
    exact hannounced

/-! ## A filter that is replaced under an event -/

def staleEvent : NormalizedEvent where
  id := ⟨"e"⟩
  correlationId := "e"
  projectId := ⟨"p"⟩
  brokerId := ⟨"b"⟩
  routeId := ⟨"r"⟩
  schemaMappingId := none
  topic := ⟨"t"⟩
  deviceId := some "a"
  eventType := "telemetry"
  receivedAt := 0
  payloadSizeBytes := 0
  payload := .raw []
  fields := []
  raw := none
  normalizationErrors := []
  metadata := []

def otherDevice : RealtimeFilter := ⟨some "b", none, none, none, none⟩

/-- JSON of `staleEvent`, and of the messages without a parameter; nothing else is sent below, and
the client subscribes to another device. -/
def staleCrates : RealtimeCrates where
  displayTime := fun _ => "1970-01-01 0:00:00.0 +00:00:00"
  base64Encode := fun _ => ""
  toJson := fun
    | .event _ => some ("\x7b\"type\":\"event\",\"data\":\x7b\"id\":\"e\"," ++
      "\"correlation_id\":\"e\",\"project_id\":\"p\",\"broker_id\":\"b\",\"route_id\":\"r\"," ++
      "\"schema_mapping_id\":null,\"topic\":\"t\",\"device_id\":\"a\"," ++
      "\"event_type\":\"telemetry\",\"received_at\":\"1970-01-01 0:00:00.0 +00:00:00\"," ++
      "\"payload_size_bytes\":0,\"payload\":\x7b\"type\":\"raw_base64\",\"value\":\"\"\x7d," ++
      "\"fields\":\x7b\x7d,\"raw\":null,\"normalization_errors\":[],\"metadata\":\x7b\x7d\x7d\x7d")
    | message => readyCrates.toJson message
  fromJson := fun _ => .ok (.subscribe otherDevice)

/-- A client subscribes to another device between the reading of the filter and the sending of an
event. -/
theorem stale_run : ∃ past e s,
    Run (ThreadStep staleCrates) (.new anyFilter (.subscribe 16)) (past ++ [e]) s ∧
      enqueued staleCrates e = some staleEvent ∧
      lastAccepted staleCrates anyFilter past = otherDevice := by
  have hrun : Run (ThreadStep staleCrates) (.new anyFilter (.subscribe 16)) _ _ :=
    .cons (.whole (by trivial) (.publish staleEvent rfl)) <|
    .cons (.ready rfl) <|
    .cons (.receive rfl rfl) <|
    .cons .readFilter <|
    .cons (.whole (by trivial) (.inbound
      (.text "\x7b\"type\":\"subscribe\",\"device_id\":\"b\"\x7d") rfl rfl)) <|
    .cons (.enqueue rfl) <| .nil _
  exact ⟨[_, _, _, _, _], _, _, hrun, rfl, rfl⟩

/-- The event that is enqueued does not match the filter that was accepted last. -/
theorem stale_event : ¬ ∀ (crates : RealtimeCrates) (initial : RealtimeFilter)
    (events : BroadcastReceiver) (es : List ThreadEdge) (s : SocketThreads),
    Run (ThreadStep crates) (.new initial events) es s →
      ∀ past e rest event, es = past ++ e :: rest → enqueued crates e = some event →
        (lastAccepted crates initial past).matches event = true := by
  intro hclaim
  obtain ⟨past, e, s, hrun, henqueued, hlast⟩ := stale_run
  have hmatches := hclaim _ _ _ _ _ hrun past e [] staleEvent rfl henqueued
  rw [hlast] at hmatches
  exact absurd hmatches (by decide)

/-- What holds of that run all the same. -/
theorem filters_coherent_stale : ∃ past e s,
    Run (ThreadStep staleCrates) (.new anyFilter (.subscribe 16)) (past ++ [e]) s ∧
      enqueued staleCrates e = some staleEvent ∧
      FiltersCoherent staleCrates anyFilter (.subscribe 16) (past ++ [e]) s := by
  obtain ⟨past, e, s, hrun, henqueued, -⟩ := stale_run
  exact ⟨past, e, s, hrun, henqueued, filters_coherent _ _ _ _ _ hrun⟩

end Api
end PipeBolt
