import PipeBolt.Core.ForwardWorker

/-!
# The consumer of forward outcomes

The tasks of the forwarder report their outcomes to a bounded channel, and
`consume_forward_outcomes` of `pipe_bolt_daemon::runtime` hands them to the persistence writer.  Both
workers see the shutdown signal on their own: the forwarder drains its queue, the consumer closes its
channel.  `ProjectRuntime::shutdown` gives the signal and joins the two.

The forwarder is the one of `Core.ForwardWorker`; here its steps meet those of the consumer and of
the shutdown.

* `forwarder_run`: the forwarder of a run is in a run of its own.
* `delivery`: what was produced, reported, sent and received, at every point of a run.
* `outcomes_recorded_iff`: when every outcome that was produced is recorded.
-/

namespace PipeBolt
namespace Daemon

open Domain PipeBolt.Core BoundedChannel Transition
open scoped List

/-! ## The system -/

/-- Where `ProjectRuntime::shutdown` is, for the two workers. -/
inductive JoinPoint where
  | notCalled
  | joinForwarder
  | joinConsumer
  /-- Both joins were good. -/
  | joined
  /-- A join timed out: `shutdown` returns an error. -/
  | timedOut
  deriving DecidableEq, Repr

/-- What `record_forward_outcome` writes to. -/
structure OutcomeRecords where
  /-- `forward_outcome_total` of `RuntimeStats`. -/
  forwardOutcomeTotal : Nat
  /-- The outcomes that were received. -/
  received : List ForwardDeliveryOutcome
  /-- The calls of `PersistenceWriterHandle::try_record_forward_outcome`. -/
  written : List ForwardDeliveryOutcome
  deriving DecidableEq, Repr

/-- `record_forward_outcome`. -/
def recordForwardOutcome (persistence : Bool) (records : OutcomeRecords)
    (outcome : ForwardDeliveryOutcome) : OutcomeRecords where
  forwardOutcomeTotal := records.forwardOutcomeTotal + 1
  received := records.received ++ [outcome]
  written := if persistence then records.written ++ [outcome] else records.written

/-- The forwarder, the consumer of its outcomes and the shutdown. -/
structure OutcomeSystem where
  forwarder : ForwardSystem
  outcomes : Channel ForwardDeliveryOutcome
  /-- Where `consume_forward_outcomes` is. -/
  consumer : DrainPhase
  records : OutcomeRecords
  shutdown : JoinPoint
  deriving DecidableEq

/-- The system that `ProjectRuntime::start` sets up. -/
def OutcomeSystem.new (limits : ForwardLimits) : OutcomeSystem where
  forwarder := .new limits
  outcomes := .new limits.resultQueueCapacity
  consumer := .running
  records := ⟨0, [], []⟩
  shutdown := .notCalled

/-- What happens in a step. -/
inductive OutcomeLabel where
  | forward (label : ForwardLabel)
  | shutdown
  | closeReceiver
  | consume (outcome : ForwardDeliveryOutcome)
  | endOfOutcomes
  | consumerReturn
  | join
  | joinTimeout
  deriving DecidableEq

/-- The step of the forwarder. -/
def OutcomeLabel.forwarder : OutcomeLabel → Option ForwardLabel
  | .forward label => some label
  | .shutdown => some .signal
  | _ => none

/-- A step of the forwarder, of the consumer or of the shutdown.  Whether the runtime has a
persistence writer is `persistence`. -/
inductive OutcomeStep (limits : ForwardLimits) (persistence : Bool) :
    OutcomeSystem → OutcomeLabel → OutcomeSystem → Prop
  /-- The forwarder works and reports nothing. -/
  | work {s : OutcomeSystem} {label : ForwardLabel} {forwarder : ForwardSystem}
      (hstep : ForwardStep limits s.forwarder label forwarder) (hreports : label.reported = none)
      (hsignal : label ≠ .signal) :
      OutcomeStep limits persistence s (.forward label) { s with forwarder }
  /-- `result_tx.try_send` takes the outcome. -/
  | report {s : OutcomeSystem} {outcome forwarder outcomes}
      (hstep : ForwardStep limits s.forwarder (.report outcome true) forwarder)
      (hsend : s.outcomes.trySend outcome = .ok outcomes) :
      OutcomeStep limits persistence s (.forward (.report outcome true))
        { s with forwarder, outcomes }
  /-- `result_tx.try_send` fails. -/
  | reportDropped {s : OutcomeSystem} {outcome forwarder error}
      (hstep : ForwardStep limits s.forwarder (.report outcome false) forwarder)
      (hsend : s.outcomes.trySend outcome = .error error) :
      OutcomeStep limits persistence s (.forward (.report outcome false)) { s with forwarder }
  /-- `shutdown_tx.send(true)`. -/
  | shutdown {s : OutcomeSystem} {forwarder} (hpoint : s.shutdown = .notCalled)
      (hstep : ForwardStep limits s.forwarder .signal forwarder) :
      OutcomeStep limits persistence s .shutdown { s with forwarder, shutdown := .joinForwarder }
  /-- The branch of `shutdown_rx.changed()`. -/
  | closeReceiver {s : OutcomeSystem} (hphase : s.consumer = .running)
      (hsignal : s.forwarder.signalled = true) :
      OutcomeStep limits persistence s .closeReceiver
        { s with outcomes := s.outcomes.close, consumer := .draining }
  | consume {s : OutcomeSystem} {outcome outcomes} (hphase : s.consumer ≠ .returned)
      (hrecv : s.outcomes.recv = some (outcome, outcomes)) :
      OutcomeStep limits persistence s (.consume outcome)
        { s with outcomes, records := recordForwardOutcome persistence s.records outcome }
  /-- `recv` returns `None` in the loop: every sender went with the worker and its tasks. -/
  | endOfOutcomes {s : OutcomeSystem} (hphase : s.consumer = .running)
      (hempty : s.outcomes.queue = []) (hsenders : s.forwarder.phase = .returned) :
      OutcomeStep limits persistence s .endOfOutcomes { s with consumer := .draining }
  /-- `recv` returns `None` in the drain, and the receiver is dropped. -/
  | consumerReturn {s : OutcomeSystem} (hphase : s.consumer = .draining)
      (hempty : s.outcomes.queue = [])
      (hover : s.outcomes.closed = true ∨ s.forwarder.phase = .returned) :
      OutcomeStep limits persistence s .consumerReturn
        { s with outcomes := s.outcomes.drop, consumer := .returned }
  | joinForwarder {s : OutcomeSystem} (hpoint : s.shutdown = .joinForwarder)
      (hreturned : s.forwarder.phase = .returned) :
      OutcomeStep limits persistence s .join { s with shutdown := .joinConsumer }
  | joinConsumer {s : OutcomeSystem} (hpoint : s.shutdown = .joinConsumer)
      (hreturned : s.consumer = .returned) :
      OutcomeStep limits persistence s .join { s with shutdown := .joined }
  | joinTimeout {s : OutcomeSystem}
      (hpoint : s.shutdown = .joinForwarder ∨ s.shutdown = .joinConsumer) :
      OutcomeStep limits persistence s .joinTimeout { s with shutdown := .timedOut }

/-! ## What a run delivers -/

/-- Whether a task reports an outcome in the step. -/
def OutcomeLabel.IsReport (label : OutcomeLabel) : Prop :=
  ∃ outcome sent, label = .forward (.report outcome sent)

/-- The outcome that is produced in the step. -/
def OutcomeLabel.produced (label : OutcomeLabel) : Option ForwardDeliveryOutcome :=
  label.forwarder.bind ForwardLabel.produced

/-- The outcome that is reported in the step. -/
def OutcomeLabel.reported (label : OutcomeLabel) : Option ForwardDeliveryOutcome :=
  label.forwarder.bind ForwardLabel.reported

/-- The outcome that the channel takes in the step. -/
def OutcomeLabel.sent : OutcomeLabel → Option ForwardDeliveryOutcome
  | .forward (.report outcome true) => some outcome
  | _ => none

/-- The outcome that the channel refuses in the step. -/
def OutcomeLabel.dropped : OutcomeLabel → Option ForwardDeliveryOutcome
  | .forward (.report outcome false) => some outcome
  | _ => none

/-- The edges of a run. -/
abbrev Edges := List (Edge OutcomeSystem OutcomeLabel)

/-- The outcomes that the forwarder produced in a run. -/
def produced (es : Edges) : List ForwardDeliveryOutcome := es.filterMap (·.label.produced)

/-- The outcomes that were reported in a run. -/
def reported (es : Edges) : List ForwardDeliveryOutcome := es.filterMap (·.label.reported)

/-- The outcomes that the channel took in a run. -/
def sent (es : Edges) : List ForwardDeliveryOutcome := es.filterMap (·.label.sent)

/-- The outcomes that the channel refused in a run. -/
def dropped (es : Edges) : List ForwardDeliveryOutcome := es.filterMap (·.label.dropped)

/-- An outcome that is reported is taken or refused. -/
theorem reported_perm (es : Edges) : (reported es).Perm (sent es ++ dropped es) := by
  induction es with
  | nil => exact .refl []
  | cons e es ih =>
    obtain ⟨source, label, target⟩ := e
    simp only [reported, sent, dropped, List.filterMap_cons] at ih ⊢
    cases label with
    | forward l =>
      cases l with
      | report outcome sent =>
        cases sent with
        | true => exact ih.cons outcome
        | false => exact (ih.cons outcome).trans List.perm_middle.symm
      | _ => exact ih
    | _ => exact ih

/-- A step that reports nothing sends nothing and drops nothing. -/
theorem OutcomeLabel.silent {label : OutcomeLabel} (h : ¬ label.IsReport) :
    label.sent = none ∧ label.dropped = none := by
  cases label with
  | forward l =>
    cases l with
    | report outcome sent => exact absurd ⟨outcome, sent, rfl⟩ h
    | _ => exact ⟨rfl, rfl⟩
  | _ => exact ⟨rfl, rfl⟩

theorem OutcomeLabel.not_isReport {label : ForwardLabel} (h : label.reported = none) :
    ¬ (OutcomeLabel.forward label).IsReport := by
  rintro ⟨outcome, sent, hlabel⟩
  cases hlabel
  cases h

section Steps

variable {limits : ForwardLimits} {persistence : Bool} {s t : OutcomeSystem} {l : OutcomeLabel}

/-- A step is one of the forwarder, or leaves the forwarder as it is. -/
theorem OutcomeStep.forwarder (h : OutcomeStep limits persistence s l t) :
    (∃ label, l.forwarder = some label ∧ ForwardStep limits s.forwarder label t.forwarder) ∨
      (l.forwarder = none ∧ t.forwarder = s.forwarder) := by
  cases h with
  | work hstep hreports hsignal => exact .inl ⟨_, rfl, hstep⟩
  | report hstep hsend => exact .inl ⟨_, rfl, hstep⟩
  | reportDropped hstep hsend => exact .inl ⟨_, rfl, hstep⟩
  | shutdown hpoint hstep => exact .inl ⟨_, rfl, hstep⟩
  | _ => exact .inr ⟨rfl, rfl⟩

theorem OutcomeStep.unreported_perm (h : OutcomeStep limits persistence s l t) :
    (s.forwarder.unreported ++ l.produced.toList).Perm
      (l.reported.toList ++ t.forwarder.unreported) := by
  rcases h.forwarder with ⟨label, hlabel, hstep⟩ | ⟨hlabel, hsame⟩
  · have hperm := hstep.unreported_perm
    simp only [OutcomeLabel.produced, OutcomeLabel.reported, hlabel, Option.bind_some]
    exact hperm
  · simp [OutcomeLabel.produced, OutcomeLabel.reported, hlabel, hsame]

/-- With room in the channel, a step drops no outcome if and only if it is no report to a closed
channel. -/
theorem OutcomeStep.dropped_eq_none_iff (h : OutcomeStep limits persistence s l t)
    (hroom : l.IsReport → s.outcomes.queue.length < s.outcomes.capacity) :
    l.dropped = none ↔ (l.IsReport → s.outcomes.closed = false) := by
  cases h with
  | work hstep hreports hsignal =>
    have hsilent := OutcomeLabel.not_isReport hreports
    simp [(OutcomeLabel.silent hsilent).2, hsilent]
  | report hstep hsend =>
    obtain ⟨hopen, -, -⟩ := Channel.trySend_eq_ok_iff.mp hsend
    simp [OutcomeLabel.dropped, hopen]
  | @reportDropped outcome forwarder error hstep hsend =>
    have hreport : OutcomeLabel.IsReport (.forward (.report outcome false)) := ⟨outcome, false, rfl⟩
    have hclosed : s.outcomes.closed = true := by
      by_contra hopen
      have hok := Channel.trySend_open (by simpa using hopen) (hroom hreport) (a := outcome)
      rw [hsend] at hok
      cases hok
    simp [OutcomeLabel.dropped, hreport, hclosed]
  | _ => simp [OutcomeLabel.dropped, OutcomeLabel.IsReport]

/-- What a run has delivered at one of its points. -/
structure Delivery (persistence : Bool) (past : Edges) (s : OutcomeSystem) : Prop where
  orderly : s.forwarder.Orderly
  produced : (produced past).Perm (reported past ++ s.forwarder.unreported)
  accounts : s.outcomes.Accounts (sent past) s.records.received
  emptied : s.consumer = .returned → s.outcomes.queue = [] ∧ s.outcomes.closed = true
  written : persistence = true → s.records.written = s.records.received

theorem delivery_new (limits : ForwardLimits) (persistence : Bool) :
    Delivery persistence [] (.new limits) where
  orderly := ForwardSystem.orderly_new limits
  produced := .refl []
  accounts := Channel.accounts_new _
  emptied := (nomatch ·)
  written := fun _ => rfl

/-- What a step sends and receives is accounted for. -/
theorem OutcomeStep.accounts (h : OutcomeStep limits persistence s l t)
    {outcomes : List ForwardDeliveryOutcome}
    (hs : s.outcomes.Accounts outcomes s.records.received) :
    t.outcomes.Accounts (outcomes ++ l.sent.toList) t.records.received := by
  have hsilent : ∀ {received c}, Channel.Accounts outcomes received c → l.sent = none →
      Channel.Accounts (outcomes ++ l.sent.toList) received c := by
    intro received c haccounts hnone
    rw [hnone, Option.toList_none, List.append_nil]
    exact haccounts
  cases h with
  | work hstep hreports hsignal =>
    exact hsilent hs (OutcomeLabel.silent (OutcomeLabel.not_isReport hreports)).1
  | report hstep hsend => exact hs.trySend hsend
  | reportDropped hstep hsend => exact hsilent hs rfl
  | consume hphase hrecv => exact hsilent (hs.recv hrecv) rfl
  | closeReceiver hphase hsignal => exact hsilent hs.close rfl
  | consumerReturn hphase hempty hover => exact hsilent (hs.drop hempty) rfl
  | _ => exact hsilent hs rfl

/-- The consumer that returned left an empty and closed channel. -/
theorem OutcomeStep.emptied (h : OutcomeStep limits persistence s l t)
    (hs : s.consumer = .returned → s.outcomes.queue = [] ∧ s.outcomes.closed = true)
    (hreturned : t.consumer = .returned) : t.outcomes.queue = [] ∧ t.outcomes.closed = true := by
  cases h with
  | report hstep hsend =>
    obtain ⟨hopen, -, -⟩ := Channel.trySend_eq_ok_iff.mp hsend
    simp [(hs hreturned).2] at hopen
  | closeReceiver hphase hsignal => cases hreturned
  | consume hphase hrecv => exact absurd hreturned hphase
  | endOfOutcomes hphase hempty hsenders => cases hreturned
  | consumerReturn hphase hempty hover => exact ⟨rfl, rfl⟩
  | _ => exact hs hreturned

theorem OutcomeStep.written (h : OutcomeStep limits persistence s l t)
    (hs : s.records.written = s.records.received) (hpersistence : persistence = true) :
    t.records.written = t.records.received := by
  cases h with
  | consume hphase hrecv => simp [recordForwardOutcome, hpersistence, hs]
  | _ => exact hs

theorem Delivery.step {past : Edges} (hs : Delivery persistence past s)
    (h : OutcomeStep limits persistence s l t) :
    Delivery persistence (past ++ [⟨s, l, t⟩]) t where
  orderly := by
    rcases h.forwarder with ⟨label, -, hstep⟩ | ⟨-, hsame⟩
    · exact hstep.orderly hs.orderly
    · rw [hsame]
      exact hs.orderly
  produced := by
    have hproduced := hs.produced
    have hperm := h.unreported_perm
    simp only [Daemon.produced, reported, filterMap_snoc] at hproduced ⊢
    calc past.filterMap (·.label.produced) ++ l.produced.toList
      _ ~ past.filterMap (·.label.reported) ++ s.forwarder.unreported ++ l.produced.toList :=
          hproduced.append_right _
      _ = past.filterMap (·.label.reported) ++ (s.forwarder.unreported ++ l.produced.toList) :=
          List.append_assoc ..
      _ ~ past.filterMap (·.label.reported) ++ (l.reported.toList ++ t.forwarder.unreported) :=
          hperm.append_left _
      _ = past.filterMap (·.label.reported) ++ l.reported.toList ++ t.forwarder.unreported :=
          (List.append_assoc ..).symm
  accounts := by
    simp only [sent, filterMap_snoc]
    exact h.accounts hs.accounts
  emptied := h.emptied hs.emptied
  written := fun hpersistence => h.written (hs.written hpersistence) hpersistence

/-- The joins of a shutdown happened in their order. -/
def Joined (s : OutcomeSystem) : Prop :=
  (s.shutdown = .joinConsumer ∨ s.shutdown = .joined → s.forwarder.phase = .returned) ∧
    (s.shutdown = .joined → s.consumer = .returned)

theorem OutcomeStep.joined (h : OutcomeStep limits persistence s l t) (hs : Joined s) :
    Joined t := by
  obtain ⟨hforwarder, hconsumer⟩ := hs
  have hreturned : s.forwarder.phase = .returned → t.forwarder.phase = .returned := by
    intro hphase
    rcases h.forwarder with ⟨label, -, hstep⟩ | ⟨-, hsame⟩
    · exact hstep.returned hphase
    · rwa [hsame]
  cases h with
  | work hstep hreports hsignal =>
    exact ⟨fun hpoint => hreturned (hforwarder hpoint), hconsumer⟩
  | report hstep hsend => exact ⟨fun hpoint => hreturned (hforwarder hpoint), hconsumer⟩
  | reportDropped hstep hsend => exact ⟨fun hpoint => hreturned (hforwarder hpoint), hconsumer⟩
  | shutdown hpoint hstep => exact ⟨by simp, by simp⟩
  | closeReceiver hphase hsignal =>
    exact ⟨hforwarder, fun hpoint => absurd (hconsumer hpoint) (by simp [hphase])⟩
  | consume hphase hrecv => exact ⟨hforwarder, hconsumer⟩
  | endOfOutcomes hphase hempty hsenders =>
    exact ⟨hforwarder, fun hpoint => absurd (hconsumer hpoint) (by simp [hphase])⟩
  | consumerReturn hphase hempty hover => exact ⟨hforwarder, fun _ => rfl⟩
  | joinForwarder hpoint hphase => exact ⟨fun _ => hphase, by simp⟩
  | joinConsumer hpoint hphase => exact ⟨fun _ => hforwarder (.inl hpoint), fun _ => hphase⟩
  | joinTimeout hpoint => exact ⟨by simp, by simp⟩

end Steps

/-! ## Finished runs -/

section Runs

variable {limits : ForwardLimits} {persistence : Bool} {s : OutcomeSystem} {es : Edges}

/-- The forwarder of a run is in a run of its own. -/
theorem forwarder_run (h : Run (OutcomeStep limits persistence) (.new limits) es s) :
    ∃ fs, Run (ForwardStep limits) (.new limits) fs s.forwarder ∧
      fs.map Edge.label = es.filterMap (·.label.forwarder) := by
  have hskip : ∀ (e : Edge OutcomeSystem OutcomeLabel) (a : ForwardSystem),
      OutcomeStep limits persistence e.source e.label e.target → e.source.forwarder = a →
      e.label.forwarder = none → e.target.forwarder = a := by
    rintro e a hstep rfl hnone
    rcases hstep.forwarder with ⟨label, hlabel, -⟩ | ⟨-, hsame⟩
    · rw [hnone] at hlabel
      cases hlabel
    · exact hsame
  have hmove : ∀ (e : Edge OutcomeSystem OutcomeLabel) (a : ForwardSystem) (label : ForwardLabel),
      OutcomeStep limits persistence e.source e.label e.target → e.source.forwarder = a →
      e.label.forwarder = some label →
      ∃ b, ForwardStep limits a label b ∧ e.target.forwarder = b := by
    rintro e a label hstep rfl hlabel
    rcases hstep.forwarder with ⟨label', hlabel', hforward⟩ | ⟨hnone, -⟩
    · rw [hlabel] at hlabel'
      cases hlabel'
      exact ⟨_, hforward, rfl⟩
    · rw [hnone] at hlabel
      cases hlabel
  obtain ⟨fs, b, hrun, hb, hlabels⟩ :=
    h.simulate (fun s a => s.forwarder = a) (·.label.forwarder) hskip hmove rfl
  exact ⟨fs, hb ▸ hrun, hlabels⟩

theorem delivery (h : Run (OutcomeStep limits persistence) (.new limits) es s) :
    Delivery persistence es s :=
  h.history (Delivery persistence) (fun _ _ _ _ hs hstep => hs.step hstep)
    (delivery_new limits persistence)

/-- After a shutdown, what was produced is what was received and what the channel refused. -/
theorem produced_perm (h : Run (OutcomeStep limits persistence) (.new limits) es s)
    (hshutdown : s.shutdown = .joined) : produced es ~ s.records.received ++ dropped es := by
  have hdelivery := delivery h
  obtain ⟨hforwarder, hconsumer⟩ := (h.invariant' Joined (fun _ _ _ => OutcomeStep.joined)
    ⟨by simp [OutcomeSystem.new], by simp [OutcomeSystem.new]⟩).1
  have htasks := (hdelivery.orderly.finished (hforwarder (.inr hshutdown))).1
  have hreceived := hdelivery.accounts.eq_of_empty (hdelivery.emptied (hconsumer hshutdown)).1
  calc produced es
    _ ~ reported es ++ s.forwarder.unreported := hdelivery.produced
    _ = reported es := by simp [ForwardSystem.unreported, htasks]
    _ ~ sent es ++ dropped es := reported_perm es
    _ = s.records.received ++ dropped es := by rw [hreceived]

/-- When a shutdown is over, every outcome that the forwarder produced was received and handed to the
persistence writer, if and only if no outcome was reported to a closed channel. -/
theorem outcomes_recorded_iff (h : Run (OutcomeStep limits persistence) (.new limits) es s)
    (hshutdown : s.shutdown = .joined)
    (hroom : ∀ e ∈ es, e.label.IsReport →
      e.source.outcomes.queue.length < e.source.outcomes.capacity) :
    (produced es ~ s.records.received ∧
        (persistence = true → produced es ~ s.records.written)) ↔
      ∀ e ∈ es, e.label.IsReport → e.source.outcomes.closed = false := by
  have hproduced := produced_perm h hshutdown
  have hwritten := (delivery h).written
  have hdropped : dropped es = [] ↔
      ∀ e ∈ es, e.label.IsReport → e.source.outcomes.closed = false := by
    rw [dropped, List.filterMap_eq_nil_iff]
    exact forall₂_congr fun e he => (h.step_of_mem e he).dropped_eq_none_iff (hroom e he)
  rw [← hdropped]
  constructor
  · rintro ⟨hreceived, -⟩
    have hlength := (hproduced.symm.trans hreceived).length_eq
    rw [List.length_append] at hlength
    exact List.length_eq_zero_iff.mp (by omega)
  · intro hnone
    rw [hnone, List.append_nil] at hproduced
    refine ⟨hproduced, fun hpersistence => ?_⟩
    rw [hwritten hpersistence]
    exact hproduced

end Runs

/-- The outcome of a forward to the historian. -/
def historianOutcome : ForwardDeliveryOutcome := ⟨⟨"e1"⟩, ⟨"historian"⟩, .delivered 200 0⟩

/-- A forward that is delivered, reported and recorded before the shutdown. -/
theorem historianOutcome_run : ∃ es s, Run (OutcomeStep oneInFlight true) (.new oneInFlight) es s ∧
    s.shutdown = .joined ∧
    (∀ e ∈ es, e.source.outcomes.queue.length < e.source.outcomes.capacity) ∧
    produced es = [historianOutcome] ∧ s.records.written = [historianOutcome] :=
  ⟨_, _,
    .cons (.work (.enqueue (historianForward "e1") rfl rfl) rfl nofun) <|
    .cons (.work (.countAccepted rfl) rfl nofun) <|
    .cons (.work (.receive rfl rfl) rfl nofun) <|
    .cons (.work (.acquire rfl (by decide)) rfl nofun) <|
    .cons (.work (.execute (.delivered 200 0) (List.nil_append _).symm) rfl nofun) <|
    .cons (.report (.reportSent (List.nil_append _).symm) rfl) <|
    .cons (.work (.joinCompleted rfl rfl) rfl nofun) <|
    .cons (.consume nofun rfl) <|
    .cons (.shutdown rfl .signal) <|
    .cons (.work (.observeShutdown rfl rfl) rfl nofun) <|
    .cons (.work (.drainEnd rfl rfl (.inr rfl)) rfl nofun) <|
    .cons (.work (.finish (.inl rfl) rfl rfl rfl) rfl nofun) <|
    .cons (.closeReceiver rfl rfl) <|
    .cons (.consumerReturn rfl rfl (.inl rfl)) <|
    .cons (.joinForwarder rfl rfl) <|
    .cons (.joinConsumer rfl rfl) <| .nil _, rfl, by decide +kernel, rfl, rfl⟩

theorem outcomes_recorded_iff_historian :
    ∃ es s, Run (OutcomeStep oneInFlight true) (.new oneInFlight) es s ∧
      s.records.written = [historianOutcome] ∧
      ((produced es ~ s.records.received ∧ (true = true → produced es ~ s.records.written)) ↔
        ∀ e ∈ es, e.label.IsReport → e.source.outcomes.closed = false) := by
  obtain ⟨es, s, hrun, hshutdown, hroom, -, hwritten⟩ := historianOutcome_run
  exact ⟨es, s, hrun, hwritten, outcomes_recorded_iff hrun hshutdown fun e he _ => hroom e he⟩

/-- The consumer sees the signal and closes its channel while the exchange is running.  The forwarder
waits for the exchange, and its outcome is dropped. -/
theorem outcomes_not_recorded : ¬ ∀ limits persistence es s,
    Run (OutcomeStep limits persistence) (.new limits) es s → s.shutdown = .joined →
    (∀ e ∈ es, e.source.outcomes.queue.length < e.source.outcomes.capacity ∧
      e.source.forwarder.queue.queue.length < e.source.forwarder.queue.capacity) →
    produced es ~ s.records.received ∧
      (persistence = true → produced es ~ s.records.written) := by
  intro hrecorded
  have hrun : ∃ es s, Run (OutcomeStep oneInFlight true) (.new oneInFlight) es s ∧
      s.shutdown = .joined ∧
      (∀ e ∈ es, e.source.outcomes.queue.length < e.source.outcomes.capacity ∧
        e.source.forwarder.queue.queue.length < e.source.forwarder.queue.capacity) ∧
      produced es = [historianOutcome] ∧ s.records.received = [] :=
    ⟨_, _,
      .cons (.work (.enqueue (historianForward "e1") rfl rfl) rfl nofun) <|
      .cons (.work (.countAccepted rfl) rfl nofun) <|
      .cons (.work (.receive rfl rfl) rfl nofun) <|
      .cons (.work (.acquire rfl (by decide)) rfl nofun) <|
      .cons (.shutdown rfl .signal) <|
      .cons (.closeReceiver rfl rfl) <|
      .cons (.consumerReturn rfl rfl (.inl rfl)) <|
      .cons (.work (.observeShutdown rfl rfl) rfl nofun) <|
      .cons (.work (.drainEnd rfl rfl (.inr rfl)) rfl nofun) <|
      .cons (.work (.execute (.delivered 200 0) (List.nil_append _).symm) rfl nofun) <|
      .cons (.reportDropped (.reportDropped (List.nil_append _).symm) rfl) <|
      .cons (.work (.joinCompleted rfl rfl) rfl nofun) <|
      .cons (.work (.finish (.inl rfl) rfl rfl rfl) rfl nofun) <|
      .cons (.joinForwarder rfl rfl) <|
      .cons (.joinConsumer rfl rfl) <| .nil _, rfl, by decide +kernel, rfl, rfl⟩
  obtain ⟨es, s, hrun, hshutdown, hroom, hproduced, hreceived⟩ := hrun
  have hperm := (hrecorded oneInFlight true es s hrun hshutdown hroom).1
  rw [hproduced, hreceived] at hperm
  exact absurd hperm.length_eq (by decide)

end Daemon
end PipeBolt
