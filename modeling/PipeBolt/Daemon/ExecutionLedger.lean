import PipeBolt.Daemon.CommandProcessor
import PipeBolt.Lib.Transition
import Mathlib.Data.List.Pairwise
import Mathlib.Data.Multiset.MapFold
import Mathlib.Data.Multiset.UnionInter

/-!
# The ledger of command executions

What the four writers of `command_executions` keep between them.  An execution that is not over is
held in one place, at one stage; the stage says which row it has.  The ledger lists the stages that
are held and the status of every row, and its steps are what a call, the processor, the MQTT worker
and the consumer of outcomes may do to one execution.

* `Ledger.Sound`: no execution is held twice, and every row is as its stage says.
* `LedgerStep.held_inv`, `LedgerStep.row_change`: what a step does to an execution and to its row.
* `LedgerStep.gone`: an execution that is no longer held keeps its row for ever.
* `updates_pairwise`, `fail_not_hand`, `published_returned`: the order of the events of an
  execution.
* `accepted_queued_iff`: which accepted executions are left queued.
-/

namespace PipeBolt
namespace Daemon

open Transition

/-- How far an execution is. -/
inductive ExecutionStage where
  /-- A call records its row. -/
  | recording
  /-- Its row is there, and its call has not enqueued it. -/
  | recorded
  /-- A rule asked for it, and its row is not there. -/
  | ruled
  /-- Its row is there, and it is on its way to the MQTT client. -/
  | pending
  /-- A rule asked for it, and the processor refuses it. -/
  | failing
  /-- The MQTT client has it. -/
  | handed
  /-- The MQTT client has returned. -/
  | returned (published : Bool)
  deriving DecidableEq, Repr

namespace ExecutionStage

/-- The row that an execution has at a stage. -/
def Agrees : ExecutionStage → Option CommandExecutionStatus → Prop
  | .recording, status | .ruled, status => status = none
  | .recorded, status | .pending, status | .handed, status | .returned _, status =>
    status = some .queued
  | .failing, status => status = none ∨ status = some .queued

/-- The stages in which an execution is in the hands of a call or of the processor and has, or can
have, a row. -/
def isEarly : ExecutionStage → Bool
  | .recorded | .pending | .failing => true
  | .recording | .ruled | .handed | .returned _ => false

/-- The stages from the MQTT client on. -/
def isLate : ExecutionStage → Bool
  | .handed | .returned _ => true
  | .recording | .recorded | .ruled | .pending | .failing => false

/-- The stages of a request that was enqueued. -/
def isAccepted : ExecutionStage → Bool
  | .ruled | .pending | .failing | .handed | .returned _ => true
  | .recording | .recorded => false

end ExecutionStage

/-! ## Ledgers -/

variable {κ : Type}

/-- The executions that are held, the status of the rows, and the identifiers that were given
out. -/
structure Ledger (κ : Type) where
  held : Multiset (κ × ExecutionStage)
  status : κ → Option CommandExecutionStatus
  used : List κ

/-- No execution is held twice, every row is as the stage of its execution says, and identifiers
that were not given out have no row. -/
structure Ledger.Sound (L : Ledger κ) : Prop where
  nodup : (L.held.map Prod.fst).Nodup
  used : ∀ k a, (k, a) ∈ L.held → k ∈ L.used
  agrees : ∀ k a, (k, a) ∈ L.held → a.Agrees (L.status k)
  fresh : ∀ k, k ∉ L.used → L.status k = none

namespace Ledger.Sound

variable {L : Ledger κ} {k : κ} {a b : ExecutionStage} {rest : Multiset (κ × ExecutionStage)}
  {status : κ → Option CommandExecutionStatus}

theorem notMem_rest (hs : L.Sound) (hheld : L.held = (k, a) ::ₘ rest) (b : ExecutionStage) :
    (k, b) ∉ rest := by
  have hnodup := hs.nodup
  rw [hheld, Multiset.map_cons, Multiset.nodup_cons] at hnodup
  exact fun hmem => hnodup.1 (Multiset.mem_map.mpr ⟨(k, b), hmem, rfl⟩)

/-- An execution is held at one stage. -/
theorem stage_unique (hs : L.Sound) (hheld : L.held = (k, a) ::ₘ rest) (hmem : (k, b) ∈ L.held) :
    b = a := by
  rw [hheld, Multiset.mem_cons] at hmem
  rcases hmem with heq | hmem
  · exact (Prod.mk.inj heq).2
  · exact absurd hmem (hs.notMem_rest hheld b)

theorem unique (hs : L.Sound) (ha : (k, a) ∈ L.held) (hb : (k, b) ∈ L.held) : b = a := by
  obtain ⟨rest, hheld⟩ := Multiset.exists_cons_of_mem ha
  exact hs.stage_unique hheld hb

theorem mem_used (hs : L.Sound) (hheld : L.held = (k, a) ::ₘ rest) : k ∈ L.used :=
  hs.used k a (hheld ▸ Multiset.mem_cons_self _ _)

theorem agrees_head (hs : L.Sound) (hheld : L.held = (k, a) ::ₘ rest) : a.Agrees (L.status k) :=
  hs.agrees k a (hheld ▸ Multiset.mem_cons_self _ _)

/-- An execution leaves, and no other row changes. -/
theorem remove (hs : L.Sound) (hheld : L.held = (k, a) ::ₘ rest)
    (hstatus : ∀ l, l ≠ k → status l = L.status l) : ({ L with held := rest, status }).Sound where
  nodup := by
    have hnodup := hs.nodup
    rw [hheld, Multiset.map_cons, Multiset.nodup_cons] at hnodup
    exact hnodup.2
  used := fun l b hmem => hs.used l b (hheld ▸ Multiset.mem_cons_of_mem hmem)
  agrees := by
    intro l b hmem
    have hne : l ≠ k := by
      rintro rfl
      exact hs.notMem_rest hheld b hmem
    simp only [hstatus l hne]
    exact hs.agrees l b (hheld ▸ Multiset.mem_cons_of_mem hmem)
  fresh := by
    intro l hl
    have hne : l ≠ k := by
      rintro rfl
      exact hl (hs.mem_used hheld)
    simp only [hstatus l hne]
    exact hs.fresh l hl

/-- An execution goes to another stage, and no other row changes. -/
theorem replace (hs : L.Sound) (hheld : L.held = (k, a) ::ₘ rest)
    (hstatus : ∀ l, l ≠ k → status l = L.status l) (hb : b.Agrees (status k)) :
    ({ L with held := (k, b) ::ₘ rest, status }).Sound := by
  have hrest := hs.remove hheld hstatus
  refine ⟨?_, ?_, ?_, hrest.fresh⟩
  · have hnodup := hs.nodup
    rw [hheld, Multiset.map_cons] at hnodup
    simpa using hnodup
  · intro l c hmem
    rcases Multiset.mem_cons.mp hmem with heq | hmem
    · obtain ⟨rfl, rfl⟩ := Prod.mk.inj heq
      exact hs.mem_used hheld
    · exact hrest.used l c hmem
  · intro l c hmem
    rcases Multiset.mem_cons.mp hmem with heq | hmem
    · obtain ⟨rfl, rfl⟩ := Prod.mk.inj heq
      exact hb
    · exact hrest.agrees l c hmem

/-- An execution with a new identifier enters. -/
theorem enter (hs : L.Sound) (hfresh : k ∉ L.used) (ha : a.Agrees none) :
    ({ L with held := (k, a) ::ₘ L.held, used := k :: L.used }).Sound where
  nodup := by
    rw [Multiset.map_cons, Multiset.nodup_cons]
    refine ⟨fun hmem => ?_, hs.nodup⟩
    obtain ⟨⟨l, b⟩, hheld, hl⟩ := Multiset.mem_map.mp hmem
    obtain rfl : l = k := hl
    exact hfresh (hs.used l b hheld)
  used := by
    intro l b hmem
    rcases Multiset.mem_cons.mp hmem with heq | hmem
    · rw [(Prod.mk.inj heq).1]
      exact List.mem_cons_self
    · exact List.mem_cons_of_mem k (hs.used l b hmem)
  agrees := by
    intro l b hmem
    rcases Multiset.mem_cons.mp hmem with heq | hmem
    · obtain ⟨rfl, rfl⟩ := Prod.mk.inj heq
      rw [hs.fresh _ hfresh]
      exact ha
    · exact hs.agrees l b hmem
  fresh := fun l hl => hs.fresh l fun hmem => hl (List.mem_cons_of_mem k hmem)

end Ledger.Sound

/-- An execution that is over: its identifier was given out, and it is not held. -/
structure Ledger.Gone (L : Ledger κ) (k : κ) : Prop where
  used : k ∈ L.used
  notHeld : ∀ a, (k, a) ∉ L.held

/-- An execution that the MQTT client has, or had. -/
structure Ledger.Late (L : Ledger κ) (k : κ) : Prop where
  used : k ∈ L.used
  late : ∀ a, (k, a) ∈ L.held → a.isLate = true

/-! ## Steps -/

/-- What happens in a step. -/
inductive LedgerLabel (κ : Type) where
  | silent
  /-- The request is enqueued. -/
  | accept (k : κ)
  | record (k : κ) (ok : Bool)
  /-- The MQTT client gets the command. -/
  | hand (k : κ)
  /-- The MQTT client returns. -/
  | returned (k : κ) (published : Bool)
  /-- A call or the processor marks the row failed. -/
  | fail (k : κ) (ok : Bool)
  /-- The consumer of outcomes marks the row. -/
  | settle (k : κ) (published ok : Bool)
  /-- Executions are dropped. -/
  | lose (lost : Multiset (κ × ExecutionStage))

/-- The status that an outcome gives. -/
def outcomeStatus (published : Bool) : CommandExecutionStatus :=
  if published then .published else .failed

variable [DecidableEq κ]

/-- The rows after an insertion that may fail, before or after it is done. -/
def Inserted (status : κ → Option CommandExecutionStatus) (k : κ) (ok : Bool)
    (after : κ → Option CommandExecutionStatus) : Prop :=
  after = Function.update status k (some .queued) ∨ (ok = false ∧ after = status)

/-- The rows after an update that may fail, before or after it is done. -/
def Updated (status : κ → Option CommandExecutionStatus) (k : κ) (new : CommandExecutionStatus)
    (ok : Bool) (after : κ → Option CommandExecutionStatus) : Prop :=
  after = Function.update status k ((status k).map fun _ => new) ∨ (ok = false ∧ after = status)

/-- An execution goes on to its next stage, with its row unchanged. -/
inductive StageAdvances (k : κ) : ExecutionStage → LedgerLabel κ → ExecutionStage → Prop
  | accept : StageAdvances k .recorded (.accept k) .pending
  | refuseRuled : StageAdvances k .ruled .silent .failing
  | refusePending : StageAdvances k .pending .silent .failing
  | hand : StageAdvances k .pending (.hand k) .handed
  | returned (published : Bool) :
      StageAdvances k .handed (.returned k published) (.returned published)

/-- A step of the ledger. -/
inductive LedgerStep : Ledger κ → LedgerLabel κ → Ledger κ → Prop
  | silent (L : Ledger κ) : LedgerStep L .silent L
  /-- A call begins. -/
  | call {L : Ledger κ} {k : κ} (hfresh : k ∉ L.used) :
      LedgerStep L .silent { L with held := (k, .recording) ::ₘ L.held, used := k :: L.used }
  /-- A rule enqueues a request. -/
  | rule {L : Ledger κ} {k : κ} (hfresh : k ∉ L.used) :
      LedgerStep L (.accept k) { L with held := (k, .ruled) ::ₘ L.held, used := k :: L.used }
  | advance {L : Ledger κ} {k : κ} {a b label rest} (hheld : L.held = (k, a) ::ₘ rest)
      (hadvance : StageAdvances k a label b) : LedgerStep L label { L with held := (k, b) ::ₘ rest }
  | callRecorded {L : Ledger κ} {k : κ} {rest} (hheld : L.held = (k, .recording) ::ₘ rest) :
      LedgerStep L (.record k true)
        { L with
          held := (k, .recorded) ::ₘ rest
          status := Function.update L.status k (some .queued) }
  | callNotRecorded {L : Ledger κ} {k : κ} {rest status}
      (hheld : L.held = (k, .recording) ::ₘ rest) (hstatus : Inserted L.status k false status) :
      LedgerStep L (.record k false) { L with held := rest, status }
  | ruleRecorded {L : Ledger κ} {k : κ} {rest} (hheld : L.held = (k, .ruled) ::ₘ rest) :
      LedgerStep L (.record k true)
        { L with
          held := (k, .pending) ::ₘ rest
          status := Function.update L.status k (some .queued) }
  | ruleNotRecorded {L : Ledger κ} {k : κ} {rest status}
      (hheld : L.held = (k, .ruled) ::ₘ rest) (hstatus : Inserted L.status k false status) :
      LedgerStep L (.record k false) { L with held := (k, .failing) ::ₘ rest, status }
  | fail {L : Ledger κ} {k : κ} {a rest ok status} (hheld : L.held = (k, a) ::ₘ rest)
      (hearly : a.isEarly = true) (hstatus : Updated L.status k .failed ok status) :
      LedgerStep L (.fail k ok) { L with held := rest, status }
  | settle {L : Ledger κ} {k : κ} {published rest ok status}
      (hheld : L.held = (k, .returned published) ::ₘ rest)
      (hstatus : Updated L.status k (outcomeStatus published) ok status) :
      LedgerStep L (.settle k published ok) { L with held := rest, status }
  | lose {L : Ledger κ} {lost rest} (hheld : L.held = lost + rest) :
      LedgerStep L (.lose lost) { L with held := rest }

theorem Inserted.of_ne {status after : κ → Option CommandExecutionStatus} {k l : κ} {ok : Bool}
    (h : Inserted status k ok after) (hl : l ≠ k) : after l = status l := by
  rcases h with rfl | ⟨-, rfl⟩
  · exact Function.update_of_ne hl _ _
  · rfl

theorem Updated.of_ne {status after : κ → Option CommandExecutionStatus} {k l : κ} {ok : Bool}
    {new : CommandExecutionStatus} (h : Updated status k new ok after) (hl : l ≠ k) :
    after l = status l := by
  rcases h with rfl | ⟨-, rfl⟩
  · exact Function.update_of_ne hl _ _
  · rfl

/-- A step to a ledger, up to the order of what is held. -/
theorem LedgerStep.of_eq {L M L' : Ledger κ} {label : LedgerLabel κ} (h : LedgerStep L label M)
    (hheld : L'.held = M.held) (hstatus : L'.status = M.status) (hused : L'.used = M.used) :
    LedgerStep L label L' := by
  obtain ⟨held, status, used⟩ := L'
  obtain rfl : held = M.held := hheld
  obtain rfl : status = M.status := hstatus
  obtain rfl : used = M.used := hused
  exact h

/-- An insertion leaves a row as it is, or it is that of the row. -/
theorem Inserted.eq_or {status after : κ → Option CommandExecutionStatus} {l : κ} {ok : Bool}
    (h : Inserted status l ok after) (k : κ) :
    after k = status k ∨ (k = l ∧ after k = some .queued) := by
  by_cases hk : k = l
  · rcases h with rfl | ⟨-, rfl⟩
    · subst hk
      exact .inr ⟨rfl, Function.update_self ..⟩
    · exact .inl rfl
  · exact .inl (h.of_ne hk)

/-- An update leaves a row as it is, or it is that of the row. -/
theorem Updated.eq_or {status after : κ → Option CommandExecutionStatus} {l : κ} {ok : Bool}
    {new : CommandExecutionStatus} (h : Updated status l new ok after) (k : κ) :
    after k = status k ∨ (k = l ∧ after k = (status l).map fun _ => new) := by
  by_cases hk : k = l
  · rcases h with rfl | ⟨-, rfl⟩
    · subst hk
      exact .inr ⟨rfl, Function.update_self ..⟩
    · exact .inl rfl
  · exact .inl (h.of_ne hk)

theorem Inserted.of_ok {status after : κ → Option CommandExecutionStatus} {k : κ}
    (h : Inserted status k true after) : after = Function.update status k (some .queued) := by
  rcases h with hdone | ⟨hok, -⟩
  · exact hdone
  · cases hok

theorem Updated.of_ok {status after : κ → Option CommandExecutionStatus} {k : κ}
    {new : CommandExecutionStatus} (h : Updated status k new true after) :
    after k = (status k).map fun _ => new := by
  rcases h with rfl | ⟨hok, -⟩
  · exact Function.update_self ..
  · cases hok

section Steps

variable {L L' : Ledger κ} {k : κ} {label : LedgerLabel κ}

theorem LedgerStep.sound (h : LedgerStep L label L') (hs : L.Sound) : L'.Sound := by
  cases h with
  | silent => exact hs
  | call hfresh => exact hs.enter hfresh rfl
  | rule hfresh => exact hs.enter hfresh rfl
  | @advance k a b _ rest hheld hadvance =>
    refine hs.replace hheld (fun _ _ => rfl) ?_
    have hagrees := hs.agrees_head hheld
    cases hadvance with
    | accept => exact hagrees
    | refuseRuled => exact .inl hagrees
    | refusePending => exact .inr hagrees
    | hand => exact hagrees
    | returned published => exact hagrees
  | @callRecorded k rest hheld =>
    exact hs.replace hheld (fun l hl => Function.update_of_ne hl _ _) (Function.update_self ..)
  | callNotRecorded hheld hstatus => exact hs.remove hheld fun l hl => hstatus.of_ne hl
  | @ruleRecorded k rest hheld =>
    exact hs.replace hheld (fun l hl => Function.update_of_ne hl _ _) (Function.update_self ..)
  | @ruleNotRecorded k rest status hheld hstatus =>
    refine hs.replace hheld (fun l hl => hstatus.of_ne hl) ?_
    rcases hstatus with rfl | ⟨-, rfl⟩
    · exact .inr (Function.update_self ..)
    · exact .inl (hs.agrees_head hheld)
  | fail hheld hearly hstatus => exact hs.remove hheld fun l hl => hstatus.of_ne hl
  | settle hheld hstatus => exact hs.remove hheld fun l hl => hstatus.of_ne hl
  | @lose lost rest hheld =>
    have hle : rest ≤ L.held := hheld ▸ Multiset.le_add_left rest lost
    exact ⟨Multiset.nodup_of_le (Multiset.map_le_map hle) hs.nodup,
      fun l b hmem => hs.used l b (Multiset.mem_of_le hle hmem),
      fun l b hmem => hs.agrees l b (Multiset.mem_of_le hle hmem), hs.fresh⟩

/-! ## What a step does to an execution -/

/-- The execution that a step is about. -/
def LedgerLabel.execution : LedgerLabel κ → Option κ
  | .accept k | .record k _ | .hand k | .returned k _ | .fail k _ | .settle k _ _ => some k
  | .silent | .lose _ => none

/-- The step runs a status update of an execution. -/
def LedgerLabel.Updates (label : LedgerLabel κ) (k : κ) : Prop :=
  (∃ ok, label = .fail k ok) ∨ ∃ published ok, label = .settle k published ok

/-- An execution that is held goes on to another stage. -/
inductive Moves (k : κ) : ExecutionStage → LedgerLabel κ → ExecutionStage → Prop
  | advance {a b label} (hadvance : StageAdvances k a label b) : Moves k a label b
  | callRecorded : Moves k .recording (.record k true) .recorded
  | ruleRecorded : Moves k .ruled (.record k true) .pending
  | ruleNotRecorded : Moves k .ruled (.record k false) .failing

omit [DecidableEq κ] in
/-- An execution that is held after another went on to its next stage is that one, or was held. -/
theorem mem_replaced {held rest : Multiset (κ × ExecutionStage)} {l : κ} {a b c : ExecutionStage}
    (hheld : held = (l, a) ::ₘ rest) (hmem : (k, b) ∈ (l, c) ::ₘ rest) :
    (k, b) ∈ held ∨ (k = l ∧ b = c ∧ (k, a) ∈ held) := by
  subst hheld
  rcases Multiset.mem_cons.mp hmem with heq | hrest
  · obtain ⟨rfl, rfl⟩ := Prod.mk.inj heq
    exact .inr ⟨rfl, rfl, Multiset.mem_cons_self _ _⟩
  · exact .inl (Multiset.mem_cons_of_mem hrest)

/-- Where an execution that is held after a step comes from. -/
theorem LedgerStep.held_inv (h : LedgerStep L label L') {b : ExecutionStage}
    (hmem : (k, b) ∈ L'.held) :
    (k, b) ∈ L.held ∨ (∃ a, (k, a) ∈ L.held ∧ Moves k a label b) ∨
      (k ∉ L.used ∧ (b = .recording ∧ label = .silent ∨ b = .ruled ∧ label = .accept k)) := by
  cases h with
  | silent => exact .inl hmem
  | call hfresh =>
    rcases Multiset.mem_cons.mp hmem with heq | hrest
    · obtain ⟨rfl, rfl⟩ := Prod.mk.inj heq
      exact .inr (.inr ⟨hfresh, .inl ⟨rfl, rfl⟩⟩)
    · exact .inl hrest
  | rule hfresh =>
    rcases Multiset.mem_cons.mp hmem with heq | hrest
    · obtain ⟨rfl, rfl⟩ := Prod.mk.inj heq
      exact .inr (.inr ⟨hfresh, .inr ⟨rfl, rfl⟩⟩)
    · exact .inl hrest
  | advance hheld hadvance =>
    rcases mem_replaced hheld hmem with hsame | ⟨rfl, rfl, ha⟩
    · exact .inl hsame
    · exact .inr (.inl ⟨_, ha, .advance hadvance⟩)
  | callRecorded hheld =>
    rcases mem_replaced hheld hmem with hsame | ⟨rfl, rfl, ha⟩
    · exact .inl hsame
    · exact .inr (.inl ⟨_, ha, .callRecorded⟩)
  | ruleRecorded hheld =>
    rcases mem_replaced hheld hmem with hsame | ⟨rfl, rfl, ha⟩
    · exact .inl hsame
    · exact .inr (.inl ⟨_, ha, .ruleRecorded⟩)
  | ruleNotRecorded hheld hstatus =>
    rcases mem_replaced hheld hmem with hsame | ⟨rfl, rfl, ha⟩
    · exact .inl hsame
    · exact .inr (.inl ⟨_, ha, .ruleNotRecorded⟩)
  | callNotRecorded hheld hstatus | fail hheld hearly hstatus | settle hheld hstatus =>
    exact .inl (hheld ▸ Multiset.mem_cons_of_mem hmem)
  | lose hheld => exact .inl (hheld ▸ Multiset.mem_add.mpr (.inr hmem))

/-- What becomes of an execution that is held before a step. -/
theorem LedgerStep.held_cases (h : LedgerStep L label L') {a : ExecutionStage}
    (hmem : (k, a) ∈ L.held) :
    (∃ b, (k, b) ∈ L'.held) ∨ label.Updates k ∨ label = .record k false ∨
      ∃ lost, label = .lose lost ∧ (k, a) ∈ lost := by
  -- The execution is the one that the step is about, or one of the rest.
  have hhead : ∀ {l c rest}, L.held = (l, c) ::ₘ rest → k = l ∨ (k, a) ∈ rest := by
    intro l c rest hheld
    rw [hheld, Multiset.mem_cons] at hmem
    exact hmem.imp (fun heq => (Prod.mk.inj heq).1) id
  cases h with
  | silent => exact .inl ⟨a, hmem⟩
  | call hfresh => exact .inl ⟨a, Multiset.mem_cons_of_mem hmem⟩
  | rule hfresh => exact .inl ⟨a, Multiset.mem_cons_of_mem hmem⟩
  | advance hheld hadvance =>
    rcases hhead hheld with rfl | hrest
    · exact .inl ⟨_, Multiset.mem_cons_self _ _⟩
    · exact .inl ⟨a, Multiset.mem_cons_of_mem hrest⟩
  | callRecorded hheld | ruleRecorded hheld | ruleNotRecorded hheld hstatus =>
    rcases hhead hheld with rfl | hrest
    · exact .inl ⟨_, Multiset.mem_cons_self _ _⟩
    · exact .inl ⟨a, Multiset.mem_cons_of_mem hrest⟩
  | callNotRecorded hheld hstatus =>
    rcases hhead hheld with rfl | hrest
    · exact .inr (.inr (.inl rfl))
    · exact .inl ⟨a, hrest⟩
  | fail hheld hearly hstatus =>
    rcases hhead hheld with rfl | hrest
    · exact .inr (.inl (.inl ⟨_, rfl⟩))
    · exact .inl ⟨a, hrest⟩
  | settle hheld hstatus =>
    rcases hhead hheld with rfl | hrest
    · exact .inr (.inl (.inr ⟨_, _, rfl⟩))
    · exact .inl ⟨a, hrest⟩
  | lose hheld =>
    rw [hheld, Multiset.mem_add] at hmem
    rcases hmem with hlost | hrest
    · exact .inr (.inr (.inr ⟨_, rfl, hlost⟩))
    · exact .inl ⟨a, hrest⟩

/-- The stage of an execution that is handed on or marked failed. -/
theorem LedgerStep.label_inv (h : LedgerStep L label L') :
    (label = .hand k → (k, .pending) ∈ L.held) ∧
      ∀ ok, label = .fail k ok → ∃ a, (k, a) ∈ L.held ∧ a.isEarly = true := by
  constructor
  · rintro rfl
    cases h with
    | advance hheld hadvance =>
      cases hadvance with
      | hand => exact hheld ▸ Multiset.mem_cons_self _ _
  · rintro ok rfl
    cases h with
    | advance hheld hadvance => cases hadvance
    | fail hheld hearly hstatus => exact ⟨_, hheld ▸ Multiset.mem_cons_self _ _, hearly⟩

/-- Identifiers stay given out. -/
theorem LedgerStep.used (h : LedgerStep L label L') (hk : k ∈ L.used) : k ∈ L'.used := by
  cases h with
  | call hfresh | rule hfresh => exact List.mem_cons_of_mem _ hk
  | _ => exact hk

/-- A step changes no row but that of the execution that it is about. -/
theorem LedgerStep.status_frame (h : LedgerStep L label L') (hlabel : label.execution ≠ some k) :
    L'.status k = L.status k := by
  have hne : ∀ {l : κ}, some l ≠ some k → k ≠ l := by
    rintro l hl rfl
    exact hl rfl
  cases h with
  | callRecorded hheld | ruleRecorded hheld => exact Function.update_of_ne (hne hlabel) _ _
  | callNotRecorded hheld hstatus | ruleNotRecorded hheld hstatus =>
    exact hstatus.of_ne (hne hlabel)
  | fail hheld hearly hstatus => exact hstatus.of_ne (hne hlabel)
  | settle hheld hstatus => exact hstatus.of_ne (hne hlabel)
  | _ => rfl

/-- The execution that a step is about is held before it, or it is a new one. -/
theorem LedgerStep.execution_held (h : LedgerStep L label L')
    (hlabel : label.execution = some k) : (∃ a, (k, a) ∈ L.held) ∨ k ∉ L.used := by
  have hhead : ∀ {l a rest}, L.held = (l, a) ::ₘ rest → some l = some k → ∃ a, (k, a) ∈ L.held := by
    intro l a rest hheld hl
    obtain rfl := Option.some.inj hl
    exact ⟨a, hheld ▸ Multiset.mem_cons_self _ _⟩
  cases h with
  | silent | call hfresh | lose hheld => cases hlabel
  | rule hfresh =>
    obtain rfl := Option.some.inj hlabel
    exact .inr hfresh
  | advance hheld hadvance =>
    cases hadvance with
    | refuseRuled | refusePending => cases hlabel
    | accept | hand | returned published => exact .inl (hhead hheld hlabel)
  | callRecorded hheld | callNotRecorded hheld hstatus | ruleRecorded hheld
  | ruleNotRecorded hheld hstatus | fail hheld hearly hstatus | settle hheld hstatus =>
    exact .inl (hhead hheld hlabel)

/-! ## What is over -/

/-- An execution that is over stays so and keeps its row, and no step is about it. -/
theorem LedgerStep.gone (h : LedgerStep L label L') (hg : L.Gone k) :
    L'.Gone k ∧ L'.status k = L.status k ∧ label.execution ≠ some k := by
  have hlabel : label.execution ≠ some k := by
    intro hlabel
    rcases h.execution_held hlabel with ⟨a, ha⟩ | hfresh
    · exact hg.notHeld a ha
    · exact hfresh hg.used
  refine ⟨⟨h.used hg.used, fun b hmem => ?_⟩, h.status_frame hlabel, hlabel⟩
  rcases h.held_inv hmem with hsame | ⟨a, ha, -⟩ | ⟨hfresh, -⟩
  · exact hg.notHeld b hsame
  · exact hg.notHeld a ha
  · exact hfresh hg.used

/-- An update finds the row queued, or, of an execution that the processor refuses, no row; and the
execution is over. -/
theorem LedgerStep.update (h : LedgerStep L label L') (hs : L.Sound) (hupdate : label.Updates k) :
    L'.Gone k ∧ (L.status k = some .queued ∨ (L.status k = none ∧ (k, .failing) ∈ L.held)) := by
  rcases hupdate with ⟨ok, rfl⟩ | ⟨published, ok, rfl⟩
  · cases h with
    | @advance l a b label rest hheld hadvance => cases hadvance
    | @fail l a rest ok status hheld hearly hstatus =>
      refine ⟨⟨hs.mem_used hheld, hs.notMem_rest hheld⟩, ?_⟩
      have hagrees := hs.agrees_head hheld
      cases a with
      | recorded | pending => exact .inl hagrees
      | failing =>
        rcases hagrees with hnone | hqueued
        · exact .inr ⟨hnone, hheld ▸ Multiset.mem_cons_self _ _⟩
        · exact .inl hqueued
      | recording | ruled | handed | returned published => cases hearly
  · cases h with
    | @advance l a b label rest hheld hadvance => cases hadvance
    | settle hheld hstatus =>
      exact ⟨⟨hs.mem_used hheld, hs.notMem_rest hheld⟩, .inl (hs.agrees_head hheld)⟩

/-- An execution that the MQTT client had stays so, and is neither handed on again nor marked failed
by a call or the processor. -/
theorem LedgerStep.late (h : LedgerStep L label L') (hl : L.Late k) :
    L'.Late k ∧ label ≠ .hand k ∧ ∀ ok, label ≠ .fail k ok := by
  obtain ⟨hhand, hfail⟩ := h.label_inv (k := k)
  refine ⟨⟨h.used hl.used, fun b hmem => ?_⟩, fun hlabel => ?_, fun ok hlabel => ?_⟩
  · rcases h.held_inv hmem with hsame | ⟨a, ha, hmoves⟩ | ⟨hfresh, -⟩
    · exact hl.late b hsame
    · have hlate := hl.late a ha
      cases hmoves with
      | advance hadvance =>
        cases hadvance with
        | returned published => rfl
        | accept | refuseRuled | refusePending | hand => cases hlate
      | callRecorded | ruleRecorded | ruleNotRecorded => cases hlate
    · exact absurd hl.used hfresh
  · cases hl.late _ (hhand hlabel)
  · obtain ⟨a, ha, hearly⟩ := hfail ok hlabel
    have hlate := hl.late a ha
    cases a with
    | handed | returned published => cases hearly
    | recording | recorded | ruled | pending | failing => cases hlate

/-- An execution that is handed on is late. -/
theorem LedgerStep.hand_late (h : LedgerStep L (.hand k) L') (hs : L.Sound) : L'.Late k := by
  cases h with
  | @advance l a b label rest hheld hadvance =>
    cases hadvance with
    | hand =>
      refine ⟨hs.mem_used hheld, fun b hmem => ?_⟩
      rcases Multiset.mem_cons.mp hmem with heq | hrest
      · rw [(Prod.mk.inj heq).2]
        rfl
      · exact absurd hrest (hs.notMem_rest hheld b)

/-! ## Rows -/

/-- No write of the step fails. -/
def LedgerLabel.Ok : LedgerLabel κ → Prop
  | .record _ ok | .fail _ ok | .settle _ _ ok => ok = true
  | .silent | .accept _ | .hand _ | .returned _ _ | .lose _ => True

/-- How the status of a row changes in a step, if it does. -/
inductive RowChange (L : Ledger κ) (label : LedgerLabel κ) (L' : Ledger κ) (k : κ) : Prop
  | same (hsame : L'.status k = L.status k)
  | record {ok} (hlabel : label = .record k ok) (hqueued : L'.status k = some .queued)
      (hheld : ok = true → ∃ a, (k, a) ∈ L'.held)
  | fail {ok} (hlabel : label = .fail k ok)
      (hfailed : L'.status k = (L.status k).map fun _ => .failed)
  | settle {published ok} (hlabel : label = .settle k published ok)
      (hheld : (k, .returned published) ∈ L.held)
      (hsettled : L'.status k = (L.status k).map fun _ => outcomeStatus published)

theorem LedgerStep.row_change (h : LedgerStep L label L') (k : κ) : RowChange L label L' k := by
  cases h with
  | @callRecorded l rest hheld | @ruleRecorded l rest hheld =>
    have hstatus : Inserted L.status l true (Function.update L.status l (some .queued)) := .inl rfl
    rcases hstatus.eq_or k with hsame | ⟨rfl, hqueued⟩
    · exact .same hsame
    · exact .record rfl hqueued fun _ => ⟨_, Multiset.mem_cons_self _ _⟩
  | callNotRecorded hheld hstatus | ruleNotRecorded hheld hstatus =>
    rcases hstatus.eq_or k with hsame | ⟨rfl, hqueued⟩
    · exact .same hsame
    · exact .record rfl hqueued nofun
  | fail hheld hearly hstatus =>
    rcases hstatus.eq_or k with hsame | ⟨rfl, hfailed⟩
    · exact .same hsame
    · exact .fail rfl hfailed
  | settle hheld hstatus =>
    rcases hstatus.eq_or k with hsame | ⟨rfl, hsettled⟩
    · exact .same hsame
    · exact .settle rfl (hheld ▸ Multiset.mem_cons_self _ _) hsettled
  | _ => exact .same rfl

theorem eq_of_map_eq_some {status : Option CommandExecutionStatus}
    {new other : CommandExecutionStatus} (h : (status.map fun _ => new) = some other) :
    new = other := by
  obtain ⟨-, -, heq⟩ := Option.map_eq_some_iff.mp h
  exact heq

/-- A row becomes published by an outcome of the MQTT client that says so. -/
theorem LedgerStep.status_published (h : LedgerStep L label L')
    (hpublished : L'.status k = some .published) :
    L.status k = some .published ∨ (k, .returned true) ∈ L.held := by
  cases h.row_change k with
  | same hsame => exact .inl (hsame.symm.trans hpublished)
  | record hlabel hqueued hheld => cases hqueued.symm.trans hpublished
  | fail hlabel hfailed => cases eq_of_map_eq_some (hfailed.symm.trans hpublished)
  | @settle published ok hlabel hheld hsettled =>
    have hnew := eq_of_map_eq_some (hsettled.symm.trans hpublished)
    cases published with
    | true => exact .inr hheld
    | false => cases hnew

/-- A row leaves `queued` by an update of its status. -/
theorem LedgerStep.status_leaves (h : LedgerStep L label L') (hqueued : L.status k = some .queued)
    (hleaves : L'.status k ≠ some .queued) : label.Updates k := by
  cases h.row_change k with
  | same hsame => exact absurd (hsame.trans hqueued) hleaves
  | record hlabel hnew hheld => exact absurd hnew hleaves
  | fail hlabel hfailed => exact .inl ⟨_, hlabel⟩
  | settle hlabel hheld hsettled => exact .inr ⟨_, _, hlabel⟩

/-- An update that is done leaves no row queued. -/
theorem LedgerStep.status_updated (h : LedgerStep L label L') (hok : label.Ok)
    (hupdate : label.Updates k) : L'.status k ≠ some .queued := by
  intro hqueued
  rcases hupdate with ⟨ok, rfl⟩ | ⟨published, ok, rfl⟩
  · obtain rfl : ok = true := hok
    cases h with
    | advance hheld hadvance => cases hadvance
    | fail hheld hearly hstatus => cases eq_of_map_eq_some (hstatus.of_ok.symm.trans hqueued)
  · obtain rfl : ok = true := hok
    cases h with
    | advance hheld hadvance => cases hadvance
    | settle hheld hstatus =>
      have hnew := eq_of_map_eq_some (hstatus.of_ok.symm.trans hqueued)
      cases published <;> cases hnew

/-- With writes that do not fail, a row becomes queued by an insertion, after which its execution is
held. -/
theorem LedgerStep.status_queued (h : LedgerStep L label L') (hok : label.Ok)
    (hqueued : L'.status k = some .queued) :
    L.status k = some .queued ∨ ∃ a, (k, a) ∈ L'.held := by
  cases h.row_change k with
  | same hsame => exact .inl (hsame.symm.trans hqueued)
  | record hlabel hnew hheld =>
    subst hlabel
    exact .inr (hheld hok)
  | fail hlabel hfailed => cases eq_of_map_eq_some (hfailed.symm.trans hqueued)
  | @settle published ok hlabel hheld hsettled =>
    have hnew := eq_of_map_eq_some (hsettled.symm.trans hqueued)
    cases published <;> cases hnew

/-- An execution that is enqueued is held, at a stage of an enqueued one. -/
theorem LedgerStep.accept_held (h : LedgerStep L (.accept k) L') :
    ∃ a, (k, a) ∈ L'.held ∧ a.isAccepted = true := by
  cases h with
  | rule hfresh => exact ⟨_, Multiset.mem_cons_self _ _, rfl⟩
  | advance hheld hadvance =>
    cases hadvance with
    | accept => exact ⟨_, Multiset.mem_cons_self _ _, rfl⟩

omit [DecidableEq κ] in
/-- Only being enqueued makes an execution an enqueued one. -/
theorem Moves.isAccepted {a b : ExecutionStage} (h : Moves k a label b) :
    label = .accept k ∨ a.isAccepted = b.isAccepted := by
  cases h with
  | advance hadvance =>
    cases hadvance with
    | accept => exact .inl rfl
    | refuseRuled | refusePending | hand | returned published => exact .inr rfl
  | callRecorded | ruleRecorded | ruleNotRecorded => exact .inr rfl

/-- Executions that are dropped were held. -/
theorem LedgerStep.lose_held {lost : Multiset (κ × ExecutionStage)}
    (h : LedgerStep L (.lose lost) L') (hs : L.Sound) {k : κ} {a : ExecutionStage}
    (hmem : (k, a) ∈ lost) : (k, a) ∈ L.held ∧ L'.Gone k ∧ L'.status k = L.status k := by
  cases h with
  | advance hheld hadvance => cases hadvance
  | @lose lost rest hheld =>
    have hheld' : (k, a) ∈ L.held := hheld ▸ Multiset.mem_add.mpr (.inl hmem)
    refine ⟨hheld', ⟨hs.used k a hheld', fun b hrest => ?_⟩, rfl⟩
    have hnodup := hs.nodup
    rw [hheld, Multiset.map_add, Multiset.nodup_add] at hnodup
    exact Multiset.disjoint_left.mp hnodup.2.2 (Multiset.mem_map.mpr ⟨_, hmem, rfl⟩)
      (Multiset.mem_map.mpr ⟨(k, b), hrest, rfl⟩)

end Steps

/-! ## Runs -/

section Runs

variable {L L' : Ledger κ} {es : List (Edge (Ledger κ) (LedgerLabel κ))}

/-- After a status update of an execution its row never changes, and nothing more is done for it. -/
theorem updates_pairwise (h : Run LedgerStep L es L') (hs : L.Sound) :
    es.Pairwise fun e e' => ∀ k, e.label.Updates k →
      e'.label.execution ≠ some k ∧ e'.target.status k = e'.source.status k := by
  refine h.pairwise Ledger.Sound (fun e M => ∀ k, e.label.Updates k → M.Gone k) _
    (fun M label M' hstep hM => hstep.sound hM)
    (fun e hstep hM k hupdate => (hstep.update hM hupdate).1)
    (fun e M label M' hstep hM hgone k hupdate => (hstep.gone (hgone k hupdate)).1) ?_ hs
  intro e e' hstep hM hgone k hupdate
  obtain ⟨-, hstatus, hexecution⟩ := hstep.gone (hgone k hupdate)
  exact ⟨hexecution, hstatus⟩

/-- After the MQTT client got an execution, it does not get it again, and neither a call nor the
processor marks it failed. -/
theorem hand_pairwise (h : Run LedgerStep L es L') (hs : L.Sound) :
    es.Pairwise fun e e' => ∀ k, e.label = .hand k →
      e'.label ≠ .hand k ∧ ∀ ok, e'.label ≠ .fail k ok := by
  refine h.pairwise Ledger.Sound (fun e M => ∀ k, e.label = .hand k → M.Late k) _
    (fun M label M' hstep hM => hstep.sound hM) ?_
    (fun e M label M' hstep hM hlate k hhand => (hstep.late (hlate k hhand)).1)
    (fun e e' hstep hM hlate k hhand => (hstep.late (hlate k hhand)).2) hs
  intro e hstep hM k hhand
  rw [hhand] at hstep
  exact hstep.hand_late hM

/-- An execution that a call or the processor marks failed is never handed to the MQTT client. -/
theorem fail_not_hand (h : Run LedgerStep L es L') (hs : L.Sound) {k : κ} {ok : Bool}
    {e e' : Edge (Ledger κ) (LedgerLabel κ)} (he : e ∈ es) (he' : e' ∈ es)
    (hfail : e.label = .fail k ok) : e'.label ≠ .hand k := by
  -- Either may come first, so the relation that is proved of every two steps is symmetric.
  let R : Edge (Ledger κ) (LedgerLabel κ) → Edge (Ledger κ) (LedgerLabel κ) → Prop := fun e e' =>
    ¬ (e.label = .fail k ok ∧ e'.label = .hand k) ∧ ¬ (e'.label = .fail k ok ∧ e.label = .hand k)
  have hpairwise : es.Pairwise R := by
    refine ((updates_pairwise h hs).and (hand_pairwise h hs)).imp ?_
    rintro e e' ⟨hupdate, hhand⟩
    refine ⟨fun ⟨hfail, hhand'⟩ => ?_, fun ⟨hfail, hhand'⟩ => (hhand k hhand').2 ok hfail⟩
    refine (hupdate k (.inl ⟨ok, hfail⟩)).1 ?_
    rw [hhand']
    rfl
  have hdiagonal : ∀ e ∈ es, R e e := by
    rintro e -
    refine ⟨fun ⟨hfail, hhand⟩ => ?_, fun ⟨hfail, hhand⟩ => ?_⟩ <;>
      exact nomatch hfail.symm.trans hhand
  have hsymm : Std.Symm R := ⟨fun e e' hR => ⟨hR.2, hR.1⟩⟩
  exact fun hhand => (hpairwise.forall_of_forall hdiagonal he he').1 ⟨hfail, hhand⟩

/-- A row that is published at the end was so at the start, or the MQTT client returned for it. -/
theorem published_returned (h : Run LedgerStep L es L') (hheld : L.held = 0) {k : κ}
    (hpublished : L'.status k = some .published) :
    L.status k = some .published ∨ ∃ e ∈ es, e.label = .returned k true := by
  have hhistory := h.history
    (fun past M =>
      (M.status k = some .published →
        L.status k = some .published ∨ ∃ e ∈ past, e.label = .returned k true) ∧
      ((k, .returned true) ∈ M.held → ∃ e ∈ past, e.label = .returned k true))
    ?_ ?_
  · exact hhistory.1 hpublished
  · rintro past M label M' ⟨hrow, hreturned⟩ hstep
    have hpast : ∀ e ∈ past, e ∈ past ++ [⟨M, label, M'⟩] := fun e => List.mem_append_left _
    constructor
    · intro hpublished
      rcases hstep.status_published hpublished with hbefore | hmem
      · refine (hrow hbefore).imp_right fun ⟨e, he, hlabel⟩ => ⟨e, hpast e he, hlabel⟩
      · obtain ⟨e, he, hlabel⟩ := hreturned hmem
        exact .inr ⟨e, hpast e he, hlabel⟩
    · intro hmem
      rcases hstep.held_inv hmem with hsame | ⟨a, -, hmoves⟩ | ⟨-, ⟨hstage, -⟩ | ⟨hstage, -⟩⟩
      · obtain ⟨e, he, hlabel⟩ := hreturned hsame
        exact ⟨e, hpast e he, hlabel⟩
      · cases hmoves with
        | advance hadvance =>
          cases hadvance with
          | returned published => exact ⟨_, List.mem_append_right _ (.head _), rfl⟩
      · cases hstage
      · cases hstage
  · refine ⟨.inl, fun hmem => ?_⟩
    rw [hheld] at hmem
    exact absurd hmem (Multiset.notMem_zero _)

/-! ## Which executions are left queued -/

/-- The request of an execution is enqueued in a run. -/
def Accepted (es : List (Edge (Ledger κ) (LedgerLabel κ))) (k : κ) : Prop :=
  ∃ e ∈ es, e.label = .accept k

/-- An execution is dropped in a run. -/
def Lost (es : List (Edge (Ledger κ) (LedgerLabel κ))) (k : κ) : Prop :=
  ∃ e ∈ es, ∃ lost a, e.label = .lose lost ∧ (k, a) ∈ lost

/-- No write of the step fails, and it drops only executions whose rows are there. -/
def LedgerLabel.Clean (label : LedgerLabel κ) : Prop :=
  label.Ok ∧ ∀ lost, label = .lose lost → ∀ x ∈ lost, x.2 = .pending ∨ x.2.isLate = true

/-- What is known of the accepted executions at a point of a run. -/
structure Audited (past : List (Edge (Ledger κ) (LedgerLabel κ))) (M : Ledger κ) : Prop where
  sound : M.Sound
  accepted : ∀ k a, (k, a) ∈ M.held → (a.isAccepted = true ↔ Accepted past k)
  used : ∀ k, Accepted past k → k ∈ M.used
  queued : ∀ k, Accepted past k → M.status k = some .queued →
    (∃ a, (k, a) ∈ M.held) ∨ Lost past k
  lost : ∀ k, Lost past k → M.Gone k ∧ M.status k = some .queued ∧ Accepted past k

omit [DecidableEq κ] in
theorem accepted_snoc {past : List (Edge (Ledger κ) (LedgerLabel κ))}
    {e : Edge (Ledger κ) (LedgerLabel κ)} {k : κ} :
    Accepted (past ++ [e]) k ↔ Accepted past k ∨ e.label = .accept k := by
  simp [Accepted, or_and_right, exists_or]

omit [DecidableEq κ] in
theorem lost_snoc {past : List (Edge (Ledger κ) (LedgerLabel κ))}
    {e : Edge (Ledger κ) (LedgerLabel κ)} {k : κ} :
    Lost (past ++ [e]) k ↔ Lost past k ∨ ∃ lost a, e.label = .lose lost ∧ (k, a) ∈ lost := by
  simp [Lost, or_and_right, exists_or]

theorem Audited.step {past : List (Edge (Ledger κ) (LedgerLabel κ))} {M M' : Ledger κ}
    {label : LedgerLabel κ} (hM : Audited past M) (h : LedgerStep M label M')
    (hclean : label.Clean) : Audited (past ++ [⟨M, label, M'⟩]) M' where
  sound := h.sound hM.sound
  accepted := by
    intro k b hmem
    rw [accepted_snoc]
    by_cases haccept : label = .accept k
    · subst haccept
      obtain ⟨a, ha, haccepted⟩ := h.accept_held
      rw [(h.sound hM.sound).unique ha hmem]
      exact iff_of_true haccepted (.inr rfl)
    · rw [or_iff_left haccept]
      rcases h.held_inv hmem with hsame | ⟨a, ha, hmoves⟩ | ⟨hfresh, ⟨rfl, -⟩ | ⟨-, hlabel⟩⟩
      · exact hM.accepted k b hsame
      · rw [← hmoves.isAccepted.resolve_left haccept]
        exact hM.accepted k a ha
      · exact iff_of_false nofun fun haccepted => hfresh (hM.used k haccepted)
      · exact absurd hlabel haccept
  used := by
    intro k haccepted
    rcases accepted_snoc.mp haccepted with hpast | hlabel
    · exact h.used (hM.used k hpast)
    · obtain rfl : label = .accept k := hlabel
      obtain ⟨a, ha, -⟩ := h.accept_held
      exact (h.sound hM.sound).used k a ha
  queued := by
    intro k haccepted hqueued
    rw [lost_snoc]
    have hupdate : ¬ label.Updates k := fun hupdate =>
      h.status_updated hclean.1 hupdate hqueued
    rcases h.status_queued hclean.1 hqueued with hbefore | hheld
    · rcases accepted_snoc.mp haccepted with hpast | hlabel
      · rcases hM.queued k hpast hbefore with ⟨a, ha⟩ | hlost
        · rcases h.held_cases ha with hheld | hupdates | hlabel | ⟨lost, hlabel, hmem⟩
          · exact .inl hheld
          · exact absurd hupdates hupdate
          · subst hlabel
            cases hclean.1
          · exact .inr (.inr ⟨lost, a, hlabel, hmem⟩)
        · exact .inr (.inl hlost)
      · obtain rfl : label = .accept k := hlabel
        obtain ⟨a, ha, -⟩ := h.accept_held
        exact .inl ⟨a, ha⟩
    · exact .inl hheld
  lost := by
    intro k hlost
    rw [accepted_snoc]
    rcases lost_snoc.mp hlost with hpast | ⟨lost, a, hlabel, hmem⟩
    · obtain ⟨hgone, hqueued, haccepted⟩ := hM.lost k hpast
      obtain ⟨hgone', hstatus, -⟩ := h.gone hgone
      exact ⟨hgone', hstatus.trans hqueued, .inl haccepted⟩
    · obtain rfl : label = .lose lost := hlabel
      obtain ⟨hheld, hgone, hstatus⟩ := h.lose_held hM.sound hmem
      have hagrees := hM.sound.agrees k a hheld
      have hstage := hclean.2 lost rfl (k, a) hmem
      have hfacts : M.status k = some .queued ∧ a.isAccepted = true := by
        cases a with
        | pending | handed | returned published => exact ⟨hagrees, rfl⟩
        | recording | recorded | ruled | failing =>
          rcases hstage with hstage | hstage <;> cases hstage
      exact ⟨hgone, hstatus.trans hfacts.1, .inl ((hM.accepted k a hheld).mp hfacts.2)⟩

/-- When no enqueued execution is held any more, those that are left queued are those that were
dropped. -/
theorem accepted_queued_iff (h : Run LedgerStep L es L') (hs : L.Sound) (hstart : L.held = 0)
    (hclean : ∀ e ∈ es, e.label.Clean) (hover : ∀ k a, (k, a) ∈ L'.held → a.isAccepted = false)
    (k : κ) : (Accepted es k ∧ L'.status k = some .queued) ↔ Lost es k := by
  have haudited := h.history (fun past M => (∀ e ∈ past, e.label.Clean) → Audited past M)
    (by
      intro past M label M' hM hstep hpast
      rw [List.forall_mem_append] at hpast
      exact (hM hpast.1).step hstep (hpast.2 _ (List.mem_singleton_self _)))
    (fun _ => ⟨hs, by simp [hstart], nofun, nofun, nofun⟩) hclean
  constructor
  · rintro ⟨haccepted, hqueued⟩
    rcases haudited.queued k haccepted hqueued with ⟨a, ha⟩ | hlost
    · have hstage := (haudited.accepted k a ha).mpr haccepted
      rw [hover k a ha] at hstage
      cases hstage
    · exact hlost
  · intro hlost
    obtain ⟨-, hqueued, haccepted⟩ := haudited.lost k hlost
    exact ⟨haccepted, hqueued⟩

end Runs

end Daemon
end PipeBolt
