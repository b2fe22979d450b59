import PipeBolt.Storage.Failures
import PipeBolt.Storage.Versions

/-!
# Runs of resolutions

Calls of `resolve_failure` by any number of callers, for any failures, in the order in which their
transactions run.

* `Standing`: what a run has made of a failure.
* `failures_resolved_once`: a failure is resolved at most once, by a call of its own project; the
  other calls are told so; and it is audited exactly when it is resolved.
-/

namespace PipeBolt
namespace Storage

open Domain Fallible Keyed Transition

/-! ## Runs of calls -/

/-- A call has resolved the failure. -/
def Resolves (failureId : String) (e : Edge FailureDatabase Resolution) : Bool :=
  e.label.call.failureId == failureId && e.label.result.toOption.isSome

/-- An audit event of a resolution of the failure. -/
def AuditRow.resolves (failureId : String) (row : AuditRow) : Bool :=
  row.action == "failure.resolve" && row.targetType == "failure" && row.targetId == failureId

/-- The failure is there and resolved. -/
def FailureDatabase.Resolved (db : FailureDatabase) (failureId : String) : Prop :=
  ∃ projectId, db.standing failureId = some (projectId, true)

/-- There is an audit event of a resolution of the failure. -/
def FailureDatabase.Audited (db : FailureDatabase) (failureId : String) : Prop :=
  ∃ row ∈ db.tables.audits.rows, row.resolves failureId = true

/-- What becomes of a failure over a run of calls. -/
structure ResolvedOnce (format : Format) (failureId : String) (db : FailureDatabase)
    (es : List (Edge FailureDatabase Resolution)) (db' : FailureDatabase) : Prop where
  /-- One call at most resolves it, -/
  once : es.countP (Resolves failureId) ≤ 1
  /-- a call that names its project, where it was open. -/
  own : ∀ e ∈ es, Resolves failureId e = true →
    db.standing failureId = some (e.label.call.projectId.raw, false)
  /-- It is resolved in the end when it was before the run or a call has resolved it. -/
  resolved : db'.Resolved failureId ↔
    db.Resolved failureId ∨ ∃ e ∈ es, Resolves failureId e = true
  /-- One of the unhindered calls on an open failure resolves it, -/
  winner : ∀ e ∈ es, Unhindered e.source e.label → e.label.call.failureId = failureId →
    db.standing failureId = some (e.label.call.projectId.raw, false) →
    validateAuditEvent format (e.label.call.auditEvent e.label.call.projectId) = .ok () →
      es.countP (Resolves failureId) = 1
  /-- and the others are told so. -/
  others : ∀ e ∈ es, Unhindered e.source e.label → e.label.call.failureId = failureId →
    (db.standing failureId).map Prod.fst = some e.label.call.projectId.raw →
    validateAuditEvent format (e.label.call.auditEvent e.label.call.projectId) = .ok () →
      Resolves failureId e = true ∨
        e.label.result = .error (.failureAlreadyResolved e.label.call.projectId.raw failureId)
  /-- A call that names another project finds no failure. -/
  foreign : ∀ e ∈ es, Unhindered e.source e.label → e.label.call.failureId = failureId →
    (db.standing failureId).map Prod.fst ≠ some e.label.call.projectId.raw →
      e.label.result = .error (.failureNotFound e.label.call.projectId.raw failureId)
  /-- A call whose audit event is not valid resolves nothing, -/
  rejected : ∀ e ∈ es,
    validateAuditEvent format (e.label.call.auditEvent e.label.call.projectId) ≠ .ok () →
      Resolves failureId e = false
  /-- and a call that fails changes nothing. -/
  unchanged : ∀ e ∈ es, ∀ error, e.label.result = .error error → e.target = e.source
  /-- Every resolution has added one audit event, -/
  audits : db'.tables.audits.rows.countP (AuditRow.resolves failureId) =
    db.tables.audits.rows.countP (AuditRow.resolves failureId) + es.countP (Resolves failureId)
  /-- so the failure is audited exactly when it is resolved. -/
  audited : (db.Audited failureId ↔ db.Resolved failureId) →
    (db'.Audited failureId ↔ db'.Resolved failureId)

section Runs

variable {format : Format} {failureId : String} {db db' : FailureDatabase}
  {e : Edge FailureDatabase Resolution} {es : List (Edge FailureDatabase Resolution)}

theorem resolves_iff : Resolves failureId e = true ↔
    e.label.call.failureId = failureId ∧ e.label.result = .ok () := by
  rw [Resolves, Bool.and_eq_true, beq_iff_eq, toOption_isSome_iff]
  constructor
  · rintro ⟨hid, _, hresult⟩
    exact ⟨hid, hresult⟩
  · rintro ⟨hid, hresult⟩
    exact ⟨hid, (), hresult⟩

/-- A call that resolves a failure finds it open under its project, leaves it resolved and adds its
audit event. -/
theorem step_resolves (hstep : ResolveStep format e.source e.label e.target)
    (h : Resolves failureId e = true) :
    validateAuditEvent format (e.label.call.auditEvent e.label.call.projectId) = .ok () ∧
      e.source.standing failureId = some (e.label.call.projectId.raw, false) ∧
      e.target.standing failureId = some (e.label.call.projectId.raw, true) ∧
      e.target.tables.audits.rows.countP (AuditRow.resolves failureId) =
        e.source.tables.audits.rows.countP (AuditRow.resolves failureId) + 1 := by
  obtain ⟨rfl, hresult⟩ := resolves_iff.mp h
  rcases resolveFailure_cases hstep with ⟨error, herror, -⟩ | ⟨-, hvalid, hsource, htarget, haudits⟩
  · exact nomatch hresult.symm.trans herror
  · refine ⟨hvalid, hsource, ?_, ?_⟩
    · rw [htarget, if_pos rfl]
    · rw [haudits, List.countP_append, List.countP_singleton, if_pos]
      simp [AuditRow.resolves, ResolveCall.auditRow]

/-- A call that does not resolve the failure leaves it, and adds no audit event of it. -/
theorem step_resolves_not (hstep : ResolveStep format e.source e.label e.target)
    (h : ¬ Resolves failureId e = true) :
    e.target.standing failureId = e.source.standing failureId ∧
      e.target.tables.audits.rows.countP (AuditRow.resolves failureId) =
        e.source.tables.audits.rows.countP (AuditRow.resolves failureId) := by
  rcases resolveFailure_cases hstep with ⟨error, -, heq⟩ | ⟨hresult, -, -, htarget, haudits⟩
  · rw [heq]
    exact ⟨rfl, rfl⟩
  · have hne : e.label.call.failureId ≠ failureId := fun hid => h (resolves_iff.mpr ⟨hid, hresult⟩)
    refine ⟨?_, ?_⟩
    · rw [htarget, if_neg hne]
    · rw [haudits, List.countP_append, List.countP_singleton, if_neg, Nat.add_zero]
      simp [AuditRow.resolves, ResolveCall.auditRow, hne]

/-- Over a run either no call has resolved the failure, and it is as it was, or one has: the failure
was open under the project of that call, and now it is resolved. -/
def Standing (failureId : String) (db : FailureDatabase)
    (es : List (Edge FailureDatabase Resolution)) (db' : FailureDatabase) : Prop :=
  (es.countP (Resolves failureId) = 0 ∧ db'.standing failureId = db.standing failureId) ∨
    ∃ projectId, es.countP (Resolves failureId) = 1 ∧
      db.standing failureId = some (projectId, false) ∧
      db'.standing failureId = some (projectId, true)

theorem standing_of_run (failureId : String) (h : Run (ResolveStep format) db es db') :
    Standing failureId db es db' ∧
      db'.tables.audits.rows.countP (AuditRow.resolves failureId) =
        db.tables.audits.rows.countP (AuditRow.resolves failureId) +
          es.countP (Resolves failureId) := by
  refine h.history (fun es s => Standing failureId db es s ∧
    s.tables.audits.rows.countP (AuditRow.resolves failureId) =
      db.tables.audits.rows.countP (AuditRow.resolves failureId) +
        es.countP (Resolves failureId)) ?_ ⟨Or.inl ⟨rfl, rfl⟩, rfl⟩
  rintro es s l t ⟨hstanding, haudits⟩ hstep
  rw [List.countP_append, List.countP_singleton]
  by_cases hresolves : Resolves failureId ⟨s, l, t⟩ = true
  · obtain ⟨-, hsource, htarget, hadded⟩ := step_resolves (e := ⟨s, l, t⟩) hstep hresolves
    have hs : s.standing failureId = some (l.call.projectId.raw, false) := hsource
    rw [if_pos hresolves]
    rcases hstanding with ⟨hcount, hsame⟩ | ⟨projectId, -, -, hclosed⟩
    · refine ⟨Or.inr ⟨l.call.projectId.raw, ?_, hsame ▸ hs, htarget⟩, ?_⟩
      · rw [List.countP_append, List.countP_singleton, if_pos hresolves, hcount]
      · exact hadded.trans (by rw [haudits, Nat.add_assoc])
    · rw [hs] at hclosed
      exact absurd hclosed (by simp)
  · obtain ⟨hsame, hkept⟩ := step_resolves_not (e := ⟨s, l, t⟩) hstep hresolves
    rw [if_neg hresolves, Nat.add_zero]
    refine ⟨?_, hkept.trans haudits⟩
    unfold Standing
    rw [List.countP_append, List.countP_singleton, if_neg hresolves, Nat.add_zero, show
      t.standing failureId = s.standing failureId from hsame]
    exact hstanding

theorem Standing.project (h : Standing failureId db es db') :
    (db'.standing failureId).map Prod.fst = (db.standing failureId).map Prod.fst := by
  rcases h with ⟨-, hsame⟩ | ⟨projectId, -, hopen, hclosed⟩
  · rw [hsame]
  · rw [hopen, hclosed]
    rfl

/-- An unhindered call of a run is answered by what the calls before it have left. -/
theorem answer_of_mem (hformat : format.jsonbTextLen [] ≤ 16384)
    (h : Run (ResolveStep format) db es db') (he : e ∈ es)
    (hunhindered : Unhindered e.source e.label) (hid : e.label.call.failureId = failureId) :
    ∃ before : List (Edge FailureDatabase Resolution), before.Sublist es ∧
      Standing failureId db before e.source ∧
      e.label.result = e.label.call.answer format (e.source.standing failureId) := by
  obtain ⟨before, after, rfl, hbefore, hstep, -⟩ := h.split_of_mem he
  subst hid
  exact ⟨before, List.sublist_append_left _ _, (standing_of_run _ hbefore).1,
    hunhindered.result hformat hstep⟩

/-- An unhindered call of the project resolves the failure, or is told that it is resolved. -/
theorem resolves_or_resolved (hformat : format.jsonbTextLen [] ≤ 16384)
    (h : Run (ResolveStep format) db es db') (he : e ∈ es)
    (hunhindered : Unhindered e.source e.label) (hid : e.label.call.failureId = failureId)
    (hproject : (db.standing failureId).map Prod.fst = some e.label.call.projectId.raw)
    (hvalid :
      validateAuditEvent format (e.label.call.auditEvent e.label.call.projectId) = .ok ()) :
    Resolves failureId e = true ∨
      e.label.result = .error (.failureAlreadyResolved e.label.call.projectId.raw failureId) ∧
        e.source.Resolved failureId := by
  obtain ⟨before, -, hbefore, hresult⟩ := answer_of_mem hformat h he hunhindered hid
  rw [← hbefore.project] at hproject
  obtain ⟨⟨projectId, resolved⟩, hsource, rfl⟩ := Option.map_eq_some_iff.mp hproject
  rw [hsource, ResolveCall.answer, if_neg (not_not.mpr rfl)] at hresult
  cases resolved with
  | true => exact Or.inr ⟨hid ▸ hresult, _, hsource⟩
  | false => exact Or.inl (resolves_iff.mpr ⟨hid, hresult.trans hvalid⟩)

/-- Where an unhindered call meets an open failure, some call of the run resolves it. -/
theorem resolves_once (hformat : format.jsonbTextLen [] ≤ 16384)
    (h : Run (ResolveStep format) db es db') (he : e ∈ es)
    (hunhindered : Unhindered e.source e.label) (hid : e.label.call.failureId = failureId)
    (hopen : db.standing failureId = some (e.label.call.projectId.raw, false))
    (hvalid :
      validateAuditEvent format (e.label.call.auditEvent e.label.call.projectId) = .ok ()) :
    0 < es.countP (Resolves failureId) := by
  have hproject : (db.standing failureId).map Prod.fst = some e.label.call.projectId.raw := by
    rw [hopen]
    rfl
  rcases resolves_or_resolved hformat h he hunhindered hid hproject hvalid with
    hresolves | ⟨-, projectId, hclosed⟩
  · exact List.countP_pos_iff.mpr ⟨e, he, hresolves⟩
  · obtain ⟨before, hsub, hbefore, -⟩ := answer_of_mem hformat h he hunhindered hid
    rcases hbefore with ⟨-, hsame⟩ | ⟨_, hcount, -, -⟩
    · rw [hsame, hopen] at hclosed
      exact absurd hclosed (by simp)
    · have hle := hsub.countP_le (p := Resolves failureId)
      omega

/-- An unhindered call that names another project finds no failure. -/
theorem not_found_of_foreign (hformat : format.jsonbTextLen [] ≤ 16384)
    (h : Run (ResolveStep format) db es db') (he : e ∈ es)
    (hunhindered : Unhindered e.source e.label) (hid : e.label.call.failureId = failureId)
    (hproject : (db.standing failureId).map Prod.fst ≠ some e.label.call.projectId.raw) :
    e.label.result = .error (.failureNotFound e.label.call.projectId.raw failureId) := by
  obtain ⟨before, -, hbefore, hresult⟩ := answer_of_mem hformat h he hunhindered hid
  rw [← hbefore.project] at hproject
  cases hsource : e.source.standing failureId with
  | none =>
    rw [hsource, ResolveCall.answer, hid] at hresult
    exact hresult
  | some standing =>
    obtain ⟨projectId, resolved⟩ := standing
    rw [hsource] at hproject hresult
    rw [ResolveCall.answer, if_pos fun heq => hproject (congrArg some heq), hid] at hresult
    exact hresult

/-- The call that resolves a failure finds it open before the run. -/
theorem open_of_resolves (h : Run (ResolveStep format) db es db') (he : e ∈ es)
    (hresolves : Resolves failureId e = true) :
    db.standing failureId = some (e.label.call.projectId.raw, false) := by
  obtain ⟨before, after, -, hbefore, hstep, -⟩ := h.split_of_mem he
  obtain ⟨-, hsource, -⟩ := step_resolves hstep hresolves
  rcases (standing_of_run failureId hbefore).1 with ⟨-, hsame⟩ | ⟨_, -, -, hclosed⟩
  · rw [← hsame, hsource]
  · rw [hsource] at hclosed
    exact absurd hclosed (by simp)

/-- Over every run of calls a failure is resolved at most once, and audited exactly then. -/
theorem failures_resolved_once (format : Format) (hformat : format.jsonbTextLen [] ≤ 16384)
    (h : Run (ResolveStep format) db es db') (failureId : String) :
    ResolvedOnce format failureId db es db' := by
  obtain ⟨hstanding, haudits⟩ := standing_of_run failureId h
  have honce : es.countP (Resolves failureId) ≤ 1 := by
    rcases hstanding with ⟨hcount, -⟩ | ⟨-, hcount, -⟩ <;> omega
  have hany : (∃ e ∈ es, Resolves failureId e = true) ↔ 0 < es.countP (Resolves failureId) :=
    List.countP_pos_iff.symm
  have hresolved : db'.Resolved failureId ↔
      db.Resolved failureId ∨ ∃ e ∈ es, Resolves failureId e = true := by
    rw [hany]
    rcases hstanding with ⟨hcount, hsame⟩ | ⟨projectId, hcount, hopen, hclosed⟩
    · simp [FailureDatabase.Resolved, hsame, hcount]
    · simp [FailureDatabase.Resolved, hclosed, hcount]
  exact {
    once := honce
    own := fun e he => open_of_resolves h he
    resolved := hresolved
    winner := fun e he hunhindered hid hopen hvalid =>
      Nat.le_antisymm honce (resolves_once hformat h he hunhindered hid hopen hvalid)
    others := fun e he hunhindered hid hproject hvalid =>
      (resolves_or_resolved hformat h he hunhindered hid hproject hvalid).imp_right And.left
    foreign := fun e he hunhindered hid hproject =>
      not_found_of_foreign hformat h he hunhindered hid hproject
    rejected := by
      intro e he hinvalid
      rw [Bool.eq_false_iff]
      exact fun hresolves => hinvalid (step_resolves (h.step_of_mem e he) hresolves).1
    unchanged := by
      intro e he error herror
      rcases resolveFailure_cases (h.step_of_mem e he) with ⟨-, -, heq⟩ | ⟨hok, -⟩
      · exact heq
      · exact nomatch herror.symm.trans hok
    audits := haudits
    audited := by
      intro haudited
      have hpos : ∀ s : FailureDatabase, s.Audited failureId ↔
          0 < s.tables.audits.rows.countP (AuditRow.resolves failureId) :=
        fun s => List.countP_pos_iff.symm
      rw [hresolved, hany, ← haudited, hpos, hpos, haudits]
      omega }

end Runs

/-- The tables of the plant with one open failure. -/
def plantFailures : FailureDatabase where
  tables := plantCreation.target
  failures := Table.empty.insert ⟨"failure-1", "plant", none, none⟩ rfl
  failures_project := by
    intro row hrow
    obtain rfl := List.mem_singleton.mp hrow
    exact Option.isSome_iff_ne_none.mp (by decide +kernel)

/-- A call without failures of the database. -/
def resolving (db : FailureDatabase) (uuid : String) (call : ResolveCall) :
    Edge FailureDatabase Resolution :=
  let session : ResolveSession := ⟨calmSession uuid, 0, none, none⟩
  ⟨db, ⟨call, session, (resolveFailure flatFormat session call db).1⟩,
    (resolveFailure flatFormat session call db).2⟩

theorem resolving_step (db : FailureDatabase) (uuid : String) (call : ResolveCall) :
    ResolveStep flatFormat db (resolving db uuid call).label (resolving db uuid call).target := by
  simp only [ResolveStep, resolving, Prod.mk.eta]

/-- Two calls on the failure of the plant. -/
def plantResolution : Edge FailureDatabase Resolution :=
  resolving plantFailures "2"
    ⟨⟨"plant"⟩, "failure-1", "replaced the broker", ⟨some ⟨"operator"⟩, none⟩⟩

@[inherit_doc plantResolution]
def secondResolution : Edge FailureDatabase Resolution :=
  resolving plantResolution.target "3" ⟨⟨"plant"⟩, "failure-1", "ignored", .system "cleanup"⟩

theorem failures_resolved_once_plant :
    ResolvedOnce flatFormat "failure-1" plantFailures [plantResolution, secondResolution]
      secondResolution.target :=
  failures_resolved_once flatFormat (by decide)
    (.cons (resolving_step _ _ _) (.cons (resolving_step _ _ _) (.nil _))) "failure-1"

example : plantResolution.label.result = .ok () ∧
    secondResolution.label.result = .error (.failureAlreadyResolved "plant" "failure-1") := by
  decide +kernel

end Storage
end PipeBolt
