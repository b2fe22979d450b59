import PipeBolt.Core.DispatchCalls

/-!
# The metadata of a dispatch

`EventDispatchContext`: the metadata that the intents of an event add to it, which every later
snapshot of the event carries.

The overlay of the loop is never looked into.  After any intents it is what the entries they wrote,
one after the other, make of an empty map (`metadataOverlay_dispatchLoop`), and what a snapshot
carries follows from that.

* `OverlayFits`: what holds of the overlay at every moment, by `overlayFits_dispatchLoop`.
* `call_at`: which snapshot the call of an intent carries.
* `metadata_overlay_exact`: the snapshots, the overlay and the enriched event of a whole dispatch.
-/

namespace PipeBolt
namespace Core

open Domain Rust Fallible

/-! ## Writes -/

/-- The entry that an intent writes when it is disposed of. -/
def writeOf : ActionIntent → Disposition → Option (String × String)
  | .addMetadata _ key value, .executed _ => some (key, value)
  | _, _ => none

/-- The entries that some intents have written, in order. -/
def writes (intents : List ActionIntent) (dispositions : List Disposition) :
    List (String × String) :=
  (intents.zip dispositions).filterMap fun step => writeOf step.1 step.2

/-- `ExecutedAction::AddMetadata` and its key. -/
def ExecutedAction.metadataKey? : ExecutedAction → Option String
  | .addMetadata key => some key
  | .streamToUi _ | .forwardToSink _ | .executeCommand _ | .dropEvent => none

theorem writes_concat {past : List ActionIntent} {dispositions : List Disposition}
    (h : past.length = dispositions.length) (intent : ActionIntent) (disposition : Disposition) :
    writes (past ++ [intent]) (dispositions ++ [disposition]) =
      writes past dispositions ++ (writeOf intent disposition).toList := by
  rw [writes, List.zip_append h, List.filterMap_append]
  cases hwrite : writeOf intent disposition <;> simp [writes, hwrite]

/-- A snapshot whose metadata are those of its event, overridden by some writes of which the last
wins. -/
structure Overridden (event : NormalizedEvent) (writes : List (String × String))
    (snapshot : NormalizedEvent) : Prop where
  isSnapshot : IsSnapshot event snapshot
  metadata : ∀ key, snapshot.metadata.get key =
    (writes.reverse.lookup key).or (event.metadata.get key)

/-- The event that is enriched with an overlay is overridden by what made the overlay. -/
theorem overridden_enrichedEvent (event : NormalizedEvent) (writes : List (String × String)) :
    Overridden event writes (enrichedEvent event
      (writes.foldl (fun (map : BTreeMap String) entry => map.insert entry.1 entry.2) [])) := by
  refine ⟨enrichedEvent_isSnapshot event _, fun key => ?_⟩
  have hget := BTreeMap.get_foldl_insert writes ([] : BTreeMap String) key
  have hordered := BTreeMap.ordered_nil.foldl_insert writes
  generalize writes.foldl (fun (map : BTreeMap String) entry => map.insert entry.1 entry.2) [] =
    overlay at hget hordered ⊢
  have hlookup : writes.reverse.lookup key = overlay.get key := by
    rw [hget]
    exact (Option.or_none).symm
  rw [enrichedEvent, hlookup]
  split
  · next hempty =>
    rw [List.isEmpty_iff.mp hempty]
    rfl
  · exact BTreeMap.get_extend event.metadata hordered key

/-! ## The overlay -/

/-- A key that an intent may write. -/
structure IsMetadataKey (limits : DispatchLimits) (key : String) : Prop where
  nonempty : key ≠ ""
  short : len key ≤ limits.maxMetadataKeyBytes
  printable : ∀ c ∈ key.toList, isAsciiControl c = false
  unreserved : ∀ reserved ∈ RESERVED_METADATA_PREFIXES, startsWith key reserved = false

/-- An overlay has few entries, with distinct and valid keys. -/
structure OverlayFits (limits : DispatchLimits) (overlay : BTreeMap String) : Prop where
  ordered : overlay.Ordered
  few : overlay.length ≤ limits.maxMetadataEntriesPerEvent
  keys : ∀ key ∈ overlay.map Prod.fst, IsMetadataKey limits key

/-- The key of an entry that passes the check is valid. -/
theorem isMetadataKey_of_valid {limits : DispatchLimits} {key value : String}
    (h : validateMetadata key value limits = .ok ()) : IsMetadataKey limits key := by
  have hok : validateActionMetadata key value limits.metadataLimits = .ok () :=
    mapError_eq_ok_iff.mp h
  obtain ⟨hempty, hok⟩ := guard_eq_ok_iff.mp hok
  obtain ⟨hlong, hok⟩ := guard_eq_ok_iff.mp hok
  obtain ⟨hcontrol, hok⟩ := guard_eq_ok_iff.mp hok
  obtain ⟨hreserved, -⟩ := guard_eq_ok_iff.mp hok
  refine ⟨fun heq => hempty (String.isEmpty_iff.mpr heq), Nat.not_lt.mp hlong, ?_, ?_⟩
  · intro c hc
    rw [Bool.eq_false_iff]
    exact fun hctl => hcontrol (List.any_eq_true.mpr ⟨c, hc, hctl⟩)
  · intro reserved hmem
    rw [Bool.eq_false_iff]
    exact fun hstarts => hreserved (List.any_eq_true.mpr ⟨reserved, hmem, hstarts⟩)

/-- What `EventDispatchContext::insert_metadata` accepts: a valid entry whose key is there, or for
which there is room. -/
theorem insertMetadata_eq_ok_iff {limits : DispatchLimits} {overlay next : BTreeMap String}
    {key value : String} :
    insertMetadata overlay key value limits = .ok next ↔
      validateMetadata key value limits = .ok () ∧
        (overlay.containsKey key = true ∨
          overlay.length < limits.maxMetadataEntriesPerEvent) ∧
        overlay.insert key value = next := by
  have hroom : (!overlay.containsKey key &&
      decide (limits.maxMetadataEntriesPerEvent ≤ overlay.length)) = true ↔
        ¬ (overlay.containsKey key = true ∨
          overlay.length < limits.maxMetadataEntriesPerEvent) := by
    rw [Bool.and_eq_true, Bool.not_eq_true', decide_eq_true_eq, not_or, Nat.not_lt,
      Bool.not_eq_true]
  rw [insertMetadata, check_eq_ok_iff, guard_eq_ok_iff, hroom, not_not]
  exact and_congr_right fun _ => and_congr_right fun _ => ⟨Except.ok.inj, congrArg _⟩

/-- An accepted entry keeps the overlay within its limits. -/
theorem OverlayFits.insertMetadata {limits : DispatchLimits} {overlay next : BTreeMap String}
    {key value : String} (h : OverlayFits limits overlay)
    (hok : insertMetadata overlay key value limits = .ok next) : OverlayFits limits next := by
  obtain ⟨hvalid, hroom, rfl⟩ := insertMetadata_eq_ok_iff.mp hok
  refine ⟨h.ordered.insert key value, ?_, ?_⟩
  · rw [h.ordered.length_insert]
    have hfew := h.few
    split
    · exact hfew
    · next hnew =>
      rcases hroom with hold | hspace
      · exact absurd hold hnew
      · omega
  · intro k hk
    rcases BTreeMap.mem_keys_insert.mp hk with rfl | hold
    · exact isMetadataKey_of_valid hvalid
    · exact h.keys k hold

/-- An entry whose key is there is not refused for the limit on the entries. -/
theorem insertMetadata_existing {limits : DispatchLimits} {overlay : BTreeMap String}
    {key value : String} (hkey : overlay.containsKey key = true) (actual max : Nat) :
    insertMetadata overlay key value limits ≠ .error (.tooManyMetadataEntries actual max) := by
  intro hfull
  rw [insertMetadata, hkey] at hfull
  cases hvalid : validateActionMetadata key value limits.metadataLimits with
  | ok done =>
    rw [validateMetadata, hvalid] at hfull
    cases hfull
  | error error =>
    rw [validateMetadata, hvalid] at hfull
    cases error <;> cases hfull

/-! ## One round -/

section Rounds

variable {σ : Type} (boundary : Boundary σ) (limits : DispatchLimits) (event : NormalizedEvent)

/-- What a round on `AddMetadata` does: the entry is inserted, or refused, or the intent is
skipped. -/
theorem DispatchRun.round_addMetadata (run : DispatchRun σ) (eventId : EventId)
    (key value : String) :
    (∃ overlay, insertMetadata run.metadataOverlay key value limits = .ok overlay ∧
        run.disposition boundary limits event (.addMetadata eventId key value) =
          .executed (.addMetadata key) ∧
        (run.round boundary limits event (.addMetadata eventId key value)).metadataOverlay =
          overlay) ∨
      (∃ error, insertMetadata run.metadataOverlay key value limits = .error error ∧
        run.disposition boundary limits event (.addMetadata eventId key value) =
          .failed ⟨"add_metadata", error⟩ ∧
        (run.round boundary limits event (.addMetadata eventId key value)).metadataOverlay =
          run.metadataOverlay) ∨
      ∃ action, run.disposition boundary limits event (.addMetadata eventId key value) =
          .skipped action ∧
        (run.round boundary limits event (.addMetadata eventId key value)).metadataOverlay =
          run.metadataOverlay := by
  cases hdropped : run.outcome.dropped with
  | true =>
    refine .inr (.inr ⟨_, if_pos hdropped, ?_⟩)
    rw [round_of_dropped boundary limits event hdropped]
  | false =>
    cases hforeign : (intentEventId (.addMetadata eventId key value)).filter (· ≠ event.id) with
    | some actionEventId =>
      refine .inr (.inr ⟨.eventMismatch "add_metadata" actionEventId, ?_, ?_⟩)
      · rw [disposition, hdropped, hforeign]
        rfl
      · rw [round_of_foreign boundary limits event hdropped hforeign]
    | none =>
      have hown : isOwn event (.addMetadata eventId key value) = true :=
        (isOwn_iff event).mpr hforeign
      rw [round_of_own boundary limits event hdropped hown, disposition, hdropped, hforeign, answer,
        attempt, addMetadata]
      cases insertMetadata run.metadataOverlay key value limits with
      | ok overlay => exact .inl ⟨overlay, rfl, rfl, rfl⟩
      | error error => exact .inr (.inl ⟨error, rfl, rfl, rfl⟩)

/-- A round on an `AddMetadata` that fails: the entry is refused, and the overlay stays. -/
theorem DispatchRun.round_of_failed {run : DispatchRun σ} {eventId : EventId} {key value : String}
    {action : FailedAction}
    (h : run.disposition boundary limits event (.addMetadata eventId key value) =
      .failed action) :
    insertMetadata run.metadataOverlay key value limits = .error action.error ∧
      (run.round boundary limits event (.addMetadata eventId key value)).metadataOverlay =
        run.metadataOverlay := by
  obtain ⟨overlay, -, hdisposition, -⟩ | ⟨error, hinsert, hdisposition, hkeeps⟩ |
    ⟨skipped, hdisposition, -⟩ := run.round_addMetadata boundary limits event eventId key value
  · rw [hdisposition] at h
    cases h
  · rw [hdisposition] at h
    obtain rfl := Disposition.failed.inj h
    exact ⟨hinsert, hkeeps⟩
  · rw [hdisposition] at h
    cases h

/-- A round on another intent leaves the overlay alone. -/
theorem DispatchRun.round_other (run : DispatchRun σ) {intent : ActionIntent}
    (h : ∀ eventId key value, intent ≠ .addMetadata eventId key value) :
    (run.round boundary limits event intent).metadataOverlay = run.metadataOverlay := by
  cases hdropped : run.outcome.dropped with
  | true => rw [round_of_dropped boundary limits event hdropped]
  | false =>
    cases hforeign : (intentEventId intent).filter (· ≠ event.id) with
    | some actionEventId => rw [round_of_foreign boundary limits event hdropped hforeign]
    | none =>
      rw [round_of_own boundary limits event hdropped ((isOwn_iff event).mpr hforeign)]
      cases intent with
      | streamToUi eventId => rfl
      | forwardToSink eventId sinkId projection => rfl
      | dropEvent eventId reason => rfl
      | addMetadata eventId key value => exact absurd rfl (h eventId key value)
      | executeCommand eventId commandTemplateId params correlationId =>
        rw [attempt]
        cases hrequest : commandRequestFromIntent (boundary.nowV7 run.world).1 event
          commandTemplateId params correlationId with
        | ok request => rw [executeCommand_of_ok boundary event hrequest]
        | error error => rw [executeCommand_of_error boundary event hrequest]

/-- A round writes the entry of its intent, if it executes it. -/
theorem DispatchRun.metadataOverlay_round (run : DispatchRun σ) (intent : ActionIntent) :
    (run.round boundary limits event intent).metadataOverlay =
      (writeOf intent (run.disposition boundary limits event intent)).toList.foldl
        (fun map entry => map.insert entry.1 entry.2) run.metadataOverlay := by
  cases intent with
  | addMetadata eventId key value =>
    obtain ⟨overlay, hinsert, hdisposition, hround⟩ | ⟨error, -, hdisposition, hround⟩ |
      ⟨action, hdisposition, hround⟩ := run.round_addMetadata boundary limits event eventId key value
    · rw [hround, hdisposition, ← (insertMetadata_eq_ok_iff.mp hinsert).2.2]
      rfl
    · rw [hround, hdisposition]
      rfl
    · rw [hround, hdisposition]
      rfl
  | _ => exact run.round_other boundary limits event (by simp)

/-- A round keeps the overlay within its limits. -/
theorem DispatchRun.overlayFits_round {run : DispatchRun σ}
    (h : OverlayFits limits run.metadataOverlay) (intent : ActionIntent) :
    OverlayFits limits (run.round boundary limits event intent).metadataOverlay := by
  cases intent with
  | addMetadata eventId key value =>
    rcases run.round_addMetadata boundary limits event eventId key value with
        ⟨overlay, hinsert, -, hround⟩ | ⟨error, -, -, hround⟩ | ⟨action, -, hround⟩
    · rw [hround]
      exact h.insertMetadata hinsert
    · rwa [hround]
    · rwa [hround]
  | _ =>
    rw [run.round_other boundary limits event (by simp)]
    exact h

/-- An executed `AddMetadata` is listed with its key, and nothing else is. -/
theorem DispatchRun.metadataKey_disposition (run : DispatchRun σ) (intent : ActionIntent) :
    (writeOf intent (run.disposition boundary limits event intent)).map Prod.fst =
      (run.disposition boundary limits event intent).executed?.bind
        ExecutedAction.metadataKey? := by
  have hattempted := run.dispositionOf_disposition boundary limits event intent
  unfold DispositionOf at hattempted
  generalize run.disposition boundary limits event intent = disposition at hattempted ⊢
  split at hattempted
  · rw [hattempted]
    cases intent <;> rfl
  · split at hattempted
    · cases disposition with
      | executed action => cases intent <;> cases action <;> simp_all [Attempted, writeOf,
          Disposition.executed?, ExecutedAction.metadataKey?]
      | skipped action => cases intent <;> rfl
      | failed action => cases intent <;> rfl
    · obtain ⟨actionEventId, -, rfl⟩ := hattempted
      cases intent <;> rfl

/-! ## The loop -/

/-- After any intents the overlay is what they wrote. -/
theorem metadataOverlay_dispatchLoop (intents : List ActionIntent) (world : σ) :
    (dispatchLoop boundary limits event intents world).metadataOverlay =
      (writes intents (dispositions boundary limits event intents world)).foldl
        (fun (map : BTreeMap String) entry => map.insert entry.1 entry.2) [] := by
  induction intents using List.reverseRecOn with
  | nil => rfl
  | append_singleton past intent ih =>
    have hlength : past.length = (dispositions boundary limits event past world).length :=
      (Fold.length_outputs _ _ _ _).symm
    rw [dispatchLoop_concat, dispositions_concat, writes_concat hlength, List.foldl_append, ← ih,
      DispatchRun.metadataOverlay_round]

/-- After any intents the overlay is within its limits. -/
theorem overlayFits_dispatchLoop (intents : List ActionIntent) (world : σ) :
    OverlayFits limits (dispatchLoop boundary limits event intents world).metadataOverlay := by
  induction intents using List.reverseRecOn with
  | nil => exact ⟨.nil, Nat.zero_le _, fun _ hmem => absurd hmem List.not_mem_nil⟩
  | append_singleton past intent ih =>
    rw [dispatchLoop_concat]
    exact DispatchRun.overlayFits_round boundary limits event ih intent

/-- The writes are those of the `AddMetadata` that are listed as executed. -/
theorem keys_writes (intents : List ActionIntent) (world : σ) :
    (writes intents (dispositions boundary limits event intents world)).map Prod.fst =
      (dispatchLoop boundary limits event intents world).outcome.executed.filterMap
        ExecutedAction.metadataKey? := by
  rw [(buckets_dispatchLoop boundary limits event intents world).executed, List.filterMap_filterMap]
  induction intents using List.reverseRecOn with
  | nil => rfl
  | append_singleton past intent ih =>
    have hlength : past.length = (dispositions boundary limits event past world).length :=
      (Fold.length_outputs _ _ _ _).symm
    have hkey := DispatchRun.metadataKey_disposition boundary limits event
      (dispatchLoop boundary limits event past world) intent
    rw [dispositions_concat, writes_concat hlength, List.map_append, ih, List.filterMap_append]
    congr 1
    rw [List.filterMap_cons, ← hkey]
    cases writeOf intent ((dispatchLoop boundary limits event past world).disposition boundary
      limits event intent) <;> rfl

end Rounds

/-! ## Snapshots -/

section Snapshots

variable {σ : Type} (boundary : Boundary σ) (limits : DispatchLimits) (event : NormalizedEvent)

/-- The log of a loop only grows. -/
theorem calls_isPrefix (htexts : boundary.UuidTexts) (intents : List ActionIntent)
    (run : DispatchRun (σ × List Call)) :
    run.world.2 <+:
      (intents.foldl (DispatchRun.round boundary.logged limits event) run).world.2 := by
  induction intents generalizing run with
  | nil => exact List.prefix_rfl
  | cons intent intents ih =>
    obtain ⟨calls, hcalls, -⟩ := run.calls_round boundary limits event htexts intent
    exact (hcalls ▸ List.prefix_append _ _).trans (ih _)

/-- **The call at a place** carries the snapshot of the event that the overlay makes there. -/
theorem call_at (htexts : boundary.UuidTexts) {before : List ActionIntent} {intent : ActionIntent}
    (hopen : before.any (isOwnDrop event) = false) (hcall : isOwnCall event intent = true)
    (rest : List ActionIntent) (world : σ) :
    ∃ call, (dispatchLoop boundary.logged limits event (before ++ intent :: rest)
        (world, [])).world.2[(callIntents event before).length]? = some call ∧
      CallOf (enrichedEvent event
        (dispatchLoop boundary limits event before world).metadataOverlay) intent call := by
  have hlength := (calls_dispatchLoop boundary limits event htexts before world).length_eq
  rw [← dispatchLoop_erase boundary limits event before world]
  have hgrows := calls_isPrefix boundary limits event htexts rest
    (dispatchLoop boundary.logged limits event (before ++ [intent]) (world, []))
  have hloop : dispatchLoop boundary.logged limits event (before ++ intent :: rest) (world, []) =
      rest.foldl (DispatchRun.round boundary.logged limits event)
        (dispatchLoop boundary.logged limits event (before ++ [intent]) (world, [])) := by
    rw [dispatchLoop, dispatchLoop, ← List.foldl_append, List.append_assoc, List.singleton_append]
  rw [hloop]
  have hdropped : (dispatchLoop boundary.logged limits event before (world, [])).outcome.dropped =
      false := (dropped_dispatchLoop boundary.logged limits event before _).trans hopen
  obtain ⟨calls, hcalls, hof⟩ := DispatchRun.calls_round boundary limits event htexts
    (dispatchLoop boundary.logged limits event before (world, [])) intent
  rw [hdropped, if_neg Bool.false_ne_true, List.filter_cons_of_pos hcall] at hof
  obtain ⟨call, _, hcallOf, hnil, rfl⟩ := List.forall₂_cons_left_iff.mp hof
  obtain rfl := List.forall₂_nil_left_iff.mp hnil
  refine ⟨call, ?_, hcallOf⟩
  rw [dispatchLoop_concat, hcalls] at hgrows
  obtain ⟨more, hmore⟩ := hgrows
  rw [dispatchLoop_concat, ← hmore, hlength, List.getElem?_append_left (by simp), List.getElem?_concat_length]

end Snapshots

/-- What the metadata of a dispatch are, with the overlay of its loop at every moment. -/
structure MetadataTracked {σ : Type} (boundary : Boundary σ) (limits : DispatchLimits)
    (event : NormalizedEvent) (intents : List ActionIntent) (world : σ)
    (outcome : DispatchOutcome) (calls : List Call) : Prop where
  /-- The dispositions are those that the outcome lists. -/
  buckets : outcome.Buckets (dispositions boundary limits event intents world)
  /-- A call carries the event overridden by what has been written before it. -/
  snapshots : ∀ before intent rest, intents = before ++ intent :: rest →
    before.any (isOwnDrop event) = false → isOwnCall event intent = true →
      ∃ call snapshot, calls[(callIntents event before).length]? = some call ∧
        CallOf snapshot intent call ∧
        Overridden event (writes before (dispositions boundary limits event before world)) snapshot
  /-- The overlay stays within its limits. -/
  fits : ∀ before rest, intents = before ++ rest →
    OverlayFits limits (dispatchLoop boundary limits event before world).metadataOverlay
  /-- An entry whose key is there is not refused for the limit on the entries. -/
  reset : ∀ before eventId key value rest,
    intents = before ++ .addMetadata eventId key value :: rest →
      (dispatchLoop boundary limits event before world).metadataOverlay.containsKey key = true →
        ∀ actionType actual max,
          (dispositions boundary limits event intents world)[before.length]? ≠
            some (.failed ⟨actionType, .tooManyMetadataEntries actual max⟩)
  /-- A refused entry leaves the overlay alone. -/
  refused : ∀ before eventId key value rest action,
    intents = before ++ .addMetadata eventId key value :: rest →
      (dispositions boundary limits event intents world)[before.length]? = some (.failed action) →
        (dispatchLoop boundary limits event (before ++ [.addMetadata eventId key value])
            world).metadataOverlay =
          (dispatchLoop boundary limits event before world).metadataOverlay
  /-- The enriched event of the outcome is overridden by all that has been written. -/
  enriched : Overridden event (writes intents (dispositions boundary limits event intents world))
    (enrichedEvent event outcome.metadataOverlay)
  /-- What has been written is what the outcome lists as executed. -/
  listed : (writes intents (dispositions boundary limits event intents world)).map Prod.fst =
    outcome.executed.filterMap ExecutedAction.metadataKey?

/-- **The metadata of a whole dispatch**: of intents that are not too many they are tracked, and
too many intents are refused without a call. -/
theorem metadata_overlay_exact {σ : Type} {boundary : Boundary σ} (htexts : boundary.UuidTexts)
    (limits : DispatchLimits) (event : NormalizedEvent) (intents : List ActionIntent) (world : σ) :
    (intents.length ≤ limits.maxIntentsPerEvent →
      ∃ outcome after calls,
        dispatch boundary.logged limits event intents (world, []) = (.ok outcome, after, calls) ∧
        MetadataTracked boundary limits event intents world outcome calls) ∧
      (limits.maxIntentsPerEvent < intents.length →
        dispatch boundary.logged limits event intents (world, []) =
          (.error (.tooManyIntents intents.length limits.maxIntentsPerEvent), world, [])) := by
  refine ⟨fun hfew => ?_, fun hmany => dispatch_of_many boundary.logged limits event hmany _⟩
  have herase := dispatchLoop_erase boundary limits event intents world
  refine ⟨_, _, _, dispatch_eq_loop boundary.logged limits event hfew (world, []), ?_, ?_, ?_, ?_,
    ?_, ?_, ?_⟩
  · obtain ⟨hexecuted, hskipped, hfailed⟩ :=
      buckets_dispatchLoop boundary limits event intents world
    rw [← herase] at hexecuted hskipped hfailed
    exact ⟨hexecuted, hskipped, hfailed⟩
  · rintro before intent rest rfl hopen hcall
    obtain ⟨call, hat, hof⟩ := call_at boundary limits event htexts hopen hcall rest world
    refine ⟨call, _, hat, hof, ?_⟩
    rw [metadataOverlay_dispatchLoop]
    exact overridden_enrichedEvent event _
  · rintro before rest -
    exact overlayFits_dispatchLoop boundary limits event before world
  · rintro before eventId key value rest rfl hkey actionType actual max hfull
    rw [dispositions, Fold.getElem?_outputs, Option.some.injEq] at hfull
    exact insertMetadata_existing hkey actual max
      (DispatchRun.round_of_failed boundary limits event hfull).1
  · rintro before eventId key value rest action rfl hfailed
    rw [dispositions, Fold.getElem?_outputs, Option.some.injEq] at hfailed
    rw [dispatchLoop_concat]
    exact (DispatchRun.round_of_failed boundary limits event hfailed).2
  · have hoverlay : (dispatchLoop boundary.logged limits event intents (world, [])).metadataOverlay =
        (dispatchLoop boundary limits event intents world).metadataOverlay :=
      congrArg DispatchRun.metadataOverlay herase
    show Overridden event _ (enrichedEvent event
      (dispatchLoop boundary.logged limits event intents (world, [])).metadataOverlay)
    rw [hoverlay, metadataOverlay_dispatchLoop]
    exact overridden_enrichedEvent event _
  · rw [keys_writes, ← herase]
    rfl

/-- Metadata that are set, set anew and refused before a snapshot is taken. -/
def annotatingIntents : List ActionIntent :=
  [.addMetadata hotEvent.id "severity" "warm", .addMetadata hotEvent.id "severity" "hot",
    .addMetadata hotEvent.id "pipe_bolt.internal" "blocked", .streamToUi hotEvent.id]

theorem metadata_overlay_exact_hot :
    ∃ outcome after calls,
      dispatch boundedBoundary.logged .default hotEvent annotatingIntents (1, []) =
        (.ok outcome, after, calls) ∧
      ∃ call snapshot, calls[0]? = some call ∧ CallOf snapshot (.streamToUi hotEvent.id) call ∧
        snapshot.metadata.get "severity" = some "hot" := by
  obtain ⟨outcome, after, calls, hdispatch, htracked⟩ :=
    (metadata_overlay_exact boundedBoundary_uuidTexts .default hotEvent annotatingIntents 1).1
      (by decide)
  obtain ⟨call, snapshot, hat, hof, hover⟩ := htracked.snapshots (annotatingIntents.take 3)
    (.streamToUi hotEvent.id) [] rfl (by decide) (by decide)
  refine ⟨outcome, after, calls, hdispatch, call, snapshot, hat, hof, ?_⟩
  rw [hover.metadata]
  decide +kernel

end Core
end PipeBolt
