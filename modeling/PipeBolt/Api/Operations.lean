import PipeBolt.Storage.Operational

/-!
# Operational lists

The list endpoints of `pipe_bolt_api::handler` and the pagination of the operations pages in
`useOperations.ts`.  A response carries the time of its last row as `next_before`, and the client
sends it as the `before` of the next request.

* `FollowNext`: the responses to requests that follow `next_before` until a page is empty or a
  request fails.
* `Browse`: the pages that the operations page shows as long as it offers a next one.
* `list_complete_iff`: they hold every row exactly once if and only if every row can be read and no
  page ends between two rows of one time.
-/

namespace PipeBolt
namespace Api

open Domain Fallible Keyset Storage

/-! ## Responses -/

/-- `ListResponse`, and the list responses of each kind of row. -/
structure ListResponse (σ : Type) where
  items : List σ
  nextBefore : Option OffsetDateTime
  limit : UInt32

/-- `AuditEventResponse`. -/
structure AuditEventResponse where
  auditEventId : String
  projectId : Option ProjectId
  actorId : Option String
  action : String
  targetType : String
  targetId : String
  status : String
  reason : Option String
  metadata : ValueMap
  occurredAt : OffsetDateTime

/-- `From<AuditEventRecord> for AuditEventResponse`. -/
def AuditEventResponse.ofRecord (record : AuditEventRecord) : AuditEventResponse where
  auditEventId := record.auditEventId
  projectId := record.projectId
  actorId := record.actorId.map Identifier.raw
  action := record.action
  targetType := record.targetType
  targetId := record.targetId
  status := record.status.asStr
  reason := record.reason
  metadata := record.metadata
  occurredAt := record.occurredAt

/-- `FailureEventResponse`. -/
structure FailureEventResponse where
  failureId : String
  projectId : ProjectId
  eventId : Option String
  sinkId : Option String
  component : String
  failureKind : String
  severity : String
  message : String
  details : ValueMap
  occurredAt : OffsetDateTime
  resolvedAt : Option OffsetDateTime
  resolution : Option String

/-- `From<FailureEventRecord> for FailureEventResponse`. -/
def FailureEventResponse.ofRecord (record : FailureEventRecord) : FailureEventResponse where
  failureId := record.failureId
  projectId := record.projectId
  eventId := record.eventId.map Identifier.raw
  sinkId := record.sinkId.map Identifier.raw
  component := record.component
  failureKind := record.failureKind
  severity := record.severity.asStr
  message := record.message
  details := record.details
  occurredAt := record.occurredAt
  resolvedAt := record.resolvedAt
  resolution := record.resolution

/-- `SinkDeliveryOutcomeResponse`. -/
structure SinkDeliveryOutcomeResponse where
  deliveryId : String
  projectId : ProjectId
  eventId : String
  sinkId : String
  status : String
  httpStatus : Option UInt16
  responseBodyBytes : Option UInt64
  failureReason : Option String
  correlationId : Option String
  durationMs : Option UInt64
  attempt : UInt16
  occurredAt : OffsetDateTime

/-- `From<SinkDeliveryOutcomeRecord> for SinkDeliveryOutcomeResponse`. -/
def SinkDeliveryOutcomeResponse.ofRecord (record : SinkDeliveryOutcomeRecord) :
    SinkDeliveryOutcomeResponse where
  deliveryId := record.deliveryId
  projectId := record.projectId
  eventId := record.eventId.raw
  sinkId := record.sinkId.raw
  status := record.status
  httpStatus := record.httpStatus
  responseBodyBytes := record.responseBodyBytes
  failureReason := record.failureReason
  correlationId := record.correlationId
  durationMs := record.durationMs
  attempt := record.attempt
  occurredAt := record.occurredAt

/-! ## Requests -/

def DEFAULT_LIST_LIMIT : UInt32 := 100

def MAX_LIST_LIMIT : UInt32 := 500

/-- The query parameters of a list request. -/
structure ListRequest where
  limit : Option UInt32
  before : Option OffsetDateTime
  unresolvedOnly : Option Bool

/-- `list_query`. -/
def listQuery (request : ListRequest) : OperationalListQuery where
  limit := clamp (request.limit.getD DEFAULT_LIST_LIMIT) 1 MAX_LIST_LIMIT
  before := request.before

/-- The response to a list request, from the page that the storage returns. -/
def listResponse {ρ σ : Type} (occurredAt : ρ → OffsetDateTime) (ofRecord : ρ → σ)
    (limit : UInt32) (items : List ρ) : ListResponse σ where
  items := items.map ofRecord
  nextBefore := items.getLast?.map occurredAt
  limit := limit

/-- What `get_audit_events_inner` may respond to an authorised request; an error of the storage
becomes one of the API. -/
def GetAuditEvents (rows : OperationalRows) (projectId : ProjectId) (request : ListRequest)
    (response : Except StorageError (ListResponse AuditEventResponse)) : Prop :=
  let query := listQuery request
  ∃ items, ListAuditEvents rows projectId query items ∧
    response = items.map (listResponse AuditEventRecord.occurredAt .ofRecord query.limit)

/-- What `get_failures_inner` may respond to an authorised request. -/
def GetFailures (rows : OperationalRows) (projectId : ProjectId) (request : ListRequest)
    (response : Except StorageError (ListResponse FailureEventResponse)) : Prop :=
  let list := listQuery request
  let unresolvedOnly := request.unresolvedOnly.getD false
  ∃ items, ListFailures rows projectId ⟨list.limit, list.before, unresolvedOnly⟩ items ∧
    response = items.map (listResponse FailureEventRecord.occurredAt .ofRecord list.limit)

/-- What `get_delivery_outcomes_inner` may respond to an authorised request. -/
def GetDeliveryOutcomes (rows : OperationalRows) (projectId : ProjectId) (request : ListRequest)
    (response : Except StorageError (ListResponse SinkDeliveryOutcomeResponse)) : Prop :=
  let query := listQuery request
  ∃ items, ListDeliveryOutcomes rows projectId query items ∧
    response = items.map (listResponse SinkDeliveryOutcomeRecord.occurredAt .ofRecord query.limit)

/-! ## From page to page -/

/-- The responses to requests that follow `next_before` until a page is empty or a request fails,
and the error in that case. -/
inductive FollowNext {σ ε : Type} (get : Option OffsetDateTime → Except ε (ListResponse σ) → Prop) :
    Option OffsetDateTime → List (ListResponse σ) → Option ε → Prop
  | last {before : Option OffsetDateTime} {response : ListResponse σ}
      (hget : get before (.ok response)) (hempty : response.items = []) :
      FollowNext get before [response] none
  | failed {before : Option OffsetDateTime} {error : ε} (hget : get before (.error error)) :
      FollowNext get before [] (some error)
  | next {before : Option OffsetDateTime} {response : ListResponse σ}
      {cursor : OffsetDateTime} {responses : List (ListResponse σ)} {failure : Option ε}
      (hget : get before (.ok response)) (hcursor : response.nextBefore = some cursor)
      (hrest : FollowNext get (some cursor) responses failure) :
      FollowNext get before (response :: responses) failure

/-- The state of `useCursorPagination`. -/
structure CursorPagination where
  cursorHistory : List OffsetDateTime
  limit : UInt32

namespace CursorPagination

variable (pagination : CursorPagination)

/-- `before`. -/
def before : Option OffsetDateTime := pagination.cursorHistory.getLast?

/-- `goNext`. -/
def goNext (cursor : Option OffsetDateTime) : CursorPagination :=
  match cursor with
  | some cursor => { pagination with cursorHistory := pagination.cursorHistory ++ [cursor] }
  | none => pagination

theorem before_goNext (cursor : OffsetDateTime) :
    (pagination.goNext (some cursor)).before = some cursor :=
  List.getLast?_concat ..

end CursorPagination

/-- `canLoadNext`. -/
def canLoadNext {σ : Type} (page : ListResponse σ) : Bool :=
  page.nextBefore.isSome && page.items.length == page.limit.toNat

/-- The pages that are shown one after the other as long as a next one is offered. -/
inductive Browse {σ ε : Type} (get : Option OffsetDateTime → Except ε (ListResponse σ) → Prop) :
    CursorPagination → List (ListResponse σ) → Prop
  | last {pagination : CursorPagination} {page : ListResponse σ}
      (hget : get pagination.before (.ok page)) (hlast : canLoadNext page = false) :
      Browse get pagination [page]
  | next {pagination : CursorPagination} {page : ListResponse σ} {pages : List (ListResponse σ)}
      (hget : get pagination.before (.ok page)) (hnext : canLoadNext page = true)
      (hrest : Browse get (pagination.goNext page.nextBefore) pages) :
      Browse get pagination (page :: pages)

section Follow

variable {ρ τ σ ε : Type} {occurredAt : ρ → OffsetDateTime} {fromRow : ρ → Except ε τ}
  {recordTime : τ → OffsetDateTime} {ofRecord : τ → σ} {selected : List ρ} {limit : UInt32}
  {before : Option OffsetDateTime} {responses : List (ListResponse σ)} {failure : Option ε}

/-- A list endpoint, at a limit: the responses made of what the storage selects and reads. -/
def ListPage (occurredAt : ρ → OffsetDateTime) (fromRow : ρ → Except ε τ)
    (recordTime : τ → OffsetDateTime) (ofRecord : τ → σ) (selected : List ρ) (limit : UInt32)
    (before : Option OffsetDateTime) (response : Except ε (ListResponse σ)) : Prop :=
  ∃ page, SelectRows occurredAt selected before limit page ∧
    response = (page.mapM fromRow).map (listResponse recordTime ofRecord limit)

/-- The items are those of the rows, each exactly once. -/
def Returns (fromRow : ρ → Except ε τ) (ofRecord : τ → σ) (selected : List ρ) (items : List σ) :
    Prop :=
  ∃ records, selected.mapM fromRow = .ok records ∧ items.Perm (records.map ofRecord)

/-- The cursor of a response is the time of the last row that was read for it. -/
theorem nextBefore_listResponse
    (htime : ∀ row record, fromRow row = .ok record → recordTime record = occurredAt row)
    {page : List ρ} {records : List τ} (h : page.mapM fromRow = .ok records) :
    (listResponse recordTime ofRecord limit records).nextBefore =
      page.getLast?.map occurredAt := by
  have htimes : records.map recordTime = page.map occurredAt := by
    have hall := mapM_eq_ok_iff_forall₂.mp h
    clear h
    induction hall with
    | nil => rfl
    | cons hrow _ ih => rw [List.map_cons, List.map_cons, ih, htime _ _ hrow]
  rw [listResponse, ← List.getLast?_map, htimes, List.getLast?_map]

/-- The pages of the responses are a walk through the selected rows, and all of them were read. -/
theorem FollowNext.exists_walk
    (htime : ∀ row record, fromRow row = .ok record → recordTime record = occurredAt row)
    (h : FollowNext (ListPage occurredAt fromRow recordTime ofRecord selected limit) before
      responses failure) (hnone : failure = none) :
    ∃ pages records, Walk occurredAt limit.toNat selected before pages ∧
      pages.flatten.mapM fromRow = .ok records ∧
        responses.flatMap ListResponse.items = records.map ofRecord := by
  induction h with
  | last hget hempty =>
    obtain ⟨page, hpage, hresponse⟩ := hget
    obtain ⟨records, hread, rfl⟩ := map_eq_ok_iff.mp hresponse.symm
    obtain rfl : records = [] := List.map_eq_nil_iff.mp hempty
    obtain rfl : page = [] := List.forall₂_nil_right_iff.mp (mapM_eq_ok_iff_forall₂.mp hread)
    exact ⟨[[]], [], .stop hpage, rfl, rfl⟩
  | failed hget => cases hnone
  | next hget hcursor _ ih =>
    obtain ⟨page, hpage, hresponse⟩ := hget
    obtain ⟨records, hread, rfl⟩ := map_eq_ok_iff.mp hresponse.symm
    obtain ⟨pages, rest, hwalk, hrest, hitems⟩ := ih hnone
    rw [nextBefore_listResponse htime hread] at hcursor
    obtain ⟨last, hlast, rfl⟩ := Option.map_eq_some_iff.mp hcursor
    refine ⟨page :: pages, records ++ rest, .next hpage hlast hwalk, ?_, ?_⟩
    · rw [List.flatten_cons, List.mapM_append, hread, hrest]
      rfl
    · rw [List.flatMap_cons, hitems, List.map_append]
      rfl

/-- A request fails at a row that cannot be read. -/
theorem FollowNext.exists_row
    (h : FollowNext (ListPage occurredAt fromRow recordTime ofRecord selected limit) before
      responses failure) : ∀ error ∈ failure, ∃ row ∈ selected, fromRow row = .error error := by
  induction h with
  | last hget hempty => exact fun _ herror => nomatch herror
  | failed hget =>
    intro error herror
    obtain rfl := Option.some.inj herror
    obtain ⟨page, hpage, hresponse⟩ := hget
    cases hread : page.mapM fromRow with
    | ok records =>
      rw [hread] at hresponse
      cases hresponse
    | error e =>
      rw [hread] at hresponse
      obtain rfl := Except.error.inj hresponse
      obtain ⟨row, hrow, hfails⟩ := exists_of_mapM_eq_error hread
      exact ⟨row, (mem_past.mp (hpage.mem hrow)).1, hfails⟩
  | next hget hcursor hrest ih => exact ih

/-- Following `next_before` ends, with an empty page or an error. -/
theorem exists_followNext
    (htime : ∀ row record, fromRow row = .ok record → recordTime record = occurredAt row)
    (ofRecord : τ → σ) (selected : List ρ) (limit : UInt32) (before : Option OffsetDateTime) :
    ∃ responses failure,
      FollowNext (ListPage occurredAt fromRow recordTime ofRecord selected limit) before responses
        failure := by
  obtain ⟨pages, hwalk⟩ := Keyset.exists_walk occurredAt limit.toNat selected before
  induction hwalk with
  | stop hpage => exact ⟨_, _, .last ⟨[], hpage, rfl⟩ rfl⟩
  | @next before page last pages hpage hlast _ ih =>
    cases hread : page.mapM fromRow with
    | error error =>
      refine ⟨[], some error, .failed ⟨page, hpage, ?_⟩⟩
      rw [hread]
      rfl
    | ok records =>
      obtain ⟨responses, failure, hrest⟩ := ih
      have hget : ListPage occurredAt fromRow recordTime ofRecord selected limit before
          (.ok (listResponse recordTime ofRecord limit records)) := by
        refine ⟨page, hpage, ?_⟩
        rw [hread]
        rfl
      refine ⟨_, _, .next hget ?_ hrest⟩
      rw [nextBefore_listResponse htime hread, hlast]
      rfl

/-- The responses hold every selected row exactly once if and only if all of them can be read and no
page ends between two rows of one time. -/
theorem follow_complete_iff
    (htime : ∀ row record, fromRow row = .ok record → recordTime record = occurredAt row)
    (hlimit : 0 < limit.toNat)
    (h : FollowNext (ListPage occurredAt fromRow recordTime ofRecord selected limit) none responses
      failure) :
    (failure = none ∧ Returns fromRow ofRecord selected (responses.flatMap ListResponse.items)) ↔
      (∀ row ∈ selected, ∃ record, fromRow row = .ok record) ∧
        ¬ SplitsTie occurredAt limit.toNat selected := by
  have hfailure : (∀ row ∈ selected, ∃ record, fromRow row = .ok record) → failure = none := by
    intro hread
    refine Option.eq_none_iff_forall_not_mem.mpr fun error herror => ?_
    obtain ⟨row, hrow, hfails⟩ := h.exists_row error herror
    obtain ⟨record, hok⟩ := hread row hrow
    cases hfails.symm.trans hok
  constructor
  · rintro ⟨hnone, records, hread, hperm⟩
    refine ⟨isOk_of_mapM_eq_ok hread, ?_⟩
    obtain ⟨pages, records', hwalk, hread', hitems⟩ := h.exists_walk htime hnone
    -- No row comes twice, so as many rows are the same rows.
    have hsub : pages.flatten.Subperm selected := by
      have hwhole := hwalk.subperm
      rwa [past_none] at hwhole
    have hlength : pages.flatten.length = selected.length := by
      rw [hitems] at hperm
      have hmapped := hperm.length_eq
      rw [List.length_map, List.length_map] at hmapped
      rw [(mapM_eq_ok_iff_forall₂.mp hread').length_eq, hmapped,
        (mapM_eq_ok_iff_forall₂.mp hread).length_eq]
    have hcomplete := walk_perm_iff hlimit hwalk
    rw [past_none] at hcomplete
    exact hcomplete.mp (hsub.perm_of_length_le hlength.ge)
  · rintro ⟨hall, hties⟩
    obtain ⟨pages, records', hwalk, hread', hitems⟩ := h.exists_walk htime (hfailure hall)
    obtain ⟨records, hread⟩ := mapM_isOk hall
    have hcomplete := walk_perm_iff hlimit hwalk
    rw [past_none] at hcomplete
    refine ⟨hfailure hall, records, hread, ?_⟩
    rw [hitems]
    exact (mapM_perm (hcomplete.mpr hties) hread' hread).map ofRecord

/-- The pages that are shown have the rows of the responses to requests that follow `next_before`. -/
theorem Browse.exists_followNext {pagination : CursorPagination}
    {pages : List (ListResponse σ)}
    (htime : ∀ row record, fromRow row = .ok record → recordTime record = occurredAt row)
    (h : Browse (ListPage occurredAt fromRow recordTime ofRecord selected limit) pagination pages) :
    ∃ responses,
      FollowNext (ListPage occurredAt fromRow recordTime ofRecord selected limit) pagination.before
        responses none ∧
      responses.flatMap ListResponse.items = pages.flatMap ListResponse.items := by
  induction h with
  | @last pagination response hget hlast =>
    obtain ⟨page, hpage, hresponse⟩ := hget
    obtain ⟨records, hread, rfl⟩ := map_eq_ok_iff.mp hresponse.symm
    have hlength := (mapM_eq_ok_iff_forall₂.mp hread).length_eq
    have hnext : (listResponse recordTime ofRecord limit records).nextBefore =
        page.getLast?.map occurredAt := nextBefore_listResponse htime hread
    cases hrow : page.getLast? with
    | none =>
      rw [List.getLast?_eq_none_iff] at hrow
      subst hrow
      obtain rfl : records = [] := List.length_eq_zero_iff.mp hlength.symm
      exact ⟨_, .last ⟨[], hpage, rfl⟩ rfl, rfl⟩
    | some last =>
      rw [hrow] at hnext
      -- The page has room, so nothing is past it.
      have hshort : page.length < limit.toNat := by
        have hne : records.length ≠ limit.toNat := by
          intro hfull
          rw [canLoadNext, hnext, Option.map_some, Option.isSome_some, Bool.true_and,
            beq_eq_false_iff_ne] at hlast
          exact hlast ((List.length_map _).trans hfull)
        have hle := hpage.length_le
        omega
      have hempty := hpage.past_of_short hrow hshort
      rw [past_past (hpage.cursor_le hrow)] at hempty
      have hrest : FollowNext (ListPage occurredAt fromRow recordTime ofRecord selected limit)
          (some (occurredAt last)) [listResponse recordTime ofRecord limit []] none := by
        refine .last ⟨[], ?_, rfl⟩ rfl
        rw [SelectRows, hempty]
        exact ⟨[], .nil, .nil, List.take_nil.symm⟩
      refine ⟨_, .next ⟨page, hpage, ?_⟩ hnext hrest, rfl⟩
      rw [hread]
      rfl
  | @next pagination page pages hget hnext _ ih =>
    obtain ⟨responses, hfollow, hitems⟩ := ih
    obtain ⟨cursor, hcursor⟩ := Option.isSome_iff_exists.mp (Bool.and_eq_true_iff.mp hnext).1
    rw [hcursor, CursorPagination.before_goNext] at hfollow
    refine ⟨_, .next hget hcursor hfollow, ?_⟩
    rw [List.flatMap_cons, List.flatMap_cons, hitems]

/-- What a client is returned that follows `next_before`, and one that browses the pages, is whole
exactly under a condition. -/
structure Paged (get : Option OffsetDateTime → Except ε (ListResponse σ) → Prop)
    (limit : UInt32) (whole : List σ → Prop) (condition : Prop) : Prop where
  follow : ∀ responses failure, FollowNext get none responses failure →
    ((failure = none ∧ whole (responses.flatMap ListResponse.items)) ↔ condition)
  browse : ∀ pages, Browse get ⟨[], limit⟩ pages →
    (whole (pages.flatMap ListResponse.items) ↔ condition)

theorem paged_listPage {readable : ρ → Prop}
    (htime : ∀ row record, fromRow row = .ok record → recordTime record = occurredAt row)
    (hreads : ∀ row, (∃ record, fromRow row = .ok record) ↔ readable row)
    (hlimit : 0 < limit.toNat) :
    Paged (ListPage occurredAt fromRow recordTime ofRecord selected limit) limit
      (Returns fromRow ofRecord selected)
      ((∀ row ∈ selected, readable row) ∧ ¬ SplitsTie occurredAt limit.toNat selected) := by
  simp only [← hreads]
  refine ⟨fun responses failure h => follow_complete_iff htime hlimit h, fun pages h => ?_⟩
  obtain ⟨responses, hfollow, hitems⟩ := h.exists_followNext htime
  rw [← follow_complete_iff htime hlimit hfollow, hitems]
  exact (and_iff_right rfl).symm

end Follow

/-! ## The list endpoints -/

section Endpoints

variable {rows : OperationalRows} {projectId : ProjectId} {limit : UInt32}

theorem listQuery_limit (hmin : 1 ≤ limit) (hmax : limit ≤ MAX_LIST_LIMIT)
    (before : Option OffsetDateTime) (unresolvedOnly : Option Bool) :
    listQuery ⟨some limit, before, unresolvedOnly⟩ = ⟨limit, before⟩ := by
  show OperationalListQuery.mk (clamp limit 1 MAX_LIST_LIMIT) before = _
  rw [clamp_of_mem hmin hmax]

/-- The storage allows the limits that the handler allows. -/
theorem clamp_stored (hmin : 1 ≤ limit) (hmax : limit ≤ MAX_LIST_LIMIT) :
    clamp limit 1 MAX_OPERATIONAL_LIST_LIMIT = limit :=
  clamp_of_mem hmin hmax

/-- A result of the storage that is answered. -/
theorem exists_result_iff {ρ τ α : Type} {occurredAt : ρ → OffsetDateTime}
    {fromRow : ρ → Except StorageError τ} {answer : List τ → α} {selected : List ρ}
    {before : Option OffsetDateTime} {response : Except StorageError α} :
    (∃ items, (∃ page, SelectRows occurredAt selected before limit page ∧
        items = page.mapM fromRow) ∧ response = items.map answer) ↔
      ∃ page, SelectRows occurredAt selected before limit page ∧
        response = (page.mapM fromRow).map answer := by
  constructor
  · rintro ⟨_, ⟨page, hpage, rfl⟩, hresponse⟩
    exact ⟨page, hpage, hresponse⟩
  · rintro ⟨page, hpage, hresponse⟩
    exact ⟨_, ⟨page, hpage, rfl⟩, hresponse⟩

theorem getAuditEvents_eq (hmin : 1 ≤ limit) (hmax : limit ≤ MAX_LIST_LIMIT) :
    (fun before => GetAuditEvents rows projectId ⟨some limit, before, none⟩) =
      ListPage AuditEventRow.occurredAt auditEventFromRow AuditEventRecord.occurredAt .ofRecord
        (rows.projectAuditEvents projectId) limit := by
  funext before response
  rw [GetAuditEvents, listQuery_limit hmin hmax, ListPage]
  simp only [ListAuditEvents, OperationalListQuery.sanitized]
  rw [clamp_stored hmin hmax, exists_result_iff]

theorem getFailures_eq (hmin : 1 ≤ limit) (hmax : limit ≤ MAX_LIST_LIMIT)
    (unresolvedOnly : Bool) :
    (fun before => GetFailures rows projectId ⟨some limit, before, some unresolvedOnly⟩) =
      ListPage FailureEventRow.occurredAt failureEventFromRow FailureEventRecord.occurredAt
        .ofRecord (rows.projectFailures projectId unresolvedOnly) limit := by
  funext before response
  rw [GetFailures, listQuery_limit hmin hmax, ListPage]
  simp only [ListFailures, FailureListQuery.sanitized, Option.getD_some]
  rw [clamp_stored hmin hmax, exists_result_iff]

theorem getDeliveryOutcomes_eq (hmin : 1 ≤ limit) (hmax : limit ≤ MAX_LIST_LIMIT) :
    (fun before => GetDeliveryOutcomes rows projectId ⟨some limit, before, none⟩) =
      ListPage SinkDeliveryOutcomeRow.occurredAt sinkDeliveryOutcomeFromRow
        SinkDeliveryOutcomeRecord.occurredAt .ofRecord
        (rows.projectDeliveryOutcomes projectId) limit := by
  funext before response
  rw [GetDeliveryOutcomes, listQuery_limit hmin hmax, ListPage]
  simp only [ListDeliveryOutcomes, OperationalListQuery.sanitized]
  rw [clamp_stored hmin hmax, exists_result_iff]

/-- At every limit a client may ask for, the pages of a list hold every row of the project exactly
once, without an error, if and only if every row can be read and no page ends between two rows of
one time. -/
theorem list_complete_iff (rows : OperationalRows) (projectId : ProjectId) (limit : UInt32)
    (hmin : 1 ≤ limit) (hmax : limit ≤ MAX_LIST_LIMIT) :
    Paged (fun before => GetAuditEvents rows projectId ⟨some limit, before, none⟩) limit
      (Returns auditEventFromRow .ofRecord (rows.projectAuditEvents projectId))
      ((∀ row ∈ rows.projectAuditEvents projectId, row.Readable) ∧
        ¬ SplitsTie AuditEventRow.occurredAt limit.toNat (rows.projectAuditEvents projectId)) ∧
    (∀ unresolvedOnly,
      Paged (fun before => GetFailures rows projectId ⟨some limit, before, some unresolvedOnly⟩)
        limit (Returns failureEventFromRow .ofRecord (rows.projectFailures projectId unresolvedOnly))
        ((∀ row ∈ rows.projectFailures projectId unresolvedOnly, row.Readable) ∧
          ¬ SplitsTie FailureEventRow.occurredAt limit.toNat
            (rows.projectFailures projectId unresolvedOnly))) ∧
    Paged (fun before => GetDeliveryOutcomes rows projectId ⟨some limit, before, none⟩) limit
      (Returns sinkDeliveryOutcomeFromRow .ofRecord (rows.projectDeliveryOutcomes projectId))
      ((∀ row ∈ rows.projectDeliveryOutcomes projectId, row.Readable) ∧
        ¬ SplitsTie SinkDeliveryOutcomeRow.occurredAt limit.toNat
          (rows.projectDeliveryOutcomes projectId)) := by
  have hlimit : 0 < limit.toNat := UInt32.le_iff_toNat_le.mp hmin
  refine ⟨?_, fun unresolvedOnly => ?_, ?_⟩
  · rw [getAuditEvents_eq hmin hmax]
    exact paged_listPage (fun _ _ => auditEventFromRow_occurredAt) auditEventFromRow_isOk_iff hlimit
  · rw [getFailures_eq hmin hmax]
    exact paged_listPage (fun _ _ => failureEventFromRow_occurredAt) failureEventFromRow_isOk_iff
      hlimit
  · rw [getDeliveryOutcomes_eq hmin hmax]
    exact paged_listPage (fun _ _ => sinkDeliveryOutcomeFromRow_occurredAt)
      sinkDeliveryOutcomeFromRow_isOk_iff hlimit

/-! ## Two events of one time -/

/-- An audit event of the project `p` at the time `0`. -/
def auditEventAtZero (auditEventId : String) : AuditEventRow where
  auditEventId := auditEventId
  projectId := some "p"
  actorId := none
  action := "runtime.reload"
  targetType := "runtime"
  targetId := "p"
  status := "succeeded"
  reason := none
  metadata := .object []
  occurredAt := 0
  status_check := Or.inl rfl
  metadata_check := ⟨[], rfl⟩

/-- Two audit events of one time. -/
def tiedAuditEvents : OperationalRows where
  auditEvents := [auditEventAtZero "audit-1", auditEventAtZero "audit-2"]
  failureEvents := []
  sinkDeliveryOutcomes := []

theorem tiedAuditEvents_splits :
    SplitsTie AuditEventRow.occurredAt (1 : UInt32).toNat
      (tiedAuditEvents.projectAuditEvents ⟨"p"⟩) :=
  ⟨0, 1, by decide, by decide⟩

theorem tiedAuditEvents_readable :
    ∀ row ∈ tiedAuditEvents.projectAuditEvents ⟨"p"⟩, row.Readable := by
  have hid : IsIdentifier "p" :=
    validateIdentifier_eq_ok_iff.mp (by decide +kernel : validateIdentifier "project_id" "p" = .ok ())
  have hrow : ∀ auditEventId, (auditEventAtZero auditEventId).Readable :=
    fun _ => ⟨fun _ h => Option.some.inj h ▸ hid, fun _ h => nomatch h⟩
  intro row hmem
  obtain ⟨hmem, -⟩ := List.mem_filter.mp hmem
  rcases List.mem_cons.mp hmem with rfl | hmem
  · exact hrow "audit-1"
  · rw [List.mem_singleton.mp hmem]
    exact hrow "audit-2"

/-- Page by page with a limit of one, the second of two audit events of one time is lost. -/
theorem tiedAuditEvents_incomplete :
    ∃ responses failure,
      FollowNext (fun before => GetAuditEvents tiedAuditEvents ⟨"p"⟩ ⟨some 1, before, none⟩) none
        responses failure ∧
      ¬ (failure = none ∧ Returns auditEventFromRow AuditEventResponse.ofRecord
        (tiedAuditEvents.projectAuditEvents ⟨"p"⟩) (responses.flatMap ListResponse.items)) := by
  have heq := @getAuditEvents_eq tiedAuditEvents ⟨"p"⟩ 1 (by decide) (by decide)
  have htime : ∀ row record, auditEventFromRow row = .ok record →
      record.occurredAt = row.occurredAt := fun _ _ => auditEventFromRow_occurredAt
  obtain ⟨responses, failure, h⟩ := exists_followNext htime AuditEventResponse.ofRecord
    (tiedAuditEvents.projectAuditEvents ⟨"p"⟩) 1 none
  refine ⟨responses, failure, heq ▸ h, fun hwhole => ?_⟩
  exact ((follow_complete_iff htime (by decide) h).mp hwhole).2 tiedAuditEvents_splits

/-- With a limit of two, both audit events are on the first page. -/
theorem tiedAuditEvents_complete :
    ∃ responses failure,
      FollowNext (fun before => GetAuditEvents tiedAuditEvents ⟨"p"⟩ ⟨some 2, before, none⟩) none
        responses failure ∧ failure = none ∧
      Returns auditEventFromRow AuditEventResponse.ofRecord
        (tiedAuditEvents.projectAuditEvents ⟨"p"⟩) (responses.flatMap ListResponse.items) := by
  have heq := @getAuditEvents_eq tiedAuditEvents ⟨"p"⟩ 2 (by decide) (by decide)
  have htime : ∀ row record, auditEventFromRow row = .ok record →
      record.occurredAt = row.occurredAt := fun _ _ => auditEventFromRow_occurredAt
  obtain ⟨responses, failure, hpages⟩ := exists_followNext htime AuditEventResponse.ofRecord
    (tiedAuditEvents.projectAuditEvents ⟨"p"⟩) 2 none
  have h : FollowNext (fun before => GetAuditEvents tiedAuditEvents ⟨"p"⟩ ⟨some 2, before, none⟩)
      none responses failure := heq ▸ hpages
  have hcomplete := (list_complete_iff tiedAuditEvents ⟨"p"⟩ 2 (by decide) (by decide)).1.follow
    responses failure h
  refine ⟨responses, failure, h, hcomplete.mpr ⟨tiedAuditEvents_readable, ?_⟩⟩
  rintro ⟨t, k, hlow, hhigh⟩
  have hmost : (tiedAuditEvents.projectAuditEvents ⟨"p"⟩).countP
      (fun row => decide (t ≤ row.occurredAt)) ≤ 2 := List.countP_le_length
  have htwo : (2 : UInt32).toNat = 2 := by decide
  rw [htwo] at hlow hhigh
  omega

end Endpoints

end Api
end PipeBolt
