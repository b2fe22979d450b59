import PipeBolt.Api.Sse
import PipeBolt.Js.JsonRoundTrip
import PipeBolt.Lib.Fallible
import PipeBolt.Web.RealtimeStream
import PipeBolt.Web.RuleMapper

/-!
# Realtime messages in the browser

`parseRealtimeMessage` of `realtime.validation.ts` on what the server sends: an event of the stream
that the page refuses ends its session for good, so the page and the server have to agree on what a
message is.

* `messageToJs`: the value of the JSON that the server writes.
* `messageOfEnvelope_toJs`: which messages of the server the page accepts, and as what.
* `reads_stream`: the messages of a stream are accepted, in every run of it.
-/

namespace PipeBolt
namespace Web

open Js LossyChannel Transition

/-! ## What the server writes -/

/-- An `Option<String>` of the server. -/
def optionToJs : Option String → JsValue
  | none => .null
  | some value => .string (ofString value)

/-- A `usize` or `u64` of the server, as `JSON.parse` reads it. -/
def natToJs (value : Nat) : JsValue := .number (.ofDecimal false value 0)

/-- The filter of a message. -/
def filterToJs (filter : Api.RealtimeFilter) : JsValue :=
  .object [(ofString "device_id", optionToJs filter.deviceId),
    (ofString "topic", optionToJs filter.topic),
    (ofString "topic_prefix", optionToJs filter.topicPrefix),
    (ofString "event_type", optionToJs filter.eventType),
    (ofString "route_id", optionToJs filter.routeId)]

/-- The payload of an event. -/
def payloadToJs : Api.RealtimePayloadResponse → JsValue
  | .json value =>
    .object [(ofString "type", .string (ofString "json")), (ofString "value", ofValue value)]
  | .rawBase64 text =>
    .object [(ofString "type", .string (ofString "raw_base64")),
      (ofString "value", .string (ofString text))]

/-- The reference to the raw payload of an event. -/
def rawToJs : Option Api.RealtimeRawPayloadResponse → JsValue
  | none => .null
  | some raw =>
    .object [(ofString "byte_len", natToJs raw.byteLen),
      (ofString "content_type", optionToJs raw.contentType)]

/-- A diagnostic of an event. -/
def diagnosticToJs (diagnostic : Domain.NormalizationDiagnostic) : JsValue :=
  .object [(ofString "code", .string (ofString diagnostic.code)),
    (ofString "message", .string (ofString diagnostic.message)),
    (ofString "field", optionToJs diagnostic.field)]

/-- The metadata of an event. -/
def metadataToJs (metadata : Rust.BTreeMap String) : JsValue :=
  .object (setProperties
    (metadata.map fun (key, value) => (ofString key, .string (ofString value))))

/-- The data of an event. -/
def eventToJs (data : Api.RealtimeEventResponse) : JsValue :=
  .object [(ofString "id", .string (ofString data.id)),
    (ofString "correlation_id", .string (ofString data.correlationId)),
    (ofString "project_id", .string (ofString data.projectId)),
    (ofString "broker_id", .string (ofString data.brokerId)),
    (ofString "route_id", .string (ofString data.routeId)),
    (ofString "schema_mapping_id", optionToJs data.schemaMappingId),
    (ofString "topic", .string (ofString data.topic)),
    (ofString "device_id", optionToJs data.deviceId),
    (ofString "event_type", .string (ofString data.eventType)),
    (ofString "received_at", .string (ofString data.receivedAt)),
    (ofString "payload_size_bytes", natToJs data.payloadSizeBytes),
    (ofString "payload", payloadToJs data.payload),
    (ofString "fields", .object (setProperties (ofEntries data.fields))),
    (ofString "raw", rawToJs data.raw),
    (ofString "normalization_errors", .array (data.normalizationErrors.map diagnosticToJs)),
    (ofString "metadata", metadataToJs data.metadata)]

/-- What `JSON.parse` makes of the text of a message of the server. -/
def messageToJs : Api.RealtimeServerMessage → JsValue
  | .ready transport filter =>
    .object [(ofString "type", .string (ofString "ready")),
      (ofString "transport", .string (ofString transport)), (ofString "filter", filterToJs filter)]
  | .event data =>
    .object [(ofString "type", .string (ofString "event")), (ofString "data", eventToJs data)]
  | .lagged skipped =>
    .object [(ofString "type", .string (ofString "lagged")), (ofString "skipped", natToJs skipped)]
  | .filterUpdated filter =>
    .object [(ofString "type", .string (ofString "filter_updated")),
      (ofString "filter", filterToJs filter)]
  | .error message =>
    .object [(ofString "type", .string (ofString "error")),
      (ofString "message", .string (ofString message))]

/-! ## What the page accepts -/

/-- A property of a value, or `undefined`. -/
def get? (value : JsValue) (key : String) : Option JsValue :=
  match value with
  | .object properties =>
    (properties.find? fun property => property.1 == ofString key).map Prod.snd
  | _ => none

/-- `isRecord`. -/
def isRecord : Option JsValue → Bool
  | some (.object _) => true
  | _ => false

/-- `typeof value === 'string'`. -/
def isString : Option JsValue → Bool
  | some (.string _) => true
  | _ => false

/-- `value === text`. -/
def isText (text : JsString) : Option JsValue → Bool
  | some (.string value) => value == text
  | _ => false

/-- `isNullableString`. -/
def isNullableString : Option JsValue → Bool
  | none | some .null | some (.string _) => true
  | _ => false

/-- `isStringRecord`. -/
def isStringRecord : Option JsValue → Bool
  | some (.object properties) => properties.all fun property => isString (some property.2)
  | _ => false

/-- `value >= 0`. -/
def isNonNegative : JsNumber → Bool
  | .nan => false
  | .infinity negative => !negative
  | .finite negative magnitude => !negative || magnitude.units == 0

/-- `Number.isSafeInteger(value) && value >= 0`. -/
def isSafeSize : Option JsValue → Bool
  | some (.number value) => value.isSafeInteger && isNonNegative value
  | _ => false

/-- `isPayload`. -/
def isPayload : Option JsValue → Bool
  | some (.object properties) =>
    let value := JsValue.object properties
    (isText (ofString "json") (get? value "type") && (get? value "value").isSome) ||
      (isText (ofString "raw_base64") (get? value "type") && isString (get? value "value"))
  | _ => false

/-- `isDiagnostic`. -/
def isDiagnostic (value : JsValue) : Bool :=
  isRecord (some value) && isString (get? value "code") && isString (get? value "message") &&
    isNullableString (get? value "field")

/-- The check of `isRealtimeEvent` on `raw`. -/
def isRaw : Option JsValue → Bool
  | none | some .null => true
  | some value =>
    isRecord (some value) && isSafeSize (get? value "byte_len") &&
      isNullableString (get? value "content_type")

/-- The check of `isRealtimeEvent` on `normalization_errors`. -/
def areDiagnostics : Option JsValue → Bool
  | some (.array values) => values.all isDiagnostic
  | _ => false

/-- `isRealtimeEvent`. -/
def isRealtimeEvent (value : JsValue) (projectId : JsString) : Bool :=
  isRecord (some value) && isText projectId (get? value "project_id") &&
    isString (get? value "id") && isString (get? value "correlation_id") &&
    isString (get? value "broker_id") && isString (get? value "route_id") &&
    isString (get? value "topic") && isString (get? value "event_type") &&
    isString (get? value "received_at") && isNullableString (get? value "device_id") &&
    isNullableString (get? value "schema_mapping_id") &&
    isSafeSize (get? value "payload_size_bytes") && isPayload (get? value "payload") &&
    isRecord (get? value "fields") && isStringRecord (get? value "metadata") &&
    areDiagnostics (get? value "normalization_errors") && isRaw (get? value "raw")

/-- `isFilter`. -/
def isFilter : Option JsValue → Bool
  | some (.object properties) =>
    ["device_id", "topic", "topic_prefix", "event_type", "route_id"].all fun key =>
      isNullableString (get? (.object properties) key)
  | _ => false

/-- The texts of the `RealtimeProtocolError`s of `parseRealtimeMessage`. -/
def INVALID_JSON : String := "Realtime server emitted invalid JSON."
def INVALID_ENVELOPE : String := "Realtime server emitted an invalid message envelope."
def UNSUPPORTED_ENVELOPE : String := "Realtime server emitted an unsupported message envelope."

/-- The number of a property that `isSafeSize` accepts. -/
def safeSizeOf : Option JsValue → Nat
  | some (.number value) => value.safeNat.getD 0
  | _ => 0

/-- The text of a property that `isString` accepts. -/
def textOf : Option JsValue → JsString
  | some (.string value) => value
  | _ => []

/-- `parseRealtimeMessage`, from the parsed envelope on. -/
def messageOfEnvelope (input : JsValue) (projectId : JsString) :
    Except String (RealtimeMessage JsValue) :=
  let type := get? input "type"
  if !(isRecord (some input) && isString type) then .error INVALID_ENVELOPE
  else if isText (ofString "ready") type && isText (ofString "sse") (get? input "transport") &&
      isFilter (get? input "filter") then .ok .ready
  else if isText (ofString "event") type &&
      (get? input "data").any (fun data => isRealtimeEvent data projectId) then
    .ok (.event ((get? input "data").getD .null))
  else if isText (ofString "lagged") type && isSafeSize (get? input "skipped") then
    .ok (.lagged (safeSizeOf (get? input "skipped")))
  else if isText (ofString "filter_updated") type && isFilter (get? input "filter") then
    .ok .filterUpdated
  else if isText (ofString "error") type && isString (get? input "message") then
    .ok (.error (textOf (get? input "message")))
  else .error UNSUPPORTED_ENVELOPE

/-- `parseRealtimeMessage`. -/
def parseRealtimeMessage (data : JsString) (eventName : Option JsString) (projectId : JsString) :
    Except String (RealtimeMessage JsValue) :=
  match parseJson data with
  | none => if eventName = some (ofString "error") then .ok (.error data) else .error INVALID_JSON
  | some input => messageOfEnvelope input projectId

/-! ## The messages of the server -/

section Accepted

variable {value : Option String} {filter : Api.RealtimeFilter}

@[simp] theorem isNullableString_optionToJs :
    isNullableString (some (optionToJs value)) = true := by
  cases value <;> rfl

theorem isSafeSize_natToJs (n : Nat) : isSafeSize (some (natToJs n)) = decide (n < 2 ^ 53) := by
  rw [natToJs, isSafeSize]
  by_cases hsafe : n < 2 ^ 53
  · rw [isSafeInteger_ofDecimal_iff.mpr hsafe, ofDecimal_nat (Nat.le_of_lt hsafe),
      decide_eq_true hsafe]
    rfl
  · rw [Bool.eq_false_iff.mpr (mt isSafeInteger_ofDecimal_iff.mp hsafe), decide_eq_false hsafe]
    rfl

theorem safeSizeOf_natToJs {n : Nat} (h : n < 2 ^ 53) : safeSizeOf (some (natToJs n)) = n := by
  rw [natToJs, safeSizeOf, ofDecimal_nat (Nat.le_of_lt h), safeNat_ofNat h]
  rfl

theorem isFilter_filterToJs : isFilter (some (filterToJs filter)) = true := by
  have hkeys : ∀ key ∈ ["device_id", "topic", "topic_prefix", "event_type", "route_id"],
      ∃ value, get? (filterToJs filter) key = some (optionToJs value) := by
    intro key hkey
    simp only [List.mem_cons, List.not_mem_nil, or_false] at hkey
    rcases hkey with rfl | rfl | rfl | rfl | rfl
    · exact ⟨filter.deviceId, rfl⟩
    · exact ⟨filter.topic, rfl⟩
    · exact ⟨filter.topicPrefix, rfl⟩
    · exact ⟨filter.eventType, rfl⟩
    · exact ⟨filter.routeId, rfl⟩
  refine List.all_eq_true.mpr fun key hkey => ?_
  obtain ⟨value, hvalue⟩ := hkeys key hkey
  exact (congrArg isNullableString hvalue).trans isNullableString_optionToJs

/-- The payload of an event is one for the page. -/
theorem isPayload_payloadToJs (payload : Api.RealtimePayloadResponse) :
    isPayload (some (payloadToJs payload)) = true := by
  cases payload with
  | json value => rfl
  | rawBase64 text => rfl

theorem areDiagnostics_diagnosticToJs (diagnostics : List Domain.NormalizationDiagnostic) :
    areDiagnostics (some (.array (diagnostics.map diagnosticToJs))) = true := by
  refine List.all_eq_true.mpr fun value hvalue => ?_
  obtain ⟨diagnostic, -, rfl⟩ := List.mem_map.mp hvalue
  show (true && true && true && isNullableString (some (optionToJs diagnostic.field))) = true
  rw [isNullableString_optionToJs]
  rfl

theorem isStringRecord_metadataToJs (metadata : Rust.BTreeMap String) :
    isStringRecord (some (metadataToJs metadata)) = true := by
  refine List.all_eq_true.mpr fun property hproperty => ?_
  obtain ⟨entry, -, rfl⟩ := List.mem_map.mp (mem_setProperties hproperty)
  rfl

theorem isRaw_rawToJs (raw : Option Api.RealtimeRawPayloadResponse) :
    isRaw (some (rawToJs raw)) = raw.all fun raw => raw.byteLen < 2 ^ 53 := by
  cases raw with
  | none => rfl
  | some raw =>
    show (true && isSafeSize (some (natToJs raw.byteLen)) &&
      isNullableString (some (optionToJs raw.contentType))) = _
    rw [isSafeSize_natToJs, isNullableString_optionToJs, Bool.and_true]
    rfl

/-- What the page can hold of the sizes of an event. -/
def SafeSizes (data : Api.RealtimeEventResponse) : Prop :=
  data.payloadSizeBytes < 2 ^ 53 ∧ ∀ raw ∈ data.raw, raw.byteLen < 2 ^ 53

/-- Which events of the server the page accepts. -/
theorem isRealtimeEvent_eventToJs (data : Api.RealtimeEventResponse) (projectId : JsString) :
    isRealtimeEvent (eventToJs data) projectId = true ↔
      ofString data.projectId = projectId ∧ SafeSizes data := by
  have hproject : get? (eventToJs data) "project_id" =
      some (.string (ofString data.projectId)) := rfl
  have hsize : get? (eventToJs data) "payload_size_bytes" =
      some (natToJs data.payloadSizeBytes) := rfl
  have hdevice : get? (eventToJs data) "device_id" = some (optionToJs data.deviceId) := rfl
  have hmapping : get? (eventToJs data) "schema_mapping_id" =
    some (optionToJs data.schemaMappingId) := rfl
  have hpayload : get? (eventToJs data) "payload" = some (payloadToJs data.payload) := rfl
  have hmetadata : get? (eventToJs data) "metadata" = some (metadataToJs data.metadata) := rfl
  have hdiagnostics : get? (eventToJs data) "normalization_errors" =
    some (.array (data.normalizationErrors.map diagnosticToJs)) := rfl
  have hraw : get? (eventToJs data) "raw" = some (rawToJs data.raw) := rfl
  have hstrings : ∀ key ∈ ["id", "correlation_id", "broker_id", "route_id", "topic", "event_type",
      "received_at"], isString (get? (eventToJs data) key) = true := by
    intro key hkey
    simp only [List.mem_cons, List.not_mem_nil, or_false] at hkey
    rcases hkey with rfl | rfl | rfl | rfl | rfl | rfl | rfl <;> rfl
  have hfields : isRecord (get? (eventToJs data) "fields") = true := rfl
  unfold isRealtimeEvent
  rw [hproject, hsize, hdevice, hmapping, hpayload, hmetadata, hdiagnostics, hraw, hfields,
    hstrings "id" (by decide), hstrings "correlation_id" (by decide),
    hstrings "broker_id" (by decide), hstrings "route_id" (by decide),
    hstrings "topic" (by decide), hstrings "event_type" (by decide),
    hstrings "received_at" (by decide), isNullableString_optionToJs, isNullableString_optionToJs,
    isSafeSize_natToJs, isPayload_payloadToJs, isStringRecord_metadataToJs,
    areDiagnostics_diagnosticToJs, isRaw_rawToJs]
  show (true && (ofString data.projectId == projectId) && _ && _ && _ && _ && _ && _ && _ && _ &&
    _ && _ && _ && _ && _ && _ && _) = true ↔ _
  simp only [Bool.and_true, Bool.true_and, Bool.and_eq_true, beq_iff_eq, decide_eq_true_eq]
  rw [SafeSizes, and_assoc]
  refine and_congr_right' (and_congr_right' ?_)
  cases data.raw with
  | none => exact iff_of_true rfl nofun
  | some raw => simp

/-- The messages of the server that the page accepts. -/
def Acceptable (projectId : JsString) : Api.RealtimeServerMessage → Prop
  | .ready transport _ => transport = "sse"
  | .event data => ofString data.projectId = projectId ∧ SafeSizes data
  | .lagged skipped => skipped < 2 ^ 53
  | .filterUpdated _ | .error _ => True

/-- What a message of the server is for the page. -/
def readMessage : Api.RealtimeServerMessage → RealtimeMessage JsValue
  | .ready _ _ => .ready
  | .event data => .event (eventToJs data)
  | .lagged skipped => .lagged skipped
  | .filterUpdated _ => .filterUpdated
  | .error message => .error (ofString message)

theorem isText_ofString (text value : String) :
    isText (ofString text) (some (.string (ofString value))) = true ↔ value = text := by
  rw [isText, beq_iff_eq]
  exact ofString_injective.eq_iff

/-- The check of the envelope, for a type that the server writes. -/
theorem messageOfEnvelope_eq {input : JsValue} {type : String}
    (hrecord : isRecord (some input) = true)
    (htype : get? input "type" = some (.string (ofString type))) (projectId : JsString) :
    messageOfEnvelope input projectId =
      if type = "ready" ∧ isText (ofString "sse") (get? input "transport") = true ∧
          isFilter (get? input "filter") = true then .ok .ready
      else if type = "event" ∧
          (get? input "data").any (fun data => isRealtimeEvent data projectId) = true then
        .ok (.event ((get? input "data").getD .null))
      else if type = "lagged" ∧ isSafeSize (get? input "skipped") = true then
        .ok (.lagged (safeSizeOf (get? input "skipped")))
      else if type = "filter_updated" ∧ isFilter (get? input "filter") = true then
        .ok .filterUpdated
      else if type = "error" ∧ isString (get? input "message") = true then
        .ok (.error (textOf (get? input "message")))
      else .error UNSUPPORTED_ENVELOPE := by
  unfold messageOfEnvelope
  simp only [htype, hrecord, Bool.and_eq_true, isText_ofString, and_assoc]
  rfl

/-- **The messages of the server, for the page.** -/
theorem messageOfEnvelope_toJs (message : Api.RealtimeServerMessage) (projectId : JsString) :
    (Acceptable projectId message →
      messageOfEnvelope (messageToJs message) projectId = .ok (readMessage message)) ∧
    (¬ Acceptable projectId message →
      messageOfEnvelope (messageToJs message) projectId = .error UNSUPPORTED_ENVELOPE) := by
  cases message with
  | ready transport filter =>
    have htype : get? (messageToJs (.ready transport filter)) "type" =
        some (.string (ofString "ready")) := rfl
    have htransport : isText (ofString "sse") (get? (messageToJs (.ready transport filter))
        "transport") = true ↔ transport = "sse" :=
      isText_ofString "sse" transport
    have hfilter : isFilter (get? (messageToJs (.ready transport filter)) "filter") = true :=
      isFilter_filterToJs
    rw [messageOfEnvelope_eq rfl htype]
    constructor
    · intro h
      exact if_pos ⟨rfl, htransport.mpr h, hfilter⟩
    · intro h
      rw [if_neg fun hready => h (htransport.mp hready.2.1), if_neg nofun, if_neg nofun,
        if_neg nofun, if_neg nofun]
  | event data =>
    have htype : get? (messageToJs (.event data)) "type" = some (.string (ofString "event")) := rfl
    have hdata : get? (messageToJs (.event data)) "data" = some (eventToJs data) := rfl
    have hevent : (get? (messageToJs (.event data)) "data").any
        (fun data => isRealtimeEvent data projectId) = true ↔
          Acceptable projectId (.event data) := by
      rw [hdata, Option.any_some, isRealtimeEvent_eventToJs]
      rfl
    rw [messageOfEnvelope_eq rfl htype, if_neg nofun]
    constructor
    · intro h
      exact if_pos ⟨rfl, hevent.mpr h⟩
    · intro h
      rw [if_neg fun heq => h (hevent.mp heq.2), if_neg nofun, if_neg nofun, if_neg nofun]
  | lagged skipped =>
    have htype : get? (messageToJs (.lagged skipped)) "type" =
        some (.string (ofString "lagged")) := rfl
    have hskipped : get? (messageToJs (.lagged skipped)) "skipped" = some (natToJs skipped) := rfl
    have hsafe : isSafeSize (get? (messageToJs (.lagged skipped)) "skipped") = true ↔
        skipped < 2 ^ 53 := by
      rw [hskipped, isSafeSize_natToJs, decide_eq_true_eq]
    rw [messageOfEnvelope_eq rfl htype, if_neg nofun, if_neg nofun]
    constructor
    · intro h
      rw [if_pos ⟨rfl, hsafe.mpr h⟩, hskipped, safeSizeOf_natToJs h]
      rfl
    · intro h
      rw [if_neg fun heq => h (hsafe.mp heq.2), if_neg nofun, if_neg nofun]
  | filterUpdated filter =>
    have htype : get? (messageToJs (.filterUpdated filter)) "type" =
        some (.string (ofString "filter_updated")) := rfl
    have hfilter : isFilter (get? (messageToJs (.filterUpdated filter)) "filter") = true :=
      isFilter_filterToJs
    rw [messageOfEnvelope_eq rfl htype, if_neg nofun, if_neg nofun, if_neg nofun,
      if_pos ⟨rfl, hfilter⟩]
    exact ⟨fun _ => rfl, fun h => absurd trivial h⟩
  | error text =>
    have htype : get? (messageToJs (.error text)) "type" = some (.string (ofString "error")) := rfl
    have hmessage : get? (messageToJs (.error text)) "message" =
        some (.string (ofString text)) := rfl
    rw [messageOfEnvelope_eq rfl htype, if_neg nofun, if_neg nofun, if_neg nofun, if_neg nofun,
      if_pos ⟨rfl, rfl⟩, hmessage]
    exact ⟨fun _ => rfl, fun h => absurd trivial h⟩

end Accepted

/-! ## The frames of a stream -/

/-- A text that starts like the one of an error is not JSON. -/
theorem parseJson_failed (text : JsString) :
    parseJson (ofString "failed to serialize realtime event: " ++ text) = none := by
  have hstart : ∃ rest, ofString "failed to serialize realtime event: " ++ text =
      unit 'f' :: unit 'a' :: unit 'i' :: rest := ⟨_, rfl⟩
  obtain ⟨rest, hrest⟩ := hstart
  have hscan : scanToken (unit 'f' :: unit 'a' :: unit 'i' :: rest) = none := rfl
  have htokens : tokenize (unit 'f' :: unit 'a' :: unit 'i' :: rest) = none := by
    rw [tokenize, if_neg (by decide)]
    have hpunctuation : punctuation (unit 'f') = none := by decide
    simp only [hpunctuation]
    split
    · next hsome =>
      rw [hscan] at hsome
      cases hsome
    · rfl
  rw [hrest, parseJson, htokens]
  rfl

/-- What the page reads for a message of the stream. -/
def pageMessage (crates : Api.SseCrates) (message : Api.RealtimeServerMessage) :
    RealtimeMessage JsValue :=
  match crates.toJson message with
  | some _ => readMessage message
  | none => .error (ofString s!"failed to serialize realtime event: {crates.toJsonError message}")

/-- What the page reads for a receipt of the stream. -/
def pageReceipt (crates : Api.SseCrates) (filter : Api.RealtimeFilter) :
    Received Domain.NormalizedEvent → Option (RealtimeMessage JsValue)
  | .value event =>
    if filter.matches event then
      some (pageMessage crates (.event (.fromEvent crates.toRealtimeCrates event)))
    else none
  | .lagged skipped => some (pageMessage crates (.lagged skipped))

/-- The server writes JSON. -/
def WritesJson (crates : Api.SseCrates) : Prop :=
  ∀ message text, crates.toJson message = some text →
    parseJson (ofString text) = some (messageToJs message)

section Frames

variable {crates : Api.SseCrates} {projectId : JsString}

/-- The page reads an event of the stream, unless it refuses what is in it. -/
theorem parse_sseJsonEvent (hjson : WritesJson crates) {name : String}
    {message : Api.RealtimeServerMessage}
    (h : crates.toJson message ≠ none → Acceptable projectId message) :
    parseRealtimeMessage (ofString (Api.sseJsonEvent crates name message).data)
      (some (ofString (Api.sseJsonEvent crates name message).name)) projectId =
        .ok (pageMessage crates message) := by
  unfold Api.sseJsonEvent pageMessage
  cases htext : crates.toJson message with
  | some text =>
    rw [parseRealtimeMessage, hjson message text htext]
    exact (messageOfEnvelope_toJs message projectId).1 (h (by rw [htext]; nofun))
  | none =>
    have hfailed : parseJson (ofString
        s!"failed to serialize realtime event: {crates.toJsonError message}") = none := by
      have happend : ofString s!"failed to serialize realtime event: {crates.toJsonError message}" =
          ofString "failed to serialize realtime event: " ++
            ofString (crates.toJsonError message) := by
        rw [ofString, ofString, ofString, ← List.flatMap_append, ← String.toList_append]
        rfl
      rw [happend]
      exact parseJson_failed _
    rw [parseRealtimeMessage, hfailed]
    exact if_pos rfl

/-- The page reads a frame as a message. -/
def ReadsAs (projectId : JsString) (frame : Api.SseEvent) (message : RealtimeMessage JsValue) :
    Prop :=
  parseRealtimeMessage (ofString frame.data) (some (ofString frame.name)) projectId = .ok message

/-- The events that a page of a project can hold. -/
def Holds (projectId : Domain.ProjectId) (event : Domain.NormalizedEvent) : Prop :=
  event.projectId = projectId ∧ event.payloadSizeBytes < 2 ^ 53 ∧
    ∀ raw ∈ event.raw, raw.byteLen < 2 ^ 53

theorem Holds.acceptable {projectId : Domain.ProjectId} {event : Domain.NormalizedEvent}
    (h : Holds projectId event) (crates : Api.RealtimeCrates) :
    Acceptable (ofString projectId.raw) (.event (.fromEvent crates event)) := by
  refine ⟨congrArg (fun id => ofString (Domain.Identifier.raw id)) h.1, h.2.1, ?_⟩
  intro raw hraw
  obtain ⟨source, hsource, rfl⟩ := Option.map_eq_some_iff.mp hraw
  exact h.2.2 source hsource

/-- The frames of receipts are read as what the page makes of the receipts. -/
theorem reads_receipts (hjson : WritesJson crates) (filter : Api.RealtimeFilter)
    {got : List (Received Domain.NormalizedEvent)}
    (hvalues : ∀ event, .value event ∈ got →
      Acceptable projectId (.event (.fromEvent crates.toRealtimeCrates event)))
    (hlagged : ∀ skipped, .lagged skipped ∈ got → skipped < 2 ^ 53) :
    List.Forall₂ (ReadsAs projectId) (got.filterMap (Api.renderReceipt crates filter))
      (got.filterMap (pageReceipt crates filter)) := by
  induction got with
  | nil => exact .nil
  | cons receipt got ih =>
    have hrest := ih (fun event hmem => hvalues event (List.mem_cons_of_mem _ hmem))
      (fun skipped hmem => hlagged skipped (List.mem_cons_of_mem _ hmem))
    cases receipt with
    | value event =>
      cases hmatches : filter.matches event with
      | true =>
        have hframe : Api.renderReceipt crates filter (.value event) = some _ := if_pos hmatches
        have hpage : pageReceipt crates filter (.value event) = some _ := if_pos hmatches
        rw [List.filterMap_cons_some hframe, List.filterMap_cons_some hpage]
        exact .cons (parse_sseJsonEvent hjson fun _ => hvalues event List.mem_cons_self) hrest
      | false =>
        have hnot : ¬ filter.matches event = true := Bool.eq_false_iff.mp hmatches
        have hframe : Api.renderReceipt crates filter (.value event) = none := if_neg hnot
        have hpage : pageReceipt crates filter (.value event) = none := if_neg hnot
        rw [List.filterMap_cons_none hframe, List.filterMap_cons_none hpage]
        exact hrest
    | lagged skipped =>
      exact .cons (parse_sseJsonEvent hjson fun _ => hlagged skipped List.mem_cons_self) hrest

/-- What the page reads of the frames of a stream. -/
theorem reads_stream (hjson : WritesJson crates) {projectId : Domain.ProjectId}
    {filter : Api.RealtimeFilter} {capacity : Nat} {es : List Api.SseEdge} {s : Api.SseStream}
    (h : Run (Api.SseStep crates) (.new filter (.subscribe capacity)) es s)
    (hevents : ∀ event ∈ Api.publishedBy es, Holds projectId event)
    (hcount : (Api.publishedBy es).length < 2 ^ 53) :
    ∃ messages, List.Forall₂ (ReadsAs (ofString projectId.raw)) (Api.yieldedBy es) messages ∧
      (messages = [] ∧ Api.receivedBy es = [] ∨
        messages = pageMessage crates (.ready "sse" filter) ::
          (Api.receivedBy es).filterMap (pageReceipt crates filter)) := by
  have hkept := Api.SseKept.run h
  have hordered := hkept.receiver.accounts.sublist
  have haccounted := hkept.receiver.accounts.total_eq
  rcases hkept.yielded_eq with ⟨hyielded, hreceived⟩ | hyielded
  · rw [hyielded]
    exact ⟨[], .nil, .inl ⟨rfl, hreceived⟩⟩
  · refine ⟨_, ?_, .inr rfl⟩
    rw [hyielded]
    refine .cons (parse_sseJsonEvent hjson fun _ => rfl) (reads_receipts hjson filter ?_ ?_)
    · intro event hmem
      have hvalue : event ∈ (Api.receivedBy es).filterMap Received.value? :=
        List.mem_filterMap.mpr ⟨_, hmem, rfl⟩
      exact (hevents event (hordered.mem (List.mem_append_left _ hvalue))).acceptable _
    · intro skipped hmem
      have hle := le_total_of_mem hmem
      omega

end Frames

end Web
end PipeBolt
