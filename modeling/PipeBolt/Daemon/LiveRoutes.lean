import PipeBolt.Core.DispatchCalls
import PipeBolt.Core.RequiredPaths
import PipeBolt.Core.TopicCaptures
import PipeBolt.Daemon.BrokerRuntimes

/-!
# Live routes

A route is live when a message on it can become an event.  `validate_routes` compares a route with
the brokers and the names of the mappings; whether `EventNormalizer::normalize` takes any payload
for it is decided by the codec, the extraction of the device and the entries of the mapping
together, which no check looks at.

* `satisfiable_smallest`, `MappingLive.of_fields`: when the entries of a mapping can all be read
  from one payload.
* `hasEvent_iff`: which routes of an accepted configuration are live.
* `raw_route_dead`: an accepted configuration with a route that is not.
-/

namespace PipeBolt
namespace Daemon

open Domain PipeBolt.Core Pipeline Fallible Rust

/-! ## What a mapping needs -/

theorem segments_ne_nil (path : FieldPath) : path.segments ≠ [] := by
  rw [FieldPath.segments, split, Ne, List.map_eq_nil_iff]
  exact List.splitOn_ne_nil _ _

/-- An entry that is not read from a payload without its source: it is required, or its default is
not of its type. -/
def Needed (field : FieldMapping) : Bool :=
  field.required || field.default.any fun default => !hasType field.valueType default

/-- The source of an entry, and the type of what stands there. -/
def requiredPath (field : FieldMapping) : RequiredPath where
  segments := field.source.segments
  valueType := field.valueType
  nonempty := segments_ne_nil field.source

/-- The paths that a payload needs for the entries of a mapping. -/
def neededPaths (fields : List FieldMapping) : List RequiredPath :=
  (fields.filter Needed).map requiredPath

/-- The smallest payload for the mapping of a route. -/
def smallestPayload (mapping : Option PayloadSchemaMapping) : Value :=
  smallest (neededPaths (mapping.elim [] PayloadSchemaMapping.fields))

/-- The types of a device identifier. -/
def IsDeviceType (valueType : FieldValueType) : Prop :=
  valueType = .string ∨ valueType = .number ∨ valueType = .boolean

/-- The entries of a mapping and the extraction of the device ask nothing of a payload that
contradicts another demand or a limit. -/
structure MappingLive (deviceId : DeviceIdExtraction) (mapping : PayloadSchemaMapping) : Prop where
  few : mapping.fields.length ≤ NormalizerLimits.default.maxExtractedFields
  agree : ∀ field ∈ mapping.fields, ∀ path ∈ neededPaths mapping.fields,
    PathAgrees (requiredPath field) path
  device : ∀ source, deviceId = .payloadField source → ∀ path ∈ neededPaths mapping.fields,
    source.segments <+: path.segments →
      source.segments = path.segments ∧ IsDeviceType path.valueType
  shallow : ∀ path ∈ neededPaths mapping.fields,
    path.segments.length < NormalizerLimits.default.maxJsonDepth
  short : textLength (smallest (neededPaths mapping.fields)) ≤
    NormalizerLimits.default.maxRawPayloadSizeBytes

/-- The codec of a route gives what its mapping and the extraction of its device ask for. -/
structure RouteLive (route : TopicRouteConfig) (mapping : Option PayloadSchemaMapping) : Prop where
  raw : route.codec = .raw → mapping = none ∧ ∀ source, route.deviceId ≠ .payloadField source
  json : route.codec = .json → ∀ applied, mapping = some applied →
    MappingLive route.deviceId applied

section Entries

variable {fields : List FieldMapping} {field : FieldMapping} {payload : Value}

theorem requiredPath_mem_neededPaths (hfield : field ∈ fields) (hneeded : Needed field = true) :
    requiredPath field ∈ neededPaths fields :=
  List.mem_map_of_mem (List.mem_filter.mpr ⟨hfield, hneeded⟩)

theorem mem_neededPaths {path : RequiredPath} :
    path ∈ neededPaths fields ↔
      ∃ field ∈ fields, Needed field = true ∧ requiredPath field = path := by
  simp only [neededPaths, List.mem_map, List.mem_filter, and_assoc]

/-- An entry can be read when what stands at its source has its type, and something does if the
entry needs it. -/
theorem satisfiable_iff :
    Satisfiable payload field ↔
      (∀ value, sourceValue payload field = some value → hasType field.valueType value = true) ∧
        (Needed field = true → sourceValue payload field ≠ none) := by
  refine and_congr_right fun _ => ?_
  have hneeded : Needed field = true ↔ ¬ (field.required = false ∧
      ∀ default, field.default = some default → hasType field.valueType default = true) := by
    rw [Needed]
    cases field.required with
    | true => simp
    | false => cases field.default <;> simp
  rw [hneeded]
  exact ⟨fun h hcannot hnone => hcannot (h hnone), fun h hnone => by_contra fun hnot => h hnot hnone⟩

/-- The needed paths are found in a payload from which the entries can be read. -/
theorem exists_of_satisfiable (h : ∀ field ∈ fields, Satisfiable payload field) :
    ∀ path ∈ neededPaths fields, ∃ inner, getJsonPath payload path.segments = some inner ∧
      hasType path.valueType inner = true := by
  intro path hpath
  obtain ⟨field, hfield, hneeded, rfl⟩ := mem_neededPaths.mp hpath
  obtain ⟨htype, hfound⟩ := satisfiable_iff.mp (h field hfield)
  obtain ⟨inner, hinner⟩ := Option.ne_none_iff_exists'.mp (hfound hneeded)
  exact ⟨inner, hinner, htype inner hinner⟩

/-- Entries that can be read from one payload agree. -/
theorem pathAgrees_of_satisfiable (h : ∀ field ∈ fields, Satisfiable payload field)
    (hfield : field ∈ fields) {path : RequiredPath} (hpath : path ∈ neededPaths fields) :
    PathAgrees (requiredPath field) path := by
  rintro ⟨rest, hrest⟩
  obtain ⟨inner, hinner, htype⟩ := exists_of_satisfiable h path hpath
  have hsource := (h field hfield).1
  cases rest with
  | nil =>
    rw [List.append_nil] at hrest
    rw [if_pos hrest]
    rw [← hrest] at hinner
    exact hasType_unique (hsource inner hinner) htype
  | cons segment rest =>
    have hne : (requiredPath field).segments ≠ path.segments := by
      rw [← hrest]
      simp
    rw [if_neg hne]
    rw [← hrest] at hinner
    obtain ⟨outer, houter, hobject⟩ :=
      hasType_object_of_prefix hinner (List.cons_ne_nil segment rest)
    exact hasType_unique (hsource outer houter) hobject

/-- The paths of entries that agree do. -/
theorem pathAgrees_neededPaths
    (hagree : ∀ field ∈ fields, ∀ path ∈ neededPaths fields,
      PathAgrees (requiredPath field) path) :
    ∀ path ∈ neededPaths fields, ∀ other ∈ neededPaths fields, PathAgrees path other := by
  intro path hpath other hother
  obtain ⟨field, hfield, -, rfl⟩ := mem_neededPaths.mp hpath
  exact hagree field hfield other hother

/-- Entries that agree can be read from the smallest payload. -/
theorem satisfiable_smallest
    (hagree : ∀ field ∈ fields, ∀ path ∈ neededPaths fields,
      PathAgrees (requiredPath field) path)
    (hfield : field ∈ fields) : Satisfiable (smallest (neededPaths fields)) field := by
  have hpaths := hasPaths_smallest (pathAgrees_neededPaths hagree)
  refine satisfiable_iff.mpr ⟨fun value hvalue => ?_, fun hneeded => ?_⟩
  · obtain ⟨path, hpath, hprefix, htype⟩ :=
      hpaths.only field.source.segments value hvalue (segments_ne_nil field.source)
    have hsame : field.valueType =
        if field.source.segments = path.segments then path.valueType else .object :=
      hagree field hfield path hpath hprefix
    rw [hsame]
    exact htype
  · obtain ⟨inner, hinner, -⟩ := hpaths.found _ (requiredPath_mem_neededPaths hfield hneeded)
    exact Option.ne_none_iff_exists'.mpr ⟨inner, hinner⟩

end Entries

/-! ## Messages of a route -/

/-- What is used of the JSON crate: a text is not shorter than the shortest text of what is read
from it, and a value is read from its shortest text, up to the depth at which the crate stops. -/
structure ReadsJson (json : SerdeJson) (value : Value) : Prop where
  length : ∀ payload read, json.fromSlice payload = .ok read → textLength read ≤ payload.length
  compact : jsonDepth value ≤ 127 →
    ∃ payload, payload.length = textLength value ∧ json.fromSlice payload = .ok value

/-- The steps of `EventNormalizer::normalize` with the default limits. -/
structure Normalizes (json : SerdeJson) (message : MqttMessage) (context : NormalizationContext)
    (payload : DecodedPayload) : Prop where
  short : message.payload.length ≤ NormalizerLimits.default.maxRawPayloadSizeBytes
  decoded : decodePayload json context.route.codec message.payload
    NormalizerLimits.default.maxJsonDepth = .ok payload
  device : ∃ deviceId, extractDeviceId json context.route context.params payload = .ok deviceId
  fields : ∃ fields, extractFields context.schemaMapping payload
    NormalizerLimits.default.maxExtractedFields = .ok fields

section Message

variable {json : SerdeJson} {uuid : String} {message : MqttMessage}
  {context : NormalizationContext}

theorem Normalizes.of_event {event : NormalizedEvent}
    (h : EventNormalizer.normalize json uuid ⟨.default⟩ message context = .ok event) :
    ∃ payload, Normalizes json message context payload := by
  obtain ⟨-, h⟩ := check_eq_ok_iff.mp h
  obtain ⟨-, h⟩ := check_eq_ok_iff.mp h
  obtain ⟨payload, hdecoded, h⟩ := bind_eq_ok_iff.mp h
  obtain ⟨deviceId, hdevice, h⟩ := bind_eq_ok_iff.mp h
  obtain ⟨fields, hfields, h⟩ := bind_eq_ok_iff.mp h
  obtain ⟨topic, -, h⟩ := bind_eq_ok_iff.mp h
  obtain ⟨raw, hraw, -⟩ := bind_eq_ok_iff.mp h
  obtain ⟨hshort, -⟩ := guard_eq_ok_iff.mp hraw
  exact ⟨payload, Nat.le_of_not_lt hshort, hdecoded, ⟨deviceId, hdevice⟩, ⟨fields, hfields⟩⟩

theorem Normalizes.exists_event {payload : DecodedPayload}
    (h : Normalizes json message context payload) (hroute : context.route.validate = .ok ())
    (htopic : TopicName.new message.topic = .ok ⟨message.topic⟩) (hlen : len uuid = 36)
    (hchars : ∀ c ∈ uuid.toList, isUuidChar c = true) :
    ∃ event, EventNormalizer.normalize json uuid ⟨.default⟩ message context = .ok event := by
  obtain ⟨deviceId, hdevice⟩ := h.device
  obtain ⟨fields, hfields⟩ := h.fields
  have hsize : validatePayloadSize message.payload
      NormalizerLimits.default.maxPayloadSizeBytes = .ok () :=
    if_neg (Nat.not_lt.mpr (Nat.le_trans h.short (by decide)))
  obtain ⟨raw, hraw⟩ : ∃ raw, buildRawPayloadRef message.payload context.route.codec
      NormalizerLimits.default.retainRawPayload
      NormalizerLimits.default.maxRawPayloadSizeBytes = .ok raw :=
    ⟨_, if_neg (Nat.not_lt.mpr h.short)⟩
  obtain ⟨eventId, hid⟩ : ∃ eventId : EventId, Identifier.new s!"evt_{uuid}" = .ok eventId := by
    have htext : s!"evt_{uuid}" = "evt_" ++ uuid := by
      simp [ToString.toString]
    have hid : IsIdentifier ("evt_" ++ uuid) :=
      isIdentifier_uuid (by decide) (by decide) hlen hchars
    refine ⟨⟨"evt_" ++ uuid⟩, ?_⟩
    rw [htext, Identifier.new, validateIdentifier_eq_ok_iff.mpr hid]
    rfl
  refine isOk_bind (mapError_eq_ok_iff.mpr hroute) (isOk_bind hsize (isOk_bind h.decoded ?_))
  refine isOk_bind hdevice (isOk_bind hfields (isOk_bind (mapError_eq_ok_iff.mpr htopic) ?_))
  exact isOk_bind hraw (isOk_bind (mapError_eq_ok_iff.mpr hid) ⟨_, rfl⟩)

end Message

/-! ## The device and the fields -/

section Json

variable {json : SerdeJson} {route : TopicRouteConfig} {params : TopicParams} {value : Value}
  {mapping : PayloadSchemaMapping}

/-- A device is extracted from a JSON payload unless its path leads to a value of another type. -/
theorem extractDeviceId_isOk_iff :
    (∃ deviceId, extractDeviceId json route params (.json value) = .ok deviceId) ↔
      ∀ source, route.deviceId = .payloadField source →
        ∀ inner, getJsonPath value source.segments = some inner →
          ∃ valueType, IsDeviceType valueType ∧ hasType valueType inner = true := by
  unfold extractDeviceId
  cases route.deviceId with
  | none => simp
  | static text => simp
  | topicWildcardIndex index => simp
  | payloadField path =>
    simp only [DeviceIdExtraction.payloadField.injEq, forall_eq']
    cases getJsonPath value path.segments with
    | none => simp
    | some inner => cases inner <;> simp [IsDeviceType, hasType]

/-- A mapping is live when fields are extracted with it and a device is, from a payload within the
limits. -/
theorem MappingLive.of_fields {fields : BTreeMap FieldValue}
    (hfields : extractFields (some mapping) (.json value)
      NormalizerLimits.default.maxExtractedFields = .ok fields)
    (hdevice : ∃ deviceId, extractDeviceId json route params (.json value) = .ok deviceId)
    (hdepth : jsonDepth value ≤ NormalizerLimits.default.maxJsonDepth)
    (hlength : textLength value ≤ NormalizerLimits.default.maxRawPayloadSizeBytes) :
    MappingLive route.deviceId mapping := by
  have hobject : ∃ entries, value = .object entries := by
    cases value with
    | object entries => exact ⟨entries, rfl⟩
    | null | bool | number | string | array =>
      obtain ⟨-, h⟩ := check_eq_ok_iff.mp hfields
      obtain ⟨-, h⟩ := guard_eq_ok_iff.mp h
      cases h
  obtain ⟨entries, rfl⟩ := hobject
  obtain ⟨hvalid, hlimit⟩ := extractFields_eq_ok hfields
  have hread := (extractFields_isOk_iff hvalid hlimit).mp ⟨fields, hfields⟩
  have hfound := exists_of_satisfiable hread
  refine ⟨hlimit, fun field hfield path hpath => pathAgrees_of_satisfiable hread hfield hpath,
    fun source hsource path hpath => ?_, fun path hpath => ?_, ?_⟩
  · rintro ⟨rest, hrest⟩
    obtain ⟨inner, hinner, htype⟩ := hfound path hpath
    have hallowed := extractDeviceId_isOk_iff.mp hdevice source hsource
    cases rest with
    | nil =>
      rw [List.append_nil] at hrest
      rw [← hrest] at hinner
      obtain ⟨valueType, hvalueType, hinnerType⟩ := hallowed inner hinner
      exact ⟨hrest, hasType_unique htype hinnerType ▸ hvalueType⟩
    | cons segment rest =>
      -- The device would be an object.
      rw [← hrest] at hinner
      obtain ⟨outer, houter, houterType⟩ :=
        hasType_object_of_prefix hinner (List.cons_ne_nil segment rest)
      obtain ⟨valueType, hvalueType, hdeviceType⟩ := hallowed outer houter
      obtain rfl := hasType_unique houterType hdeviceType
      rcases hvalueType with h | h | h <;> cases h
  · obtain ⟨inner, hinner, -⟩ := hfound path hpath
    have hdeep := length_add_jsonDepth_le hinner
    have hone := one_le_jsonDepth inner
    omega
  · exact Nat.le_trans (textLength_smallest_le rfl hfound) hlength

/-- The fields are extracted from the smallest payload. -/
theorem MappingLive.exists_fields (h : MappingLive route.deviceId mapping)
    (hvalid : mapping.validate = .ok ()) :
    ∃ fields, extractFields (some mapping) (.json (smallestPayload (some mapping)))
      NormalizerLimits.default.maxExtractedFields = .ok fields := by
  have hread : ∀ field ∈ mapping.fields,
      Satisfiable (smallestPayload (some mapping)) field :=
    fun field hfield => satisfiable_smallest h.agree hfield
  have hroot := (hasPaths_smallest (pathAgrees_neededPaths h.agree)).root
  obtain ⟨entries, hentries⟩ := hasType_object_iff.mp hroot
  rw [smallestPayload, Option.elim, hentries] at hread ⊢
  exact (extractFields_isOk_iff hvalid h.few).mpr hread

/-- The device is extracted from it. -/
theorem MappingLive.exists_device (h : MappingLive route.deviceId mapping) :
    ∃ deviceId, extractDeviceId json route params (.json (smallestPayload (some mapping))) =
      .ok deviceId := by
  refine extractDeviceId_isOk_iff.mpr fun source hsource inner hinner => ?_
  have hpaths := hasPaths_smallest (pathAgrees_neededPaths h.agree)
  obtain ⟨path, hpath, hprefix, htype⟩ :=
    hpaths.only source.segments inner hinner (segments_ne_nil source)
  obtain ⟨hsame, hvalueType⟩ := h.device source hsource path hpath hprefix
  rw [if_pos hsame] at htype
  exact ⟨path.valueType, hvalueType, htype⟩

/-- From the empty object no device is extracted, without an error. -/
theorem exists_device_none :
    ∃ deviceId, extractDeviceId json route params (.json (smallestPayload none)) =
      .ok deviceId := by
  refine extractDeviceId_isOk_iff.mpr fun source _ inner hinner => ?_
  cases hsegments : source.segments with
  | nil => exact absurd hsegments (segments_ne_nil source)
  | cons segment segments =>
    rw [hsegments] at hinner
    cases hinner

/-- What a route needs of its payload, when it is JSON. -/
theorem RouteLive.smallestPayload_within {mapping : Option PayloadSchemaMapping}
    (h : RouteLive route mapping) (hcodec : route.codec = .json) :
    jsonDepth (smallestPayload mapping) ≤ NormalizerLimits.default.maxJsonDepth ∧
      textLength (smallestPayload mapping) ≤ NormalizerLimits.default.maxRawPayloadSizeBytes := by
  cases mapping with
  | none => decide
  | some applied =>
    have hlive := h.json hcodec applied rfl
    exact ⟨jsonDepth_smallest_le (by decide) hlive.shallow, hlive.short⟩

end Json

/-! ## The routes of an accepted configuration -/

/-- Some message on a route becomes an event, with the mapping that the route names. -/
def HasEvent (json : SerdeJson) (uuid : String) (config : ProjectConfig)
    (route : TopicRouteConfig) : Prop :=
  ∃ (message : MqttMessage) (params : TopicParams) (event : NormalizedEvent),
    (TopicFilterMatcher.ofText route.topicFilter.raw).matches message.topic = some params ∧
      EventNormalizer.normalize json uuid ⟨.default⟩ message {
        projectId := config.id
        route
        params
        schemaMapping := findSchemaMapping config.schemaMappings route } = .ok event

section Routes

variable {json : SerdeJson} {uuid : String} {config : ProjectConfig} {route : TopicRouteConfig}

/-- A route on which a message becomes an event asks nothing of a raw payload. -/
theorem HasEvent.of_raw (h : HasEvent json uuid config route) (hcodec : route.codec = .raw) :
    findSchemaMapping config.schemaMappings route = none ∧
      ∀ source, route.deviceId ≠ .payloadField source := by
  obtain ⟨message, params, event, -, hevent⟩ := h
  obtain ⟨payload, -, hdecoded, hdevice, fields, hfields⟩ := Normalizes.of_event hevent
  rw [hcodec] at hdecoded
  obtain rfl := Except.ok.inj hdecoded
  refine ⟨?_, fun source hsource => ?_⟩
  · cases hmapping : findSchemaMapping config.schemaMappings route with
    | none => rfl
    | some applied =>
      rw [hmapping] at hfields
      obtain ⟨-, hfields⟩ := check_eq_ok_iff.mp hfields
      obtain ⟨-, hfields⟩ := guard_eq_ok_iff.mp hfields
      cases hfields
  · obtain ⟨deviceId, hdevice⟩ := hdevice
    rw [extractDeviceId, hsource] at hdevice
    cases hdevice

/-- What it asks of a JSON payload holds of one. -/
theorem HasEvent.of_json (h : HasEvent json uuid config route)
    (hlength : ∀ payload read, json.fromSlice payload = .ok read →
      textLength read ≤ payload.length)
    (hcodec : route.codec = .json) {applied : PayloadSchemaMapping}
    (happlied : findSchemaMapping config.schemaMappings route = some applied) :
    MappingLive route.deviceId applied := by
  obtain ⟨message, params, event, -, hevent⟩ := h
  obtain ⟨payload, hshort, hdecoded, hdevice, fields, hfields⟩ := Normalizes.of_event hevent
  rw [hcodec] at hdecoded
  obtain ⟨value, hvalue, hdecoded⟩ := bind_eq_ok_iff.mp hdecoded
  obtain ⟨hdepth, hdecoded⟩ := guard_eq_ok_iff.mp hdecoded
  obtain rfl := Except.ok.inj hdecoded
  have hread := hlength message.payload value (mapError_eq_ok_iff.mp hvalue)
  rw [happlied] at hfields
  exact .of_fields hfields hdevice (Nat.le_of_not_lt hdepth) (Nat.le_trans hread hshort)

/-- A live route has a payload that becomes an event, whatever the topic. -/
theorem RouteLive.exists_payload
    (h : RouteLive route (findSchemaMapping config.schemaMappings route))
    (hroute : route.validate = .ok ())
    (hmappings : ∀ mapping ∈ config.schemaMappings, mapping.validate = .ok ())
    (hjson : route.codec = .json →
      ReadsJson json (smallestPayload (findSchemaMapping config.schemaMappings route)))
    (hlen : len uuid = 36) (hchars : ∀ c ∈ uuid.toList, isUuidChar c = true)
    (params : TopicParams) :
    ∃ bytes, ∀ message : MqttMessage, message.payload = bytes →
      TopicName.new message.topic = .ok ⟨message.topic⟩ →
        ∃ event, EventNormalizer.normalize json uuid ⟨.default⟩ message {
          projectId := config.id
          route
          params
          schemaMapping := findSchemaMapping config.schemaMappings route } = .ok event := by
  suffices hpayload : ∃ bytes payload, ∀ message : MqttMessage, message.payload = bytes →
      Normalizes json message {
        projectId := config.id
        route
        params
        schemaMapping := findSchemaMapping config.schemaMappings route } payload by
    obtain ⟨bytes, payload, hnormal⟩ := hpayload
    exact ⟨bytes, fun message hbytes hname =>
      (hnormal message hbytes).exists_event hroute hname hlen hchars⟩
  cases hcodec : route.codec with
  | raw =>
    obtain ⟨hnone, hdevice⟩ := h.raw hcodec
    refine ⟨[], .raw [], fun message hbytes => ⟨?_, ?_, ?_, ?_⟩⟩
    · rw [hbytes]
      exact Nat.zero_le _
    · rw [hbytes, hcodec]
      rfl
    · rw [extractDeviceId]
      cases hkind : route.deviceId with
      | none => exact ⟨_, rfl⟩
      | static text => exact ⟨_, rfl⟩
      | topicWildcardIndex index => exact ⟨_, rfl⟩
      | payloadField source => exact absurd hkind (hdevice source)
    · rw [hnone]
      exact ⟨[], rfl⟩
  | json =>
    obtain ⟨hdepth, hlength⟩ := h.smallestPayload_within hcodec
    obtain ⟨bytes, hbytes, hread⟩ := (hjson hcodec).compact (Nat.le_trans hdepth (by decide))
    refine ⟨bytes, .json (smallestPayload (findSchemaMapping config.schemaMappings route)),
      fun message hmessage => ⟨?_, ?_, ?_, ?_⟩⟩
    · rw [hmessage, hbytes]
      exact hlength
    · rw [hmessage, hcodec, decodePayload, hread]
      exact if_neg (Nat.not_lt.mpr hdepth)
    · cases hmapping : findSchemaMapping config.schemaMappings route with
      | none => exact exists_device_none
      | some applied => exact (h.json hcodec applied hmapping).exists_device
    · cases hmapping : findSchemaMapping config.schemaMappings route with
      | none => exact ⟨[], rfl⟩
      | some applied =>
        refine (h.json hcodec applied hmapping).exists_fields (hmappings applied ?_)
        obtain ⟨id, -, hfound⟩ := Option.bind_eq_some_iff.mp hmapping
        exact List.mem_of_find?_eq_some hfound

/-- On a live route a message becomes an event. -/
theorem RouteLive.hasEvent
    (h : RouteLive route (findSchemaMapping config.schemaMappings route))
    (hroute : route.validate = .ok ())
    (hmappings : ∀ mapping ∈ config.schemaMappings, mapping.validate = .ok ())
    (hjson : ReadsJson json (smallestPayload (findSchemaMapping config.schemaMappings route)))
    (hlen : len uuid = 36) (hchars : ∀ c ∈ uuid.toList, isUuidChar c = true) :
    HasEvent json uuid config route := by
  obtain ⟨-, hrest⟩ := check_eq_ok_iff.mp hroute
  obtain ⟨-, hfilter⟩ := check_eq_ok_iff.mp hrest
  obtain ⟨topic, hname, htopic, hlevels⟩ := exists_topic hfilter
  have hparse : TopicFilterMatcher.parse route.topicFilter.raw =
      .ok (.ofText route.topicFilter.raw) :=
    TopicFilterMatcher.parse_eq_ok_iff.mpr ⟨hfilter, rfl⟩
  obtain ⟨params, hparams⟩ :=
    Option.isSome_iff_exists.mp ((matches_isSome_iff hparse hname).mpr hlevels)
  obtain ⟨bytes, hevents⟩ :=
    h.exists_payload hroute hmappings (fun _ => hjson) hlen hchars params
  obtain ⟨event, hevent⟩ := hevents ⟨topic, .atMostOnce, false, bytes, 0, hname⟩ rfl htopic
  exact ⟨_, params, event, hparams, hevent⟩

/-- For every configuration that `validate_runtime_config` accepts and every enabled route of it:
the mapping that is looked up is the one that the route names, and some message on the route becomes
an event if and only if the route is live. -/
theorem hasEvent_iff (hconfig : validateRuntimeConfig config = .ok ())
    (hroute : route ∈ config.routes) (henabled : route.enabled = true)
    (hjson : ReadsJson json (smallestPayload (findSchemaMapping config.schemaMappings route)))
    (hlen : len uuid = 36) (hchars : ∀ c ∈ uuid.toList, isUuidChar c = true) :
    (findSchemaMapping config.schemaMappings route).map PayloadSchemaMapping.id =
        route.schemaMappingId ∧
      (HasEvent json uuid config route ↔
        RouteLive route (findSchemaMapping config.schemaMappings route)) := by
  have hvalid := validateRuntimeConfig_eq_ok_iff.mp hconfig
  refine ⟨hvalid.mapping_found hroute henabled, fun h => ⟨h.of_raw, fun hcodec applied happlied =>
    h.of_json hjson.length hcodec happlied⟩, fun h => ?_⟩
  exact h.hasEvent (hvalid.parts_valid.2 route hroute) hvalid.mappings_valid hjson hlen hchars

end Routes

/-! ## A route with either codec -/

/-- A mapping of a required temperature. -/
def gaugeMapping : PayloadSchemaMapping where
  id := ⟨"gauge"⟩
  name := "Gauge"
  fields := [{
    source := ⟨"temperature"⟩
    target := "temperature"
    valueType := .number
    required := true
    default := none }]

/-- A route that names the mapping. -/
def gaugeRoute (codec : PayloadCodecKind) : TopicRouteConfig where
  id := ⟨"gauge"⟩
  brokerId := ⟨"main"⟩
  name := "Gauge"
  topicFilter := ⟨"devices/+/gauge"⟩
  codec
  schemaMappingId := some ⟨"gauge"⟩
  deviceId := .topicWildcardIndex 0
  eventType := "gauge"
  qos := .atLeastOnce
  enabled := true
  backpressure := .reject

/-- A project of the route. -/
def gaugeProject (codec : PayloadCodecKind) : ProjectConfig :=
  { plantProject "s3cret" [] [] with
    routes := [gaugeRoute codec]
    schemaMappings := [gaugeMapping] }

example : validateRuntimeConfig (gaugeProject .json) = .ok () := by decide +kernel

/-- The text of the object with the temperature zero. -/
def gaugeText : List UInt8 :=
  [123, 34, 116, 101, 109, 112, 101, 114, 97, 116, 117, 114, 101, 34, 58, 48, 125]

/-- The reading of the text. -/
def gaugeJson : SerdeJson where
  fromSlice bytes :=
    if bytes = gaugeText then .ok (.object [("temperature", .number (.posInt 0))])
    else .error "expected value"
  toVec _ := .ok [110, 117, 108, 108]
  numberToString _ := "0"

/-- The path of the temperature. -/
def gaugePath : RequiredPath := ⟨["temperature"], .number, List.cons_ne_nil _ _⟩

theorem neededPaths_gauge : neededPaths gaugeMapping.fields = [gaugePath] := by
  have hsegments : FieldPath.segments ⟨"temperature"⟩ = ["temperature"] := by decide +kernel
  have hpath : ∀ field : FieldMapping, field.source = ⟨"temperature"⟩ →
      field.valueType = .number → requiredPath field = gaugePath := by
    rintro ⟨source, target, valueType, required, default⟩ hsource hvalueType
    cases hsource
    cases hvalueType
    simp only [requiredPath, gaugePath, hsegments]
  rw [neededPaths, gaugeMapping, List.filter_singleton]
  exact congrArg (fun path => [path]) (hpath _ rfl rfl)

/-- What the smallest payload of the mapping is. -/
theorem smallest_gauge :
    smallest (neededPaths gaugeMapping.fields) = .object [("temperature", .number (.posInt 0))] := by
  rw [neededPaths_gauge]
  rfl

theorem mappingLive_gauge : MappingLive (gaugeRoute .json).deviceId gaugeMapping where
  few := by decide
  agree field hfield path hpath _ := by
    obtain rfl := List.mem_singleton.mp hfield
    obtain rfl := List.mem_singleton.mp hpath
    exact (if_pos rfl).symm
  device _ hsource := nomatch hsource
  shallow path hpath := by
    rw [neededPaths_gauge] at hpath
    obtain rfl := List.mem_singleton.mp hpath
    decide
  short := by
    rw [smallest_gauge]
    exact Nat.le_trans (by decide : _ ≤ 17) (by decide)

theorem readsJson_gauge : ReadsJson gaugeJson (smallestPayload (some gaugeMapping)) := by
  have hread : ∀ bytes, gaugeJson.fromSlice bytes =
      if bytes = gaugeText then .ok (.object [("temperature", .number (.posInt 0))])
      else .error "expected value" := fun _ => rfl
  rw [smallestPayload, Option.elim, smallest_gauge]
  refine ⟨fun payload read h => ?_, fun _ => ⟨gaugeText, by decide, ?_⟩⟩
  · rw [hread] at h
    split at h
    · next htext =>
      rw [htext, ← Except.ok.inj h]
      decide
    · cases h
  · rw [hread, if_pos rfl]

theorem hasEvent_iff_gauge :
    HasEvent gaugeJson "01890a5d-ac96-774b-bcce-b302099a8057" (gaugeProject .json)
      (gaugeRoute .json) := by
  have hmapping : findSchemaMapping (gaugeProject .json).schemaMappings (gaugeRoute .json) =
      some gaugeMapping := rfl
  have hlive : RouteLive (gaugeRoute .json) (some gaugeMapping) := by
    refine ⟨nofun, fun _ applied happlied => ?_⟩
    rw [← Option.some.inj happlied]
    exact mappingLive_gauge
  have huuid : "01890a5d-ac96-774b-bcce-b302099a8057".toList.all isUuidChar = true := by
    decide +kernel
  refine (hasEvent_iff (by decide +kernel) List.mem_cons_self rfl (hmapping ▸ readsJson_gauge)
    (by decide +kernel) (List.all_eq_true.mp huuid)).2.mpr ?_
  rw [hmapping]
  exact hlive

/-- No message on the route becomes an event if its codec is `raw`, whatever the crates do; the
configuration is accepted all the same. -/
theorem raw_route_dead :
    ¬ ∃ (json : SerdeJson) (uuid : String), ∀ config : ProjectConfig,
      validateRuntimeConfig config = .ok () → ∀ route ∈ config.routes, route.enabled = true →
        HasEvent json uuid config route := by
  rintro ⟨json, uuid, h⟩
  have hevent := h (gaugeProject .raw) (by decide +kernel) (gaugeRoute .raw) List.mem_cons_self rfl
  have hnone := (hevent.of_raw rfl).1
  exact absurd hnone (by decide)

end Daemon
end PipeBolt
