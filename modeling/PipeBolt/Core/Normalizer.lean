import PipeBolt.Core.RouteMatcher

/-!
# The normalizer

`pipe_bolt_core::pipeline::normalizer` and `normalize_routed_message`: a message becomes an event
under the first route whose filter matches its topic.

The JSON crate is a parameter, and so is the text of the UUID that names the event.

* `normalize_eq_ok`: what an event takes from its route and its mapping.
* `normalizeRoutedMessage_eq_none_iff`: no event is made exactly when no route matches.
-/

namespace PipeBolt
namespace Core
namespace Pipeline

open Domain Rust Fallible

/-! ## The JSON crate -/

/-- The part of `serde_json` that reads and writes texts: `from_slice`, `to_vec` and the `Display`
of a number. -/
structure SerdeJson where
  fromSlice : List UInt8 → Except String Value
  toVec : Value → Except String (List UInt8)
  numberToString : Number → String

/-! ## Limits -/

/-- `NormalizerLimits`. -/
structure NormalizerLimits where
  maxPayloadSizeBytes : Nat
  maxRawPayloadSizeBytes : Nat
  maxJsonDepth : Nat
  maxExtractedFields : Nat
  retainRawPayload : Bool
  deriving DecidableEq, Repr

/-- `NormalizerLimits::default`. -/
def NormalizerLimits.default : NormalizerLimits where
  maxPayloadSizeBytes := 256 * 1024
  maxRawPayloadSizeBytes := 64 * 1024
  maxJsonDepth := 32
  maxExtractedFields := 128
  retainRawPayload := true

/-- `validate_payload_size`. -/
def validatePayloadSize (payload : List UInt8) (max : Nat) : Except MqttEngineError Unit :=
  if max < payload.length then .error (.pipeline (.payloadTooLarge payload.length max))
  else .ok ()

/-! ## Payloads -/

mutual

/-- `json_depth`. -/
def jsonDepth : Value → Nat
  | .array values => jsonDepthArray values + 1
  | .object entries => jsonDepthObject entries + 1
  | .null | .bool _ | .number _ | .string _ => 1

/-- The depth of the deepest element of an array, or zero. -/
def jsonDepthArray : List Value → Nat
  | [] => 0
  | value :: values => max (jsonDepth value) (jsonDepthArray values)

/-- The depth of the deepest value of an object, or zero. -/
def jsonDepthObject : List (String × Value) → Nat
  | [] => 0
  | (_, value) :: entries => max (jsonDepth value) (jsonDepthObject entries)

end

/-- `decode_payload`. -/
def decodePayload (json : SerdeJson) (codec : PayloadCodecKind) (payload : List UInt8)
    (maxJsonDepth : Nat) : Except MqttEngineError DecodedPayload :=
  match codec with
  | .json => do
    let value ← (json.fromSlice payload).mapError fun message => .pipeline (.invalidJson message)
    if maxJsonDepth < jsonDepth value then
      .error (.pipeline (.jsonTooDeep (jsonDepth value) maxJsonDepth))
    else .ok (.json value)
  | .raw => .ok (.raw payload)

/-- `content_type_for_codec`. -/
def contentTypeForCodec : PayloadCodecKind → Option String
  | .json => some "application/json"
  | .raw => none

/-- `build_raw_payload_ref`. -/
def buildRawPayloadRef (payload : List UInt8) (codec : PayloadCodecKind) (retainRawPayload : Bool)
    (maxRawPayloadSizeBytes : Nat) : Except MqttEngineError (Option RawPayloadRef) :=
  if !retainRawPayload then .ok none
  else if maxRawPayloadSizeBytes < payload.length then
    .error (.pipeline (.rawPayloadTooLarge payload.length maxRawPayloadSizeBytes))
  else
    .ok (some {
      byteLen := payload.length
      contentType := contentTypeForCodec codec
      bytes := payload })

/-- `extract_device_id`. -/
def extractDeviceId (json : SerdeJson) (route : TopicRouteConfig) (params : TopicParams)
    (payload : DecodedPayload) : Except MqttEngineError (Option String) :=
  match route.deviceId with
  | .none => .ok none
  | .static value => .ok (some value)
  | .topicWildcardIndex index => .ok (params.single index.toNat)
  | .payloadField path =>
    match payload with
    | .raw _ => .error (.pipeline .deviceIdRequiresJson)
    | .json value =>
      match getJsonPath value path.segments with
      | none => .ok none
      | some (.string value) => .ok (some value)
      | some (.number value) => .ok (some (json.numberToString value))
      | some (.bool value) => .ok (some (if value then "true" else "false"))
      | some .null | some (.array _) | some (.object _) =>
        .error (.pipeline .invalidDeviceIdFieldType)

/-! ## Fields -/

/-- `json_type_name`. -/
def jsonTypeName : Value → String
  | .null => "null"
  | .bool _ => "boolean"
  | .number _ => "number"
  | .string _ => "string"
  | .array _ => "array"
  | .object _ => "object"

/-- `field_value_type_name`. -/
def fieldValueTypeName : FieldValueType → String
  | .string => "string"
  | .number => "number"
  | .boolean => "boolean"
  | .object => "object"
  | .array => "array"

/-- The value has the type that a mapping expects. -/
def hasType : FieldValueType → Value → Bool
  | .string, .string _ | .number, .number _ | .boolean, .bool _ | .object, .object _
  | .array, .array _ => true
  | .string, _ | .number, _ | .boolean, _ | .object, _ | .array, _ => false

/-- `coerce_field_value`. -/
def coerceFieldValue (target : String) (value : Value) (expected : FieldValueType) :
    Except MqttEngineError FieldValue :=
  if hasType expected value then .ok (.fromJson value)
  else .error (.pipeline (.typeMismatch target (fieldValueTypeName expected) (jsonTypeName value)))

/-- `extract_field`. -/
def extractField (payload : Value) (fields : BTreeMap FieldValue) (field : FieldMapping) :
    Except MqttEngineError (BTreeMap FieldValue) :=
  match getJsonPath payload field.source.segments with
  | some value => do
    let value ← coerceFieldValue field.target value field.valueType
    return fields.insert field.target value
  | none =>
    if field.required then
      .error (.pipeline (.missingRequiredField field.target field.source.raw))
    else
      match field.default with
      | some default => do
        let value ← coerceFieldValue field.target default field.valueType
        return fields.insert field.target value
      | none => .ok fields

/-- `extract_fields`. -/
def extractFields (mapping : Option PayloadSchemaMapping) (payload : DecodedPayload)
    (maxExtractedFields : Nat) : Except MqttEngineError (BTreeMap FieldValue) :=
  match mapping with
  | none => .ok []
  | some mapping => do
    mapping.validate.mapError MqttEngineError.fromDomain
    if maxExtractedFields < mapping.fields.length then
      .error (.pipeline (.tooManyExtractedFields mapping.fields.length maxExtractedFields))
    else
      match payload with
      | .raw _ => .error (.pipeline .mappingRequiresJson)
      | .json (.object entries) => mapping.fields.foldlM (extractField (.object entries)) []
      | .json .null | .json (.bool _) | .json (.number _) | .json (.string _)
      | .json (.array _) => .error (.pipeline .mappingRequiresJsonObject)

/-! ## Events -/

/-- `NormalizationContext`. -/
structure NormalizationContext where
  projectId : ProjectId
  route : TopicRouteConfig
  params : TopicParams
  schemaMapping : Option PayloadSchemaMapping

/-- `EventNormalizer`. -/
structure EventNormalizer where
  limits : NormalizerLimits

/-- `EventNormalizer::normalize`; `uuid` is the text of `Uuid::now_v7()`. -/
def EventNormalizer.normalize (json : SerdeJson) (uuid : String) (normalizer : EventNormalizer)
    (message : MqttMessage) (context : NormalizationContext) :
    Except MqttEngineError NormalizedEvent := do
  context.route.validate.mapError MqttEngineError.fromDomain
  validatePayloadSize message.payload normalizer.limits.maxPayloadSizeBytes
  let payload ← decodePayload json context.route.codec message.payload
    normalizer.limits.maxJsonDepth
  let deviceId ← extractDeviceId json context.route context.params payload
  let fields ← extractFields context.schemaMapping payload normalizer.limits.maxExtractedFields
  let topic ← (TopicName.new message.topic).mapError MqttEngineError.fromDomain
  let raw ← buildRawPayloadRef message.payload context.route.codec
    normalizer.limits.retainRawPayload normalizer.limits.maxRawPayloadSizeBytes
  let eventId : EventId ← (Identifier.new s!"evt_{uuid}").mapError MqttEngineError.fromDomain
  return {
    id := eventId
    correlationId := eventId.raw
    projectId := context.projectId
    brokerId := context.route.brokerId
    routeId := context.route.id
    schemaMappingId := context.schemaMapping.map PayloadSchemaMapping.id
    topic
    deviceId
    eventType := context.route.eventType
    receivedAt := message.receivedAt
    payloadSizeBytes := message.payload.length
    payload
    fields
    raw
    normalizationErrors := []
    metadata := [] }

/-- What an event takes from its route and from the mapping that was applied. -/
structure FromContext (context : NormalizationContext) (event : NormalizedEvent) : Prop where
  projectId : event.projectId = context.projectId
  brokerId : event.brokerId = context.route.brokerId
  routeId : event.routeId = context.route.id
  eventType : event.eventType = context.route.eventType
  schemaMappingId : event.schemaMappingId = context.schemaMapping.map PayloadSchemaMapping.id

theorem EventNormalizer.normalize_eq_ok {json : SerdeJson} {uuid : String}
    {normalizer : EventNormalizer} {message : MqttMessage} {context : NormalizationContext}
    {event : NormalizedEvent}
    (h : normalizer.normalize json uuid message context = .ok event) :
    FromContext context event ∧
      extractFields context.schemaMapping event.payload normalizer.limits.maxExtractedFields =
        .ok event.fields := by
  obtain ⟨-, h⟩ := check_eq_ok_iff.mp h
  obtain ⟨-, h⟩ := check_eq_ok_iff.mp h
  obtain ⟨payload, -, h⟩ := bind_eq_ok_iff.mp h
  obtain ⟨deviceId, -, h⟩ := bind_eq_ok_iff.mp h
  obtain ⟨fields, hfields, h⟩ := bind_eq_ok_iff.mp h
  obtain ⟨topic, -, h⟩ := bind_eq_ok_iff.mp h
  obtain ⟨raw, -, h⟩ := bind_eq_ok_iff.mp h
  obtain ⟨eventId, -, h⟩ := bind_eq_ok_iff.mp h
  obtain rfl := Except.ok.inj h
  exact ⟨⟨rfl, rfl, rfl, rfl, rfl⟩, hfields⟩

/-- The lookup of the mapping that a route names, in `normalize_routed_message`. -/
def findSchemaMapping (schemaMappings : List PayloadSchemaMapping) (route : TopicRouteConfig) :
    Option PayloadSchemaMapping :=
  route.schemaMappingId.bind fun schemaMappingId =>
    schemaMappings.find? fun mapping => mapping.id == schemaMappingId

/-- `normalize_routed_message`. -/
def normalizeRoutedMessage (json : SerdeJson) (uuid : String) (matcher : ConfigRouteMatcher)
    (normalizer : EventNormalizer) (schemaMappings : List PayloadSchemaMapping)
    (message : MqttMessage) : Except MqttEngineError (Option NormalizedEvent) :=
  match matcher.matchMessage message with
  | none => .ok none
  | some found => do
    let event ← normalizer.normalize json uuid message {
      projectId := found.projectId
      route := found.route
      params := found.params
      schemaMapping := findSchemaMapping schemaMappings found.route }
    return some event

section NormalizeRouted

variable {json : SerdeJson} {uuid : String} {matcher : ConfigRouteMatcher}
  {normalizer : EventNormalizer} {schemaMappings : List PayloadSchemaMapping}
  {message : MqttMessage}

/-- No event is made, without an error, exactly when no route matches. -/
theorem normalizeRoutedMessage_eq_none_iff :
    normalizeRoutedMessage json uuid matcher normalizer schemaMappings message = .ok none ↔
      matcher.matchMessage message = none := by
  unfold normalizeRoutedMessage
  cases matcher.matchMessage message with
  | none => simp
  | some found =>
    simp only [reduceCtorEq, iff_false]
    intro h
    obtain ⟨event, -, h⟩ := bind_eq_ok_iff.mp h
    cases h

/-- An event comes from the route that matches and the mapping that is found for it. -/
theorem normalizeRoutedMessage_eq_some {event : NormalizedEvent}
    (h : normalizeRoutedMessage json uuid matcher normalizer schemaMappings message =
      .ok (some event)) :
    ∃ found, matcher.matchMessage message = some found ∧
      normalizer.normalize json uuid message {
        projectId := found.projectId
        route := found.route
        params := found.params
        schemaMapping := findSchemaMapping schemaMappings found.route } = .ok event := by
  unfold normalizeRoutedMessage at h
  cases hfound : matcher.matchMessage message with
  | none =>
    rw [hfound] at h
    cases h
  | some found =>
    rw [hfound] at h
    obtain ⟨event', hevent, h⟩ := bind_eq_ok_iff.mp h
    obtain rfl : event' = event := Option.some.inj (Except.ok.inj h)
    exact ⟨found, rfl, hevent⟩

end NormalizeRouted

end Pipeline
end Core
end PipeBolt
