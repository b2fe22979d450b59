import PipeBolt.Core.TemplateText

/-!
# Requests for a command

The request of `pipe_bolt_core::command` that a client of the realtime endpoints sends, and
`telemetry_device` of `pipe_bolt_core::web::realtime::filter`: the topic of a command names one
device and one command, and the device is read back from it.

The texts of the errors of the engine and the decoder of the base64 crate are parameters.

* `normalizeSegment_eq_ok_iff`: the segments of a topic that a request may name.
* `split_commandTopic`: the levels of the topic.
* `CommandRequest.validate_topic`: the topic of an accepted request.
-/

namespace PipeBolt
namespace Core

open Domain Rust Fallible Pipeline Separated

def DEFAULT_COMMAND_NAMESPACE : String := "devices"
def DEFAULT_COMMAND_KIND : String := "command"
def MAX_DEVICE_ID_LEN : Nat := 128
def MAX_COMMAND_NAME_LEN : Nat := 128
def DEFAULT_COMMAND_MAX_PAYLOAD_BYTES : Nat := 64 * 1024

/-! ## Requests -/

/-- `CommandQos`. -/
inductive CommandQos where
  | atMostOnce
  | atLeastOnce
  | exactlyOnce
  deriving DecidableEq, Repr

/-- `From<CommandQos>` for `QoS`. -/
def CommandQos.toQoS : CommandQos → QoS
  | .atMostOnce => .atMostOnce
  | .atLeastOnce => .atLeastOnce
  | .exactlyOnce => .exactlyOnce

/-- `CommandPayload`. -/
inductive CommandPayload where
  | json (value : Value)
  | text (value : String)
  | base64 (value : String)
  | empty

/-- `CommandRequest`. -/
structure CommandRequest where
  device : String
  command : String
  payload : CommandPayload
  qos : CommandQos
  retain : Bool

/-- `ValidatedCommand`. -/
structure ValidatedCommand where
  device : String
  command : String
  topic : String
  qos : QoS
  retain : Bool
  payload : List UInt8
  deriving DecidableEq, Repr

/-- `CommandValidationError`. -/
inductive CommandValidationError where
  | invalidSegment (name reason : String)
  | invalidTopic (reason : String)
  | invalidPayload (reason : String)
  | payloadTooLarge (max actual : Nat)
  deriving DecidableEq, Repr

/-- `normalize_segment`. -/
def normalizeSegment (name value : String) (maxLen : Nat) :
    Except CommandValidationError String :=
  let value := trim value
  if value.isEmpty then .error (.invalidSegment name "must not be empty")
  else if maxLen < len value then .error (.invalidSegment name "is too long")
  else if containsChar value '/' || containsChar value '+' || containsChar value '#' ||
      containsChar value (Char.ofNat 0) then
    .error (.invalidSegment name "must be a single MQTT topic segment without wildcards")
  else .ok value

/-- The topic that `CommandRequest::validate` formats. -/
def commandTopic (device command : String) : String :=
  s!"{DEFAULT_COMMAND_NAMESPACE}/{device}/{DEFAULT_COMMAND_KIND}/{command}"

/-- `telemetry_device`. -/
def telemetryDevice (topic : String) : Option String :=
  match split topic '/' with
  | [] => none
  | namespaceLevel :: levels =>
    if namespaceLevel = "devices" ∨ namespaceLevel = "device" then
      levels.head?.filter fun device => !device.isEmpty
    else none

section Validate

variable (json : SerdeJson) (errorText : MqttEngineError → String)
  (base64Decode : String → Except String (List UInt8))

/-- `CommandPayload::into_bytes`. -/
def CommandPayload.intoBytes : CommandPayload → Except CommandValidationError (List UInt8)
  | .json value => (json.toVec value).mapError .invalidPayload
  | .text value => .ok value.toUTF8.data.toList
  | .base64 value =>
    (base64Decode (trim value)).mapError fun error =>
      .invalidPayload s!"invalid base64 payload: {error}"
  | .empty => .ok []

/-- `CommandRequest::validate`. -/
def CommandRequest.validate (request : CommandRequest) :
    Except CommandValidationError ValidatedCommand := do
  let device ← normalizeSegment "device" request.device MAX_DEVICE_ID_LEN
  let command ← normalizeSegment "command" request.command MAX_COMMAND_NAME_LEN
  let payload ← request.payload.intoBytes json base64Decode
  if DEFAULT_COMMAND_MAX_PAYLOAD_BYTES < payload.length then
    .error (.payloadTooLarge DEFAULT_COMMAND_MAX_PAYLOAD_BYTES payload.length)
  else
    let topic := commandTopic device command
    (validateTopicName topic).mapError fun error => .invalidTopic (errorText error)
    return {
      device
      command
      topic
      qos := request.qos.toQoS
      retain := request.retain
      payload }

end Validate

/-! ## Segments and levels -/

/-- A text that is one segment of a topic. -/
structure SegmentText (maxLen : Nat) (segment : String) : Prop where
  nonempty : segment ≠ ""
  short : len segment ≤ maxLen
  noSlash : '/' ∉ segment.toList
  noPlus : '+' ∉ segment.toList
  noHash : '#' ∉ segment.toList
  noNull : Char.ofNat 0 ∉ segment.toList

/-- The segments that are accepted, and what is made of them. -/
theorem normalizeSegment_eq_ok_iff {name value segment : String} {maxLen : Nat} :
    normalizeSegment name value maxLen = .ok segment ↔
      segment = trim value ∧ SegmentText maxLen segment := by
  rw [normalizeSegment, guard_eq_ok_iff, guard_eq_ok_iff, guard_eq_ok_iff]
  simp only [containsChar, Bool.or_eq_true, List.contains_iff_mem, not_or, Nat.not_lt,
    String.isEmpty_iff]
  constructor
  · rintro ⟨hempty, hshort, ⟨⟨⟨hslash, hplus⟩, hhash⟩, hnull⟩, h⟩
    obtain rfl := Except.ok.inj h
    exact ⟨rfl, hempty, hshort, hslash, hplus, hhash, hnull⟩
  · rintro ⟨rfl, hempty, hshort, hslash, hplus, hhash, hnull⟩
    exact ⟨hempty, hshort, ⟨⟨⟨hslash, hplus⟩, hhash⟩, hnull⟩, rfl⟩

theorem toList_commandTopic (device command : String) :
    (commandTopic device command).toList =
      "devices".toList ++ '/' :: (device.toList ++ '/' ::
        ("command".toList ++ '/' :: command.toList)) := by
  simp [commandTopic, DEFAULT_COMMAND_NAMESPACE, DEFAULT_COMMAND_KIND, toString]

/-- The topic of a command has four levels. -/
theorem split_commandTopic {device command : String} (hdevice : '/' ∉ device.toList)
    (hcommand : '/' ∉ command.toList) :
    split (commandTopic device command) '/' = ["devices", device, "command", command] := by
  rw [split, toList_commandTopic, splitOn_join, splitOn_join, splitOn_join,
    splitOn_of_notMem hdevice, splitOn_of_notMem hcommand,
    splitOn_of_notMem (by decide : '/' ∉ "devices".toList),
    splitOn_of_notMem (by decide : '/' ∉ "command".toList)]
  simp

/-- The device is the second level. -/
theorem telemetryDevice_eq_some {topic device : String} {levels : List String}
    (h : split topic '/' = "devices" :: device :: levels) (hdevice : device ≠ "") :
    telemetryDevice topic = some device := by
  have hempty : device.isEmpty = false := Bool.eq_false_iff.mpr (mt String.isEmpty_iff.mp hdevice)
  simp [telemetryDevice, h, hempty]

/-- What the topic of a command says. -/
structure CommandTopic (device command topic : String) : Prop where
  levels : split topic '/' = ["devices", device, "command", command]
  deviceSegment : SegmentText MAX_DEVICE_ID_LEN device
  commandSegment : SegmentText MAX_COMMAND_NAME_LEN command
  valid : validateTopicName topic = .ok ()
  telemetry : telemetryDevice topic = some device

theorem CommandTopic.injective {device command device' command' topic : String}
    (h : CommandTopic device command topic) (h' : CommandTopic device' command' topic) :
    device = device' ∧ command = command' := by
  have hlevels := h.levels.symm.trans h'.levels
  simpa using hlevels

section Accepted

variable {json : SerdeJson} {errorText : MqttEngineError → String}
  {base64Decode : String → Except String (List UInt8)}

/-- An accepted request names its device and its command without the white space around them. -/
theorem CommandRequest.validate_eq_ok {request : CommandRequest} {validated : ValidatedCommand}
    (h : request.validate json errorText base64Decode = .ok validated) :
    validated.device = trim request.device ∧ validated.command = trim request.command ∧
      validated.topic = commandTopic (trim request.device) (trim request.command) ∧
      CommandTopic (trim request.device) (trim request.command) validated.topic := by
  obtain ⟨device, hdevice, h⟩ := bind_eq_ok_iff.mp h
  obtain ⟨command, hcommand, h⟩ := bind_eq_ok_iff.mp h
  obtain ⟨payload, -, h⟩ := bind_eq_ok_iff.mp h
  obtain ⟨-, h⟩ := guard_eq_ok_iff.mp h
  obtain ⟨hvalid, h⟩ := check_eq_ok_iff.mp h
  obtain rfl := Except.ok.inj h
  obtain ⟨rfl, hdevice⟩ := normalizeSegment_eq_ok_iff.mp hdevice
  obtain ⟨rfl, hcommand⟩ := normalizeSegment_eq_ok_iff.mp hcommand
  have hlevels := split_commandTopic hdevice.noSlash hcommand.noSlash
  have htelemetry := telemetryDevice_eq_some hlevels hdevice.nonempty
  exact ⟨rfl, rfl, rfl, hlevels, hdevice, hcommand, mapError_eq_ok_iff.mp hvalid, htelemetry⟩

end Accepted

/-- The topic of an accepted request has the four levels `devices`, its device, `command` and its
command; the device is read back from it, and requests for another device or another command have
another topic. -/
theorem CommandRequest.validate_topic (json : SerdeJson) (errorText : MqttEngineError → String)
    (base64Decode : String → Except String (List UInt8)) (request : CommandRequest)
    (validated : ValidatedCommand)
    (h : request.validate json errorText base64Decode = .ok validated) :
    CommandTopic (trim request.device) (trim request.command) validated.topic ∧
      validated.device = trim request.device ∧ validated.command = trim request.command ∧
      ∀ request' validated', CommandRequest.validate json errorText base64Decode request' =
          .ok validated' →
        (validated'.topic = validated.topic ↔
          trim request'.device = trim request.device ∧
            trim request'.command = trim request.command) := by
  obtain ⟨hdevice, hcommand, htopic, hlevels⟩ := validate_eq_ok h
  refine ⟨hlevels, hdevice, hcommand, fun request' validated' h' => ?_⟩
  obtain ⟨-, -, htopic', hlevels'⟩ := validate_eq_ok h'
  constructor
  · intro heq
    rw [heq] at hlevels'
    exact hlevels'.injective hlevels
  · rintro ⟨hsame, hsame'⟩
    rw [htopic, htopic', hsame, hsame']

/-- A request with white space around its device. -/
def rebootRequest : CommandRequest where
  device := " pump-1 "
  command := "reboot"
  payload := .empty
  qos := .atLeastOnce
  retain := false

/-- What it is accepted as. -/
def rebootCommand : ValidatedCommand where
  device := "pump-1"
  command := "reboot"
  topic := "devices/pump-1/command/reboot"
  qos := .atLeastOnce
  retain := false
  payload := []

theorem CommandRequest.validate_topic_reboot :
    rebootRequest.validate textJson (fun _ => "") (fun _ => .ok []) = .ok rebootCommand ∧
      CommandTopic "pump-1" "reboot" rebootCommand.topic := by
  have h : rebootRequest.validate textJson (fun _ => "") (fun _ => .ok []) = .ok rebootCommand :=
    toOption_eq_some_iff.mp (by decide +kernel)
  exact ⟨h, (CommandRequest.validate_topic _ _ _ rebootRequest _ h).1⟩

end Core
end PipeBolt
