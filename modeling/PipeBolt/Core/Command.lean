import Mathlib.Data.List.TakeWhile
import PipeBolt.Core.Normalizer

/-!
# Command templates

The renderer of `pipe_bolt_core::command` and the rendered command of `pipe_bolt_domain::command`.

* `CommandTemplateRenderer.render_eq_ok`: a rendered command keeps the identifiers of its request
  and of its template, and its payload is within the limit.
-/

namespace PipeBolt
namespace Core

open Domain Rust Fallible Pipeline

/-- `TemplateSurface`. -/
inductive TemplateSurface where
  | topic
  | payload
  deriving DecidableEq, Repr

/-- `CommandRenderError`. -/
inductive CommandRenderError where
  | emptyPlaceholder (templateId : CommandTemplateId) (surface : TemplateSurface)
  | unclosedPlaceholder (templateId : CommandTemplateId) (surface : TemplateSurface)
  | unopenedPlaceholder (templateId : CommandTemplateId) (surface : TemplateSurface)
  | missingParameter (templateId : CommandTemplateId) (name : String)
  | nonScalarParameter (templateId : CommandTemplateId) (name : String)
  | invalidTopicSegment (templateId : CommandTemplateId) (name reason : String)
  | invalidTopic (templateId : CommandTemplateId) (reason : String)
  | invalidPayload (templateId : CommandTemplateId) (reason : String)
  | payloadTooLarge (templateId : CommandTemplateId) (max actual : Nat)
  deriving DecidableEq, Repr

/-- `RenderedCommand`. -/
structure RenderedCommand where
  projectId : ProjectId
  brokerId : BrokerId
  commandTemplateId : CommandTemplateId
  commandExecutionId : CommandExecutionId
  topic : TopicName
  payload : List UInt8
  qos : MqttQos
  retain : Bool
  payloadSizeBytes : Nat
  correlationId : String
  deriving DecidableEq, Repr

/-- `CommandRenderContext`. -/
structure CommandRenderContext where
  projectId : ProjectId
  commandExecutionId : CommandExecutionId
  correlationId : String
  deriving DecidableEq, Repr

/-- `CommandRenderDraft`. -/
structure CommandRenderDraft where
  topic : TopicName
  payload : List UInt8
  payloadSizeBytes : Nat
  deriving DecidableEq, Repr

/-! ## Placeholders -/

section Render

variable (json : SerdeJson) (template : CommandTemplate)

/-- `validate_placeholder_key`. -/
def validatePlaceholderKey (surface : TemplateSurface) (key : String) :
    Except CommandRenderError Unit :=
  if (trim key).isEmpty then .error (.emptyPlaceholder template.id surface) else .ok ()

/-- `scalar_param`. -/
def scalarParam (key : String) (params : ValueMap) : Except CommandRenderError String :=
  match BTreeMap.get params key with
  | none => .error (.missingParameter template.id key)
  | some (.string value) => .ok value
  | some (.number value) => .ok (json.numberToString value)
  | some (.bool value) => .ok (if value then "true" else "false")
  | some .null | some (.array _) | some (.object _) =>
    .error (.nonScalarParameter template.id key)

/-- `topic_param`. -/
def topicParam (key : String) (params : ValueMap) : Except CommandRenderError String := do
  let value ← scalarParam json template key params
  if value.isEmpty then .error (.invalidTopicSegment template.id key "must not be empty")
  else if containsChar value '/' || containsChar value '+' || containsChar value '#' then
    .error (.invalidTopicSegment template.id key "must not contain '/', '+', or '#'")
  else if containsChar value (Char.ofNat 0) || value.toList.any isControl then
    .error (.invalidTopicSegment template.id key
      "must not contain null byte or control characters")
  else return value

/-- The loop of `render_text_template`, over the characters of the text that is left. -/
def renderPlaceholders (surface : TemplateSurface) (params : ValueMap)
    (renderParam : String → ValueMap → Except CommandRenderError String)
    (output rest : List Char) : Except CommandRenderError (List Char) :=
  match _ : rest.dropWhile (· != '\x7b') with
  | [] => .ok (output ++ rest)
  | _ :: afterStart =>
    match _ : afterStart.dropWhile (· != '\x7d') with
    | [] => .error (.unclosedPlaceholder template.id surface)
    | _ :: rest' => do
      let key : String := .ofList (afterStart.takeWhile (· != '\x7d'))
      validatePlaceholderKey template surface key
      let value ← renderParam key params
      renderPlaceholders surface params renderParam
        (output ++ rest.takeWhile (· != '\x7b') ++ value.toList) rest'
termination_by rest.length
decreasing_by
  next hstart _ hend =>
    have hafter := congrArg List.length hstart
    have hrest := congrArg List.length hend
    have hdrop := (List.dropWhile_suffix (l := rest) (· != '\x7b')).length_le
    have hdrop' := (List.dropWhile_suffix (l := afterStart) (· != '\x7d')).length_le
    simp only [List.length_cons] at hafter hrest
    omega

/-- `render_text_template`. -/
def renderTextTemplate (surface : TemplateSurface) (text : String) (params : ValueMap)
    (renderParam : String → ValueMap → Except CommandRenderError String) :
    Except CommandRenderError String := do
  let output ← renderPlaceholders template surface params renderParam [] text.toList
  if output.contains '\x7d' then .error (.unopenedPlaceholder template.id surface)
  else return .ofList output

/-- `render_topic_template`. -/
def renderTopicTemplate (params : ValueMap) : Except CommandRenderError String :=
  renderTextTemplate template .topic template.topicTemplate params (topicParam json template)

/-- `exact_placeholder_key`. -/
def exactPlaceholderKey (text : String) : Option String :=
  match text.toList with
  | '\x7b' :: rest => if rest.getLast? = some '\x7d' then some (.ofList rest.dropLast) else none
  | _ => none

/-- `render_payload_string`. -/
def renderPayloadString (text : String) (params : ValueMap) : Except CommandRenderError Value :=
  match exactPlaceholderKey text with
  | some key => do
    validatePlaceholderKey template .payload key
    match BTreeMap.get params key with
    | some value => return value
    | none => .error (.missingParameter template.id key)
  | none => do
    let text ← renderTextTemplate template .payload text params (scalarParam json template)
    return .string text

mutual

/-- `render_payload_value`. -/
def renderPayloadValue (params : ValueMap) : Value → Except CommandRenderError Value
  | .string text => renderPayloadString json template text params
  | .array values => do return .array (← renderPayloadArray params values)
  | .object entries => do return .object (← renderPayloadObject params entries)
  | .null => .ok .null
  | .bool value => .ok (.bool value)
  | .number value => .ok (.number value)

/-- The elements of an array in `render_payload_value`. -/
def renderPayloadArray (params : ValueMap) : List Value → Except CommandRenderError (List Value)
  | [] => .ok []
  | value :: values => do
    let value ← renderPayloadValue params value
    return value :: (← renderPayloadArray params values)

/-- The entries of an object in `render_payload_value`. -/
def renderPayloadObject (params : ValueMap) :
    List (String × Value) → Except CommandRenderError (List (String × Value))
  | [] => .ok []
  | (key, value) :: entries => do
    let value ← renderPayloadValue params value
    return (key, value) :: (← renderPayloadObject params entries)

end

/-! ## The renderer -/

/-- `CommandTemplateRenderer`. -/
structure CommandTemplateRenderer where
  maxPayloadBytes : Nat
  deriving DecidableEq, Repr

/-- `CommandTemplateRenderer::default`. -/
def CommandTemplateRenderer.default : CommandTemplateRenderer where
  maxPayloadBytes := 64 * 1024

/-- `CommandTemplateRenderer::render_draft`. -/
def CommandTemplateRenderer.renderDraft (renderer : CommandTemplateRenderer) (params : ValueMap) :
    Except CommandRenderError CommandRenderDraft := do
  let topicText ← renderTopicTemplate json template params
  let topic ← (TopicName.new topicText).mapError fun error =>
    .invalidTopic template.id error.display
  let payloadValue ← renderPayloadValue json template params template.payloadTemplate
  let payload ← (json.toVec payloadValue).mapError fun reason => .invalidPayload template.id reason
  if renderer.maxPayloadBytes < payload.length then
    .error (.payloadTooLarge template.id renderer.maxPayloadBytes payload.length)
  else return { topic, payload, payloadSizeBytes := payload.length }

/-- `CommandTemplateRenderer::render`. -/
def CommandTemplateRenderer.render (renderer : CommandTemplateRenderer)
    (context : CommandRenderContext) (params : ValueMap) :
    Except CommandRenderError RenderedCommand := do
  let draft ← renderer.renderDraft json template params
  return {
    projectId := context.projectId
    brokerId := template.brokerId
    commandTemplateId := template.id
    commandExecutionId := context.commandExecutionId
    topic := draft.topic
    payload := draft.payload
    qos := template.qos
    retain := template.retain
    payloadSizeBytes := draft.payload.length
    correlationId := context.correlationId }

/-- What a rendered command takes from its request and from its template. -/
structure FromTemplate (context : CommandRenderContext) (rendered : RenderedCommand) : Prop where
  projectId : rendered.projectId = context.projectId
  brokerId : rendered.brokerId = template.brokerId
  commandTemplateId : rendered.commandTemplateId = template.id
  commandExecutionId : rendered.commandExecutionId = context.commandExecutionId
  correlationId : rendered.correlationId = context.correlationId

end Render

section Render

variable {json : SerdeJson} {template : CommandTemplate}

/-- A rendered command keeps the identifiers of its request and of its template, and its payload is
within the limit. -/
theorem CommandTemplateRenderer.render_eq_ok {renderer : CommandTemplateRenderer}
    {context : CommandRenderContext} {params : ValueMap} {rendered : RenderedCommand}
    (h : renderer.render json template context params = .ok rendered) :
    FromTemplate template context rendered ∧
      rendered.payload.length ≤ renderer.maxPayloadBytes := by
  obtain ⟨draft, hdraft, h⟩ := bind_eq_ok_iff.mp h
  obtain ⟨topicText, -, hdraft⟩ := bind_eq_ok_iff.mp hdraft
  obtain ⟨topic, -, hdraft⟩ := bind_eq_ok_iff.mp hdraft
  obtain ⟨value, -, hdraft⟩ := bind_eq_ok_iff.mp hdraft
  obtain ⟨payload, -, hdraft⟩ := bind_eq_ok_iff.mp hdraft
  obtain ⟨hsmall, hdraft⟩ := guard_eq_ok_iff.mp hdraft
  rw [← Except.ok.inj h, ← Except.ok.inj hdraft]
  exact ⟨⟨rfl, rfl, rfl, rfl, rfl⟩, Nat.not_lt.mp hsmall⟩

end Render

/-! ## Commands on the bus -/

/-- `MqttCommandContext`. -/
structure MqttCommandContext where
  projectId : ProjectId
  brokerId : BrokerId
  commandTemplateId : CommandTemplateId
  commandExecutionId : CommandExecutionId
  correlationId : String
  deriving DecidableEq, Repr

/-- `MqttCommand`, with the context of a tracked one. -/
structure MqttCommand where
  topic : String
  qos : MqttQos
  retain : Bool
  payload : List UInt8
  context : MqttCommandContext
  deriving DecidableEq, Repr

/-- `MqttCommandPublishStatus`. -/
inductive MqttCommandPublishStatus where
  | published
  | failed
  deriving DecidableEq, Repr

/-- Whether the status is `Published`. -/
def MqttCommandPublishStatus.isPublished : MqttCommandPublishStatus → Bool
  | .published => true
  | .failed => false

/-- `MqttCommandPublishOutcome`. -/
structure MqttCommandPublishOutcome where
  context : MqttCommandContext
  topic : String
  status : MqttCommandPublishStatus
  failureReason : Option String
  deriving DecidableEq, Repr

/-- The outcome that `publish_command` reports, with the text of the client's error. -/
def MqttCommand.publishOutcome (command : MqttCommand) (result : Except String Unit) :
    MqttCommandPublishOutcome :=
  match result with
  | .ok () => ⟨command.context, command.topic, .published, none⟩
  | .error reason => ⟨command.context, command.topic, .failed, some reason⟩

end Core
end PipeBolt
