import PipeBolt.Domain.Id

/-!
# Errors of the core

`pipe_bolt_core::error`: the errors that the modelled part of the core returns.  An error converts
into `MqttEngineError` by its constructor, as the `From` implementations do.
-/

namespace PipeBolt
namespace Core

open Domain

/-- `PipelineError`. -/
inductive PipelineError where
  | payloadTooLarge (actual max : Nat)
  | rawPayloadTooLarge (actual max : Nat)
  | invalidJson (message : String)
  | jsonTooDeep (actual max : Nat)
  | mappingRequiresJsonObject
  | mappingRequiresJson
  | missingRequiredField (target sourcePath : String)
  | typeMismatch (target expected actual : String)
  | tooManyExtractedFields (actual max : Nat)
  | invalidDeviceIdFieldType
  | deviceIdRequiresJson
  deriving DecidableEq, Repr

/-- `DispatchError`. -/
inductive DispatchError where
  | invalidConfig (reason : String)
  | tooManyIntents (actual max : Nat)
  | tooManyMetadataEntries (actual max : Nat)
  | realtimeUnavailable
  | realtimeBackpressure
  | invalidMetadataKey (reason : String)
  | metadataValueTooLarge (actual max : Nat)
  | sinkNotFound (sinkId : SinkId)
  | sinkDisabled (sinkId : SinkId)
  | unsupportedSinkKind (sinkId : SinkId)
  | forwarderUnavailable
  | forwarderBackpressure
  | forwardPayloadEncode (reason : String)
  | forwardPayloadTooLarge (actual max : Nat)
  | commandQueueUnavailable
  | commandQueueBackpressure
  | commandRequestBuild (reason : String)
  deriving DecidableEq, Repr

/-- `RuleError`. -/
inductive RuleError where
  | invalidRule (ruleId reason : String)
  | unsupportedTrigger (ruleId trigger : String)
  | conditionTooDeep (ruleId : String) (actual max : Nat)
  | conditionTooLarge (ruleId : String) (actual max : Nat)
  | emptyConditionGroup (ruleId operator : String)
  | nonNumericComparison (ruleId : String)
  | tooManyActions (ruleId : String) (actual max : Nat)
  | invalidMetadataKey (ruleId reason : String)
  | metadataValueTooLarge (ruleId : String) (actual max : Nat)
  deriving DecidableEq, Repr

/-- `MqttEngineError`. -/
inductive MqttEngineError where
  | invalidConfig (message : String)
  | invalidTopicFilter (message : String)
  | invalidTopicName (message : String)
  | pipeline (error : PipelineError)
  | domain (message : String)
  | rule (error : RuleError)
  | dispatch (error : DispatchError)
  | commandQueueFull
  | commandQueueClosed
  deriving DecidableEq, Repr

/-- `From<DomainError>` for `MqttEngineError`. -/
def MqttEngineError.fromDomain (error : DomainError) : MqttEngineError := .domain error.display

end Core
end PipeBolt
