import PipeBolt.Lib.Fallible
import PipeBolt.Lib.Transition
import PipeBolt.Lib.Separated
import PipeBolt.Lib.Keyed
import PipeBolt.Lib.LevelPattern
import PipeBolt.Lib.VersionedCell
import PipeBolt.Lib.Channel
import PipeBolt.Lib.Keyset
import PipeBolt.Lib.Base64
import PipeBolt.Lib.Binary64
import PipeBolt.Lib.Fold
import PipeBolt.Lib.Kleene
import PipeBolt.Lib.Lossy
import PipeBolt.Rust.Text
import PipeBolt.Rust.Duration
import PipeBolt.Rust.IpAddr
import PipeBolt.Rust.BTreeMap
import PipeBolt.Rust.F64
import PipeBolt.Js.Text
import PipeBolt.Js.Number
import PipeBolt.Js.NumberText
import PipeBolt.Js.Value
import PipeBolt.Js.Json
import PipeBolt.Js.JsonRoundTrip
import PipeBolt.Js.Utf16
import PipeBolt.Domain.Id
import PipeBolt.Domain.Rule
import PipeBolt.Domain.Config
import PipeBolt.Domain.Json
import PipeBolt.Domain.Event
import PipeBolt.Domain.Constructors
import PipeBolt.Domain.RuleDeserialize
import PipeBolt.Storage.Secret
import PipeBolt.Storage.Model
import PipeBolt.Storage.Aad
import PipeBolt.Storage.Codec
import PipeBolt.Storage.Database
import PipeBolt.Storage.Postgres
import PipeBolt.Storage.Versions
import PipeBolt.Storage.Operational
import PipeBolt.Storage.Failures
import PipeBolt.Storage.FailureRuns
import PipeBolt.Storage.Keyring
import PipeBolt.Storage.JsonColumn
import PipeBolt.Core.Error
import PipeBolt.Core.Egress
import PipeBolt.Core.Forwarder
import PipeBolt.Core.RuleEngine
import PipeBolt.Core.Router
import PipeBolt.Core.RouteMatcher
import PipeBolt.Core.Normalizer
import PipeBolt.Core.RuleEvaluation
import PipeBolt.Core.Dispatcher
import PipeBolt.Core.Command
import PipeBolt.Core.ForwardWorker
import PipeBolt.Core.ClientConfig
import PipeBolt.Core.TopicCaptures
import PipeBolt.Core.ConditionOrder
import PipeBolt.Core.NumberCoherence
import PipeBolt.Core.DispatchCalls
import PipeBolt.Core.MetadataOverlay
import PipeBolt.Core.TemplateText
import PipeBolt.Core.TopicLevels
import PipeBolt.Core.PayloadFrame
import PipeBolt.Core.CommandRequest
import PipeBolt.Core.ExtractedFields
import PipeBolt.Core.Backoff
import PipeBolt.Core.TelemetryFilter
import PipeBolt.Core.RequiredPaths
import PipeBolt.Core.MqttEngine
import PipeBolt.Core.MqttSession
import PipeBolt.Core.MqttShutdown
import PipeBolt.Daemon.RuntimeConfig
import PipeBolt.Daemon.Startup
import PipeBolt.Daemon.PipelineRouter
import PipeBolt.Daemon.Pipeline
import PipeBolt.Daemon.CommandProcessor
import PipeBolt.Daemon.References
import PipeBolt.Daemon.BrokerRuntimes
import PipeBolt.Daemon.ForwardOutcomes
import PipeBolt.Daemon.PersistenceWriter
import PipeBolt.Daemon.ExecutionLedger
import PipeBolt.Daemon.CommandTable
import PipeBolt.Daemon.CommandRuns
import PipeBolt.Daemon.CommandStatus
import PipeBolt.Daemon.CommandsSettled
import PipeBolt.Daemon.CommandAudit
import PipeBolt.Daemon.Supervisor
import PipeBolt.Daemon.SupervisorRest
import PipeBolt.Daemon.SupervisorStarts
import PipeBolt.Daemon.ReloadResult
import PipeBolt.Daemon.CommandGateway
import PipeBolt.Daemon.Bootstrap
import PipeBolt.Daemon.Identifiers
import PipeBolt.Daemon.Subscriptions
import PipeBolt.Daemon.LiveRoutes
import PipeBolt.Daemon.TriggerReferences
import PipeBolt.Daemon.PipelineRuns
import PipeBolt.Api.Document
import PipeBolt.Api.Error
import PipeBolt.Api.Redaction
import PipeBolt.Api.PutConfig
import PipeBolt.Api.Operations
import PipeBolt.Api.Auth
import PipeBolt.Api.Realtime
import PipeBolt.Api.Handler
import PipeBolt.Api.WebSocket
import PipeBolt.Api.MergeFrame
import PipeBolt.Api.SocketThreads
import PipeBolt.Api.FilterChanges
import PipeBolt.Api.Sse
import PipeBolt.Api.SocketDelivery
import PipeBolt.Web.CommandParameters
import PipeBolt.Web.RuleMapper
import PipeBolt.Web.RuleValidation
import PipeBolt.Web.RuleJson
import PipeBolt.Web.ConfigDocument
import PipeBolt.Web.RuleRoundTrip
import PipeBolt.Web.RuleSoundness
import PipeBolt.Web.RuleEditor
import PipeBolt.Web.TopicFilterValidation
import PipeBolt.Web.ConfigStore
import PipeBolt.Web.ConfigDraft
import PipeBolt.Web.ConfigRuns
import PipeBolt.Web.RealtimeBuffer
import PipeBolt.Web.RealtimeStream
import PipeBolt.Web.RealtimeSessions
import PipeBolt.Web.RealtimeIsolation
import PipeBolt.Web.RealtimeMessages
import PipeBolt.Web.RealtimeShown
