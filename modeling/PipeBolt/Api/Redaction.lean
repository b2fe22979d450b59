import PipeBolt.Api.Document
import PipeBolt.Api.Error
import PipeBolt.Lib.Keyed

/-!
# Redacted secrets

`merge_redacted_secrets` of `pipe_bolt_api::handler`: a document that a client submits holds the
placeholder where the client did not change a secret, and the merge puts the stored secret back.
Stored secrets are found by broker identifier, and by sink identifier and header name without
regard to case.

* `mergeRedactedSecrets`: the merge.
* `mergeRedactedSecrets_unchanged_iff`: a document that is submitted as it was read keeps every
  secret exactly when no sink has two values under one header name.
-/

namespace PipeBolt
namespace Api

open Domain Daemon Rust Fallible

def REDACTED_SECRET : String := "<redacted>"

/-! ## The merge -/

/-- `existing_broker_password`. -/
def existingBrokerPassword (existing : ProjectConfig) (brokerId : BrokerId) :
    Except ApiError SecretString :=
  match ((existing.brokers.find? fun broker => broker.id == brokerId).bind
      BrokerConnectionConfig.credentials).map MqttCredentials.password with
  | some password => .ok password
  | none => .error (.badRequest
      s!"broker '{brokerId.raw}' submitted a redacted password but no existing secret exists")

/-- `existing_sink_header`. -/
def existingSinkHeader (existing : ProjectConfig) (sinkId : SinkId) (headerName : String) :
    Except ApiError SecretString :=
  match ((existing.sinks.find? fun sink => sink.id == sinkId).bind fun sink =>
      match sink.kind with
      | .webhook _ _ headers _ =>
        -- The first header of the name, whichever of them was submitted.
        headers.find? fun header => eqIgnoreAsciiCase header.name headerName
      | .database _ _ => none).map HttpHeaderTemplate.value with
  | some value => .ok value
  | none => .error (.badRequest
      s!"sink '{sinkId.raw}' header '{headerName}' submitted a redacted value but no existing secret exists")

/-- The round of the merge at the credentials of a broker. -/
def mergeCredentials (existing : ProjectConfig) (brokerId : BrokerId)
    (credentials : MqttCredentials) : Except ApiError MqttCredentials :=
  if credentials.password.exposeSecret = REDACTED_SECRET then do
    let password ← existingBrokerPassword existing brokerId
    return { credentials with password := password }
  else .ok credentials

/-- The round of the merge at a broker. -/
def mergeBroker (existing : ProjectConfig) (broker : BrokerConnectionConfig) :
    Except ApiError BrokerConnectionConfig := do
  let credentials ← broker.credentials.mapM (mergeCredentials existing broker.id)
  return { broker with credentials := credentials }

/-- The round of the merge at a header of a sink. -/
def mergeHeader (existing : ProjectConfig) (sinkId : SinkId) (header : HttpHeaderTemplate) :
    Except ApiError HttpHeaderTemplate :=
  if header.value.exposeSecret = REDACTED_SECRET then do
    let value ← existingSinkHeader existing sinkId header.name
    return { header with value := value }
  else .ok header

/-- The round of the merge at a sink. -/
def mergeSink (existing : ProjectConfig) (sink : SinkDefinition) :
    Except ApiError SinkDefinition :=
  match sink.kind with
  | .webhook url method headers timeout => do
    let headers ← headers.mapM (mergeHeader existing sink.id)
    return { sink with kind := .webhook url method headers timeout }
  | .database _ _ => .ok sink

/-- `merge_redacted_secrets`: the merged configuration in place of the update of `proposed`. -/
def mergeRedactedSecrets (existing proposed : ProjectConfig) : Except ApiError ProjectConfig := do
  let brokers ← proposed.brokers.mapM (mergeBroker existing)
  let sinks ← proposed.sinks.mapM (mergeSink existing)
  return { proposed with brokers := brokers, sinks := sinks }

/-! ## Where the stored secrets are found -/

/-- A stored password is found under the identifier of its broker. -/
theorem existingBrokerPassword_of_mem {existing : ProjectConfig}
    (hnodup : (existing.brokers.map BrokerConnectionConfig.id).Nodup)
    {broker : BrokerConnectionConfig} (hbroker : broker ∈ existing.brokers)
    {credentials : MqttCredentials} (hcredentials : broker.credentials = some credentials) :
    existingBrokerPassword existing broker.id = .ok credentials.password := by
  have hfind : (existing.brokers.find? fun b => b.id == broker.id) = some broker :=
    Keyed.lookup_of_nodup hnodup hbroker
  rw [existingBrokerPassword, hfind, Option.bind_some, hcredentials]
  rfl

/-- The key of a header: its name without regard to case. -/
def headerKey (header : HttpHeaderTemplate) : String := toAsciiLowercase header.name

theorem find?_headerKey (headers : List HttpHeaderTemplate) (name : String) :
    (headers.find? fun header => eqIgnoreAsciiCase header.name name) =
      Keyed.lookup headerKey (toAsciiLowercase name) headers := by
  rw [Keyed.lookup]
  congr 1
  funext header
  rw [Bool.eq_iff_iff, eqIgnoreAsciiCase_iff, decide_eq_true_iff]
  rfl

/-- A stored header is looked up among the headers of its sink. -/
theorem existingSinkHeader_of_mem {existing : ProjectConfig}
    (hnodup : (existing.sinks.map SinkDefinition.id).Nodup)
    {sink : SinkDefinition} (hsink : sink ∈ existing.sinks) {name : String}
    {header : HttpHeaderTemplate}
    (hheader : Keyed.lookup headerKey (toAsciiLowercase name) sink.kind.headers = some header) :
    existingSinkHeader existing sink.id name = .ok header.value := by
  have hfind : (existing.sinks.find? fun s => s.id == sink.id) = some sink :=
    Keyed.lookup_of_nodup hnodup hsink
  rw [existingSinkHeader, hfind, Option.bind_some]
  cases hkind : sink.kind with
  | webhook url method headers timeout =>
    rw [hkind] at hheader
    simp only [find?_headerKey]
    rw [show Keyed.lookup headerKey (toAsciiLowercase name) headers = some header from hheader]
    rfl
  | database connectionRef table =>
    rw [hkind] at hheader
    exact nomatch hheader

/-! ## A document submitted as it was read -/

/-- The broker passwords of a configuration, by position. -/
def passwords (config : ProjectConfig) : List (Option SecretString) :=
  config.brokers.map fun broker => broker.credentials.map MqttCredentials.password

/-- The header values of a sink, by position. -/
def headerValues (sink : SinkDefinition) : List SecretString :=
  sink.kind.headers.map HttpHeaderTemplate.value

/-- The secrets of two configurations agree, position by position. -/
def SameSecrets (config config' : ProjectConfig) : Prop :=
  passwords config = passwords config' ∧
    config.sinks.map headerValues = config'.sinks.map headerValues

/-- Headers of one name have one value. -/
def ConsistentHeaders (sink : SinkDefinition) : Prop :=
  ∀ header ∈ sink.kind.headers, ∀ header' ∈ sink.kind.headers,
    eqIgnoreAsciiCase header.name header'.name = true → header.value = header'.value

section Unchanged

variable {config : ProjectConfig}

/-- What the API writes for a secret is the placeholder of the merge. -/
theorem throughJson_redacted (secret : SecretString) :
    secret.throughJson.exposeSecret = REDACTED_SECRET := rfl

/-- The merge restores the password of a broker. -/
theorem mergeBroker_throughJson (hnodup : (config.brokers.map BrokerConnectionConfig.id).Nodup)
    {broker : BrokerConnectionConfig} (hbroker : broker ∈ config.brokers) :
    ∃ merged, mergeBroker config broker.throughJson = .ok merged ∧
      merged.credentials.map MqttCredentials.password =
        broker.credentials.map MqttCredentials.password := by
  have hcredentials : ∃ credentials,
      (broker.credentials.map MqttCredentials.throughJson).mapM
          (mergeCredentials config broker.id) = .ok credentials ∧
        credentials.map MqttCredentials.password =
          broker.credentials.map MqttCredentials.password := by
    cases hsome : broker.credentials with
    | none => exact ⟨none, rfl, rfl⟩
    | some credentials =>
      refine ⟨some credentials, ?_, rfl⟩
      rw [Option.map_some, Option.mapM_some, map_eq_ok_iff]
      refine ⟨credentials, ?_, rfl⟩
      have hredacted : credentials.throughJson.password.exposeSecret = REDACTED_SECRET :=
        throughJson_redacted credentials.password
      rw [mergeCredentials, if_pos hredacted, existingBrokerPassword_of_mem hnodup hbroker hsome]
      rfl
  obtain ⟨credentials, hmerge, hpassword⟩ := hcredentials
  exact ⟨{ broker.throughJson with credentials := credentials },
    bind_eq_ok_iff.mpr ⟨credentials, hmerge, rfl⟩, hpassword⟩

/-- The merge gives a header the value of the first header of its name. -/
theorem mergeHeader_throughJson (hnodup : (config.sinks.map SinkDefinition.id).Nodup)
    {sink : SinkDefinition} (hsink : sink ∈ config.sinks) {header : HttpHeaderTemplate}
    (hheader : header ∈ sink.kind.headers) :
    ∃ merged, mergeHeader config sink.id header.throughJson = .ok merged ∧
      (merged.value = header.value ↔
        (Keyed.lookup headerKey (headerKey header) sink.kind.headers).map
          HttpHeaderTemplate.value = some header.value) := by
  obtain ⟨stored, hstored⟩ := Keyed.exists_lookup headerKey hheader
  refine ⟨{ header with value := stored.value }, ?_, ?_⟩
  · have hredacted : header.throughJson.value.exposeSecret = REDACTED_SECRET :=
      throughJson_redacted header.value
    rw [mergeHeader, if_pos hredacted]
    exact bind_eq_ok_iff.mpr ⟨_, existingSinkHeader_of_mem hnodup hsink hstored, rfl⟩
  · rw [hstored, Option.map_some, Option.some_inj]

/-- The merge restores the header values of a sink exactly when headers of one name have one
value. -/
theorem mergeSink_throughJson (hnodup : (config.sinks.map SinkDefinition.id).Nodup)
    {sink : SinkDefinition} (hsink : sink ∈ config.sinks) :
    ∃ merged, mergeSink config sink.throughJson = .ok merged ∧
      (headerValues merged = headerValues sink ↔ ConsistentHeaders sink) := by
  obtain ⟨headers, hmerge, hvalues⟩ := exists_mapM_map_eq_iff fun header hheader =>
    mergeHeader_throughJson hnodup hsink hheader
  have hconsistent : (headers.map HttpHeaderTemplate.value = headerValues sink) ↔
      ConsistentHeaders sink := by
    rw [headerValues, hvalues, Keyed.lookup_agrees_iff]
    simp only [ConsistentHeaders, eqIgnoreAsciiCase_iff, headerKey]
  cases hkind : sink.kind with
  | webhook url method stored timeout =>
    rw [hkind] at hmerge
    let timeout' := durationMillisDeserialize (durationMillisSerialize timeout)
    refine ⟨{ sink with kind := .webhook url method headers timeout' }, ?_, hconsistent⟩
    rw [mergeSink, SinkDefinition.throughJson, hkind]
    refine bind_eq_ok_iff.mpr ⟨headers, ?_, rfl⟩
    rw [List.mapM_map]
    exact hmerge
  | database connectionRef table =>
    refine ⟨sink.throughJson, ?_, ?_⟩
    · rw [mergeSink, SinkDefinition.throughJson, hkind]
      rfl
    · simp [headerValues, ConsistentHeaders, SinkDefinition.throughJson, hkind,
        SinkKind.throughJson, SinkKind.headers]

/-- A configuration that is submitted as it was read keeps every secret exactly when, in every
sink, headers of one name have one value. -/
theorem mergeRedactedSecrets_unchanged_iff (config : ProjectConfig)
    (hvalid : validateRuntimeConfig config = .ok ()) (version : UInt64) :
    (∃ merged,
      mergeRedactedSecrets config
          ((ProjectConfigDocumentV1.fromDomain config).throughJson.intoDomain version) =
        .ok merged ∧ SameSecrets merged config) ↔
      ∀ sink ∈ config.sinks, ConsistentHeaders sink := by
  obtain ⟨hbrokerIds, hsinkIds⟩ := (validateRuntimeConfig_eq_ok_iff.mp hvalid).ids_nodup
  obtain ⟨brokers, hbrokers, hpasswords⟩ := exists_mapM_map_eq_iff (p := fun _ => True)
    fun broker hbroker => by
      obtain ⟨merged, hmerge, hpassword⟩ := mergeBroker_throughJson hbrokerIds hbroker
      exact ⟨merged, hmerge, iff_of_true hpassword trivial⟩
  obtain ⟨sinks, hsinks, hheaders⟩ := exists_mapM_map_eq_iff fun sink hsink =>
    mergeSink_throughJson hsinkIds hsink
  have hmerged : mergeRedactedSecrets config
      ((ProjectConfigDocumentV1.fromDomain config).throughJson.intoDomain version) =
      .ok { (ProjectConfigDocumentV1.fromDomain config).throughJson.intoDomain version with
        brokers := brokers, sinks := sinks } := by
    refine bind_eq_ok_iff.mpr ⟨brokers, ?_, bind_eq_ok_iff.mpr ⟨sinks, ?_, rfl⟩⟩
    · exact List.mapM_map.trans hbrokers
    · exact List.mapM_map.trans hsinks
  rw [← hheaders]
  constructor
  · rintro ⟨merged, h, hsame⟩
    rw [← Except.ok.inj (hmerged.symm.trans h)] at hsame
    exact hsame.2
  · intro h
    exact ⟨_, hmerged, hpasswords.mpr fun _ _ => trivial, h⟩

end Unchanged

/-- A webhook with two headers. -/
def headerSink : SinkDefinition where
  id := ⟨"hook"⟩
  name := "Hook"
  enabled := true
  kind := .webhook "https://hooks.example.com/events" .post
    [⟨"X-Key", ⟨"first"⟩⟩, ⟨"X-Site", ⟨"second"⟩⟩] (.fromMillis 5000)

theorem mergeRedactedSecrets_unchanged_iff_headerSink :
    headerValues headerSink = [⟨"first"⟩, ⟨"second"⟩] ∧
      ((∃ merged,
        mergeRedactedSecrets (plantProject "s3cret" [] [headerSink])
            ((ProjectConfigDocumentV1.fromDomain
              (plantProject "s3cret" [] [headerSink])).throughJson.intoDomain 2) =
          .ok merged ∧ SameSecrets merged (plantProject "s3cret" [] [headerSink])) ↔
        ∀ sink ∈ (plantProject "s3cret" [] [headerSink]).sinks, ConsistentHeaders sink) :=
  ⟨rfl, mergeRedactedSecrets_unchanged_iff (plantProject "s3cret" [] [headerSink])
    (by decide +kernel) 2⟩

/-- A webhook with two values under one header name. -/
def twoKeySink : SinkDefinition where
  id := ⟨"hook"⟩
  name := "Hook"
  enabled := true
  kind := .webhook "https://hooks.example.com/events" .post
    [⟨"X-Key", ⟨"first"⟩⟩, ⟨"x-key", ⟨"second"⟩⟩] (.fromMillis 5000)

/-- A client that submits this configuration as it was read changes its second header value. -/
theorem merge_loses_second_header :
    validateRuntimeConfig (plantProject "s3cret" [] [twoKeySink]) = .ok () ∧
      ¬ ∃ merged,
        mergeRedactedSecrets (plantProject "s3cret" [] [twoKeySink])
            ((ProjectConfigDocumentV1.fromDomain
              (plantProject "s3cret" [] [twoKeySink])).throughJson.intoDomain 2) = .ok merged ∧
          SameSecrets merged (plantProject "s3cret" [] [twoKeySink]) := by
  have hmerge : mergeRedactedSecrets (plantProject "s3cret" [] [twoKeySink])
      ((ProjectConfigDocumentV1.fromDomain
        (plantProject "s3cret" [] [twoKeySink])).throughJson.intoDomain 2) =
      .ok { plantProject "s3cret" [] [{ twoKeySink with
        kind := .webhook "https://hooks.example.com/events" .post
          [⟨"X-Key", ⟨"first"⟩⟩, ⟨"x-key", ⟨"first"⟩⟩] (.fromMillis 5000) }] with
        version := 2 } := by
    rfl
  refine ⟨by decide +kernel, ?_⟩
  rintro ⟨merged, h, -, hheaders⟩
  rw [← Except.ok.inj (hmerge.symm.trans h)] at hheaders
  exact absurd hheaders (by decide)

end Api
end PipeBolt
