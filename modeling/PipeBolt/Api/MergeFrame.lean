import PipeBolt.Api.PutConfig

/-!
# What the merge of redacted secrets changes

`merge_redacted_secrets` replaces the secrets that are submitted as the placeholder, and nothing
else.

* `Restored`: a secret before and after the merge.
* `MergeFrame`: a configuration before and after the merge, part by part.
* `mergeRedactedSecrets_frame`: what the merge returns, and when it refuses.
-/

namespace PipeBolt
namespace Api

open Domain Daemon Rust Fallible

/-! ## The frame -/

/-- A secret before and after the merge: a placeholder is replaced by one of the stored secrets,
every other secret is kept. -/
structure Restored (stored : List SecretString) (submitted merged : SecretString) : Prop where
  redacted : Redacted submitted → merged ∈ stored
  kept : ¬ Redacted submitted → merged = submitted

/-- Credentials before and after the merge. -/
def CredentialsMerged (existing : ProjectConfig) (brokerId : BrokerId)
    (credentials merged : MqttCredentials) : Prop :=
  ∃ password, Restored (passwordsOf existing brokerId) credentials.password password ∧
    merged = { credentials with password := password }

/-- A broker before and after the merge. -/
def BrokerMerged (existing : ProjectConfig) (broker merged : BrokerConnectionConfig) : Prop :=
  ∃ credentials, Option.Rel (CredentialsMerged existing broker.id) broker.credentials credentials ∧
    merged = { broker with credentials := credentials }

/-- A header before and after the merge. -/
def HeaderMerged (existing : ProjectConfig) (sinkId : SinkId) (header merged : HttpHeaderTemplate) :
    Prop :=
  ∃ value, Restored (headersOf existing sinkId header.name) header.value value ∧
    merged = { header with value := value }

/-- The kind of a sink before and after the merge. -/
def KindMerged (existing : ProjectConfig) (sinkId : SinkId) (kind merged : SinkKind) : Prop :=
  match kind with
  | .webhook url method headers timeout =>
    ∃ headers', List.Forall₂ (HeaderMerged existing sinkId) headers headers' ∧
      merged = .webhook url method headers' timeout
  | .database connectionRef table => merged = .database connectionRef table

/-- A sink before and after the merge. -/
def SinkMerged (existing : ProjectConfig) (sink merged : SinkDefinition) : Prop :=
  ∃ kind, KindMerged existing sink.id sink.kind kind ∧ merged = { sink with kind := kind }

/-- A configuration before and after the merge: the brokers and the sinks one by one, the rest as
it was, and no placeholder that is not a stored secret. -/
structure MergeFrame (existing proposed merged : ProjectConfig) : Prop where
  brokers : List.Forall₂ (BrokerMerged existing) proposed.brokers merged.brokers
  sinks : List.Forall₂ (SinkMerged existing) proposed.sinks merged.sinks
  rest : merged = { proposed with brokers := merged.brokers, sinks := merged.sinks }
  passwords : ∀ broker ∈ merged.brokers, ∀ credentials ∈ broker.credentials,
    Redacted credentials.password → credentials.password ∈ passwordsOf existing broker.id
  headers : ∀ sink ∈ merged.sinks, ∀ header ∈ sink.kind.headers,
    Redacted header.value → header.value ∈ headersOf existing sink.id header.name

/-- There is a stored secret for every placeholder. -/
structure Restorable (existing proposed : ProjectConfig) : Prop where
  passwords : ∀ broker ∈ proposed.brokers, ∀ credentials ∈ broker.credentials,
    Redacted credentials.password → ∃ secret, secret ∈ passwordsOf existing broker.id
  headers : ∀ sink ∈ proposed.sinks, ∀ header ∈ sink.kind.headers,
    Redacted header.value → ∃ secret, secret ∈ headersOf existing sink.id header.name

/-- A password of a broker identifier. -/
theorem mem_passwordsOf {config : ProjectConfig} {brokerId : BrokerId} {secret : SecretString} :
    secret ∈ passwordsOf config brokerId ↔
      ∃ broker ∈ config.brokers, broker.id = brokerId ∧
        ∃ credentials ∈ broker.credentials, credentials.password = secret := by
  simp [passwordsOf, List.mem_filterMap, List.mem_filter, and_assoc]

/-- A header value of a sink identifier and a name. -/
theorem mem_headersOf {config : ProjectConfig} {sinkId : SinkId} {name : String}
    {secret : SecretString} :
    secret ∈ headersOf config sinkId name ↔
      ∃ sink ∈ config.sinks, sink.id = sinkId ∧ ∃ header ∈ sink.kind.headers,
        eqIgnoreAsciiCase header.name name = true ∧ header.value = secret := by
  simp [headersOf, List.mem_flatMap, List.mem_filter, and_assoc]

section Merge

variable {existing : ProjectConfig}

/-! ## Success -/

theorem mergeCredentials_merged {brokerId : BrokerId} {credentials merged : MqttCredentials}
    (h : mergeCredentials existing brokerId credentials = .ok merged) :
    CredentialsMerged existing brokerId credentials merged := by
  by_cases hredacted : credentials.password.exposeSecret = REDACTED_SECRET
  · have hstored := mergeCredentials_redacted h hredacted
    rw [mergeCredentials, if_pos hredacted] at h
    obtain ⟨password, -, h⟩ := bind_eq_ok_iff.mp h
    obtain rfl := Except.ok.inj h
    exact ⟨password, ⟨fun _ => List.mem_of_mem_head? hstored, fun hne => absurd hredacted hne⟩, rfl⟩
  · rw [mergeCredentials, if_neg hredacted] at h
    obtain rfl := Except.ok.inj h
    exact ⟨_, ⟨fun hyes => absurd hyes hredacted, fun _ => rfl⟩, rfl⟩

theorem mergeHeader_merged {sinkId : SinkId} {header merged : HttpHeaderTemplate}
    (h : mergeHeader existing sinkId header = .ok merged) :
    HeaderMerged existing sinkId header merged := by
  by_cases hredacted : header.value.exposeSecret = REDACTED_SECRET
  · have hstored := mergeHeader_redacted h hredacted
    rw [mergeHeader, if_pos hredacted] at h
    obtain ⟨value, -, h⟩ := bind_eq_ok_iff.mp h
    obtain rfl := Except.ok.inj h
    exact ⟨value, ⟨fun _ => List.mem_of_mem_head? hstored, fun hne => absurd hredacted hne⟩, rfl⟩
  · rw [mergeHeader, if_neg hredacted] at h
    obtain rfl := Except.ok.inj h
    exact ⟨_, ⟨fun hyes => absurd hyes hredacted, fun _ => rfl⟩, rfl⟩

theorem mergeBroker_merged {broker merged : BrokerConnectionConfig}
    (h : mergeBroker existing broker = .ok merged) : BrokerMerged existing broker merged := by
  obtain ⟨credentials, hcredentials, h⟩ := bind_eq_ok_iff.mp h
  obtain rfl := Except.ok.inj h
  refine ⟨credentials, ?_, rfl⟩
  cases hsome : broker.credentials with
  | none =>
    rw [hsome] at hcredentials
    rw [← Except.ok.inj hcredentials]
    exact .none
  | some submitted =>
    rw [hsome, Option.mapM_some, map_eq_ok_iff] at hcredentials
    obtain ⟨merged, hmerge, rfl⟩ := hcredentials
    exact .some (mergeCredentials_merged hmerge)

theorem mergeSink_merged {sink merged : SinkDefinition} (h : mergeSink existing sink = .ok merged) :
    SinkMerged existing sink merged := by
  rw [mergeSink] at h
  cases hkind : sink.kind with
  | webhook url method headers timeout =>
    rw [hkind] at h
    obtain ⟨headers', hmerge, h⟩ := bind_eq_ok_iff.mp h
    obtain rfl := Except.ok.inj h
    refine ⟨_, ?_, rfl⟩
    rw [hkind]
    exact ⟨headers', (mapM_eq_ok_iff_forall₂.mp hmerge).imp fun _ _ => mergeHeader_merged, rfl⟩
  | database connectionRef table =>
    rw [hkind] at h
    obtain rfl := Except.ok.inj h
    refine ⟨sink.kind, ?_, rfl⟩
    rw [hkind]
    exact rfl

/-- A placeholder before the merge has a stored secret, and one after it is a stored secret. -/
theorem Restored.stored {stored : List SecretString} {submitted merged : SecretString}
    (h : Restored stored submitted merged) :
    (Redacted submitted → ∃ secret, secret ∈ stored) ∧ (Redacted merged → merged ∈ stored) := by
  refine ⟨fun hredacted => ⟨merged, h.redacted hredacted⟩, fun hmerged => ?_⟩
  by_cases hredacted : Redacted submitted
  · exact h.redacted hredacted
  · rw [h.kept hredacted] at hmerged
    exact absurd hmerged hredacted

theorem mergeBroker_stored {broker merged : BrokerConnectionConfig}
    (h : mergeBroker existing broker = .ok merged) :
    (∀ credentials ∈ broker.credentials, Redacted credentials.password →
      ∃ secret, secret ∈ passwordsOf existing broker.id) ∧
    ∀ credentials ∈ merged.credentials, Redacted credentials.password →
      credentials.password ∈ passwordsOf existing merged.id := by
  obtain ⟨credentials', hrel, rfl⟩ := mergeBroker_merged h
  cases hsome : broker.credentials with
  | none =>
    rw [hsome] at hrel
    cases hrel
    exact ⟨fun _ hmem => absurd hmem (Option.not_mem_none _),
      fun _ hmem => absurd hmem (Option.not_mem_none _)⟩
  | some submitted =>
    rw [hsome] at hrel
    cases hrel with
    | some hrel =>
      obtain ⟨password, hrestored, rfl⟩ := hrel
      constructor
      · intro credentials hmem hredacted
        obtain rfl := Option.mem_some_iff.mp hmem
        exact hrestored.stored.1 hredacted
      · intro credentials hmem hredacted
        obtain rfl := Option.mem_some_iff.mp hmem
        exact hrestored.stored.2 hredacted

/-- The merge of a sink is the merge of its headers. -/
theorem mergeSink_headers {sink merged : SinkDefinition}
    (h : mergeSink existing sink = .ok merged) :
    merged.id = sink.id ∧
      sink.kind.headers.mapM (mergeHeader existing sink.id) = .ok merged.kind.headers := by
  rw [mergeSink] at h
  cases hkind : sink.kind with
  | webhook url method headers timeout =>
    rw [hkind] at h
    obtain ⟨headers', hmerge, h⟩ := bind_eq_ok_iff.mp h
    obtain rfl := Except.ok.inj h
    exact ⟨rfl, hmerge⟩
  | database connectionRef table =>
    rw [hkind] at h
    obtain rfl := Except.ok.inj h
    rw [hkind]
    exact ⟨rfl, rfl⟩

theorem mergeSink_stored {sink merged : SinkDefinition}
    (h : mergeSink existing sink = .ok merged) :
    (∀ header ∈ sink.kind.headers, Redacted header.value →
      ∃ secret, secret ∈ headersOf existing sink.id header.name) ∧
    ∀ header ∈ merged.kind.headers, Redacted header.value →
      header.value ∈ headersOf existing merged.id header.name := by
  obtain ⟨hid, hheaders⟩ := mergeSink_headers h
  rw [hid]
  constructor
  · intro header hmem hredacted
    obtain ⟨header', hheader⟩ := isOk_of_mapM_eq_ok hheaders header hmem
    obtain ⟨value, hrestored, -⟩ := mergeHeader_merged hheader
    exact hrestored.stored.1 hredacted
  · intro header' hmem hredacted
    obtain ⟨header, -, hheader⟩ := mem_mapM hheaders hmem
    obtain ⟨value, hrestored, rfl⟩ := mergeHeader_merged hheader
    exact hrestored.stored.2 hredacted

/-- A merged configuration comes from the proposed one, part by part. -/
theorem mergeRedactedSecrets_eq_ok {proposed merged : ProjectConfig}
    (h : mergeRedactedSecrets existing proposed = .ok merged) :
    Restorable existing proposed ∧ MergeFrame existing proposed merged := by
  obtain ⟨brokers, hbrokers, h⟩ := bind_eq_ok_iff.mp h
  obtain ⟨sinks, hsinks, h⟩ := bind_eq_ok_iff.mp h
  obtain rfl := Except.ok.inj h
  refine ⟨⟨?_, ?_⟩, (mapM_eq_ok_iff_forall₂.mp hbrokers).imp fun _ _ => mergeBroker_merged,
    (mapM_eq_ok_iff_forall₂.mp hsinks).imp fun _ _ => mergeSink_merged, rfl, ?_, ?_⟩
  · intro broker hbroker
    obtain ⟨broker', hmerge⟩ := isOk_of_mapM_eq_ok hbrokers broker hbroker
    exact (mergeBroker_stored hmerge).1
  · intro sink hsink
    obtain ⟨sink', hmerge⟩ := isOk_of_mapM_eq_ok hsinks sink hsink
    exact (mergeSink_stored hmerge).1
  · intro broker' hbroker'
    obtain ⟨broker, -, hmerge⟩ := mem_mapM hbrokers hbroker'
    exact (mergeBroker_stored hmerge).2
  · intro sink' hsink'
    obtain ⟨sink, -, hmerge⟩ := mem_mapM hsinks hsink'
    exact (mergeSink_stored hmerge).2

/-! ## Refusal -/

theorem existingBrokerPassword_eq_error {brokerId : BrokerId} {error : ApiError}
    (h : existingBrokerPassword existing brokerId = .error error) :
    ∃ message, error = .badRequest message := by
  rw [existingBrokerPassword] at h
  split at h
  · cases h
  · exact ⟨_, (Except.error.inj h).symm⟩

theorem existingSinkHeader_eq_error {sinkId : SinkId} {name : String} {error : ApiError}
    (h : existingSinkHeader existing sinkId name = .error error) :
    ∃ message, error = .badRequest message := by
  rw [existingSinkHeader] at h
  split at h
  · cases h
  · exact ⟨_, (Except.error.inj h).symm⟩

theorem mergeBroker_eq_error {broker : BrokerConnectionConfig} {error : ApiError}
    (h : mergeBroker existing broker = .error error) : ∃ message, error = .badRequest message := by
  rcases bind_eq_error_iff.mp h with h | ⟨credentials, -, h⟩
  · cases hsome : broker.credentials with
    | none =>
      rw [hsome] at h
      cases h
    | some credentials =>
      rw [hsome, Option.mapM_some, mergeCredentials] at h
      split at h
      · cases hpassword : existingBrokerPassword existing broker.id with
        | ok password =>
          rw [hpassword] at h
          cases h
        | error error' =>
          rw [hpassword] at h
          rw [← Except.error.inj h]
          exact existingBrokerPassword_eq_error hpassword
      · cases h
  · cases h

theorem mergeSink_eq_error {sink : SinkDefinition} {error : ApiError}
    (h : mergeSink existing sink = .error error) : ∃ message, error = .badRequest message := by
  rw [mergeSink] at h
  split at h
  · rcases bind_eq_error_iff.mp h with h | ⟨headers, -, h⟩
    · obtain ⟨header, -, h⟩ := exists_of_mapM_eq_error h
      rw [mergeHeader] at h
      split at h
      · rcases bind_eq_error_iff.mp h with h | ⟨value, -, h⟩
        · exact existingSinkHeader_eq_error h
        · cases h
      · cases h
    · cases h
  · cases h

/-- The merge refuses a configuration as a bad request only. -/
theorem mergeRedactedSecrets_eq_error {proposed : ProjectConfig} {error : ApiError}
    (h : mergeRedactedSecrets existing proposed = .error error) :
    ∃ message, error = .badRequest message := by
  rcases bind_eq_error_iff.mp h with h | ⟨brokers, -, h⟩
  · obtain ⟨broker, -, h⟩ := exists_of_mapM_eq_error h
    exact mergeBroker_eq_error h
  · rcases bind_eq_error_iff.mp h with h | ⟨sinks, -, h⟩
    · obtain ⟨sink, -, h⟩ := exists_of_mapM_eq_error h
      exact mergeSink_eq_error h
    · cases h

/-! ## When the merge succeeds -/

/-- With distinct identifiers, a stored password is found. -/
theorem existingBrokerPassword_isOk
    (hnodup : (existing.brokers.map BrokerConnectionConfig.id).Nodup) {brokerId : BrokerId}
    {secret : SecretString} (h : secret ∈ passwordsOf existing brokerId) :
    ∃ password, existingBrokerPassword existing brokerId = .ok password := by
  obtain ⟨broker, hbroker, rfl, credentials, hcredentials, -⟩ := mem_passwordsOf.mp h
  exact ⟨_, existingBrokerPassword_of_mem hnodup hbroker hcredentials⟩

/-- With distinct identifiers, a stored header is found. -/
theorem existingSinkHeader_isOk (hnodup : (existing.sinks.map SinkDefinition.id).Nodup)
    {sinkId : SinkId} {name : String} {secret : SecretString}
    (h : secret ∈ headersOf existing sinkId name) :
    ∃ value, existingSinkHeader existing sinkId name = .ok value := by
  obtain ⟨sink, hsink, rfl, header, hheader, hname, -⟩ := mem_headersOf.mp h
  obtain ⟨stored, hstored⟩ := Keyed.exists_lookup headerKey hheader
  rw [headerKey, eqIgnoreAsciiCase_iff.mp hname] at hstored
  exact ⟨_, existingSinkHeader_of_mem hnodup hsink hstored⟩

theorem mergeBroker_isOk {broker : BrokerConnectionConfig}
    (h : ∀ credentials ∈ broker.credentials, Redacted credentials.password →
      ∃ password, existingBrokerPassword existing broker.id = .ok password) :
    ∃ merged, mergeBroker existing broker = .ok merged := by
  have hcredentials : ∃ credentials,
      broker.credentials.mapM (mergeCredentials existing broker.id) = .ok credentials := by
    cases hsome : broker.credentials with
    | none => exact ⟨none, rfl⟩
    | some credentials =>
      rw [Option.mapM_some, mergeCredentials]
      by_cases hredacted : credentials.password.exposeSecret = REDACTED_SECRET
      · obtain ⟨password, hpassword⟩ := h credentials hsome hredacted
        rw [if_pos hredacted, hpassword]
        exact ⟨_, rfl⟩
      · rw [if_neg hredacted]
        exact ⟨_, rfl⟩
  obtain ⟨credentials, hcredentials⟩ := hcredentials
  exact ⟨_, bind_eq_ok_iff.mpr ⟨credentials, hcredentials, rfl⟩⟩

theorem mergeSink_isOk {sink : SinkDefinition}
    (h : ∀ header ∈ sink.kind.headers, Redacted header.value →
      ∃ value, existingSinkHeader existing sink.id header.name = .ok value) :
    ∃ merged, mergeSink existing sink = .ok merged := by
  rw [mergeSink]
  cases hkind : sink.kind with
  | webhook url method headers timeout =>
    rw [hkind] at h
    have hheader : ∀ header ∈ headers, ∃ merged,
        mergeHeader existing sink.id header = .ok merged := by
      intro header hmem
      rw [mergeHeader]
      by_cases hredacted : header.value.exposeSecret = REDACTED_SECRET
      · obtain ⟨value, hvalue⟩ := h header hmem hredacted
        rw [if_pos hredacted, hvalue]
        exact ⟨_, rfl⟩
      · rw [if_neg hredacted]
        exact ⟨_, rfl⟩
    obtain ⟨headers', hheaders⟩ := mapM_isOk hheader
    exact ⟨_, bind_eq_ok_iff.mpr ⟨headers', hheaders, rfl⟩⟩
  | database connectionRef table => exact ⟨_, rfl⟩

/-- With distinct identifiers, the merge succeeds when every placeholder has a stored secret. -/
theorem mergeRedactedSecrets_isOk {proposed : ProjectConfig}
    (hbrokers : (existing.brokers.map BrokerConnectionConfig.id).Nodup)
    (hsinks : (existing.sinks.map SinkDefinition.id).Nodup) (h : Restorable existing proposed) :
    ∃ merged, mergeRedactedSecrets existing proposed = .ok merged := by
  have hbroker : ∀ broker ∈ proposed.brokers,
      ∃ merged, mergeBroker existing broker = .ok merged := by
    intro broker hmem
    refine mergeBroker_isOk fun credentials hcredentials hredacted => ?_
    obtain ⟨secret, hsecret⟩ := h.passwords broker hmem credentials hcredentials hredacted
    exact existingBrokerPassword_isOk hbrokers hsecret
  have hsink : ∀ sink ∈ proposed.sinks, ∃ merged, mergeSink existing sink = .ok merged := by
    intro sink hmem
    refine mergeSink_isOk fun header hheader hredacted => ?_
    obtain ⟨secret, hsecret⟩ := h.headers sink hmem header hheader hredacted
    exact existingSinkHeader_isOk hsinks hsecret
  obtain ⟨brokers, hbrokers⟩ := mapM_isOk hbroker
  obtain ⟨sinks, hsinks⟩ := mapM_isOk hsink
  exact ⟨_, bind_eq_ok_iff.mpr ⟨brokers, hbrokers, bind_eq_ok_iff.mpr ⟨sinks, hsinks, rfl⟩⟩⟩

end Merge

/-- The merge succeeds only with a stored secret for every placeholder, and then it replaces the
placeholders by stored secrets and changes nothing else.  Otherwise it refuses the configuration
as a bad request.  When the identifiers of the stored configuration are distinct, it succeeds
exactly when there is a stored secret for every placeholder. -/
theorem mergeRedactedSecrets_frame (existing proposed : ProjectConfig) :
    (∀ merged, mergeRedactedSecrets existing proposed = .ok merged →
      Restorable existing proposed ∧ MergeFrame existing proposed merged) ∧
    (∀ error, mergeRedactedSecrets existing proposed = .error error →
      ∃ message, error = .badRequest message) ∧
    (¬ Restorable existing proposed →
      ∃ message, mergeRedactedSecrets existing proposed = .error (.badRequest message)) ∧
    ((existing.brokers.map BrokerConnectionConfig.id).Nodup →
      (existing.sinks.map SinkDefinition.id).Nodup →
        ((∃ merged, mergeRedactedSecrets existing proposed = .ok merged) ↔
          Restorable existing proposed)) := by
  refine ⟨fun _ => mergeRedactedSecrets_eq_ok, fun _ => mergeRedactedSecrets_eq_error,
    fun hnone => ?_, fun hbrokers hsinks => ⟨?_, mergeRedactedSecrets_isOk hbrokers hsinks⟩⟩
  · cases hmerge : mergeRedactedSecrets existing proposed with
    | ok merged => exact absurd (mergeRedactedSecrets_eq_ok hmerge).1 hnone
    | error error =>
      obtain ⟨message, rfl⟩ := mergeRedactedSecrets_eq_error hmerge
      exact ⟨message, rfl⟩
  · rintro ⟨merged, hmerge⟩
    exact (mergeRedactedSecrets_eq_ok hmerge).1

/-! ## Redacted documents -/

/-- A broker with its password redacted. -/
def redactBroker (broker : BrokerConnectionConfig) : BrokerConnectionConfig :=
  { broker with credentials := broker.credentials.map MqttCredentials.throughJson }

/-- A sink with the values of its headers redacted. -/
def redactSink (sink : SinkDefinition) : SinkDefinition :=
  match sink.kind with
  | .webhook url method headers timeout =>
    { sink with kind := .webhook url method (headers.map HttpHeaderTemplate.throughJson) timeout }
  | .database _ _ => sink

/-- A document with its secrets redacted. -/
def redactSecrets (document : ProjectConfigDocumentV1) : ProjectConfigDocumentV1 :=
  { document with
    brokers := document.brokers.map redactBroker
    sinks := document.sinks.map redactSink }

section Redacted

variable {existing : ProjectConfig}

/-- The merge changes no more of a broker than its password. -/
theorem redactBroker_of_merged {broker merged : BrokerConnectionConfig}
    (h : BrokerMerged existing broker merged) : redactBroker broker = redactBroker merged := by
  obtain ⟨credentials, hcredentials, rfl⟩ := h
  have hredacted : broker.credentials.map MqttCredentials.throughJson =
      credentials.map MqttCredentials.throughJson := by
    generalize broker.credentials = old at hcredentials
    cases hcredentials with
    | none => rfl
    | some hmerged =>
      obtain ⟨password, -, rfl⟩ := hmerged
      rfl
  rw [redactBroker, redactBroker, hredacted]

/-- The merge changes no more of a sink than the values of its headers. -/
theorem redactSink_of_merged {sink merged : SinkDefinition} (h : SinkMerged existing sink merged) :
    redactSink sink = redactSink merged := by
  obtain ⟨kind, hkind, rfl⟩ := h
  unfold redactSink
  cases hsink : sink.kind with
  | database connectionRef table =>
    rw [hsink] at hkind
    obtain rfl : kind = .database connectionRef table := hkind
    rw [← hsink]
  | webhook url method headers timeout =>
    rw [hsink] at hkind
    obtain ⟨headers', hheaders, rfl⟩ : ∃ headers', List.Forall₂ (HeaderMerged existing sink.id)
        headers headers' ∧ kind = .webhook url method headers' timeout := hkind
    have hredacted : headers.map HttpHeaderTemplate.throughJson =
        headers'.map HttpHeaderTemplate.throughJson := by
      rw [← List.forall₂_eq_eq_eq, List.forall₂_map_left_iff, List.forall₂_map_right_iff]
      refine hheaders.imp fun header merged hmerged => ?_
      obtain ⟨value, -, rfl⟩ := hmerged
      rfl
    exact congrArg (fun headers => ({ sink with kind := .webhook url method headers timeout } :
      SinkDefinition)) hredacted

/-- The merge leaves the redacted document as it is. -/
theorem redactSecrets_of_merge {proposed merged : ProjectConfig}
    (h : mergeRedactedSecrets existing proposed = .ok merged) :
    redactSecrets (.fromDomain merged) = redactSecrets (.fromDomain proposed) := by
  have hframe := (mergeRedactedSecrets_eq_ok h).2
  have hbrokers : proposed.brokers.map redactBroker = merged.brokers.map redactBroker := by
    rw [← List.forall₂_eq_eq_eq, List.forall₂_map_left_iff, List.forall₂_map_right_iff]
    exact hframe.brokers.imp fun _ _ => redactBroker_of_merged
  have hsinks : proposed.sinks.map redactSink = merged.sinks.map redactSink := by
    rw [← List.forall₂_eq_eq_eq, List.forall₂_map_left_iff, List.forall₂_map_right_iff]
    exact hframe.sinks.imp fun _ _ => redactSink_of_merged
  calc redactSecrets (.fromDomain merged)
      = { redactSecrets (.fromDomain proposed) with
            brokers := merged.brokers.map redactBroker
            sinks := merged.sinks.map redactSink } := by
        rw [hframe.rest]
        rfl
    _ = redactSecrets (.fromDomain proposed) := by
        rw [← hbrokers, ← hsinks]
        rfl

end Redacted

end Api
end PipeBolt
