import PipeBolt.Core.Egress
import PipeBolt.Domain.Config
import PipeBolt.Lib.Keyed

/-!
# The HTTP forwarder

`pipe_bolt_core::forwarder`: the limits of the webhook forwarder, the checks on the headers and the
timeout of a webhook, and the compilation of the sinks of a project.

The header types of the `http` crate are parameters, as is whether the HTTP client can be built.

* `compileHeaders_isOk_iff`, `compileSink_isOk_iff`: what the checks on one sink accept.
* `SinkRegistry.target_isOk`: the target of an enabled webhook is found.
* `SinkRegistry.compile_isOk_iff`, `tryChannelWithPolicy_isOk_iff`: sinks with distinct
  identifiers compile exactly when each of them fits.
-/

namespace PipeBolt
namespace Core

open Domain Rust Fallible

/-! ## Limits -/

/-- `ForwardLimits`. -/
structure ForwardLimits where
  queueCapacity : Nat
  resultQueueCapacity : Nat
  maxRequestBodyBytes : Nat
  maxResponseBodyBytes : Nat
  maxHeaders : Nat
  maxHeaderNameBytes : Nat
  maxHeaderValueBytes : Nat
  maxInFlight : Nat
  maxTimeout : Duration
  gracefulShutdownTimeout : Duration
  deriving DecidableEq, Repr

/-- `MIN_TIMEOUT`. -/
def MIN_TIMEOUT : Duration := .fromMillis 10

/-- `ForwardLimits::default`. -/
def ForwardLimits.default : ForwardLimits where
  queueCapacity := 1024
  resultQueueCapacity := 1024
  maxRequestBodyBytes := 256 * 1024
  maxResponseBodyBytes := 64 * 1024
  maxHeaders := 32
  maxHeaderNameBytes := 128
  maxHeaderValueBytes := 4096
  maxInFlight := 32
  maxTimeout := .fromSecs 30
  gracefulShutdownTimeout := .fromSecs 10

/-- `validate_limits`. -/
def validateLimits (limits : ForwardLimits) : Except DispatchError Unit :=
  if limits.queueCapacity = 0 then
    .error (.invalidConfig "forward queue capacity must be greater than zero")
  else if limits.resultQueueCapacity = 0 then
    .error (.invalidConfig "forward result queue capacity must be greater than zero")
  else if limits.maxRequestBodyBytes = 0 then
    .error (.invalidConfig "max forward request body bytes must be greater than zero")
  else if limits.maxResponseBodyBytes = 0 then
    .error (.invalidConfig "max forward response body bytes must be greater than zero")
  else if limits.maxHeaders = 0 then
    .error (.invalidConfig "max forward headers must be greater than zero")
  else if limits.maxHeaderNameBytes = 0 ∨ limits.maxHeaderValueBytes = 0 then
    .error (.invalidConfig "max forward header bytes must be greater than zero")
  else if limits.maxInFlight = 0 then
    .error (.invalidConfig "max forward in-flight requests must be greater than zero")
  else if limits.maxTimeout < MIN_TIMEOUT then
    .error (.invalidConfig "max forward timeout is too small")
  else if limits.gracefulShutdownTimeout < MIN_TIMEOUT then
    .error (.invalidConfig "forward graceful shutdown timeout is too small")
  else .ok ()

/-! ## Headers and timeouts -/

/-- The header types of the `http` crate: `HeaderName::from_bytes`, which gives the name in the
form that `as_str` shows, and `HeaderValue::from_str`. -/
structure HttpCrate where
  headerName : String → Option String
  headerValue : String → Option String

/-- Tokens for names, in lower case, and visible ASCII for values. -/
def asciiHttp : HttpCrate where
  headerName name :=
    if !name.isEmpty && name.toList.all fun c => c.isAlphanum || "!#$%&'*+-.^_`|~".toList.contains c
    then some (toAsciiLowercase name)
    else none
  headerValue value :=
    if value.toList.all fun c => (0x20 ≤ c.toNat && c.toNat < 0x7f) || c == '\t' then some value
    else none

/-- `HeaderMap`: a value for each name. -/
abbrev HeaderMap := List (String × String)

/-- `HeaderMap::insert`. -/
def HeaderMap.insert (map : HeaderMap) (name value : String) : HeaderMap :=
  map.filter (fun entry => entry.1 != name) ++ [(name, value)]

/-- `is_blocked_header`. -/
def isBlockedHeader (name : String) : Bool :=
  ["connection", "content-length", "host", "keep-alive", "proxy-authenticate",
    "proxy-authorization", "te", "trailer", "transfer-encoding", "upgrade"].contains name

/-- One round of the loop of `compile_headers`. -/
def compileHeader (http : HttpCrate) (limits : ForwardLimits) (compiled : HeaderMap)
    (header : HttpHeaderTemplate) : Except DispatchError HeaderMap :=
  if limits.maxHeaderNameBytes < len header.name then
    .error (.invalidConfig "sink webhook header name is too large")
  else if limits.maxHeaderValueBytes < len header.value.exposeSecret then
    .error (.invalidConfig "sink webhook header value is too large")
  else
    match http.headerName header.name with
    | none => .error (.invalidConfig "sink webhook header name is invalid")
    | some name =>
      match http.headerValue header.value.exposeSecret with
      | none => .error (.invalidConfig "sink webhook header value is invalid")
      | some value =>
        if isBlockedHeader name = true then
          .error (.invalidConfig "sink webhook header is controlled by the HTTP client")
        else .ok (compiled.insert name value)

/-- `compile_headers`. -/
def compileHeaders (http : HttpCrate) (headers : List HttpHeaderTemplate)
    (limits : ForwardLimits) : Except DispatchError HeaderMap :=
  if limits.maxHeaders < headers.length then
    .error (.invalidConfig "sink webhook has too many headers")
  else headers.foldlM (compileHeader http limits) []

/-- `clamp_timeout`. -/
def clampTimeout (timeout maxTimeout : Duration) : Except DispatchError Duration :=
  if timeout < MIN_TIMEOUT then .error (.invalidConfig "sink webhook timeout is too small")
  else .ok (timeout.min maxTimeout)

/-- What `compile_headers` accepts of one header. -/
structure HeaderFits (http : HttpCrate) (limits : ForwardLimits) (header : HttpHeaderTemplate) :
    Prop where
  name_short : len header.name ≤ limits.maxHeaderNameBytes
  value_short : len header.value.exposeSecret ≤ limits.maxHeaderValueBytes
  name_valid : ∃ name, http.headerName header.name = some name ∧ isBlockedHeader name = false
  value_valid : (http.headerValue header.value.exposeSecret).isSome

theorem compileHeader_isOk_iff {http : HttpCrate} {limits : ForwardLimits} {compiled : HeaderMap}
    {header : HttpHeaderTemplate} :
    (∃ map, compileHeader http limits compiled header = .ok map) ↔
      HeaderFits http limits header := by
  have hparts : HeaderFits http limits header ↔ ¬ limits.maxHeaderNameBytes < len header.name ∧
      ¬ limits.maxHeaderValueBytes < len header.value.exposeSecret ∧
      (∃ name, http.headerName header.name = some name ∧ isBlockedHeader name = false) ∧
      (http.headerValue header.value.exposeSecret).isSome := by
    rw [Nat.not_lt, Nat.not_lt]
    exact ⟨fun ⟨h1, h2, h3, h4⟩ => ⟨h1, h2, h3, h4⟩, fun ⟨h1, h2, h3, h4⟩ => ⟨h1, h2, h3, h4⟩⟩
  rw [hparts]
  simp only [compileHeader, guard_eq_ok_iff, exists_and_left]
  refine and_congr_right fun _ => and_congr_right fun _ => ?_
  cases http.headerName header.name with
  | none => simp
  | some name =>
    cases http.headerValue header.value.exposeSecret with
    | none => simp
    | some value => simp [guard_eq_ok_iff]

theorem compileHeaders_isOk_iff {http : HttpCrate} {limits : ForwardLimits}
    {headers : List HttpHeaderTemplate} :
    (∃ map, compileHeaders http headers limits = .ok map) ↔
      headers.length ≤ limits.maxHeaders ∧ ∀ header ∈ headers, HeaderFits http limits header := by
  simp only [compileHeaders, guard_eq_ok_iff, exists_and_left, Nat.not_lt]
  have hround : ∀ compiled header, (∃ map, compileHeader http limits compiled header = .ok map) ↔
      HeaderFits http limits header := fun _ _ => compileHeader_isOk_iff
  exact and_congr_right fun _ => foldlM_isOk_iff hround

/-! ## Sinks -/

/-- `ForwardTarget`. -/
structure ForwardTarget where
  url : Url
  method : HttpMethod
  headers : HeaderMap
  timeout : Duration
  deriving DecidableEq

/-- `SinkState`. -/
inductive SinkState where
  | enabled (target : ForwardTarget)
  | disabled
  | unsupported
  deriving DecidableEq

/-- `SinkRegistry`: the state of each sink, by its identifier. -/
structure SinkRegistry where
  sinks : List (SinkId × SinkState)
  deriving DecidableEq

section Compile

variable (urls : UrlCrate) (http : HttpCrate) (limits : ForwardLimits) (policy : EgressPolicy)

/-- The state of one sink in `SinkRegistry::compile`. -/
def compileSink (sink : SinkDefinition) : Except DispatchError SinkState :=
  if !sink.enabled then .ok .disabled
  else
    match sink.kind with
    | .webhook url method headers timeout => do
      let url ← parseUrl urls url policy
      let headers ← compileHeaders http headers limits
      let timeout ← clampTimeout timeout limits.maxTimeout
      return .enabled { url, method, headers, timeout }
    | .database _ _ => .ok .unsupported

/-- One round of the loop of `SinkRegistry::compile`. -/
def SinkRegistry.insert (registry : SinkRegistry) (sink : SinkDefinition) :
    Except DispatchError SinkRegistry :=
  if registry.sinks.any (fun entry => entry.1 == sink.id) then
    .error (.invalidConfig "duplicate sink id")
  else do
    let state ← compileSink urls http limits policy sink
    return ⟨registry.sinks ++ [(sink.id, state)]⟩

/-- `SinkRegistry::compile`. -/
def SinkRegistry.compile (sinks : List SinkDefinition) : Except DispatchError SinkRegistry :=
  sinks.foldlM (SinkRegistry.insert urls http limits policy) ⟨[]⟩

/-- `BoundedHttpForwarder::try_channel_with_policy`, up to the channels and the worker it returns.
`client` is whether the HTTP client could be built. -/
def tryChannelWithPolicy (client : Bool) (sinks : List SinkDefinition) :
    Except DispatchError SinkRegistry := do
  validateLimits limits
  let registry ← SinkRegistry.compile urls http limits policy sinks
  if client then return registry
  else throw (.invalidConfig "failed to build HTTP forwarder client")

/-- `SinkRegistry::target`. -/
def SinkRegistry.target (registry : SinkRegistry) (sinkId : SinkId) :
    Except DispatchError ForwardTarget :=
  match (registry.sinks.find? fun entry => entry.1 == sinkId).map Prod.snd with
  | some (.enabled target) => .ok target
  | some .disabled => .error (.sinkDisabled sinkId)
  | some .unsupported => .error (.unsupportedSinkKind sinkId)
  | none => .error (.sinkNotFound sinkId)

/-- What the forwarder accepts of an enabled webhook. -/
structure WebhookFits (url : String) (headers : List HttpHeaderTemplate) (timeout : Duration) :
    Prop where
  url_fits : ∃ parsed host, urls.parse url = some parsed ∧ policy.AdmitsScheme parsed.scheme ∧
    urls.hostStr parsed = some host ∧ EgressHost policy host
  few_headers : headers.length ≤ limits.maxHeaders
  headers_fit : ∀ header ∈ headers, HeaderFits http limits header
  timeout_long : ¬ timeout < MIN_TIMEOUT

/-- What the forwarder accepts of a sink: it is disabled, or no webhook, or a webhook that fits. -/
def SinkFits (sink : SinkDefinition) : Prop :=
  sink.enabled = true → ∀ url method headers timeout,
    sink.kind = .webhook url method headers timeout →
      WebhookFits urls http limits policy url headers timeout

end Compile

section Compile

variable {urls : UrlCrate} {http : HttpCrate} {limits : ForwardLimits} {policy : EgressPolicy}

theorem compileSink_isOk_iff {sink : SinkDefinition} :
    (∃ state, compileSink urls http limits policy sink = .ok state) ↔
      SinkFits urls http limits policy sink := by
  unfold compileSink SinkFits
  cases henabled : sink.enabled with
  | false => simp
  | true =>
    cases hkind : sink.kind with
    | database connectionRef table => simp
    | webhook url method headers timeout =>
      simp only [Bool.not_true, Bool.false_eq_true, if_false, forall_const, SinkKind.webhook.injEq]
      constructor
      · rintro ⟨state, h⟩
        obtain ⟨parsed, hurl, h⟩ := bind_eq_ok_iff.mp h
        obtain ⟨map, hheaders, h⟩ := bind_eq_ok_iff.mp h
        obtain ⟨clamped, htimeout, -⟩ := bind_eq_ok_iff.mp h
        obtain ⟨hparse, hscheme, host, hhost, hegress⟩ := parseUrl_eq_ok_iff.mp hurl
        obtain ⟨hfew, hfit⟩ := compileHeaders_isOk_iff.mp ⟨map, hheaders⟩
        rintro _ _ _ _ ⟨rfl, rfl, rfl, rfl⟩
        exact ⟨⟨parsed, host, hparse, hscheme, hhost, hegress⟩, hfew, hfit,
          (guard_eq_ok_iff.mp htimeout).1⟩
      · intro h
        obtain ⟨⟨parsed, host, hparse, hscheme, hhost, hegress⟩, hfew, hfit, hlong⟩ :=
          h url method headers timeout ⟨rfl, rfl, rfl, rfl⟩
        have hurl := parseUrl_eq_ok_iff.mpr ⟨hparse, hscheme, host, hhost, hegress⟩
        obtain ⟨map, hheaders⟩ := compileHeaders_isOk_iff.mpr ⟨hfew, hfit⟩
        have htimeout : clampTimeout timeout limits.maxTimeout =
            .ok (timeout.min limits.maxTimeout) := if_neg hlong
        exact ⟨_, bind_eq_ok_iff.mpr ⟨parsed, hurl, bind_eq_ok_iff.mpr ⟨map, hheaders,
          bind_eq_ok_iff.mpr ⟨_, htimeout, rfl⟩⟩⟩⟩

/-- The loop of `SinkRegistry::compile` succeeds when the identifiers left are new and distinct and
every sink fits. -/
theorem insertSinks_isOk_iff {sinks : List SinkDefinition} {registry : SinkRegistry}
    (hnew : ∀ entry ∈ registry.sinks, ∀ sink ∈ sinks, entry.1 ≠ sink.id)
    (hnodup : (sinks.map SinkDefinition.id).Nodup) :
    (∃ compiled, sinks.foldlM (SinkRegistry.insert urls http limits policy) registry =
        .ok compiled) ↔
      ∀ sink ∈ sinks, SinkFits urls http limits policy sink := by
  induction sinks generalizing registry with
  | nil => exact ⟨fun _ _ h => (nomatch h), fun _ => ⟨registry, rfl⟩⟩
  | cons sink sinks ih =>
    obtain ⟨hfresh, hnodup⟩ := List.nodup_cons.mp hnodup
    have hunseen : ¬ registry.sinks.any (fun entry => entry.1 == sink.id) = true := by
      intro h
      obtain ⟨entry, hentry, h⟩ := List.any_eq_true.mp h
      exact hnew entry hentry sink List.mem_cons_self (eq_of_beq h)
    have hnext : ∀ state, ∀ entry ∈ registry.sinks ++ [(sink.id, state)], ∀ later ∈ sinks,
        entry.1 ≠ later.id := by
      intro state entry hentry later hlater
      rcases List.mem_append.mp hentry with hentry | hentry
      · exact hnew entry hentry later (List.mem_cons_of_mem _ hlater)
      · rw [List.mem_singleton.mp hentry]
        intro h
        have h : sink.id = later.id := h
        rw [h] at hfresh
        exact hfresh (List.mem_map_of_mem hlater)
    rw [List.forall_mem_cons, ← compileSink_isOk_iff]
    constructor
    · rintro ⟨compiled, h⟩
      rw [List.foldlM_cons] at h
      obtain ⟨registry', hinsert, h⟩ := bind_eq_ok_iff.mp h
      obtain ⟨-, hinsert⟩ := guard_eq_ok_iff.mp hinsert
      obtain ⟨state, hstate, hinsert⟩ := bind_eq_ok_iff.mp hinsert
      obtain rfl : _ = registry' := Except.ok.inj hinsert
      exact ⟨⟨state, hstate⟩, (ih (hnext state) hnodup).mp ⟨compiled, h⟩⟩
    · rintro ⟨⟨state, hstate⟩, hfit⟩
      obtain ⟨compiled, h⟩ := (ih (hnext state) hnodup).mpr hfit
      refine ⟨compiled, ?_⟩
      rw [List.foldlM_cons]
      exact bind_eq_ok_iff.mpr ⟨⟨registry.sinks ++ [(sink.id, state)]⟩,
        guard_eq_ok_iff.mpr ⟨hunseen, bind_eq_ok_iff.mpr ⟨state, hstate, rfl⟩⟩, h⟩

theorem SinkRegistry.compile_isOk_iff {sinks : List SinkDefinition}
    (hnodup : (sinks.map SinkDefinition.id).Nodup) :
    (∃ registry, SinkRegistry.compile urls http limits policy sinks = .ok registry) ↔
      ∀ sink ∈ sinks, SinkFits urls http limits policy sink :=
  insertSinks_isOk_iff (fun _ h => (nomatch h)) hnodup

/-- A compiled registry has the state of each sink under its identifier, in their order. -/
theorem SinkRegistry.compile_eq_ok {sinks : List SinkDefinition} {registry : SinkRegistry}
    (h : SinkRegistry.compile urls http limits policy sinks = .ok registry) :
    List.Forall₂ (fun sink entry => sink.id = entry.1 ∧
      compileSink urls http limits policy sink = .ok entry.2) sinks registry.sinks := by
  have hloop : ∀ (sinks : List SinkDefinition) (before : SinkRegistry),
      sinks.foldlM (SinkRegistry.insert urls http limits policy) before = .ok registry →
        ∃ added, registry.sinks = before.sinks ++ added ∧
          List.Forall₂ (fun sink entry => sink.id = entry.1 ∧
            compileSink urls http limits policy sink = .ok entry.2) sinks added := by
    intro sinks
    induction sinks with
    | nil =>
      intro before h
      obtain rfl : before = registry := Except.ok.inj h
      exact ⟨[], (List.append_nil _).symm, .nil⟩
    | cons sink sinks ih =>
      intro before h
      rw [List.foldlM_cons] at h
      obtain ⟨next, hinsert, h⟩ := bind_eq_ok_iff.mp h
      obtain ⟨-, hinsert⟩ := guard_eq_ok_iff.mp hinsert
      obtain ⟨state, hstate, hinsert⟩ := bind_eq_ok_iff.mp hinsert
      obtain rfl : _ = next := Except.ok.inj hinsert
      obtain ⟨added, hsplit, hadded⟩ := ih _ h
      refine ⟨(sink.id, state) :: added, ?_, .cons ⟨rfl, hstate⟩ hadded⟩
      rw [hsplit, List.append_assoc, List.singleton_append]
  obtain ⟨added, hsplit, hadded⟩ := hloop sinks ⟨[]⟩ h
  rwa [hsplit]

/-- The target of an enabled webhook is found under its identifier. -/
theorem SinkRegistry.target_isOk {sinks : List SinkDefinition} {registry : SinkRegistry}
    {sinkId : SinkId} {sink : SinkDefinition} {url : String} {method : HttpMethod}
    {headers : List HttpHeaderTemplate} {timeout : Duration}
    (h : SinkRegistry.compile urls http limits policy sinks = .ok registry)
    (hfind : sinks.find? (·.id == sinkId) = some sink) (henabled : sink.enabled = true)
    (hkind : sink.kind = .webhook url method headers timeout) :
    ∃ target, registry.target sinkId = .ok target := by
  obtain ⟨entry, hentry, hid, hstate⟩ :=
    Keyed.find?_of_forall₂ (fun _ _ h => congrArg (· == sinkId) h.1)
      (SinkRegistry.compile_eq_ok h) hfind
  unfold compileSink at hstate
  rw [henabled, hkind] at hstate
  obtain ⟨parsed, -, hstate⟩ := bind_eq_ok_iff.mp hstate
  obtain ⟨map, -, hstate⟩ := bind_eq_ok_iff.mp hstate
  obtain ⟨clamped, -, hstate⟩ := bind_eq_ok_iff.mp hstate
  have htarget : entry.2 = .enabled _ := (Except.ok.inj hstate).symm
  refine ⟨{ url := parsed, method, headers := map, timeout := clamped }, ?_⟩
  rw [target, hentry, Option.map_some, htarget]

theorem tryChannelWithPolicy_eq_ok {client : Bool} {sinks : List SinkDefinition}
    {registry : SinkRegistry}
    (h : tryChannelWithPolicy urls http limits policy client sinks = .ok registry) :
    SinkRegistry.compile urls http limits policy sinks = .ok registry := by
  obtain ⟨-, h⟩ := check_eq_ok_iff.mp h
  obtain ⟨compiled, hcompile, h⟩ := bind_eq_ok_iff.mp h
  cases client with
  | false => cases h
  | true => rwa [Except.ok.inj h] at hcompile

theorem tryChannelWithPolicy_isOk_iff {sinks : List SinkDefinition}
    (hlimits : validateLimits limits = .ok ()) (hnodup : (sinks.map SinkDefinition.id).Nodup) :
    (∃ registry, tryChannelWithPolicy urls http limits policy true sinks = .ok registry) ↔
      ∀ sink ∈ sinks, SinkFits urls http limits policy sink := by
  rw [← SinkRegistry.compile_isOk_iff hnodup]
  constructor
  · rintro ⟨registry, h⟩
    obtain ⟨-, h⟩ := check_eq_ok_iff.mp h
    obtain ⟨compiled, hcompile, -⟩ := bind_eq_ok_iff.mp h
    exact ⟨compiled, hcompile⟩
  · rintro ⟨registry, hcompile⟩
    exact ⟨registry, check_eq_ok_iff.mpr ⟨hlimits, bind_eq_ok_iff.mpr ⟨registry, hcompile, rfl⟩⟩⟩

end Compile

end Core
end PipeBolt
