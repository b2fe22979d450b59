import PipeBolt.Core.Forwarder
import PipeBolt.Core.RuleEngine
import PipeBolt.Daemon.RuntimeConfig

/-!
# Validated configurations and the construction of a runtime

The first steps of `ProjectRuntime::start` under `RuntimeSettings::default()`: the forwarder is
compiled from the sinks and the rule engine from the rules.  `validate_runtime_config` runs
before, on other conditions.

* `buildRuntimeParts_isOk_iff`: a validated configuration passes both steps exactly when its
  enabled rules and its sinks meet the limits that the two constructors check on their own.
-/

namespace PipeBolt
namespace Daemon

open Domain PipeBolt.Core Fallible Rust

/-- The errors of the two construction steps. -/
inductive StartError where
  | dispatch (error : DispatchError)
  | mqtt (error : MqttEngineError)
  deriving DecidableEq, Repr

/-- `try_channel_with_policy` and `RuleEngine::with_limits` in `ProjectRuntime::start`, under the
default settings. -/
def buildRuntimeParts (urls : UrlCrate) (http : HttpCrate) (client : Bool)
    (config : ProjectConfig) : Except StartError (SinkRegistry × RuleEngine) := do
  let registry ← (tryChannelWithPolicy urls http .default .default client config.sinks).mapError
    StartError.dispatch
  let engine ← (RuleEngine.withLimits config.rules .default).mapError StartError.mqtt
  return (registry, engine)

/-- The rules and the sinks of a configuration meet the limits of the constructors. -/
structure Constructible (urls : UrlCrate) (http : HttpCrate) (config : ProjectConfig) : Prop where
  rules_fit : ∀ rule ∈ config.rules, rule.enabled = true → RuleFits .default rule
  sinks_fit : ∀ sink ∈ config.sinks, SinkFits urls http .default .default sink

/-- A validated configuration passes both construction steps exactly when its enabled rules and its
sinks meet the limits that the two constructors check on their own. -/
theorem buildRuntimeParts_isOk_iff (urls : UrlCrate) (http : HttpCrate) (config : ProjectConfig)
    (hvalid : validateRuntimeConfig config = .ok ()) :
    (∃ parts, buildRuntimeParts urls http true config = .ok parts) ↔
      Constructible urls http config := by
  have hruntime := validateRuntimeConfig_eq_ok_iff.mp hvalid
  have hsinks : (∃ registry, tryChannelWithPolicy urls http .default .default true config.sinks =
      .ok registry) ↔ ∀ sink ∈ config.sinks, SinkFits urls http .default .default sink :=
    tryChannelWithPolicy_isOk_iff rfl hruntime.ids_nodup.2
  have hrules : (∃ engine, RuleEngine.withLimits config.rules .default = .ok engine) ↔
      ∀ rule ∈ config.rules, rule.enabled = true → RuleFits .default rule :=
    RuleEngine.withLimits_isOk_iff ⟨Nat.le_refl _, Nat.le_refl _⟩ hruntime.rules_valid
  constructor
  · rintro ⟨parts, h⟩
    obtain ⟨registry, hregistry, h⟩ := bind_eq_ok_iff.mp h
    obtain ⟨engine, hengine, -⟩ := bind_eq_ok_iff.mp h
    exact ⟨hrules.mp ⟨engine, mapError_eq_ok_iff.mp hengine⟩,
      hsinks.mp ⟨registry, mapError_eq_ok_iff.mp hregistry⟩⟩
  · intro h
    obtain ⟨registry, hregistry⟩ := hsinks.mpr h.sinks_fit
    obtain ⟨engine, hengine⟩ := hrules.mpr h.rules_fit
    exact ⟨(registry, engine), bind_eq_ok_iff.mpr ⟨registry, mapError_eq_ok_iff.mpr hregistry,
      bind_eq_ok_iff.mpr ⟨engine, mapError_eq_ok_iff.mpr hengine, rfl⟩⟩⟩

/-- A rule on requested commands that streams to the UI. -/
def commandRule (enabled : Bool) : RuleDefinition where
  id := ⟨"on-command"⟩
  name := "On command"
  enabled := enabled
  trigger := .commandRequested ⟨"restart"⟩
  condition := none
  actions := [.streamToUi]

/-- A webhook with one header. -/
def hookSink : SinkDefinition where
  id := ⟨"hook"⟩
  name := "Hook"
  enabled := true
  kind := .webhook "https://example.com/hook" .post [{ name := "X-Key", value := ⟨"abc"⟩ }]
    (.fromSecs 1)

/-- The parse of `https://example.com/hook`. -/
def hookUrls : UrlCrate :=
  .single "https://example.com/hook" { scheme := "https", host := some (.domain "example.com") } ""

theorem buildRuntimeParts_isOk_iff_hook :
    (∃ parts, buildRuntimeParts hookUrls asciiHttp true
        (plantProject "s3cret" [commandRule false] [hookSink]) = .ok parts) ↔
      Constructible hookUrls asciiHttp (plantProject "s3cret" [commandRule false] [hookSink]) :=
  buildRuntimeParts_isOk_iff hookUrls asciiHttp
    (plantProject "s3cret" [commandRule false] [hookSink])
    (by decide +kernel)

/-- An enabled rule on requested commands passes the validation of the configuration and is
refused by the rule engine, whatever the `url` and `http` crates do. -/
theorem buildRuntimeParts_refuses_commandRule :
    validateRuntimeConfig (plantProject "s3cret" [commandRule true] []) = .ok () ∧
      ∀ (urls : UrlCrate) (http : HttpCrate),
        ¬ ∃ parts, buildRuntimeParts urls http true (plantProject "s3cret" [commandRule true] []) =
          .ok parts := by
  have hvalid : validateRuntimeConfig (plantProject "s3cret" [commandRule true] []) = .ok () := by
    decide +kernel
  refine ⟨hvalid, ?_⟩
  rintro urls http ⟨parts, h⟩
  obtain ⟨registry, -, h⟩ := bind_eq_ok_iff.mp h
  obtain ⟨engine, hengine, -⟩ := bind_eq_ok_iff.mp h
  exact nomatch mapError_eq_ok_iff.mp hengine

end Daemon
end PipeBolt
