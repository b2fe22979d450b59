import PipeBolt.Core.DispatchCalls
import PipeBolt.Core.MqttEngine
import PipeBolt.Daemon.BrokerRuntimes

/-!
# The runs of a broker runtime

The router of a broker runtime on the MQTT engine: every message that the router worker dispatches
goes through `handle_pipeline_message`, under any interleaving of the workers, of the other users
of the queues and of the shutdown.

* `Handling`: what the handling of one message comes to (`pipelineDispatch_handling`).
* `HandledRun`, `handledRun`: what the handling of one message after the other comes to.
* `pipeline_exact`: the calls and the counters of a run, from the configuration to the queues.
-/

namespace PipeBolt
namespace Daemon

open Domain Rust PipeBolt.Core Pipeline Fallible BoundedChannel Transition

/-! ## The handlers of a runtime -/

/-- The counters of a new runtime. -/
def PipelineStats.default : PipelineStats := ⟨0, 0, 0, 0⟩

/-- What the handlers of a broker runtime act on: the counters, and the queues with the log of the
calls on them. -/
structure PipelineApp (σ : Type) where
  stats : PipelineStats
  world : σ × List Call

/-- What a broker runtime is given, with the log of the calls. -/
def BrokerRuntimeParts.logged {σ : Type} (parts : BrokerRuntimeParts σ) :
    BrokerRuntimeParts (σ × List Call) :=
  { parts with boundary := parts.boundary.logged }

/-- A handler of the router that `build_pipeline_router` makes: the closure calls
`handle_pipeline_message` with what it has captured. -/
def pipelineHandler {σ : Type} (json : SerdeJson) (uuid : String)
    (parts : PipelineParts (σ × List Call)) (message : MqttMessage) (_params : TopicParams) :
    ExceptT MqttEngineError (StateM (PipelineApp σ)) Unit := fun app =>
  let handled := handlePipelineMessage json uuid parts message app.stats app.world
  (handled.1, ⟨handled.2.1, handled.2.2⟩)

/-- `MqttRouter::dispatch` on the router of a broker runtime, with the text of `Uuid::now_v7()`. -/
def pipelineDispatch {σ : Type} (json : SerdeJson)
    (router : Router.MqttRouter (PipelineParts (σ × List Call))) :
    Dispatch String (PipelineApp σ) := fun uuid message app =>
  router.dispatch (pipelineHandler json uuid) message app

/-- What others do to the queues: they touch neither the counters nor the log. -/
def Outside {σ : Type} (env : σ → σ → Prop) (app app' : PipelineApp σ) : Prop :=
  app'.stats = app.stats ∧ app'.world.2 = app.world.2 ∧ env app.world.1 app'.world.1

/-! ## One message -/

/-- What the handling of a message comes to. -/
structure Handling (σ : Type) where
  message : MqttMessage
  uuid : String
  /-- The queues when the message is handed to the router, with the calls made before. -/
  world : σ × List Call
  event : Option NormalizedEvent
  evaluation : Option RuleEvaluation
  outcome : Option DispatchOutcome
  calls : List Call

section Counters

variable {σ : Type}

/-- How many rules matched. -/
def Handling.matchedRules (handling : Handling σ) : Nat :=
  handling.evaluation.elim 0 fun evaluation => evaluation.matchedRules.length

/-- How many intents there were. -/
def Handling.intents (handling : Handling σ) : Nat :=
  handling.evaluation.elim 0 fun evaluation => evaluation.intents.length

/-- How many of them failed. -/
def Handling.failed (handling : Handling σ) : Nat :=
  handling.outcome.elim 0 fun outcome => outcome.failed.length

/-- The counters with one more message handled. -/
def Handling.count (handling : Handling σ) (stats : PipelineStats) : PipelineStats where
  normalizedTotal := stats.normalizedTotal + if handling.event.isSome then 1 else 0
  matchedRuleTotal := stats.matchedRuleTotal + saturatingUsizeToU64 handling.matchedRules
  actionIntentTotal := stats.actionIntentTotal + saturatingUsizeToU64 handling.intents
  dispatchFailedTotal := stats.dispatchFailedTotal + saturatingUsizeToU64 handling.failed

/-- How the parts of a handling belong together, for the routes of a runtime. -/
structure Handling.Sound (handling : Handling σ) (json : SerdeJson)
    (parts : BrokerRuntimeParts σ) (projectId : ProjectId) (routes : List TopicRouteConfig) :
    Prop where
  /-- The event is that of the first route whose filter matches the topic. -/
  event : ∀ event, handling.event = some event → ∃ route params,
    FirstMatch handling.message.topic routes route ∧
      Router.FilterCaptures route.topicFilter.raw handling.message.topic params ∧
        EventNormalizer.normalize json handling.uuid ⟨parts.normalizerLimits⟩ handling.message
          { projectId, route, params
            schemaMapping := findSchemaMapping parts.schemaMappings route } = .ok event
  /-- There is none when no filter matches, or when the first that does cannot make one. -/
  noEvent : handling.event = none →
    (∀ route ∈ routes, ¬ RouteMatches handling.message.topic route) ∨
      ∃ route params error, FirstMatch handling.message.topic routes route ∧
        EventNormalizer.normalize json handling.uuid ⟨parts.normalizerLimits⟩ handling.message
          { projectId, route, params
            schemaMapping := findSchemaMapping parts.schemaMappings route } = .error error
  evaluation : handling.evaluation =
    handling.event.bind fun event => (parts.ruleEngine.evaluate event).toOption
  /-- The intents are dispatched on the queues as they were, unless there are too many.  The calls
  are those of the intents of the event that come before the first that drops it. -/
  calls : ∀ event evaluation, handling.event = some event → handling.evaluation = some evaluation →
    evaluation.intents.length ≤ parts.dispatchLimits.maxIntentsPerEvent →
      List.Forall₂ (CallOfEvent event) (callIntents event evaluation.intents) handling.calls ∧
        ∃ outcome after, handling.outcome = some outcome ∧
          dispatch parts.boundary.logged parts.dispatchLimits event evaluation.intents
            handling.world = (.ok outcome, after)
  silent : (∀ evaluation, handling.evaluation = some evaluation →
      parts.dispatchLimits.maxIntentsPerEvent < evaluation.intents.length) →
    handling.calls = [] ∧ handling.outcome = none

end Counters

section Handler

variable {σ : Type} {boundary : Boundary σ} {limits : DispatchLimits} {event : NormalizedEvent}

theorem handleEvent_of_error {parts : PipelineParts σ} {stats : PipelineStats} {world : σ}
    {error : MqttEngineError} (h : parts.ruleEngine.evaluate event = .error error) :
    handleEvent parts event stats world = (.error error, stats, world) := by
  rw [handleEvent, h]

/-- Too many intents are counted and refused. -/
theorem handleEvent_of_many {parts : PipelineParts σ} {stats : PipelineStats} {world : σ}
    {evaluation : RuleEvaluation} (h : parts.ruleEngine.evaluate event = .ok evaluation)
    (hmany : parts.dispatchLimits.maxIntentsPerEvent < evaluation.intents.length) :
    ∃ error, handleEvent parts event stats world = (.error error,
      stats.recordRuleEvaluation evaluation.matchedRules.length evaluation.intents.length,
      world) := by
  rw [handleEvent, h]
  simp only [dispatch_of_many parts.boundary parts.dispatchLimits event hmany world]
  exact ⟨_, rfl⟩

/-- Intents within the limit are dispatched, and what failed of them is counted. -/
theorem handleEvent_of_few {parts : PipelineParts σ} {stats : PipelineStats} {world : σ}
    {evaluation : RuleEvaluation} (h : parts.ruleEngine.evaluate event = .ok evaluation)
    (hfew : evaluation.intents.length ≤ parts.dispatchLimits.maxIntentsPerEvent) :
    ∃ outcome after,
      dispatch parts.boundary parts.dispatchLimits event evaluation.intents world =
        (.ok outcome, after) ∧
      handleEvent parts event stats world = (.ok (),
        (stats.recordRuleEvaluation evaluation.matchedRules.length
          evaluation.intents.length).recordDispatchFailures outcome.failed.length, after) := by
  obtain ⟨outcome, after, hdispatch⟩ :=
    dispatch_of_few parts.boundary parts.dispatchLimits event hfew world
  refine ⟨outcome, after, hdispatch, ?_⟩
  rw [handleEvent, h]
  simp only [hdispatch]

/-- The calls of a loop, after other calls. -/
theorem calls_dispatchLoop_from (htexts : boundary.UuidTexts) (intents : List ActionIntent)
    (world : σ) (past : List Call) :
    ∃ calls, (dispatchLoop boundary.logged limits event intents (world, past)).world.2 =
        past ++ calls ∧
      List.Forall₂ (CallOfEvent event) (callIntents event intents) calls := by
  induction intents using List.reverseRecOn with
  | nil => exact ⟨[], (List.append_nil _).symm, .nil⟩
  | append_singleton before intent ih =>
    obtain ⟨calls, hcalls, hof⟩ := ih
    obtain ⟨more, hmore, hofMore⟩ := DispatchRun.calls_round boundary limits event htexts
      (dispatchLoop boundary.logged limits event before (world, past)) intent
    rw [dropped_dispatchLoop] at hofMore
    have hofMore' := hofMore.imp fun _ call hcall =>
      (⟨_, enrichedEvent_isSnapshot event _, hcall⟩ : CallOfEvent event _ call)
    refine ⟨calls ++ more, ?_, ?_⟩
    · rw [dispatchLoop_concat, hmore, hcalls, List.append_assoc]
    · rw [callIntents_concat]
      cases hany : before.any (isOwnDrop event) with
      | true =>
        rw [hany, if_pos rfl, List.forall₂_nil_left_iff] at hofMore'
        rw [if_pos rfl, hofMore', List.append_nil]
        exact hof
      | false =>
        rw [hany, if_neg Bool.false_ne_true] at hofMore'
        rw [if_neg Bool.false_ne_true]
        exact List.rel_append hof hofMore'

end Handler

section Message

variable {σ : Type} {json : SerdeJson} {uuid : String} {parts : BrokerRuntimeParts σ}
  {projectId : ProjectId} {routes : List TopicRouteConfig} {matcher : ConfigRouteMatcher}
  {router : Router.MqttRouter (PipelineParts (σ × List Call))} {message : MqttMessage}
  {app : PipelineApp σ}

/-- The router and the matcher find the first route whose filter matches, or nothing. -/
theorem finds_first {H : Type} {handler : H} {router : Router.MqttRouter H}
    (henabled : ∀ route ∈ routes, route.enabled = true)
    (hvalid : ∀ route ∈ routes, route.topicFilter.validate = .ok ())
    (hmatcher : ConfigRouteMatcher.new projectId routes = .ok matcher)
    (hrouter : buildPipelineRouter routes handler = .ok router) (message : MqttMessage) :
    (router.matched message.topic = none ∧
        ∀ route ∈ routes, ¬ RouteMatches message.topic route) ∨
      ∃ route params, FirstMatch message.topic routes route ∧
        Router.FilterCaptures route.topicFilter.raw message.topic params ∧
        matcher.matchMessage message = some { projectId, route, params } ∧
        router.matched message.topic =
          some (filterRoute handler route.topicFilter.raw, params) := by
  rw [matched_eq hvalid hrouter, matchMessage_eq henabled hmatcher]
  cases hfind : routes.find? fun route =>
      (filterParams message.topic route.topicFilter.raw).isSome with
  | none =>
    refine .inl ⟨rfl, fun route hroute hmatch => ?_⟩
    have hnone := List.find?_eq_none.mp hfind route hroute
    exact hnone ((filterParams_isSome_iff (hvalid route hroute)).mpr hmatch)
  | some route =>
    have hsome := List.find?_some hfind
    obtain ⟨params, hparams⟩ : ∃ params,
        filterParams message.topic route.topicFilter.raw = some params :=
      Option.isSome_iff_exists.mp hsome
    have hroute : route ∈ routes := List.mem_of_find?_eq_some hfind
    have hparse : TopicFilterMatcher.parse route.topicFilter.raw =
        .ok (.ofText route.topicFilter.raw) :=
      TopicFilterMatcher.parse_eq_ok_iff.mpr ⟨hvalid route hroute, rfl⟩
    refine .inr ⟨route, params, find?_filterParams_eq_some hvalid hfind,
      ((TopicFilterMatcher.matches_eq_some_iff hparse).mp hparams).2, ?_, ?_⟩
    · rw [Option.bind_some, hparams, Option.map_some]
    · rw [Option.bind_some, hparams, Option.map_some]

/-- What the router does after a handler leaves the state of the handler. -/
theorem afterHandler {s : Type} (handler : ExceptT MqttEngineError (StateM s) Unit) (before : s) :
    ((do handler; return true : ExceptT MqttEngineError (StateM s) Bool) before).2 =
      (handler before).2 := by
  have hbind : (do handler; return true : ExceptT MqttEngineError (StateM s) Bool) before =
      (ExceptT.bindCont (m := StateM s) (fun _ => pure true) (handler before).1 : StateM s _)
        (handler before).2 := rfl
  rw [hbind]
  cases (handler before).1 <;> rfl

/-- A message without an event changes nothing. -/
theorem Handling.exists_noEvent (json : SerdeJson) (uuid : String) (parts : BrokerRuntimeParts σ)
    (projectId : ProjectId) (app : PipelineApp σ)
    (hnone : (∀ route ∈ routes, ¬ RouteMatches message.topic route) ∨
      ∃ route params error, FirstMatch message.topic routes route ∧
        EventNormalizer.normalize json uuid ⟨parts.normalizerLimits⟩ message
          { projectId, route, params
            schemaMapping := findSchemaMapping parts.schemaMappings route } = .error error) :
    ∃ handling : Handling σ, handling.message = message ∧ handling.world = app.world ∧
      handling.Sound json parts projectId routes ∧ app.stats = handling.count app.stats ∧
        app.world.2 = app.world.2 ++ handling.calls := by
  refine ⟨⟨message, uuid, app.world, none, none, none, []⟩, rfl, rfl,
    ⟨nofun, fun _ => hnone, rfl, nofun, fun _ => ⟨rfl, rfl⟩⟩, ?_, (List.append_nil _).symm⟩
  simp [Handling.count, Handling.matchedRules, Handling.intents, Handling.failed,
    saturatingUsizeToU64]

/-- What `handle_pipeline_message` makes of an event. -/
theorem handleEvent_handling {event : NormalizedEvent} {route : TopicRouteConfig}
    {params : TopicParams} (htexts : parts.boundary.UuidTexts)
    (hfirst : FirstMatch message.topic routes route)
    (hcaptures : Router.FilterCaptures route.topicFilter.raw message.topic params)
    (hevent : EventNormalizer.normalize json uuid ⟨parts.normalizerLimits⟩ message
      { projectId, route, params
        schemaMapping := findSchemaMapping parts.schemaMappings route } = .ok event) :
    ∃ handling : Handling σ, handling.message = message ∧ handling.world = app.world ∧
      handling.Sound json parts projectId routes ∧
      (handleEvent (pipelineParts parts.logged matcher) event app.stats.recordNormalized
        app.world).2.1 = handling.count app.stats ∧
      (handleEvent (pipelineParts parts.logged matcher) event app.stats.recordNormalized
        app.world).2.2.2 = app.world.2 ++ handling.calls := by
  have hmade : ∀ event', some event = some event' → ∃ route params,
      FirstMatch message.topic routes route ∧
        Router.FilterCaptures route.topicFilter.raw message.topic params ∧
          EventNormalizer.normalize json uuid ⟨parts.normalizerLimits⟩ message
            { projectId, route, params
              schemaMapping := findSchemaMapping parts.schemaMappings route } = .ok event' := by
    rintro event' heq
    obtain rfl := Option.some.inj heq
    exact ⟨route, params, hfirst, hcaptures, hevent⟩
  have hengine : (pipelineParts parts.logged matcher).ruleEngine = parts.ruleEngine := rfl
  cases hevaluate : parts.ruleEngine.evaluate event with
  | error error =>
    rw [handleEvent_of_error (hengine ▸ hevaluate)]
    refine ⟨⟨message, uuid, app.world, some event, none, none, []⟩, rfl, rfl,
      ⟨hmade, nofun, ?_, nofun, fun _ => ⟨rfl, rfl⟩⟩, ?_, (List.append_nil _).symm⟩
    · rw [Option.bind_some, hevaluate]
      rfl
    · simp [Handling.count, Handling.matchedRules, Handling.intents, Handling.failed,
        saturatingUsizeToU64, PipelineStats.recordNormalized]
  | ok evaluation =>
    have hbind : some evaluation =
        (some event).bind fun event => (parts.ruleEngine.evaluate event).toOption := by
      rw [Option.bind_some, hevaluate]
      rfl
    by_cases hmany : parts.dispatchLimits.maxIntentsPerEvent < evaluation.intents.length
    · obtain ⟨error, hrefused⟩ : ∃ error, handleEvent (pipelineParts parts.logged matcher) event
          app.stats.recordNormalized app.world = (.error error,
            app.stats.recordNormalized.recordRuleEvaluation evaluation.matchedRules.length
              evaluation.intents.length, app.world) :=
        handleEvent_of_many (hengine ▸ hevaluate) hmany
      rw [hrefused]
      refine ⟨⟨message, uuid, app.world, some event, some evaluation, none, []⟩, rfl, rfl,
        ⟨hmade, nofun, hbind, ?_, fun _ => ⟨rfl, rfl⟩⟩, ?_, (List.append_nil _).symm⟩
      · rintro event' evaluation' - heq hfew
        obtain rfl := Option.some.inj heq
        exact absurd hfew (Nat.not_le.mpr hmany)
      · simp [Handling.count, Handling.matchedRules, Handling.intents, Handling.failed,
          saturatingUsizeToU64, PipelineStats.recordNormalized,
          PipelineStats.recordRuleEvaluation]
    · have hfew := Nat.not_lt.mp hmany
      obtain ⟨outcome, after, hdispatch, hhandled⟩ : ∃ outcome after,
          dispatch parts.boundary.logged parts.dispatchLimits event evaluation.intents app.world =
            (.ok outcome, after) ∧
          handleEvent (pipelineParts parts.logged matcher) event app.stats.recordNormalized
            app.world = (.ok (), (app.stats.recordNormalized.recordRuleEvaluation
              evaluation.matchedRules.length evaluation.intents.length).recordDispatchFailures
                outcome.failed.length, after) :=
        handleEvent_of_few (hengine ▸ hevaluate) hfew
      obtain ⟨calls, hcalls, hof⟩ : ∃ calls,
          (dispatchLoop parts.boundary.logged parts.dispatchLimits event evaluation.intents
            (app.world.1, app.world.2)).world.2 = app.world.2 ++ calls ∧
          List.Forall₂ (CallOfEvent event) (callIntents event evaluation.intents) calls :=
        calls_dispatchLoop_from htexts evaluation.intents app.world.1 app.world.2
      have hloop := hdispatch.symm.trans
        (dispatch_eq_loop parts.boundary.logged parts.dispatchLimits event hfew app.world)
      have hafter : after.2 = app.world.2 ++ calls := by
        rw [congrArg (fun done => done.2.2) hloop]
        exact hcalls
      rw [hhandled]
      refine ⟨⟨message, uuid, app.world, some event, some evaluation, some outcome, calls⟩, rfl,
        rfl, ⟨hmade, nofun, hbind, ?_, fun h => absurd hfew (Nat.not_le.mpr (h _ rfl))⟩, ?_,
        hafter⟩
      · rintro event' evaluation' heq heq' -
        obtain rfl := Option.some.inj heq
        obtain rfl := Option.some.inj heq'
        exact ⟨hof, outcome, after, rfl, hdispatch⟩
      · simp [Handling.count, Handling.matchedRules, Handling.intents, Handling.failed,
          PipelineStats.recordNormalized, PipelineStats.recordRuleEvaluation,
          PipelineStats.recordDispatchFailures]

/-- **What the router does with a message** is its handling. -/
theorem pipelineDispatch_handling (htexts : parts.boundary.UuidTexts)
    (henabled : ∀ route ∈ routes, route.enabled = true)
    (hvalid : ∀ route ∈ routes, route.topicFilter.validate = .ok ())
    (hmatcher : ConfigRouteMatcher.new projectId routes = .ok matcher)
    (hrouter : buildPipelineRouter routes (pipelineParts parts.logged matcher) = .ok router) :
    ∃ handling : Handling σ, handling.message = message ∧ handling.world = app.world ∧
      handling.Sound json parts projectId routes ∧
      (pipelineDispatch json router uuid message app).2.stats = handling.count app.stats ∧
      (pipelineDispatch json router uuid message app).2.world.2 =
        app.world.2 ++ handling.calls := by
  rw [pipelineDispatch, Router.MqttRouter.dispatch_eq]
  rcases finds_first henabled hvalid hmatcher hrouter message with
      ⟨hmatched, hnone⟩ | ⟨route, params, hfirst, hcaptures, hfound, hmatched⟩
  · rw [hmatched]
    exact Handling.exists_noEvent json uuid parts projectId app (.inl hnone)
  · rw [hmatched]
    simp only [afterHandler]
    have hnormalize : normalizeRoutedMessage json uuid matcher ⟨parts.normalizerLimits⟩
        parts.schemaMappings message =
          (EventNormalizer.normalize json uuid ⟨parts.normalizerLimits⟩ message
            { projectId, route, params
              schemaMapping := findSchemaMapping parts.schemaMappings route }).map some := by
      rw [normalizeRoutedMessage, hfound]
      rfl
    have hhandler : ∀ app : PipelineApp σ, pipelineHandler json uuid
        (pipelineParts parts.logged matcher) message params app =
          match (EventNormalizer.normalize json uuid ⟨parts.normalizerLimits⟩ message
            { projectId, route, params
              schemaMapping := findSchemaMapping parts.schemaMappings route }) with
          | .error error => (.error error, app)
          | .ok event =>
            let handled := handleEvent (pipelineParts parts.logged matcher) event
              app.stats.recordNormalized app.world
            (handled.1, ⟨handled.2.1, handled.2.2⟩) := by
      intro app
      rw [pipelineHandler, handlePipelineMessage]
      simp only [pipelineParts, BrokerRuntimeParts.logged, hnormalize]
      cases EventNormalizer.normalize json uuid ⟨parts.normalizerLimits⟩ message
          { projectId, route, params
            schemaMapping := findSchemaMapping parts.schemaMappings route } with
      | error error => rfl
      | ok event => rfl
    have hfilter : (filterRoute (pipelineParts parts.logged matcher)
        route.topicFilter.raw).handler = pipelineParts parts.logged matcher := rfl
    rw [hfilter, hhandler]
    cases hevent : EventNormalizer.normalize json uuid ⟨parts.normalizerLimits⟩ message
        { projectId, route, params
          schemaMapping := findSchemaMapping parts.schemaMappings route } with
    | error error =>
      exact Handling.exists_noEvent json uuid parts projectId app
        (.inr ⟨route, params, error, hfirst, hevent⟩)
    | ok event => exact handleEvent_handling htexts hfirst hcaptures hevent

end Message

/-! ## One message after the other -/

section Total

variable {σ : Type}

/-- The sum of a number of each handling, as the counters add it up. -/
def total (f : Handling σ → Nat) (handlings : List (Handling σ)) : UInt64 :=
  handlings.foldl (fun sum handling => sum + saturatingUsizeToU64 (f handling)) 0

@[simp] theorem total_nil (f : Handling σ → Nat) : total f [] = 0 := rfl

theorem total_snoc (f : Handling σ → Nat) (handlings : List (Handling σ))
    (handling : Handling σ) :
    total f (handlings ++ [handling]) =
      total f handlings + saturatingUsizeToU64 (f handling) := by
  rw [total, List.foldl_append]
  rfl

/-- The messages that the engine hands to the router, each with the queues at that moment. -/
def dispatchedAt (es : List (Edge (MqttEngine (PipelineApp σ)) EngineLabel)) :
    List (MqttMessage × (σ × List Call)) :=
  es.filterMap fun e => e.label.dispatched?.map fun message => (message, e.source.app.world)

theorem dispatchedAt_snoc (es : List (Edge (MqttEngine (PipelineApp σ)) EngineLabel))
    (s t : MqttEngine (PipelineApp σ)) (label : EngineLabel) :
    dispatchedAt (es ++ [⟨s, label, t⟩]) =
      dispatchedAt es ++ (label.dispatched?.map fun message => (message, s.app.world)).toList :=
  filterMap_snoc _ es _

theorem dispatchedAt_snoc_none {label : EngineLabel} (h : label.dispatched? = none)
    (es : List (Edge (MqttEngine (PipelineApp σ)) EngineLabel))
    (s t : MqttEngine (PipelineApp σ)) :
    dispatchedAt (es ++ [⟨s, label, t⟩]) = dispatchedAt es := by
  rw [dispatchedAt_snoc, h, Option.map_none, Option.toList_none, List.append_nil]

theorem map_fst_dispatchedAt (es : List (Edge (MqttEngine (PipelineApp σ)) EngineLabel)) :
    (dispatchedAt es).map Prod.fst = logged EngineLabel.dispatched? es := by
  rw [dispatchedAt, logged, List.map_filterMap]
  refine List.filterMap_congr fun e _ => ?_
  rw [Option.map_map]
  exact Option.map_id'

end Total

/-- The project that a call is for. -/
def Call.projectId : Call → ProjectId
  | .publish event => event.projectId
  | .forward request => request.event.projectId
  | .enqueue request => request.projectId

/-- What the handling of some messages comes to. -/
structure HandledRun {σ : Type} (json : SerdeJson) (parts : BrokerRuntimeParts σ)
    (projectId : ProjectId) (routes : List TopicRouteConfig) (handlings : List (Handling σ))
    (app : PipelineApp σ) : Prop where
  sound : ∀ handling ∈ handlings, handling.Sound json parts projectId routes
  calls : app.world.2 = handlings.flatMap Handling.calls
  normalized : app.stats.normalizedTotal =
    total (fun handling => if handling.event.isSome then 1 else 0) handlings
  matchedRules : app.stats.matchedRuleTotal = total Handling.matchedRules handlings
  actionIntents : app.stats.actionIntentTotal = total Handling.intents handlings
  failed : app.stats.dispatchFailedTotal = total Handling.failed handlings

theorem projectId_of_callOf {snapshot : NormalizedEvent} {intent : ActionIntent} {call : Call}
    (h : CallOf snapshot intent call) : Call.projectId call = snapshot.projectId := by
  unfold CallOf at h
  split at h
  · rw [h]
    rfl
  · rw [h]
    rfl
  · rw [h]
    rfl
  · exact h.elim

section Handled

variable {σ : Type} {json : SerdeJson} {parts : BrokerRuntimeParts σ}
  {projectId : ProjectId} {routes : List TopicRouteConfig} {handlings : List (Handling σ)}
  {app app' : PipelineApp σ}

theorem HandledRun.new (json : SerdeJson) (parts : BrokerRuntimeParts σ) (projectId : ProjectId)
    (routes : List TopicRouteConfig) (world : σ) :
    HandledRun json parts projectId routes [] ⟨.default, (world, [])⟩ :=
  ⟨fun _ h => absurd h List.not_mem_nil, rfl, (total_nil _).symm, (total_nil _).symm,
    (total_nil _).symm, (total_nil _).symm⟩

theorem HandledRun.snoc (h : HandledRun json parts projectId routes handlings app)
    {handling : Handling σ} (hsound : handling.Sound json parts projectId routes)
    (hstats : app'.stats = handling.count app.stats)
    (hcalls : app'.world.2 = app.world.2 ++ handling.calls) :
    HandledRun json parts projectId routes (handlings ++ [handling]) app' := by
  have hone : (if handling.event.isSome then (1 : UInt64) else 0) =
      saturatingUsizeToU64 (if handling.event.isSome then 1 else 0) := by
    cases handling.event.isSome <;> rfl
  refine ⟨?_, ?_, ?_, ?_, ?_, ?_⟩
  · intro other hother
    rcases List.mem_append.mp hother with hother | hother
    · exact h.sound other hother
    · obtain rfl := List.mem_singleton.mp hother
      exact hsound
  · rw [hcalls, h.calls, List.flatMap_append, List.flatMap_singleton]
  · rw [hstats, total_snoc, ← h.normalized, ← hone]
    rfl
  · rw [hstats, total_snoc, ← h.matchedRules]
    rfl
  · rw [hstats, total_snoc, ← h.actionIntents]
    rfl
  · rw [hstats, total_snoc, ← h.failed]
    rfl

/-- What others do to the queues is not seen. -/
theorem HandledRun.outside (h : HandledRun json parts projectId routes handlings app)
    (hstats : app'.stats = app.stats) (hcalls : app'.world.2 = app.world.2) :
    HandledRun json parts projectId routes handlings app' := by
  refine ⟨h.sound, ?_, ?_, ?_, ?_, ?_⟩
  · rw [hcalls, h.calls]
  · rw [hstats, h.normalized]
  · rw [hstats, h.matchedRules]
  · rw [hstats, h.actionIntents]
  · rw [hstats, h.failed]

/-- Every call is for the project of the runtime. -/
theorem HandledRun.project (h : HandledRun json parts projectId routes handlings app) :
    ∀ call ∈ app.world.2, Call.projectId call = projectId := by
  intro call hcall
  rw [h.calls] at hcall
  obtain ⟨handling, hhandling, hcall⟩ := List.mem_flatMap.mp hcall
  have hsound := h.sound handling hhandling
  have hloud : ¬ ∀ evaluation, handling.evaluation = some evaluation →
      parts.dispatchLimits.maxIntentsPerEvent < evaluation.intents.length := by
    intro hsilent
    rw [(hsound.silent hsilent).1] at hcall
    cases hcall
  push Not at hloud
  obtain ⟨evaluation, hevaluation, hfew⟩ := hloud
  cases hevent : handling.event with
  | none =>
    have hnone := hsound.evaluation
    rw [hevent, hevaluation] at hnone
    cases hnone
  | some event =>
    obtain ⟨hcalls, -⟩ := hsound.calls event evaluation hevent hevaluation hfew
    obtain ⟨route, params, -, -, hmade⟩ := hsound.event event hevent
    have hproject : event.projectId = projectId :=
      (EventNormalizer.normalize_eq_ok hmade).1.projectId
    obtain ⟨intent, -, snapshot, hsnapshot, hof⟩ := exists_of_forall₂ hcalls hcall
    have hsame : snapshot.projectId = event.projectId := by rw [hsnapshot]
    rw [← hproject, ← hsame]
    exact projectId_of_callOf hof

/-- In a run of the engine the router handles one message after the other, with others at the queues
in between. -/
theorem handledRun (htexts : parts.boundary.UuidTexts) {env : σ → σ → Prop}
    {matcher : ConfigRouteMatcher} {router : Router.MqttRouter (PipelineParts (σ × List Call))}
    (henabled : ∀ route ∈ routes, route.enabled = true)
    (hvalid : ∀ route ∈ routes, route.topicFilter.validate = .ok ())
    (hmatcher : ConfigRouteMatcher.new projectId routes = .ok matcher)
    (hrouter : buildPipelineRouter routes (pipelineParts parts.logged matcher) = .ok router)
    {config : MqttClientConfig} {bus : BusConfig} {world : σ}
    {es : List (Edge (MqttEngine (PipelineApp σ)) EngineLabel)} {s : MqttEngine (PipelineApp σ)}
    (h : Run (EngineStep config (pipelineDispatch json router) (Outside env))
      (.spawn config bus ⟨.default, (world, [])⟩) es s) :
    ∃ handlings, HandledRun json parts projectId routes handlings s.app ∧
      handlings.map (fun handling => (handling.message, handling.world)) = dispatchedAt es := by
  refine h.history (fun es s => ∃ handlings,
    HandledRun json parts projectId routes handlings s.app ∧
      handlings.map (fun handling => (handling.message, handling.world)) = dispatchedAt es) ?_ ?_
  · rintro es s label t ⟨handlings, hrun, hmessages⟩ hstep
    rcases hstep.handlers with ⟨message, uuid, hlabel, happ⟩ | ⟨hlabel, henv | happ⟩
    · obtain ⟨handling, rfl, hworld, hsound, hstats, hcalls⟩ : ∃ handling : Handling σ,
          handling.message = message ∧ handling.world = s.app.world ∧
          handling.Sound json parts projectId routes ∧
          (pipelineDispatch json router uuid message s.app).2.stats = handling.count s.app.stats ∧
          (pipelineDispatch json router uuid message s.app).2.world.2 =
            s.app.world.2 ++ handling.calls :=
        pipelineDispatch_handling htexts henabled hvalid hmatcher hrouter
      rw [← happ] at hstats hcalls
      refine ⟨handlings ++ [handling], hrun.snoc hsound hstats hcalls, ?_⟩
      rw [List.map_append, hmessages, dispatchedAt_snoc, hlabel, List.map_singleton, hworld]
      rfl
    · refine ⟨handlings, hrun.outside henv.1 henv.2.1, ?_⟩
      rw [hmessages, dispatchedAt_snoc_none hlabel]
    · refine ⟨handlings, ?_, ?_⟩
      · rw [happ]
        exact hrun
      · rw [hmessages, dispatchedAt_snoc_none hlabel]
  · exact ⟨[], .new json parts projectId routes world, rfl⟩

end Handled

/-! ## From the configuration to the queues -/

/-- An accepted configuration has one broker runtime, whose router is that of its enabled
routes. -/
theorem exists_runtime {σ : Type} {config : ProjectConfig}
    (h : validateRuntimeConfig config = .ok ()) (parts : BrokerRuntimeParts σ) :
    ∃ runtime matcher, buildPendingBrokerRuntimes config parts = .ok [runtime] ∧
      ConfigRouteMatcher.new config.id (config.routes.filter (·.enabled)) = .ok matcher ∧
      buildPipelineRouter (config.routes.filter (·.enabled)) (pipelineParts parts matcher) =
        .ok runtime.router := by
  have hruntime := validateRuntimeConfig_eq_ok_iff.mp h
  obtain ⟨broker, hbroker⟩ := hruntime.exists_broker
  obtain ⟨hsome, hroutes⟩ := hruntime.enabledRoutes hbroker
  obtain ⟨hbrokers, hvalid⟩ := hruntime.parts_valid
  have hmem : broker ∈ config.brokers.filter (·.enabled) := hbroker ▸ List.mem_singleton_self _
  have hids : ((config.routes.filter (·.enabled)).map TopicRouteConfig.id).Nodup :=
    (List.filter_sublist.map _).nodup hruntime.routeIds_nodup
  obtain ⟨runtime, hbuild, -, -⟩ := buildPendingBrokerRuntime_eq_ok parts hroutes hsome
    (hbrokers broker (List.mem_filter.mp hmem).1)
    (fun route hroute => hvalid route (List.mem_filter.mp hroute).1)
    (fun route hroute => (List.mem_filter.mp hroute).2) hids
  have hparts := hbuild
  rw [buildPendingBrokerRuntime, hroutes, guard_eq_ok_iff] at hparts
  obtain ⟨-, hparts⟩ := hparts
  obtain ⟨mqttConfig, -, hparts⟩ := bind_eq_ok_iff.mp hparts
  obtain ⟨matcher, hmatcher, hparts⟩ := bind_eq_ok_iff.mp hparts
  obtain ⟨router, hrouter, hparts⟩ := bind_eq_ok_iff.mp hparts
  obtain rfl := Except.ok.inj hparts
  refine ⟨⟨broker.id, mqttConfig, router⟩, matcher, ?_, mapError_eq_ok_iff.mp hmatcher,
    mapError_eq_ok_iff.mp hrouter⟩
  rw [buildPendingBrokerRuntimes, hbroker]
  exact mapM_cons_eq_ok_iff.mpr ⟨⟨broker.id, mqttConfig, router⟩, [], hbuild, rfl, rfl⟩

/-- What a run of a broker runtime comes to, up to the steps `es`. -/
structure PipelineExact {σ : Type} (json : SerdeJson) (config : ProjectConfig)
    (parts : BrokerRuntimeParts σ) (handlings : List (Handling σ))
    (es : List (Edge (MqttEngine (PipelineApp σ)) EngineLabel))
    (s : MqttEngine (PipelineApp σ)) : Prop where
  /-- The messages are handled one after the other, in the order in which they were put into the
  channel, and each of them once. -/
  messages : handlings.map Handling.message = logged EngineLabel.dispatched? es
  /-- Each on the queues as they are at that moment. -/
  worlds : handlings.map (fun handling => (handling.message, handling.world)) = dispatchedAt es
  enqueued : s.router ≠ .ended → logged EngineLabel.enqueued? es =
    handlings.map Handling.message ++ s.router.inHand ++ s.ingress.queue
  /-- The calls are those of the handlings, and the counters are their sums. -/
  handled : HandledRun json parts config.id (config.routes.filter (·.enabled)) handlings s.app
  /-- Nothing is published, forwarded or requested for another project. -/
  project : ∀ call ∈ s.app.world.2, Call.projectId call = config.id

/-- **The pipeline of a project.**  A configuration that `validate_runtime_config` accepts has one
broker runtime; in every run of it, the calls on the realtime sink, the forwarder and the command
queue are, message by message and in their order, those of the intents of the event that the first
matching route makes of the message, and the counters are the sums over the messages.  An error of
one message changes nothing for the others. -/
theorem pipeline_exact {σ : Type} (config : ProjectConfig)
    (hconfig : validateRuntimeConfig config = .ok ()) (parts : BrokerRuntimeParts σ)
    (htexts : parts.boundary.UuidTexts) :
    ∃ runtime, buildPendingBrokerRuntimes config parts.logged = .ok [runtime] ∧
      ∀ (json : SerdeJson) (bus : BusConfig) (env : σ → σ → Prop) (world : σ)
        (es : List (Edge (MqttEngine (PipelineApp σ)) EngineLabel))
        (s : MqttEngine (PipelineApp σ)),
        Run (EngineStep runtime.config (pipelineDispatch json runtime.router) (Outside env))
            (.spawn runtime.config bus ⟨.default, (world, [])⟩) es s →
          ∃ handlings, PipelineExact json config parts handlings es s := by
  obtain ⟨runtime, matcher, hbuild, hmatcher, hrouter⟩ := exists_runtime hconfig parts.logged
  refine ⟨runtime, hbuild, fun json bus env world es s h => ?_⟩
  have hvalid := (validateRuntimeConfig_eq_ok_iff.mp hconfig).parts_valid.2
  obtain ⟨handlings, hhandled, hworlds⟩ := handledRun htexts
    (fun route hroute => (List.mem_filter.mp hroute).2)
    (fun route hroute => topicFilter_valid (hvalid route (List.mem_filter.mp hroute).1))
    hmatcher hrouter h
  have hdispatched : handlings.map Handling.message = logged EngineLabel.dispatched? es := by
    rw [← map_fst_dispatchedAt, ← hworlds, List.map_map]
    rfl
  refine ⟨handlings, hdispatched, hworlds, fun hrunning => ?_, hhandled, hhandled.project⟩
  have hkept := IngressKept.run h
  have haccounts : logged EngineLabel.enqueued? es =
      logged EngineLabel.received? es ++ s.ingress.queue := (hkept.running hrunning).2
  rw [haccounts, hkept.dispatched, hdispatched]

/-- A runtime of the boiler whose forwarder is full. -/
def busyParts : BrokerRuntimeParts Unit where
  normalizerLimits := .default
  schemaMappings := [boilerMapping]
  ruleEngine := ⟨[boilerRule]⟩
  boundary := { openBoundary with
    tryForward := fun _ world => (.error .forwarderBackpressure, world) }
  dispatchLimits := .default

theorem busyParts_uuidTexts : busyParts.boundary.UuidTexts :=
  fun _ => ⟨(by decide : len "018f2f9e-0000-7000-8000-000000000000" = 36), List.all_eq_true.mp
    (by decide : "018f2f9e-0000-7000-8000-000000000000".toList.all isUuidChar = true)⟩

/-- What a router does with a message of the boiler and then with one of a meter. -/
def boilerThenMeter (router : Router.MqttRouter (PipelineParts (Unit × List Call))) :
    PipelineApp Unit :=
  (pipelineDispatch emptyJson router "0" (meterMessage 42)
    (pipelineDispatch emptyJson router "0" boilerMessage ⟨.default, ((), [])⟩).2).2

theorem boilerThenMeter_counts :
    (buildPendingBrokerRuntimes boilerProject busyParts.logged).toOption.map
        (fun runtimes => runtimes.map fun runtime =>
          ((boilerThenMeter runtime.router).stats,
            (boilerThenMeter runtime.router).world.2.length)) =
      some [(⟨1, 1, 2, 1⟩, 2)] := by
  decide +kernel

/-- The message of the boiler matches the route of the plant, and its rule asks for two actions, the
first of which fails; that of the meter matches no route. -/
theorem pipeline_exact_plant : ∃ runtime handlings es s,
    buildPendingBrokerRuntimes boilerProject busyParts.logged = .ok [runtime] ∧
      Run (EngineStep runtime.config (pipelineDispatch emptyJson runtime.router)
        (Outside fun _ _ => False)) (.spawn runtime.config .default ⟨.default, ((), [])⟩) es s ∧
      PipelineExact emptyJson boilerProject busyParts handlings es s ∧
      logged EngineLabel.dispatched? es = [boilerMessage, meterMessage 42] ∧
      s.app.stats = ⟨1, 1, 2, 1⟩ ∧ s.app.world.2.length = 2 := by
  obtain ⟨runtime, hbuild, hexact⟩ := pipeline_exact boilerProject (by decide +kernel) busyParts
    busyParts_uuidTexts
  have hrun : Run (EngineStep runtime.config (pipelineDispatch emptyJson runtime.router)
      (Outside fun _ _ => False)) (.spawn runtime.config .default ⟨.default, ((), [])⟩) _ _ :=
    .cons (.mqttLooked rfl rfl) <|
      .cons (.publish ⟨"devices/boiler/telemetry", .atLeastOnce, false, [123, 125]⟩ 0 rfl 0
        (Nat.le_refl _)) <|
      .cons (.mqttLooked rfl rfl) <| .cons (.publish (meterPublish 42) 0 rfl 0 (Nat.le_refl _)) <|
      .cons (.routerLooked rfl rfl) <|
      .cons (.received rfl rfl : EngineStep _ _ _ _ (.received boilerMessage) _) <|
      .cons (.dispatched "0" rfl) <| .cons (.telemetry rfl) <|
      .cons (.routerLooked rfl rfl) <|
      .cons (.received rfl rfl : EngineStep _ _ _ _ (.received (meterMessage 42)) _) <|
      .cons (.dispatched "0" rfl) <| .cons (.telemetry rfl) <| .nil _
  obtain ⟨handlings, hhandled⟩ := hexact _ _ _ _ _ _ hrun
  have hcounts := boilerThenMeter_counts
  rw [hbuild] at hcounts
  have hpair := List.singleton_inj.mp (Option.some.inj hcounts)
  exact ⟨runtime, handlings, _, _, hbuild, hrun, hhandled, rfl, congrArg Prod.fst hpair,
    congrArg Prod.snd hpair⟩

end Daemon
end PipeBolt
