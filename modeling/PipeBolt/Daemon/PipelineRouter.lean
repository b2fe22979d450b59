import PipeBolt.Core.Normalizer
import PipeBolt.Lib.Keyed

/-!
# The router of a pipeline

`build_pipeline_router` of `pipe_bolt_daemon::runtime`: one handler for each distinct filter of the
enabled routes of a broker.  The handlers are clones of one closure, which looks the route up again
in a `ConfigRouteMatcher` over the same routes.

* `buildPipelineRouter_eq_ok`: the router that is built from valid routes.
* `pipelineRouter_agrees`: the handler that is called and the route that is looked up agree.
-/

namespace PipeBolt
namespace Daemon

open Domain PipeBolt.Core Pipeline Rust Fallible Keyed

variable {H : Type}

/-! ## Construction -/

/-- The loop of `build_pipeline_router`, with the filters that have a handler already. -/
def routeFilters (handler : H) : List String → Router.MqttRouter H → List TopicRouteConfig →
    Except MqttEngineError (Router.MqttRouter H)
  | _, router, [] => .ok router
  | filters, router, route :: routes =>
    if filters.contains route.topicFilter.raw then routeFilters handler filters router routes
    else do
      let router ← router.route route.topicFilter.raw handler
      routeFilters handler (route.topicFilter.raw :: filters) router routes

/-- `build_pipeline_router`, for any handler. -/
def buildPipelineRouter (routes : List TopicRouteConfig) (handler : H) :
    Except MqttEngineError (Router.MqttRouter H) :=
  routeFilters handler [] .new routes

/-- The route of the router for a filter. -/
def filterRoute (handler : H) (filter : String) : Router.MqttRoute H where
  filter := { raw := filter, levels := (split filter '/').map .ofText }
  handler := handler

theorem routeFilters_eq_ok {handler : H} {routes : List TopicRouteConfig}
    (hvalid : ∀ route ∈ routes, route.topicFilter.validate = .ok ()) {filters : List String}
    {router : Router.MqttRouter H} :
    routeFilters handler filters router routes =
      .ok ⟨router.routes ++ (firsts filters (routes.map fun route => route.topicFilter.raw)).map
        (filterRoute handler)⟩ := by
  induction routes generalizing filters router with
  | nil => simp [routeFilters, firsts]
  | cons route routes ih =>
    obtain ⟨hfirst, hrest⟩ := List.forall_mem_cons.mp hvalid
    rw [routeFilters, List.map_cons, firsts]
    by_cases hseen : route.topicFilter.raw ∈ filters
    · rw [if_pos (List.contains_iff_mem.mpr hseen), if_pos hseen]
      exact ih hrest
    · have hparse : Router.TopicFilter.parse route.topicFilter.raw =
          .ok (filterRoute handler route.topicFilter.raw).filter :=
        Router.TopicFilter.parse_eq_ok_iff.mpr
          ⟨Router.validateMqttTopicFilter_of_validate hfirst, rfl⟩
      have hroute : router.route route.topicFilter.raw handler =
          .ok ⟨router.routes ++ [filterRoute handler route.topicFilter.raw]⟩ := by
        rw [Router.MqttRouter.route, hparse]
        rfl
      rw [if_neg fun h => hseen (List.contains_iff_mem.mp h), if_neg hseen, hroute]
      have hih := @ih hrest (route.topicFilter.raw :: filters)
        ⟨router.routes ++ [filterRoute handler route.topicFilter.raw]⟩
      rw [List.append_assoc] at hih
      exact hih

/-- The router has one route for each distinct filter, in the order of their first occurrence. -/
theorem buildPipelineRouter_eq_ok {handler : H} {routes : List TopicRouteConfig}
    (hvalid : ∀ route ∈ routes, route.topicFilter.validate = .ok ()) :
    buildPipelineRouter routes handler =
      .ok ⟨(firsts [] (routes.map fun route => route.topicFilter.raw)).map
        (filterRoute handler)⟩ :=
  routeFilters_eq_ok hvalid

/-! ## Agreement -/

/-- The filter of a route captures levels of a topic name. -/
def RouteMatches (topic : String) (route : TopicRouteConfig) : Prop :=
  validateTopicName topic = .ok () ∧
    ∃ params, Router.FilterCaptures route.topicFilter.raw topic params

/-- A route is the first of a list whose filter matches a topic. -/
def FirstMatch (topic : String) (routes : List TopicRouteConfig) (route : TopicRouteConfig) :
    Prop :=
  ∃ before after, routes = before ++ route :: after ∧ RouteMatches topic route ∧
    ∀ earlier ∈ before, ¬ RouteMatches topic earlier

/-- What the filter with a text captures of a topic, in the matcher of the configuration. -/
def filterParams (topic filter : String) : Option TopicParams :=
  (TopicFilterMatcher.ofText filter).matches topic

section Agreement

variable {projectId : ProjectId} {routes : List TopicRouteConfig} {handler : H} {topic : String}

theorem filterRoute_matches {filter : String} (h : TopicFilter.validate ⟨filter⟩ = .ok ()) :
    (filterRoute handler filter).filter.matches topic = filterParams topic filter := by
  have hmatcher : TopicFilterMatcher.parse filter = .ok (.ofText filter) :=
    TopicFilterMatcher.parse_eq_ok_iff.mpr ⟨h, rfl⟩
  have hrouted : Router.TopicFilter.parse filter = .ok (filterRoute handler filter).filter :=
    Router.TopicFilter.parse_eq_ok_iff.mpr ⟨Router.validateMqttTopicFilter_of_validate h, rfl⟩
  exact (TopicFilterMatcher.matches_eq hmatcher hrouted topic).symm

theorem filterParams_isSome_iff {route : TopicRouteConfig}
    (h : route.topicFilter.validate = .ok ()) :
    (filterParams topic route.topicFilter.raw).isSome = true ↔ RouteMatches topic route := by
  have hparse : TopicFilterMatcher.parse route.topicFilter.raw =
      .ok (.ofText route.topicFilter.raw) :=
    TopicFilterMatcher.parse_eq_ok_iff.mpr ⟨h, rfl⟩
  rw [Option.isSome_iff_exists]
  constructor
  · rintro ⟨params, hparams⟩
    obtain ⟨hname, hcaptures⟩ := (TopicFilterMatcher.matches_eq_some_iff hparse).mp hparams
    exact ⟨hname, params, hcaptures⟩
  · rintro ⟨hname, params, hcaptures⟩
    exact ⟨params, (TopicFilterMatcher.matches_eq_some_iff hparse).mpr ⟨hname, hcaptures⟩⟩

/-- The handler that a dispatch calls is the one of the filter of the first route that matches. -/
theorem matched_eq {router : Router.MqttRouter H}
    (hvalid : ∀ route ∈ routes, route.topicFilter.validate = .ok ())
    (hrouter : buildPipelineRouter routes handler = .ok router) :
    router.matched topic =
      (routes.find? fun route => (filterParams topic route.topicFilter.raw).isSome).bind fun route =>
        (filterParams topic route.topicFilter.raw).map fun params =>
          (filterRoute handler route.topicFilter.raw, params) := by
  rw [buildPipelineRouter_eq_ok hvalid] at hrouter
  obtain rfl := Except.ok.inj hrouter
  rw [Router.MqttRouter.matched, List.findSome?_map]
  -- Every filter of the router is that of a route, so both matchers agree on it.
  have hfilters : ∀ filter ∈ firsts [] (routes.map fun route => route.topicFilter.raw),
      (filterRoute handler filter).filter.matches topic = filterParams topic filter := by
    intro filter hfilter
    obtain ⟨route, hroute, rfl⟩ := List.mem_map.mp (mem_of_mem_firsts hfilter)
    exact filterRoute_matches (hvalid route hroute)
  have hsearch : (firsts [] (routes.map fun route => route.topicFilter.raw)).findSome?
      ((fun route : Router.MqttRoute H =>
        (route.filter.matches topic).map fun params => (route, params)) ∘ filterRoute handler) =
      (firsts [] (routes.map fun route => route.topicFilter.raw)).findSome? fun filter =>
        (filterParams topic filter).map fun params => (filterRoute handler filter, params) := by
    refine findSome?_congr fun filter hfilter => ?_
    rw [Function.comp_apply, hfilters filter hfilter]
  rw [hsearch, findSome?_eq_bind_find?, find?_firsts_map, Option.bind_map]
  rfl

/-- The route that is looked up is the first whose filter matches. -/
theorem matchMessage_eq {matcher : ConfigRouteMatcher} {message : MqttMessage}
    (henabled : ∀ route ∈ routes, route.enabled = true)
    (hmatcher : ConfigRouteMatcher.new projectId routes = .ok matcher) :
    matcher.matchMessage message =
      (routes.find? fun route =>
        (filterParams message.topic route.topicFilter.raw).isSome).bind fun route =>
          (filterParams message.topic route.topicFilter.raw).map fun params =>
            { projectId, route, params } := by
  obtain ⟨-, -, rfl⟩ := ConfigRouteMatcher.new_eq_ok_iff.mp hmatcher
  rw [ConfigRouteMatcher.matchMessage, List.filter_eq_self.mpr henabled, List.findSome?_map,
    ← findSome?_eq_bind_find?]
  rfl

/-- A search by the filters finds the first route that matches. -/
theorem find?_filterParams_eq_some {route : TopicRouteConfig}
    (hvalid : ∀ route ∈ routes, route.topicFilter.validate = .ok ())
    (h : (routes.find? fun route => (filterParams topic route.topicFilter.raw).isSome) =
      some route) : FirstMatch topic routes route := by
  obtain ⟨hfound, before, after, rfl, hbefore⟩ := List.find?_eq_some_iff_append.mp h
  refine ⟨before, after, rfl, ?_, fun earlier hearlier hmatch => ?_⟩
  · exact (filterParams_isSome_iff (hvalid route (List.mem_append_right _
      List.mem_cons_self))).mp hfound
  · have hnone := hbefore earlier hearlier
    rw [(filterParams_isSome_iff (hvalid earlier (List.mem_append_left _ hearlier))).mpr hmatch]
      at hnone
    cases hnone

end Agreement

/-- The matcher and the router find nothing, or they find the first route that matches and the
handler of its filter. -/
inductive Finds (topic : String) (projectId : ProjectId) (routes : List TopicRouteConfig)
    (handler : H) :
    Option ConfigRouteMatch → Option (Router.MqttRoute H × TopicParams) → Prop
  | nothing : Finds topic projectId routes handler none none
  | first {route : TopicRouteConfig} {params : TopicParams} : FirstMatch topic routes route →
      Finds topic projectId routes handler (some { projectId, route, params })
        (some (filterRoute handler route.topicFilter.raw, params))

theorem Finds.isSome_iff {topic : String} {projectId : ProjectId} {routes : List TopicRouteConfig}
    {handler : H} {found : Option ConfigRouteMatch}
    {called : Option (Router.MqttRoute H × TopicParams)}
    (h : Finds topic projectId routes handler found called) : called.isSome ↔ found.isSome := by
  cases h with
  | nothing => exact Iff.rfl
  | first hfirst => exact Iff.rfl

theorem finds {projectId : ProjectId} {routes : List TopicRouteConfig} {handler : H}
    {matcher : ConfigRouteMatcher} {router : Router.MqttRouter H}
    (henabled : ∀ route ∈ routes, route.enabled = true)
    (hvalid : ∀ route ∈ routes, route.topicFilter.validate = .ok ())
    (hmatcher : ConfigRouteMatcher.new projectId routes = .ok matcher)
    (hrouter : buildPipelineRouter routes handler = .ok router) (message : MqttMessage) :
    Finds message.topic projectId routes handler (matcher.matchMessage message)
      (router.matched message.topic) := by
  rw [matched_eq hvalid hrouter, matchMessage_eq henabled hmatcher]
  cases hfind : routes.find? fun route =>
      (filterParams message.topic route.topicFilter.raw).isSome with
  | none => exact .nothing
  | some route =>
    have hfirst := find?_filterParams_eq_some hvalid hfind
    have hsome := List.find?_some hfind
    obtain ⟨params, hparams⟩ := Option.isSome_iff_exists.mp hsome
    rw [Option.bind_some, Option.bind_some, hparams]
    exact .first hfirst

/-- The routes whose filter the domain accepts. -/
theorem topicFilter_valid {route : TopicRouteConfig} (h : route.validate = .ok ()) :
    route.topicFilter.validate = .ok () := by
  obtain ⟨-, hrest⟩ := check_eq_ok_iff.mp h
  exact (check_eq_ok_iff.mp hrest).2

/-- For enabled and valid routes with distinct identifiers, the router and the matcher are built,
and on every message they agree.  A dispatch calls a handler exactly when the matcher finds a
route; that route is the first in configuration order that matches, and its filter is the filter
of the handler.  A message that reaches a handler never normalizes to nothing. -/
theorem pipelineRouter_agrees (projectId : ProjectId) (routes : List TopicRouteConfig) (handler : H)
    (henabled : ∀ route ∈ routes, route.enabled = true)
    (hvalid : ∀ route ∈ routes, route.validate = .ok ())
    (hids : (routes.map TopicRouteConfig.id).Nodup) :
    ∃ matcher router, ConfigRouteMatcher.new projectId routes = .ok matcher ∧
      buildPipelineRouter routes handler = .ok router ∧ ∀ message : MqttMessage,
        (∀ (m : Type → Type) [Monad m]
          (call : H → MqttMessage → TopicParams → ExceptT MqttEngineError m Unit),
          router.dispatch call message =
            match router.matched message.topic with
            | none => pure false
            | some (called, params) => do
              call called.handler message params
              return true) ∧
        ((router.matched message.topic).isSome ↔ (matcher.matchMessage message).isSome) ∧
        (∀ called params found, router.matched message.topic = some (called, params) →
          matcher.matchMessage message = some found →
            called.filter.raw = found.route.topicFilter.raw ∧ params = found.params ∧
              FirstMatch message.topic routes found.route) ∧
        ∀ json uuid normalizer schemaMappings, (router.matched message.topic).isSome →
          normalizeRoutedMessage json uuid matcher normalizer schemaMappings message ≠
            .ok none := by
  have hfilters : ∀ route ∈ routes, route.topicFilter.validate = .ok () :=
    fun route hroute => topicFilter_valid (hvalid route hroute)
  obtain ⟨matcher, hmatcher⟩ : ∃ matcher, ConfigRouteMatcher.new projectId routes = .ok matcher :=
    ⟨_, ConfigRouteMatcher.new_eq_ok_iff.mpr ⟨hids, fun route hroute _ => hvalid route hroute, rfl⟩⟩
  obtain ⟨router, hrouter⟩ : ∃ router, buildPipelineRouter routes handler = .ok router :=
    ⟨_, buildPipelineRouter_eq_ok hfilters⟩
  refine ⟨matcher, router, hmatcher, hrouter, fun message => ?_⟩
  refine ⟨fun m _ call => router.dispatch_eq call message, ?_⟩
  have hfinds := finds henabled hfilters hmatcher hrouter message
  refine ⟨hfinds.isSome_iff, ?_, ?_⟩
  · intro called params found hcalled hfound
    rw [hcalled, hfound] at hfinds
    cases hfinds with
    | first hfirst => exact ⟨rfl, rfl, hfirst⟩
  · intro json uuid normalizer schemaMappings hsome hnone
    rw [hfinds.isSome_iff, normalizeRoutedMessage_eq_none_iff.mp hnone] at hsome
    cases hsome

/-- Two routes with one filter between them. -/
def twoRoutes : List TopicRouteConfig :=
  (plantProject "s3cret" [] []).routes ++
    (plantProject "s3cret" [] []).routes.map fun route => { route with id := ⟨"telemetry-2"⟩ }

theorem pipelineRouter_agrees_twoRoutes :
    ∃ matcher router, ConfigRouteMatcher.new ⟨"plant"⟩ twoRoutes = .ok matcher ∧
      buildPipelineRouter twoRoutes () = .ok router ∧ ∀ message : MqttMessage,
        (∀ (m : Type → Type) [Monad m]
          (call : Unit → MqttMessage → TopicParams → ExceptT MqttEngineError m Unit),
          router.dispatch call message =
            match router.matched message.topic with
            | none => pure false
            | some (called, params) => do
              call called.handler message params
              return true) ∧
        ((router.matched message.topic).isSome ↔ (matcher.matchMessage message).isSome) ∧
        (∀ called params found, router.matched message.topic = some (called, params) →
          matcher.matchMessage message = some found →
            called.filter.raw = found.route.topicFilter.raw ∧ params = found.params ∧
              FirstMatch message.topic twoRoutes found.route) ∧
        ∀ json uuid normalizer schemaMappings, (router.matched message.topic).isSome →
          normalizeRoutedMessage json uuid matcher normalizer schemaMappings message ≠
            .ok none := by
  obtain ⟨matcher, router, hmatcher, hrouter, h⟩ :=
    pipelineRouter_agrees ⟨"plant"⟩ twoRoutes () (by decide) (by decide +kernel) (by decide)
  refine ⟨matcher, router, hmatcher, hrouter, fun message => ⟨fun m _ call => ?_, (h message).2⟩⟩
  rw [(h message).1 m call]
  cases router.matched message.topic <;> rfl

end Daemon
end PipeBolt
