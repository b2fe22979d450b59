import PipeBolt.Core.Router

/-!
# The route matcher

`pipe_bolt_core::pipeline::router`: the enabled routes of a configuration, each with a matcher for
its filter.  The parser and the matcher are written apart from those of the MQTT router.

* `TopicFilterMatcher.matches_eq`: a filter that both parsers accept matches the same topics, with
  the same captures, in both.
* `ConfigRouteMatcher.new_eq_ok_iff`: what the constructor accepts, and what it builds.
* `ConfigRouteMatcher.matchMessage_eq_some_iff`: a match is the first route whose filter captures
  levels of the topic.
-/

namespace PipeBolt
namespace Core
namespace Pipeline

open Domain Rust Fallible LevelPattern

/-! ## Filters -/

/-- `TopicFilterLevel`. -/
inductive TopicFilterLevel where
  | exact (value : String)
  | singleWildCard
  | multiWildCard
  deriving DecidableEq, Repr

/-- `TopicFilterMatcher`. -/
structure TopicFilterMatcher where
  levels : List TopicFilterLevel
  deriving DecidableEq, Repr

/-- The level of a filter that a text stands for. -/
def TopicFilterLevel.ofText (level : String) : TopicFilterLevel :=
  if level = "+" then .singleWildCard
  else if level = "#" then .multiWildCard
  else .exact level

/-- `TopicFilterMatcher::parse`. -/
def TopicFilterMatcher.parse (filter : String) : Except MqttEngineError TopicFilterMatcher := do
  let _ ← (TopicFilter.new filter).mapError MqttEngineError.fromDomain
  return { levels := (split filter '/').map .ofText }

/-- The loop of `TopicFilterMatcher::matches` over the levels of the filter, from the level of the
topic at `index`. -/
def matchLevels (topicLevels : List String) :
    List TopicFilterLevel → Nat → TopicParams → Option TopicParams
  | [], index, params => if index = topicLevels.length then some params else none
  | .exact expected :: levels, index, params =>
    match topicLevels[index]? with
    | none => none
    | some actual =>
      if expected ≠ actual then none else matchLevels topicLevels levels (index + 1) params
  | .singleWildCard :: levels, index, params =>
    match topicLevels[index]? with
    | none => none
    | some actual => matchLevels topicLevels levels (index + 1) (params.pushSingle actual)
  | .multiWildCard :: _, index, params => some (params.setMulti (topicLevels.drop index))

/-- `TopicFilterMatcher::matches`. -/
def TopicFilterMatcher.matches (matcher : TopicFilterMatcher) (topic : String) :
    Option TopicParams :=
  if topic.isEmpty || containsChar topic '+' || containsChar topic '#' then none
  else matchLevels (split topic '/') matcher.levels 0 .default

/-! ## Agreement with the filters of the MQTT router -/

/-- The level of the MQTT router that a level stands for. -/
def TopicFilterLevel.toRouter : TopicFilterLevel → Router.TopicFilterLevel
  | .exact value => .exact value
  | .singleWildCard => .singleWildcard
  | .multiWildCard => .multiWildcard

theorem TopicFilterLevel.toRouter_ofText (level : String) :
    (ofText level).toRouter = Router.TopicFilterLevel.ofText level := by
  unfold ofText Router.TopicFilterLevel.ofText
  by_cases hsingle : level = "+"
  · simp [hsingle, toRouter]
  · by_cases hmulti : level = "#"
    · simp [hmulti, toRouter]
    · simp [hsingle, hmulti, toRouter]

/-- The two loops run alike. -/
theorem matchLevels_eq (topicLevels : List String) (levels : List TopicFilterLevel) (index : Nat)
    (params : TopicParams) :
    matchLevels topicLevels levels index params =
      Router.matchLevels topicLevels (levels.map TopicFilterLevel.toRouter) index params := by
  induction levels generalizing index params with
  | nil => rfl
  | cons level levels ih =>
    cases level with
    | exact expected =>
      rw [matchLevels, List.map_cons, TopicFilterLevel.toRouter, Router.matchLevels]
      cases topicLevels[index]? with
      | none => rfl
      | some actual => simp only [ih]
    | singleWildCard =>
      rw [matchLevels, List.map_cons, TopicFilterLevel.toRouter, Router.matchLevels]
      cases topicLevels[index]? with
      | none => rfl
      | some actual => exact ih (index + 1) (params.pushSingle actual)
    | multiWildCard => rfl

/-- A parsed matcher has the levels of a filter that the domain accepts. -/
theorem TopicFilterMatcher.parse_eq_ok_iff {filter : String} {matcher : TopicFilterMatcher} :
    TopicFilterMatcher.parse filter = .ok matcher ↔
      TopicFilter.validate ⟨filter⟩ = .ok () ∧
        matcher = { levels := (split filter '/').map .ofText } := by
  rw [TopicFilterMatcher.parse, bind_eq_ok_iff]
  constructor
  · rintro ⟨parsed, hparsed, h⟩
    obtain ⟨hvalid, -⟩ := check_eq_ok_iff.mp (mapError_eq_ok_iff.mp hparsed)
    exact ⟨hvalid, (Except.ok.inj h).symm⟩
  · rintro ⟨hvalid, rfl⟩
    refine ⟨⟨filter⟩, mapError_eq_ok_iff.mpr ?_, rfl⟩
    exact check_eq_ok_iff.mpr ⟨hvalid, rfl⟩

/-- A filter that both parsers accept matches the same topics in both, with the same captures. -/
theorem TopicFilterMatcher.matches_eq {filter : String} {matcher : TopicFilterMatcher}
    {routed : Router.TopicFilter} (hmatcher : TopicFilterMatcher.parse filter = .ok matcher)
    (hrouted : Router.TopicFilter.parse filter = .ok routed) (topic : String) :
    matcher.matches topic = routed.matches topic := by
  obtain ⟨-, rfl⟩ := TopicFilterMatcher.parse_eq_ok_iff.mp hmatcher
  obtain ⟨-, rfl⟩ := Router.TopicFilter.parse_eq_ok_iff.mp hrouted
  have hlevels : ((split filter '/').map TopicFilterLevel.ofText).map TopicFilterLevel.toRouter =
      (split filter '/').map Router.TopicFilterLevel.ofText := by
    rw [List.map_map]
    exact List.map_congr_left fun level _ => TopicFilterLevel.toRouter_ofText level
  simp only [TopicFilterMatcher.matches, Router.TopicFilter.matches, matchLevels_eq, hlevels]

/-- The domain accepts fewer filters than the MQTT router. -/
theorem parse_of_validate {filter : String} (h : TopicFilter.validate ⟨filter⟩ = .ok ()) :
    ∃ routed, Router.TopicFilter.parse filter = .ok routed :=
  ⟨_, Router.TopicFilter.parse_eq_ok_iff.mpr
    ⟨Router.validateMqttTopicFilter_of_validate h, rfl⟩⟩

/-- The matcher finds what the text of the filter captures of a topic name. -/
theorem TopicFilterMatcher.matches_eq_some_iff {filter topic : String}
    {matcher : TopicFilterMatcher} {params : TopicParams}
    (hparse : TopicFilterMatcher.parse filter = .ok matcher) :
    matcher.matches topic = some params ↔
      validateTopicName topic = .ok () ∧ Router.FilterCaptures filter topic params := by
  obtain ⟨hvalid, -⟩ := TopicFilterMatcher.parse_eq_ok_iff.mp hparse
  obtain ⟨routed, hrouted⟩ := parse_of_validate hvalid
  rw [TopicFilterMatcher.matches_eq hparse hrouted, Router.TopicFilter.matches_eq_some_iff hrouted]

/-! ## The matcher of a configuration -/

/-- `CompiledConfigRoute`. -/
structure CompiledConfigRoute where
  config : TopicRouteConfig
  matcher : TopicFilterMatcher

/-- `CompiledConfigRoute::new`. -/
def CompiledConfigRoute.new (config : TopicRouteConfig) :
    Except MqttEngineError CompiledConfigRoute := do
  let matcher ← TopicFilterMatcher.parse config.topicFilter.raw
  return { config, matcher }

/-- `ConfigRouteMatch`. -/
structure ConfigRouteMatch where
  projectId : ProjectId
  route : TopicRouteConfig
  params : TopicParams

/-- `ConfigRouteMatcher`. -/
structure ConfigRouteMatcher where
  projectId : ProjectId
  routes : List CompiledConfigRoute

/-- The loop of `ConfigRouteMatcher::new`, with the identifiers seen so far. -/
def compileRoutes : List RouteId → List TopicRouteConfig →
    Except MqttEngineError (List CompiledConfigRoute)
  | _, [] => .ok []
  | seen, route :: routes =>
    if seen.contains route.id then .error (.invalidConfig "duplicate route id")
    else if !route.enabled then compileRoutes (route.id :: seen) routes
    else do
      route.validate.mapError MqttEngineError.fromDomain
      let compiled ← CompiledConfigRoute.new route
      let rest ← compileRoutes (route.id :: seen) routes
      return compiled :: rest

/-- `ConfigRouteMatcher::new`. -/
def ConfigRouteMatcher.new (projectId : ProjectId) (routes : List TopicRouteConfig) :
    Except MqttEngineError ConfigRouteMatcher := do
  let routes ← compileRoutes [] routes
  return { projectId, routes }

/-- `ConfigRouteMatcher::match_message`. -/
def ConfigRouteMatcher.matchMessage (matcher : ConfigRouteMatcher) (message : MqttMessage) :
    Option ConfigRouteMatch :=
  matcher.routes.findSome? fun route =>
    (route.matcher.matches message.topic).map fun params =>
      { projectId := matcher.projectId, route := route.config, params }

/-! ## What the matcher finds -/

/-- The matcher that is compiled from the text of a filter. -/
def TopicFilterMatcher.ofText (filter : String) : TopicFilterMatcher where
  levels := (split filter '/').map .ofText

/-- The constructor accepts routes with distinct identifiers that have not been seen, valid where
they are enabled, and keeps the enabled ones in their order. -/
theorem compileRoutes_eq_ok_iff {seen : List RouteId} {routes : List TopicRouteConfig}
    {compiled : List CompiledConfigRoute} :
    compileRoutes seen routes = .ok compiled ↔
      ((routes.map TopicRouteConfig.id).Nodup ∧ ∀ route ∈ routes, route.id ∉ seen) ∧
        (∀ route ∈ routes, route.enabled = true → route.validate = .ok ()) ∧
          compiled = (routes.filter (·.enabled)).map fun route =>
            ⟨route, .ofText route.topicFilter.raw⟩ := by
  induction routes generalizing seen compiled with
  | nil =>
    simp only [compileRoutes, List.map_nil, List.filter_nil]
    constructor
    · intro h
      exact ⟨⟨List.nodup_nil, fun _ h => (nomatch h)⟩, fun _ h => (nomatch h),
        (Except.ok.inj h).symm⟩
    · rintro ⟨-, -, rfl⟩
      rfl
  | cons route routes ih =>
    -- A new route is one that neither has been seen nor comes again.
    have hfresh : ((route.id ∉ seen ∧ (routes.map TopicRouteConfig.id).Nodup ∧
        ∀ later ∈ routes, later.id ∉ route.id :: seen) ↔
          ((route :: routes).map TopicRouteConfig.id).Nodup ∧
            ∀ later ∈ route :: routes, later.id ∉ seen) := by
      rw [List.forall_mem_cons]
      simp only [List.map_cons, List.nodup_cons, List.mem_map, List.mem_cons, not_or, not_exists,
        not_and]
      constructor
      · rintro ⟨hseen, hnodup, hnew⟩
        exact ⟨⟨fun later hlater => (hnew later hlater).1, hnodup⟩, hseen,
          fun later hlater => (hnew later hlater).2⟩
      · rintro ⟨⟨hfirst, hnodup⟩, hseen, hnew⟩
        exact ⟨hseen, hnodup, fun later hlater => ⟨hfirst later hlater, hnew later hlater⟩⟩
    rw [compileRoutes, guard_eq_ok_iff, List.contains_iff_mem, ← hfresh, List.forall_mem_cons]
    cases henabled : route.enabled with
    | false =>
      have hskip : ((route :: routes).filter (·.enabled)) = routes.filter (·.enabled) :=
        List.filter_cons_of_neg (by simp [henabled])
      rw [hskip]
      simp only [Bool.not_false, if_true, ih, Bool.false_eq_true, IsEmpty.forall_iff, true_and]
      exact ⟨fun ⟨hseen, hids, hrest⟩ => ⟨⟨hseen, hids⟩, hrest⟩,
        fun ⟨⟨hseen, hids⟩, hrest⟩ => ⟨hseen, hids, hrest⟩⟩
    | true =>
      have hkeep : ((route :: routes).filter (·.enabled)) = route :: routes.filter (·.enabled) :=
        List.filter_cons_of_pos henabled
      rw [hkeep]
      simp only [Bool.not_true, Bool.false_eq_true, if_false, forall_const, List.map_cons]
      rw [check_eq_ok_iff, mapError_eq_ok_iff, bind_eq_ok_iff]
      constructor
      · rintro ⟨hseen, hvalid, first, hfirst, h⟩
        obtain ⟨rest, hrest, h⟩ := bind_eq_ok_iff.mp h
        obtain ⟨hids, hvalids, rfl⟩ := ih.mp hrest
        obtain ⟨matcher, hmatcher, hnew⟩ := bind_eq_ok_iff.mp hfirst
        obtain ⟨-, rfl⟩ := TopicFilterMatcher.parse_eq_ok_iff.mp hmatcher
        refine ⟨⟨hseen, hids⟩, ⟨hvalid, hvalids⟩, ?_⟩
        rw [← Except.ok.inj h, ← Except.ok.inj hnew]
        rfl
      · rintro ⟨⟨hseen, hids⟩, ⟨hvalid, hvalids⟩, rfl⟩
        have hfilter : route.topicFilter.validate = .ok () := by
          obtain ⟨-, hrest⟩ := check_eq_ok_iff.mp hvalid
          exact (check_eq_ok_iff.mp hrest).2
        have hparse : TopicFilterMatcher.parse route.topicFilter.raw =
            .ok (.ofText route.topicFilter.raw) :=
          TopicFilterMatcher.parse_eq_ok_iff.mpr ⟨hfilter, rfl⟩
        refine ⟨hseen, hvalid, ⟨route, .ofText route.topicFilter.raw⟩,
          bind_eq_ok_iff.mpr ⟨_, hparse, rfl⟩, ?_⟩
        exact bind_eq_ok_iff.mpr ⟨_, ih.mpr ⟨hids, hvalids, rfl⟩, rfl⟩

theorem ConfigRouteMatcher.new_eq_ok_iff {projectId : ProjectId} {routes : List TopicRouteConfig}
    {matcher : ConfigRouteMatcher} :
    ConfigRouteMatcher.new projectId routes = .ok matcher ↔
      (routes.map TopicRouteConfig.id).Nodup ∧
        (∀ route ∈ routes, route.enabled = true → route.validate = .ok ()) ∧
          matcher = ⟨projectId, (routes.filter (·.enabled)).map fun route =>
            ⟨route, .ofText route.topicFilter.raw⟩⟩ := by
  rw [ConfigRouteMatcher.new, bind_eq_ok_iff]
  constructor
  · rintro ⟨compiled, hcompiled, h⟩
    obtain ⟨⟨hids, -⟩, hvalid, rfl⟩ := compileRoutes_eq_ok_iff.mp hcompiled
    exact ⟨hids, hvalid, (Except.ok.inj h).symm⟩
  · rintro ⟨hids, hvalid, rfl⟩
    exact ⟨_, compileRoutes_eq_ok_iff.mpr ⟨⟨hids, fun _ _ => List.not_mem_nil⟩, hvalid, rfl⟩, rfl⟩

/-- A match is the first route whose filter matches. -/
theorem ConfigRouteMatcher.matchMessage_eq_some_iff {projectId : ProjectId}
    {routes : List TopicRouteConfig} {matcher : ConfigRouteMatcher} {message : MqttMessage}
    {found : ConfigRouteMatch} (h : ConfigRouteMatcher.new projectId routes = .ok matcher) :
    matcher.matchMessage message = some found ↔
      found.projectId = projectId ∧
        ∃ before after, routes.filter (·.enabled) = before ++ found.route :: after ∧
          (TopicFilterMatcher.ofText found.route.topicFilter.raw).matches message.topic =
            some found.params ∧
          ∀ route ∈ before,
            (TopicFilterMatcher.ofText route.topicFilter.raw).matches message.topic = none := by
  obtain ⟨-, -, rfl⟩ := ConfigRouteMatcher.new_eq_ok_iff.mp h
  rw [ConfigRouteMatcher.matchMessage, List.findSome?_map, List.findSome?_eq_some_iff]
  constructor
  · rintro ⟨before, route, after, hsplit, hfound, hbefore⟩
    obtain ⟨params, hparams, rfl⟩ := Option.map_eq_some_iff.mp hfound
    exact ⟨rfl, before, after, hsplit, hparams, fun r hr => Option.map_eq_none_iff.mp (hbefore r hr)⟩
  · rintro ⟨rfl, before, after, hsplit, hparams, hbefore⟩
    refine ⟨before, found.route, after, hsplit, Option.map_eq_some_iff.mpr ⟨_, hparams, rfl⟩, ?_⟩
    exact fun r hr => Option.map_eq_none_iff.mpr (hbefore r hr)

end Pipeline
end Core
end PipeBolt
