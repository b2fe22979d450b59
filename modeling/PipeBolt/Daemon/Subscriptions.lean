import PipeBolt.Core.TopicCaptures
import PipeBolt.Daemon.BrokerRuntimes

/-!
# The subscriptions of a configuration

`merged_subscriptions` folds the routes into an ordered map, with the greater quality of service
where two routes have one filter.

* `mem_mergedSubscriptions_iff`: a subscription has the greatest quality of service of its routes.
* `mergedSubscriptions_perm`: the order of the routes does not matter.
* `mergedSubscriptions_exact`: the subscriptions are to neither more nor less than what is routed.
-/

namespace PipeBolt
namespace Daemon

open Domain PipeBolt.Core Pipeline Rust Fallible

/-! ## Qualities of service -/

theorem qosRank_injective : Function.Injective qosRank := by
  intro left right h
  cases left <;> cases right <;> first | rfl | cases h

/-- The order of `qos_rank`. -/
instance : LinearOrder QoS := .lift' qosRank qosRank_injective

theorem qos_le_iff {left right : QoS} : left ≤ right ↔ qosRank left ≤ qosRank right := Iff.rfl

theorem maxQos_eq_max (left right : QoS) : maxQos left right = max left right := by
  rw [maxQos]
  split
  · next h => exact (max_eq_right (qos_le_iff.mpr (Nat.le_of_lt h))).symm
  · next h => exact (max_eq_left (qos_le_iff.mpr (Nat.not_lt.mp h))).symm

/-! ## The fold -/

/-- The qualities of service of the routes with a filter. -/
def routeQos (routes : List TopicRouteConfig) (filter : String) : Set QoS :=
  {qos | ∃ route ∈ routes, route.topicFilter.raw = filter ∧ mapQos route.qos = qos}

theorem mergeSubscription_eq (subscriptions : BTreeMap QoS) (route : TopicRouteConfig) :
    mergeSubscription subscriptions route =
      subscriptions.insertMax route.topicFilter.raw (mapQos route.qos) := by
  rw [mergeSubscription, BTreeMap.insertMax]
  cases subscriptions.get route.topicFilter.raw with
  | none => rfl
  | some existing =>
    dsimp only
    rw [maxQos_eq_max]

theorem mergedSubscriptions_eq (routes : List TopicRouteConfig) :
    mergedSubscriptions routes =
      routes.foldl (fun subscriptions route =>
        BTreeMap.insertMax subscriptions route.topicFilter.raw (mapQos route.qos)) [] := by
  rw [mergedSubscriptions]
  congr 1
  funext subscriptions route
  exact mergeSubscription_eq subscriptions route

theorem mergedSubscriptions_ordered (routes : List TopicRouteConfig) :
    (mergedSubscriptions routes).Ordered := by
  rw [mergedSubscriptions_eq]
  exact BTreeMap.ordered_nil.foldl_insertMax _ _ routes

/-- A subscription has the greatest quality of service of the routes with its filter. -/
theorem mem_mergedSubscriptions_iff {routes : List TopicRouteConfig} {filter : String}
    {qos : QoS} :
    (filter, qos) ∈ mergedSubscriptions routes ↔ IsGreatest (routeQos routes filter) qos := by
  rw [(mergedSubscriptions_ordered routes).mem_iff_get, mergedSubscriptions_eq]
  exact (BTreeMap.greatest_foldl_insertMax _ _ routes filter).eq_some_iff

theorem mergedSubscriptions_perm {routes permuted : List TopicRouteConfig}
    (h : permuted.Perm routes) : mergedSubscriptions permuted = mergedSubscriptions routes := by
  rw [mergedSubscriptions_eq, mergedSubscriptions_eq]
  exact BTreeMap.foldl_insertMax_eq _ _ fun _ => h.mem_iff

theorem exists_mem_mergedSubscriptions {routes : List TopicRouteConfig} {filter : String} :
    (∃ qos, (filter, qos) ∈ mergedSubscriptions routes) ↔
      ∃ route ∈ routes, route.topicFilter.raw = filter := by
  rw [← mem_mergedSubscriptions, List.mem_map]
  constructor
  · rintro ⟨qos, hmem⟩
    exact ⟨(filter, qos), hmem, rfl⟩
  · rintro ⟨⟨filter', qos⟩, hmem, rfl⟩
    exact ⟨qos, hmem⟩

/-! ## What is subscribed and what is routed -/

/-- A filter is accepted, and its matcher finds something in a topic. -/
def FilterMatches (filter topic : String) : Prop :=
  ∃ matcher, TopicFilterMatcher.parse filter = .ok matcher ∧ (matcher.matches topic).isSome

theorem filterMatches_iff {filter : String} (hvalid : TopicFilter.validate ⟨filter⟩ = .ok ())
    {topic : String} (hname : validateTopicName topic = .ok ()) :
    FilterMatches filter topic ↔ LevelsMatch (split filter '/') (split topic '/') := by
  have hparse : TopicFilterMatcher.parse filter = .ok (.ofText filter) :=
    TopicFilterMatcher.parse_eq_ok_iff.mpr ⟨hvalid, rfl⟩
  rw [← matches_isSome_iff hparse hname]
  constructor
  · rintro ⟨matcher, hmatcher, hsome⟩
    rw [hparse] at hmatcher
    rwa [Except.ok.inj hmatcher]
  · exact fun hsome => ⟨_, hparse, hsome⟩

/-- A message is routed exactly when the filter of an enabled route matches its topic. -/
theorem matchMessage_isSome_iff {projectId : ProjectId} {routes : List TopicRouteConfig}
    {matcher : ConfigRouteMatcher} (h : ConfigRouteMatcher.new projectId routes = .ok matcher)
    (message : MqttMessage) :
    (matcher.matchMessage message).isSome ↔
      ∃ route ∈ routes.filter (·.enabled), FilterMatches route.topicFilter.raw message.topic := by
  obtain ⟨-, hvalid, rfl⟩ := ConfigRouteMatcher.new_eq_ok_iff.mp h
  rw [ConfigRouteMatcher.matchMessage, List.isSome_findSome?]
  simp only [List.any_eq_true, List.mem_map, exists_exists_and_eq_and, Option.isSome_map]
  refine exists_congr fun route => and_congr_right fun hroute => ?_
  obtain ⟨hmem, henabled⟩ := List.mem_filter.mp hroute
  have hfilter := topicFilter_valid (hvalid route hmem henabled)
  rw [filterMatches_iff hfilter message.topic_valid]
  exact routeLevelsMatch_iff (hvalid route hmem henabled) message

/-- For every list of routes: the subscriptions are in ascending order, one for every filter, with
the greatest quality of service of its routes, in whatever order the routes stand.  A topic is
matched by the filter of a subscription to enabled routes exactly when the matcher of the routes
finds a route for it. -/
theorem mergedSubscriptions_exact (routes : List TopicRouteConfig) :
    (mergedSubscriptions routes).Pairwise (fun first second => first.1 < second.1) ∧
    (∀ filter, (∃ qos, (filter, qos) ∈ mergedSubscriptions routes) ↔
      ∃ route ∈ routes, route.topicFilter.raw = filter) ∧
    (∀ filter qos, (filter, qos) ∈ mergedSubscriptions routes →
      IsGreatest (routeQos routes filter) qos) ∧
    (∀ permuted, permuted.Perm routes →
      mergedSubscriptions permuted = mergedSubscriptions routes) ∧
    ∀ projectId matcher,
      ConfigRouteMatcher.new projectId (routes.filter (·.enabled)) = .ok matcher →
        ∀ message : MqttMessage,
          (∃ subscription ∈ mergedSubscriptions (routes.filter (·.enabled)),
            FilterMatches subscription.1 message.topic) ↔
              (matcher.matchMessage message).isSome := by
  refine ⟨mergedSubscriptions_ordered routes, fun filter => exists_mem_mergedSubscriptions,
    fun filter qos => mem_mergedSubscriptions_iff.mp, fun permuted => mergedSubscriptions_perm, ?_⟩
  intro projectId matcher hmatcher message
  rw [matchMessage_isSome_iff hmatcher message, List.filter_filter]
  simp only [Bool.and_self]
  constructor
  · rintro ⟨⟨filter, qos⟩, hmem, hmatches⟩
    obtain ⟨route, hroute, rfl⟩ := exists_mem_mergedSubscriptions.mp ⟨qos, hmem⟩
    exact ⟨route, hroute, hmatches⟩
  · rintro ⟨route, hroute, hmatches⟩
    obtain ⟨qos, hmem⟩ := exists_mem_mergedSubscriptions.mpr ⟨route, hroute, rfl⟩
    exact ⟨_, hmem, hmatches⟩

end Daemon
end PipeBolt
