import PipeBolt.Core.Error
import PipeBolt.Domain.Event
import PipeBolt.Lib.LevelPattern

/-!
# The MQTT router

`pipe_bolt_core::message::envelope` and `pipe_bolt_core::router::matcher`: messages, topic filters
with their own parser and matcher, and the router that hands a message to the first handler whose
filter matches its topic.

* `TopicFilter.matches_eq_some_iff`: the matcher captures what the levels of the filter capture.
* `validateMqttTopicFilter_of_validate`: the filters that the domain accepts pass the check here.
* `MqttRouter.dispatch_eq`: a dispatch calls the handler of the first filter that matches.
-/

namespace PipeBolt
namespace Core

open Domain Rust Fallible LevelPattern

/-! ## Messages -/

/-- `QoS` of the MQTT client. -/
inductive QoS where
  | atMostOnce
  | atLeastOnce
  | exactlyOnce
  deriving DecidableEq, Repr

/-- `validate_topic_name`. -/
def validateTopicName (topic : String) : Except MqttEngineError Unit :=
  if topic.isEmpty then .error (.invalidTopicName "topic name must not be empty")
  else if containsChar topic '+' || containsChar topic '#' then
    .error (.invalidTopicName "topic name must not contain MQTT wildcards")
  else .ok ()

/-- `MqttMessage`: its only constructor checks the topic. -/
structure MqttMessage where
  topic : String
  qos : QoS
  retain : Bool
  payload : List UInt8
  receivedAt : OffsetDateTime
  topic_valid : validateTopicName topic = .ok ()

/-- `MqttMessage::new`. -/
def MqttMessage.new (topic : String) (qos : QoS) (retain : Bool) (payload : List UInt8)
    (receivedAt : OffsetDateTime) : Except MqttEngineError MqttMessage :=
  match h : validateTopicName topic with
  | .error error => .error error
  | .ok () => .ok { topic, qos, retain, payload, receivedAt, topic_valid := h }

/-- `TopicParams`: the levels captured by `+`, in order, and those captured by a trailing `#`. -/
structure TopicParams where
  singleLevel : List String
  multiLevel : List String
  deriving DecidableEq, Repr

namespace TopicParams

/-- `TopicParams::default`. -/
def default : TopicParams := ⟨[], []⟩

/-- `TopicParams::single`. -/
def single (params : TopicParams) (index : Nat) : Option String := params.singleLevel[index]?

/-- `TopicParams::push_single`. -/
def pushSingle (params : TopicParams) (value : String) : TopicParams :=
  { params with singleLevel := params.singleLevel ++ [value] }

/-- `TopicParams::set_multi`. -/
def setMulti (params : TopicParams) (values : List String) : TopicParams :=
  { params with multiLevel := values }

end TopicParams

namespace Router

/-! ## Filters -/

/-- `TopicFilterLevel`. -/
inductive TopicFilterLevel where
  | exact (value : String)
  | singleWildcard
  | multiWildcard
  deriving DecidableEq, Repr

/-- `TopicFilter`. -/
structure TopicFilter where
  raw : String
  levels : List TopicFilterLevel
  deriving DecidableEq, Repr

/-- The loop of `validate_mqtt_topic_filter`, from the level at `index`. -/
def validateLevels (filter : String) (levelCount : Nat) :
    Nat → List String → Except MqttEngineError Unit
  | _, [] => .ok ()
  | index, level :: levels =>
    if containsChar level '#' && level != "#" then
      .error (.invalidTopicFilter
        s!"multi-level wildcard must occupy an entire level in'{filter}'")
    else if containsChar level '#' && index != levelCount - 1 then
      .error (.invalidTopicFilter s!"multi-level wildcard must be the last level in '{filter}'")
    else if containsChar level '+' && level != "+" then
      .error (.invalidTopicFilter
        s!"single-level wildcard must occupy and entire level in '{filter}'")
    else validateLevels filter levelCount (index + 1) levels

/-- `validate_mqtt_topic_filter`. -/
def validateMqttTopicFilter (filter : String) : Except MqttEngineError Unit :=
  if filter.isEmpty then .error (.invalidTopicFilter "topic filter must not be empty")
  else validateLevels filter (split filter '/').length 0 (split filter '/')

/-- The level of a filter that a text stands for. -/
def TopicFilterLevel.ofText (level : String) : TopicFilterLevel :=
  if level = "+" then .singleWildcard
  else if level = "#" then .multiWildcard
  else .exact level

/-- `TopicFilter::parse`. -/
def TopicFilter.parse (raw : String) : Except MqttEngineError TopicFilter := do
  validateMqttTopicFilter raw
  return { raw, levels := (split raw '/').map .ofText }

/-- The loop of `TopicFilter::matches` over the levels of the filter, from the level of the topic
at `index`. -/
def matchLevels (topicLevels : List String) :
    List TopicFilterLevel → Nat → TopicParams → Option TopicParams
  | [], index, params => if index = topicLevels.length then some params else none
  | .exact expected :: levels, index, params =>
    match topicLevels[index]? with
    | none => none
    | some actual =>
      if expected ≠ actual then none else matchLevels topicLevels levels (index + 1) params
  | .singleWildcard :: levels, index, params =>
    match topicLevels[index]? with
    | none => none
    | some actual => matchLevels topicLevels levels (index + 1) (params.pushSingle actual)
  | .multiWildcard :: _, index, params => some (params.setMulti (topicLevels.drop index))

/-- `TopicFilter::matches`. -/
def TopicFilter.matches (filter : TopicFilter) (topic : String) : Option TopicParams :=
  if topic.isEmpty || containsChar topic '+' || containsChar topic '#' then none
  else matchLevels (split topic '/') filter.levels 0 .default

/-! ## What a filter captures -/

/-- The level of a pattern that a level of a filter is. -/
def TopicFilterLevel.level : TopicFilterLevel → Level String
  | .exact value => .exact value
  | .singleWildcard => .one
  | .multiWildcard => .rest

/-- A filter, given by its text, captures levels of a topic. -/
def FilterCaptures (raw topic : String) (params : TopicParams) : Prop :=
  Captures ((split raw '/').map fun level => (TopicFilterLevel.ofText level).level)
    (split topic '/') params.singleLevel params.multiLevel

theorem drop_of_getElem?_none {topicLevels : List String} {index : Nat}
    (h : topicLevels[index]? = none) : topicLevels.drop index = [] :=
  List.drop_eq_nil_iff.mpr (List.getElem?_eq_none_iff.mp h)

theorem drop_of_getElem?_some {topicLevels : List String} {index : Nat} {actual : String}
    (h : topicLevels[index]? = some actual) :
    index + 1 ≤ topicLevels.length ∧
      topicLevels.drop index = actual :: topicLevels.drop (index + 1) := by
  obtain ⟨hlt, -⟩ := List.getElem?_eq_some_iff.mp h
  refine ⟨hlt, ?_⟩
  rw [List.drop_eq_getElem?_toList_append, h]
  rfl

/-- The loop finds what the levels of the filter capture of the rest of the topic. -/
theorem matchLevels_eq_some_iff {topicLevels : List String} {levels : List TopicFilterLevel}
    {index : Nat} {params found : TopicParams} (hindex : index ≤ topicLevels.length)
    (hmulti : params.multiLevel = []) :
    matchLevels topicLevels levels index params = some found ↔
      ∃ singles, found.singleLevel = params.singleLevel ++ singles ∧
        Captures (levels.map TopicFilterLevel.level) (topicLevels.drop index) singles
          found.multiLevel := by
  induction levels generalizing index params with
  | nil =>
    simp only [matchLevels, List.map_nil, captures_nil_iff, List.drop_eq_nil_iff]
    constructor
    · intro h
      split at h
      · next hend =>
        obtain rfl : params = found := Option.some.inj h
        exact ⟨[], (List.append_nil _).symm, Nat.le_of_eq hend.symm, rfl, hmulti⟩
      · cases h
    · rintro ⟨singles, hsingles, hend, rfl, hleft⟩
      rw [if_pos (Nat.le_antisymm hindex hend)]
      rw [List.append_nil] at hsingles
      have hfound : params = found := by
        cases params
        cases found
        simp_all
      rw [hfound]
  | cons level levels ih =>
    cases level with
    | exact expected =>
      simp only [matchLevels, List.map_cons, TopicFilterLevel.level, captures_exact_iff]
      cases hactual : topicLevels[index]? with
      | none => simp [drop_of_getElem?_none hactual]
      | some actual =>
        obtain ⟨hlt, hdrop⟩ := drop_of_getElem?_some hactual
        by_cases hexpected : expected = actual
        · subst hexpected
          simp only [ne_eq, not_true_eq_false, if_false]
          rw [ih hlt hmulti, hdrop]
          simp
        · simp [hexpected, hdrop, Ne.symm hexpected]
    | singleWildcard =>
      simp only [matchLevels, List.map_cons, TopicFilterLevel.level, captures_one_iff]
      cases hactual : topicLevels[index]? with
      | none => simp [drop_of_getElem?_none hactual]
      | some actual =>
        obtain ⟨hlt, hdrop⟩ := drop_of_getElem?_some hactual
        have hpush : (params.pushSingle actual).multiLevel = [] := hmulti
        dsimp only
        rw [ih hlt hpush, hdrop]
        simp only [TopicParams.pushSingle, List.append_assoc, List.singleton_append]
        constructor
        · rintro ⟨singles, hsingles, hcaptures⟩
          exact ⟨actual :: singles, hsingles, actual, _, singles, rfl, rfl, hcaptures⟩
        · rintro ⟨_, hsingles, b, tail, singles, htail, rfl, hcaptures⟩
          obtain ⟨rfl, rfl⟩ := List.cons.inj htail
          exact ⟨singles, hsingles, hcaptures⟩
    | multiWildcard =>
      simp only [matchLevels, List.map_cons, TopicFilterLevel.level, captures_rest_iff,
        Option.some.injEq]
      constructor
      · rintro rfl
        exact ⟨[], (List.append_nil _).symm, rfl, rfl⟩
      · rintro ⟨singles, hsingles, rfl, hleft⟩
        rw [List.append_nil] at hsingles
        cases found
        simp_all [TopicParams.setMulti]

/-- A parsed filter keeps its text and the levels of it. -/
theorem TopicFilter.parse_eq_ok_iff {raw : String} {filter : TopicFilter} :
    TopicFilter.parse raw = .ok filter ↔
      validateMqttTopicFilter raw = .ok () ∧
        filter = { raw, levels := (split raw '/').map .ofText } := by
  rw [TopicFilter.parse, check_eq_ok_iff]
  exact and_congr_right fun _ => ⟨fun h => (Except.ok.inj h).symm, fun h => h ▸ rfl⟩

/-- The matcher finds what the text of the filter captures of a topic name. -/
theorem TopicFilter.matches_eq_some_iff {raw topic : String} {filter : TopicFilter}
    {params : TopicParams} (hparse : TopicFilter.parse raw = .ok filter) :
    filter.matches topic = some params ↔
      validateTopicName topic = .ok () ∧ FilterCaptures raw topic params := by
  obtain ⟨-, rfl⟩ := TopicFilter.parse_eq_ok_iff.mp hparse
  rw [validateTopicName, guard_eq_ok_iff, guard_eq_ok_iff, TopicFilter.matches]
  by_cases hname : (topic.isEmpty || containsChar topic '+' || containsChar topic '#') = true
  · rw [if_pos hname]
    constructor
    · intro h
      cases h
    · rintro ⟨⟨hempty, hwild, -⟩, -⟩
      rw [Bool.or_assoc, Bool.or_eq_true] at hname
      exact absurd hname (not_or.mpr ⟨hempty, hwild⟩)
  · rw [if_neg hname]
    rw [matchLevels_eq_some_iff (Nat.zero_le _) (by rfl)]
    rw [Bool.or_assoc, Bool.or_eq_true, not_or] at hname
    simp only [TopicParams.default, List.drop_zero, List.nil_append, List.map_map,
      exists_eq_left', and_true]
    exact (and_iff_right hname).symm

/-! ## The two validators -/

/-- The loop here and the loop of the domain refuse the same lists of levels. -/
theorem validateLevels_eq_ok_iff {filter : String} {levelCount index : Nat} {levels : List String}
    (hcount : index + levels.length = levelCount) :
    validateLevels filter levelCount index levels = .ok () ↔
      validateTopicLevels levels = .ok () := by
  induction levels generalizing index with
  | nil => simp [validateLevels, validateTopicLevels]
  | cons level levels ih =>
    have hnext : index + 1 + levels.length = levelCount := by
      rw [← hcount, List.length_cons]
      omega
    have hlast : (index != levelCount - 1) = !levels.isEmpty := by
      rw [List.length_cons] at hcount
      cases levels with
      | nil =>
        have hindex : index = levelCount - 1 := by simp at hcount; omega
        simp [hindex]
      | cons next rest =>
        have hindex : index ≠ levelCount - 1 := by simp at hcount; omega
        simp [hindex]
    -- A level with a `#` that is not the whole level is refused by the first check of both.
    have hhash : (containsChar level '#' && level != "#") = false →
        containsChar level '#' = (level == "#") := by
      intro h
      by_cases hlevel : level = "#"
      · rw [hlevel]
        decide
      · have hbeq : (level == "#") = false := beq_eq_false_iff_ne.mpr hlevel
        have hbne : (level != "#") = true := bne_iff_ne.mpr hlevel
        rw [hbne, Bool.and_true] at h
        rw [h, hbeq]
    rw [validateLevels, validateTopicLevels, check_eq_ok_iff, validateTopicLevel, guard_eq_ok_iff,
      guard_eq_ok_iff, guard_eq_ok_iff, guard_eq_ok_iff, guard_eq_ok_iff, guard_eq_ok_iff,
      ih hnext, hlast]
    constructor
    · rintro ⟨hwhole, hend, hplus, hrest⟩
      have hsame := hhash (Bool.eq_false_iff.mpr hwhole)
      rw [hsame] at hend
      exact ⟨⟨hwhole, hend, hplus, rfl⟩, hrest⟩
    · rintro ⟨⟨hwhole, hend, hplus, -⟩, hrest⟩
      have hsame := hhash (Bool.eq_false_iff.mpr hwhole)
      rw [← hsame] at hend
      exact ⟨hwhole, hend, hplus, hrest⟩

/-- A filter that the domain accepts passes the check of the router. -/
theorem validateMqttTopicFilter_of_validate {filter : Domain.TopicFilter}
    (h : filter.validate = .ok ()) : validateMqttTopicFilter filter.raw = .ok () := by
  obtain ⟨htext, hlevels⟩ := check_eq_ok_iff.mp h
  have hblank := (validateText_eq_ok_iff.mp htext).nonblank
  have hnonempty : ¬ filter.raw.isEmpty = true := by
    intro hempty
    rw [String.isEmpty_iff.mp hempty] at hblank
    exact absurd hblank (by decide)
  rw [validateMqttTopicFilter, guard_eq_ok_iff, validateLevels_eq_ok_iff (Nat.zero_add _)]
  exact ⟨hnonempty, hlevels⟩

/-! ## The router -/

/-- `MqttRoute`. -/
structure MqttRoute (H : Type) where
  filter : TopicFilter
  handler : H

/-- `MqttRouter`. -/
structure MqttRouter (H : Type) where
  routes : List (MqttRoute H)

namespace MqttRouter

variable {H : Type}

/-- `MqttRouter::new`. -/
def new : MqttRouter H := ⟨[]⟩

/-- `MqttRouter::route`. -/
def route (router : MqttRouter H) (filter : String) (handler : H) :
    Except MqttEngineError (MqttRouter H) := do
  let filter ← TopicFilter.parse filter
  return ⟨router.routes ++ [⟨filter, handler⟩]⟩

/-- The loop of `MqttRouter::dispatch`: the first route whose filter matches gets the message. -/
def dispatchRoutes {m : Type → Type} [Monad m]
    (call : H → MqttMessage → TopicParams → ExceptT MqttEngineError m Unit)
    (message : MqttMessage) : List (MqttRoute H) → ExceptT MqttEngineError m Bool
  | [] => pure false
  | route :: routes =>
    match route.filter.matches message.topic with
    | some params => do
      call route.handler message params
      return true
    | none => dispatchRoutes call message routes

/-- `MqttRouter::dispatch`. -/
def dispatch {m : Type → Type} [Monad m] (router : MqttRouter H)
    (call : H → MqttMessage → TopicParams → ExceptT MqttEngineError m Unit)
    (message : MqttMessage) : ExceptT MqttEngineError m Bool :=
  dispatchRoutes call message router.routes

/-- The route whose handler a dispatch calls, and the levels it captures. -/
def matched (router : MqttRouter H) (topic : String) : Option (MqttRoute H × TopicParams) :=
  router.routes.findSome? fun route =>
    (route.filter.matches topic).map fun params => (route, params)

/-- A dispatch calls the handler of the first filter that matches, and no other. -/
theorem dispatch_eq {m : Type → Type} [Monad m] (router : MqttRouter H)
    (call : H → MqttMessage → TopicParams → ExceptT MqttEngineError m Unit)
    (message : MqttMessage) :
    router.dispatch call message =
      match router.matched message.topic with
      | none => pure false
      | some (route, params) => do
        call route.handler message params
        return true := by
  unfold dispatch matched
  induction router.routes with
  | nil => rfl
  | cons route routes ih =>
    rw [dispatchRoutes, List.findSome?_cons]
    cases route.filter.matches message.topic with
    | none => exact ih
    | some params => rfl

end MqttRouter

end Router
end Core
end PipeBolt
