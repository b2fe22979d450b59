import PipeBolt.Core.Router
import PipeBolt.Js.Utf16

/-!
# The three validators of topic filters

`validateTopicFilter` of `config.validation.ts`, beside `TopicFilter::validate` of the domain and
`validate_mqtt_topic_filter` of the core: the editor, the daemon and the router accept the same
filters.

* `TopicGrammar`: the filters of the protocol, by levels.
* `validateTopicLevels_eq_ok_iff`, `validateSegments_eq_iff`: the two kinds of loops accept them.
* `topicFilter_validators`: the three validators.
-/

namespace PipeBolt
namespace Web
namespace ConfigEditor

open Js Domain Rust Fallible Separated

/-! ## The validator of the editor -/

/-- `ConfigValidationIssue`. -/
structure ConfigValidationIssue where
  message : String
  path : String
  deriving DecidableEq, Repr

abbrev Issues := List ConfigValidationIssue

def MAX_ISSUES : Nat := 100

/-- `addIssue`. -/
def addIssue (issues : Issues) (path message : String) : Issues :=
  if issues.length < MAX_ISSUES then issues ++ [⟨message, path⟩] else issues

/-- `validateText`. -/
def validateText (issues : Issues) (path : String) (value : JsString) (maxBytes : Nat) : Issues :=
  let issues := if Js.trim value = [] then addIssue issues path "Value is required." else issues
  if maxBytes < byteLength value then
    addIssue issues path s!"Value must not exceed {maxBytes} UTF-8 bytes."
  else issues

/-- The loop of `validateTopicFilter` over the segments of a filter: the first segment that is
refused ends it. -/
def validateSegments (issues : Issues) (path : String) : List JsString → Issues
  | [] => issues
  | segment :: segments =>
    if unit '#' ∈ segment ∧ (segment ≠ ofString "#" ∨ segments ≠ []) then
      addIssue issues path "`#` must be the final complete topic segment."
    else if unit '+' ∈ segment ∧ segment ≠ ofString "+" then
      addIssue issues path "`+` must occupy a complete topic segment."
    else validateSegments issues path segments

/-- `validateTopicFilter`, on the `topic_filter` of the route: nothing else of it is read. -/
def validateTopicFilter (issues : Issues) (path : String) (topicFilter : JsString) : Issues :=
  let issues := validateText issues path topicFilter 1024
  validateSegments issues path (topicFilter.splitOn (unit '/'))

/-! ## Issues -/

section Issues

variable {issues : Issues} {path message : String}

theorem addIssue_eq (h : issues.length < MAX_ISSUES) :
    addIssue issues path message = issues ++ [⟨message, path⟩] := if_pos h

theorem addIssue_ne (h : issues.length < MAX_ISSUES) : addIssue issues path message ≠ issues := by
  rw [addIssue_eq h]
  exact fun h => absurd (List.append_right_eq_self.mp h) (List.cons_ne_nil _ _)

/-- A text without an issue. -/
theorem validateText_eq_self {value : JsString} {maxBytes : Nat} (hblank : Js.trim value ≠ [])
    (hshort : byteLength value ≤ maxBytes) : validateText issues path value maxBytes = issues := by
  rw [validateText, if_neg hblank, if_neg (Nat.not_lt.mpr hshort)]

end Issues

/-! ## The grammar -/

/-- A level of a filter, with the levels after it. -/
def LevelAllowed (level : String) (after : List String) : Prop :=
  level = "+" ∨ (level = "#" ∧ after = []) ∨ ('+' ∉ level.toList ∧ '#' ∉ level.toList)

/-- The filters whose levels are `+`, or `#` in last position, or free of both. -/
def TopicGrammar (filter : String) : Prop :=
  ∀ before level after, split filter '/' = before ++ level :: after → LevelAllowed level after

/-- A level is allowed when each wildcard in it is all of it, and a `#` has no level after it. -/
theorem levelAllowed_iff {level : String} {after : List String} :
    LevelAllowed level after ↔ ('#' ∈ level.toList → level = "#" ∧ after = []) ∧
      ('+' ∈ level.toList → level = "+") := by
  constructor
  · rintro (rfl | ⟨rfl, hafter⟩ | ⟨hplus, hhash⟩)
    · exact ⟨fun h => absurd h (by decide), fun _ => rfl⟩
    · exact ⟨fun _ => ⟨rfl, hafter⟩, fun h => absurd h (by decide)⟩
    · exact ⟨fun h => absurd h hhash, fun h => absurd h hplus⟩
  · rintro ⟨hhash, hplus⟩
    by_cases h : '#' ∈ level.toList
    · exact Or.inr (Or.inl (hhash h))
    · by_cases h' : '+' ∈ level.toList
      · exact Or.inl (hplus h')
      · exact Or.inr (Or.inr ⟨h', h⟩)

/-- The checks of the domain on one level. -/
theorem validateTopicLevel_eq_ok_iff {level : String} {after : List String} :
    validateTopicLevel after.isEmpty level = .ok () ↔ LevelAllowed level after := by
  rw [validateTopicLevel, guard_eq_ok_iff, guard_eq_ok_iff, guard_eq_ok_iff, levelAllowed_iff]
  simp only [containsChar, Bool.and_eq_true, List.contains_iff_mem, bne_iff_ne, beq_iff_eq,
    Bool.not_eq_true', not_and, not_not, Bool.not_eq_false, List.isEmpty_iff, and_true]
  constructor
  · rintro ⟨hwhole, hlast, hplus⟩
    exact ⟨fun h => ⟨hwhole h, hlast (hwhole h)⟩, hplus⟩
  · rintro ⟨hhash, hplus⟩
    refine ⟨fun h => (hhash h).1, ?_, hplus⟩
    rintro rfl
    exact (hhash (by decide)).2

/-- The loop of the domain accepts the levels of the grammar. -/
theorem validateTopicLevels_eq_ok_iff {levels : List String} :
    validateTopicLevels levels = .ok () ↔
      ∀ before level after, levels = before ++ level :: after → LevelAllowed level after := by
  induction levels with
  | nil => exact iff_of_true rfl forall_split_nil
  | cons level levels ih =>
    rw [forall_split_cons, ← ih, ← validateTopicLevel_eq_ok_iff, validateTopicLevels,
      check_eq_ok_iff]

/-- The checks of the editor on one segment. -/
theorem segment_accepted_iff {level : String} {after : List String} :
    (¬ (unit '#' ∈ ofString level ∧
        (ofString level ≠ ofString "#" ∨ after.map ofString ≠ [])) ∧
      ¬ (unit '+' ∈ ofString level ∧ ofString level ≠ ofString "+")) ↔
        LevelAllowed level after := by
  rw [levelAllowed_iff, mem_ofString_iff (by decide), mem_ofString_iff (by decide),
    ofString_injective.ne_iff, ofString_injective.ne_iff, Ne, Ne, Ne, List.map_eq_nil_iff]
  simp only [not_and, not_or, not_not]

/-- The loop of the editor accepts the levels of the grammar. -/
theorem validateSegments_eq_iff {issues : Issues} {path : String} {levels : List String}
    (h : issues.length < MAX_ISSUES) :
    validateSegments issues path (levels.map ofString) = issues ↔
      ∀ before level after, levels = before ++ level :: after → LevelAllowed level after := by
  induction levels with
  | nil => exact iff_of_true rfl forall_split_nil
  | cons level levels ih =>
    rw [forall_split_cons, ← ih, ← segment_accepted_iff, List.map_cons, validateSegments]
    split
    · rename_i hhash
      exact iff_of_false (addIssue_ne h) fun hall => hall.1.1 hhash
    · rename_i hhash
      split
      · rename_i hplus
        exact iff_of_false (addIssue_ne h) fun hall => hall.1.2 hplus
      · rename_i hplus
        exact (and_iff_right ⟨hhash, hplus⟩).symm

/-! ## The three validators -/

/-- The three validators accept the filters of the grammar. -/
structure SameGrammar (filter : String) : Prop where
  domain : TopicFilter.validate ⟨filter⟩ = .ok () ↔ TopicGrammar filter
  core : Core.Router.validateMqttTopicFilter filter = .ok () ↔ TopicGrammar filter
  web : ∀ issues path, issues.length < MAX_ISSUES →
    (validateTopicFilter issues path (ofString filter) = issues ↔ TopicGrammar filter)

/-- **The validators of topic filters.**  The domain, the core and the editor, which adds no issue
to a list that has room for one, accept the same filters among the texts that are short, printable
and not blank. -/
theorem topicFilter_validators (filter : String) (hshort : len filter ≤ 1024)
    (hprintable : ∀ c ∈ filter.toList, isControl c = false)
    (hrust : (Rust.trim filter).isEmpty = false) (hjs : Js.trim (ofString filter) ≠ []) :
    SameGrammar filter := by
  have hgrammar : validateTopicLevels (split filter '/') = .ok () ↔ TopicGrammar filter :=
    validateTopicLevels_eq_ok_iff
  refine ⟨?_, ?_, fun issues path hroom => ?_⟩
  · have htext : Domain.validateText "topic_filter" filter MAX_TOPIC_BYTES = .ok () :=
      validateText_eq_ok_iff.mpr ⟨hrust, hshort, hprintable⟩
    rw [TopicFilter.validate, check_eq_ok_iff, hgrammar]
    exact and_iff_right htext
  · have hnonempty : ¬ filter.isEmpty = true := by
      intro hempty
      rw [String.isEmpty_iff.mp hempty] at hrust
      exact absurd hrust (by decide)
    rw [Core.Router.validateMqttTopicFilter, guard_eq_ok_iff,
      Core.Router.validateLevels_eq_ok_iff (Nat.zero_add _), hgrammar]
    exact and_iff_right hnonempty
  · have hbytes : byteLength (ofString filter) ≤ 1024 := by
      rw [byteLength_ofString]
      exact hshort
    have hsegments : (ofString filter).splitOn (unit '/') = (split filter '/').map ofString := by
      rw [splitOn_ofString (by decide), split, List.map_map]
      refine List.map_congr_left fun segment _ => ?_
      rw [Function.comp_apply, ofString, String.toList_ofList]
    rw [validateTopicFilter, validateText_eq_self hjs hbytes, hsegments]
    exact validateSegments_eq_iff hroom

/-- A filter that all three accept. -/
theorem topicFilter_validators_telemetry :
    len "devices/+/#" ≤ 1024 ∧ SameGrammar "devices/+/#" := by
  have hall : ("devices/+/#".toList.all fun c => !isControl c) = true := by decide
  have hprintable : ∀ c ∈ "devices/+/#".toList, isControl c = false := by
    intro c hc
    have hc := List.all_eq_true.mp hall c hc
    rwa [Bool.not_eq_true'] at hc
  exact ⟨by decide,
    topicFilter_validators "devices/+/#" (by decide) hprintable (by decide) (by decide)⟩

end ConfigEditor
end Web
end PipeBolt
