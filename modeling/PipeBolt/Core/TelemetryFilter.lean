import PipeBolt.Core.CommandRequest

/-!
# Filters on telemetry

`pipe_bolt_core::web::realtime::filter`: the filter that a client of the realtime endpoints sends,
and the events it lets through.

* `topicMatchesPrefix_iff`: a topic under a prefix, by levels.
-/

namespace PipeBolt
namespace Core

open Rust Separated

/-! ## Topics -/

/-- `topic_matches_prefix`. -/
def topicMatchesPrefix (topic topicPrefix : String) : Bool :=
  topic == topicPrefix || (stripPrefix topic topicPrefix).any fun rest => startsWith rest "/"

/-- `telemetry_event_type`. -/
def telemetryEventType (topic : String) : Option String :=
  match split topic '/' with
  | first :: _ :: third :: rest =>
    if first = "devices" ∨ first = "device" then
      if third = "telemetry" then some "telemetry"
      else if third = "status" then some "status"
      else if third = "event" then rest.head?.filter fun eventType => !eventType.isEmpty
      else none
    else none
  | _ => none

/-- A topic is matched by a prefix when it is the prefix, or goes on with a slash after it. -/
theorem topicMatchesPrefix_eq_true_iff {topic topicPrefix : String} :
    topicMatchesPrefix topic topicPrefix = true ↔ topic.toList = topicPrefix.toList ∨
      ∃ rest, topic.toList = topicPrefix.toList ++ '/' :: rest := by
  rw [topicMatchesPrefix, Bool.or_eq_true, beq_iff_eq, Option.any_eq_true, String.toList_inj]
  refine or_congr_right ?_
  constructor
  · rintro ⟨rest, hrest, hslash⟩
    rw [startsWith, List.isPrefixOf_iff_prefix] at hslash
    obtain ⟨chars, hchars⟩ := hslash
    refine ⟨chars, ?_⟩
    rw [stripPrefix_eq_some_iff.mp hrest, String.toList_append, ← hchars]
    rfl
  · rintro ⟨chars, hchars⟩
    refine ⟨.ofList ('/' :: chars), stripPrefix_eq_some_iff.mpr ?_, ?_⟩
    · rw [← String.toList_inj, String.toList_append, String.toList_ofList, hchars]
    · rw [startsWith, List.isPrefixOf_iff_prefix]
      exact ⟨chars, String.toList_ofList.symm⟩

/-- A topic is matched by a prefix when the levels of the prefix are the first levels of the
topic. -/
theorem topicMatchesPrefix_iff {topic topicPrefix : String} :
    topicMatchesPrefix topic topicPrefix = true ↔ split topicPrefix '/' <+: split topic '/' := by
  have hmap : split topicPrefix '/' <+: split topic '/' ↔
      topicPrefix.toList.splitOn '/' <+: topic.toList.splitOn '/' :=
    List.prefix_map_iff_of_injective (fun _ _ => String.ofList_inj.mp)
  rw [hmap, splitOn_prefix_iff, topicMatchesPrefix_eq_true_iff]

example : topicMatchesPrefix "devices/abc/telemetry" "devices/a" = false := by decide

/-! ## Filters -/

/-- `TelemetryFilter`. -/
structure TelemetryFilter where
  device : Option String
  topic : Option String
  topicPrefix : Option String
  eventType : Option String
  deriving DecidableEq, Repr

/-- `TelemetryFilter::matches`, on the topic of the event: nothing else of it is read. -/
def TelemetryFilter.matches (filter : TelemetryFilter) (topic : String) : Bool :=
  filter.device.all (fun expected => telemetryDevice topic == some expected) &&
  filter.topic.all (fun expected => topic == expected) &&
  filter.topicPrefix.all (fun expected => topicMatchesPrefix topic expected) &&
  filter.eventType.all (fun expected => telemetryEventType topic == some expected)

end Core
end PipeBolt
