import PipeBolt.Core.RouteMatcher

/-!
# Exact captures

What `TopicFilterMatcher::matches` and `TopicFilter::matches` return, in the terms of the levels of
the filter and of the topic.

Both loops slice the levels of the topic at their index when they come to a `#`, and a slice past
the end panics.  `TopicFilterMatcher.run` and `TopicFilter.run` are the two with that panic; since
their loops differ in the names of the constructors only, they share `matchLevelsSliced`.

* `matchLevelsSliced_eq`: the index never passes the end of the topic.
* `filterCaptures_iff`: what a filter captures, level by level.
* `matches_exact`: the result for every filter that `TopicFilterMatcher::parse` accepts.
* `exists_topic`: a topic for every filter.
* `dollar_topic_routed`: which route a message is routed to.  Nothing in the matcher looks at a `$`,
  so a topic that begins with one is routed like any other.
-/

namespace PipeBolt
namespace Core

open Domain Rust Fallible LevelPattern

/-! ## The loops with their slices -/

/-- The panic of a slice that starts past the end. -/
structure SlicePanic where
  start : Nat
  length : Nat
  deriving DecidableEq, Repr

/-- `topic_levels[topic_index..]`. -/
def sliceFrom (topicLevels : List String) (index : Nat) : Except SlicePanic (List String) :=
  if topicLevels.length < index then .error ⟨index, topicLevels.length⟩
  else .ok (topicLevels.drop index)

/-- The loop of either `matches`, with its slice. -/
def matchLevelsSliced (topicLevels : List String) :
    List (Level String) → Nat → TopicParams → Except SlicePanic (Option TopicParams)
  | [], index, params => .ok (if index = topicLevels.length then some params else none)
  | .exact expected :: levels, index, params =>
    match topicLevels[index]? with
    | none => .ok none
    | some actual =>
      if expected ≠ actual then .ok none
      else matchLevelsSliced topicLevels levels (index + 1) params
  | .one :: levels, index, params =>
    match topicLevels[index]? with
    | none => .ok none
    | some actual => matchLevelsSliced topicLevels levels (index + 1) (params.pushSingle actual)
  | .rest :: _, index, params => do
    let tail ← sliceFrom topicLevels index
    return some (params.setMulti tail)

/-- Either `matches`, with its slice. -/
def runLevels (levels : List (Level String)) (topic : String) :
    Except SlicePanic (Option TopicParams) :=
  if topic.isEmpty || containsChar topic '+' || containsChar topic '#' then .ok none
  else matchLevelsSliced (split topic '/') levels 0 .default

/-- `TopicFilter::matches` of the MQTT router, with its slice. -/
def Router.TopicFilter.run (filter : Router.TopicFilter) (topic : String) :
    Except SlicePanic (Option TopicParams) :=
  runLevels (filter.levels.map Router.TopicFilterLevel.level) topic

/-- `TopicFilterMatcher::matches`, with its slice. -/
def Pipeline.TopicFilterMatcher.run (matcher : Pipeline.TopicFilterMatcher) (topic : String) :
    Except SlicePanic (Option TopicParams) :=
  runLevels (matcher.levels.map fun level => level.toRouter.level) topic

theorem sliceFrom_ok {topicLevels : List String} {index : Nat}
    (h : index ≤ topicLevels.length) :
    sliceFrom topicLevels index = .ok (topicLevels.drop index) :=
  if_neg (Nat.not_lt.mpr h)

/-- The index of the loop stays within the topic, so no slice panics. -/
theorem matchLevelsSliced_eq {topicLevels : List String} {levels : List Router.TopicFilterLevel}
    {index : Nat} {params : TopicParams} (hindex : index ≤ topicLevels.length) :
    matchLevelsSliced topicLevels (levels.map Router.TopicFilterLevel.level) index params =
      .ok (Router.matchLevels topicLevels levels index params) := by
  induction levels generalizing index params with
  | nil => rfl
  | cons level levels ih =>
    cases level with
    | exact expected =>
      rw [List.map_cons, Router.TopicFilterLevel.level, matchLevelsSliced, Router.matchLevels]
      cases hactual : topicLevels[index]? with
      | none => rfl
      | some actual =>
        have hnext : index + 1 ≤ topicLevels.length := (Router.drop_of_getElem?_some hactual).1
        by_cases hexpected : expected ≠ actual
        · simp only [if_pos hexpected]
        · simp only [if_neg hexpected]
          exact ih hnext
    | singleWildcard =>
      rw [List.map_cons, Router.TopicFilterLevel.level, matchLevelsSliced, Router.matchLevels]
      cases hactual : topicLevels[index]? with
      | none => rfl
      | some actual => exact ih (Router.drop_of_getElem?_some hactual).1
    | multiWildcard =>
      rw [List.map_cons, Router.TopicFilterLevel.level, matchLevelsSliced, sliceFrom_ok hindex]
      rfl

/-- The matcher of the MQTT router never panics. -/
theorem Router.TopicFilter.run_eq (filter : Router.TopicFilter) (topic : String) :
    filter.run topic = .ok (filter.matches topic) := by
  unfold Router.TopicFilter.run Router.TopicFilter.matches runLevels
  split
  · rfl
  · exact matchLevelsSliced_eq (Nat.zero_le _)

/-- The matcher of the pipeline never panics. -/
theorem Pipeline.TopicFilterMatcher.run_eq (matcher : Pipeline.TopicFilterMatcher)
    (topic : String) : matcher.run topic = .ok (matcher.matches topic) := by
  unfold Pipeline.TopicFilterMatcher.run Pipeline.TopicFilterMatcher.matches runLevels
  split
  · rfl
  · rw [Pipeline.matchLevels_eq, ← matchLevelsSliced_eq (Nat.zero_le _), List.map_map]
    rfl

/-! ## Level by level -/

/-- A level of a filter and a level of a topic: `+` takes any level, another level itself. -/
def LevelMeets (level actual : String) : Prop := level = "+" ∨ level = actual

/-- The levels of a topic match those of a filter one by one, up to a trailing `#`, which takes
zero or more levels. -/
def LevelsMatch (filterLevels topicLevels : List String) : Prop :=
  List.Forall₂ LevelMeets filterLevels topicLevels ∨
    ∃ init before after, filterLevels = init ++ ["#"] ∧ topicLevels = before ++ after ∧
      List.Forall₂ LevelMeets init before

/-- The levels of a topic that stand at a `+` of the filter, in order. -/
def alignedLevels (filterLevels topicLevels : List String) : List String :=
  ((filterLevels.zip topicLevels).filter fun pair => pair.1 == "+").map Prod.snd

/-- The levels of a topic that a trailing `#` of the filter takes. -/
def tailLevels (filterLevels topicLevels : List String) : List String :=
  if filterLevels.getLast? = some "#" then topicLevels.drop (filterLevels.length - 1) else []

/-- The pattern that a filter is. -/
def filterPattern (filter : String) : List (Level String) :=
  (split filter '/').map fun level => (Router.TopicFilterLevel.ofText level).level

/-- The captures of a topic are exact. -/
structure CapturesExact (filter topic : String) (params : TopicParams) : Prop where
  single : ∀ i, params.single i = (alignedLevels (split filter '/') (split topic '/'))[i]?
  multi : params.multiLevel = tailLevels (split filter '/') (split topic '/')
  substituted : substitute (filterPattern filter) params.singleLevel params.multiLevel =
    split topic '/'

/-- What a level of a filter asks of a level that is not `#`. -/
theorem meets_level_iff {level actual : String} (hactual : actual ≠ "#") :
    (Router.TopicFilterLevel.ofText level).level.Meets actual ↔ LevelMeets level actual := by
  unfold Router.TopicFilterLevel.ofText LevelMeets
  by_cases hsingle : level = "+"
  · simp [hsingle, Router.TopicFilterLevel.level, Level.Meets]
  · by_cases hmulti : level = "#"
    · have hne : "#" ≠ actual := Ne.symm hactual
      simp [hmulti, Router.TopicFilterLevel.level, Level.Meets, hne]
    · simp [hsingle, hmulti, Router.TopicFilterLevel.level, Level.Meets]

theorem level_eq_rest_iff {level : String} :
    (Router.TopicFilterLevel.ofText level).level = .rest ↔ level = "#" := by
  unfold Router.TopicFilterLevel.ofText
  by_cases hsingle : level = "+"
  · simp [hsingle, Router.TopicFilterLevel.level]
  · by_cases hmulti : level = "#"
    · simp [hmulti, Router.TopicFilterLevel.level]
    · simp [hsingle, hmulti, Router.TopicFilterLevel.level]

theorem isOne_level {level : String} :
    (Router.TopicFilterLevel.ofText level).level.isOne = (level == "+") := by
  unfold Router.TopicFilterLevel.ofText
  by_cases hsingle : level = "+"
  · simp [hsingle, Router.TopicFilterLevel.level, Level.isOne]
  · by_cases hmulti : level = "#"
    · simp [hmulti, Router.TopicFilterLevel.level, Level.isOne]
    · simp [hsingle, hmulti, Router.TopicFilterLevel.level, Level.isOne]

/-- What a pattern picks is what stands at a `+`. -/
theorem picked_map (filterLevels topicLevels : List String) :
    picked (filterLevels.map fun level => (Router.TopicFilterLevel.ofText level).level)
      topicLevels = alignedLevels filterLevels topicLevels := by
  rw [picked, alignedLevels, List.zip_map_left, List.filter_map, List.map_map]
  congr 1
  exact List.filter_congr fun pair _ => isOne_level

/-- The levels that stand at a `+` before a trailing `#`. -/
theorem alignedLevels_append {init before after : List String}
    (hlength : init.length = before.length) :
    alignedLevels (init ++ ["#"]) (before ++ after) = alignedLevels init before := by
  rw [alignedLevels, List.zip_append hlength, List.filter_append, List.map_append]
  cases after with
  | nil => exact List.append_nil _
  | cons level after => exact List.append_nil _

/-! ## What an accepted filter captures -/

/-- A `#` in a filter that the domain accepts is its last level. -/
theorem multi_last {init ignored : List String}
    (h : validateTopicLevels (init ++ "#" :: ignored) = .ok ()) : ignored = [] := by
  induction init with
  | nil =>
    obtain ⟨hlevel, -⟩ := check_eq_ok_iff.mp h
    cases ignored with
    | nil => rfl
    | cons level ignored => exact nomatch hlevel
  | cons level init ih => exact ih (check_eq_ok_iff.mp h).2

/-- Patterns and filters meet the levels of a topic name alike. -/
theorem forall₂_meets_iff {filterLevels topicLevels : List String}
    (htopic : ∀ level ∈ topicLevels, level ≠ "#") :
    List.Forall₂ Level.Meets
        (filterLevels.map fun level => (Router.TopicFilterLevel.ofText level).level) topicLevels ↔
      List.Forall₂ LevelMeets filterLevels topicLevels := by
  rw [List.forall₂_map_left_iff]
  induction topicLevels generalizing filterLevels with
  | nil => rw [List.forall₂_nil_right_iff, List.forall₂_nil_right_iff]
  | cons actual topicLevels ih =>
    obtain ⟨hactual, htopic⟩ := List.forall_mem_cons.mp htopic
    cases filterLevels with
    | nil => exact iff_of_false (nomatch ·) (nomatch ·)
    | cons level filterLevels =>
      rw [List.forall₂_cons, List.forall₂_cons, ih htopic, meets_level_iff hactual]

/-- No level of a topic name is `#`. -/
theorem ne_multi_of_mem_split {topic : String} (hmulti : containsChar topic '#' = false) :
    ∀ level ∈ split topic '/', level ≠ "#" := by
  rintro level hlevel rfl
  have hcontains := containsChar_of_mem_split hlevel (d := '#') (by decide)
  rw [hmulti] at hcontains
  cases hcontains

/-- What a filter that the domain accepts captures of a topic name, level by level. -/
theorem filterCaptures_iff {filter topic : String} {params : TopicParams}
    (hvalid : validateTopicLevels (split filter '/') = .ok ())
    (hmulti : containsChar topic '#' = false) :
    Router.FilterCaptures filter topic params ↔
      (List.Forall₂ LevelMeets (split filter '/') (split topic '/') ∧
        params.singleLevel = alignedLevels (split filter '/') (split topic '/') ∧
          params.multiLevel = []) ∨
      ∃ init before, split filter '/' = init ++ ["#"] ∧
        split topic '/' = before ++ params.multiLevel ∧ List.Forall₂ LevelMeets init before ∧
          params.singleLevel = alignedLevels init before := by
  have htopic := ne_multi_of_mem_split hmulti
  rw [Router.FilterCaptures, captures_iff_meets, forall₂_meets_iff htopic, picked_map]
  refine or_congr_right ?_
  constructor
  · rintro ⟨init, ignored, before, hsplit, hbefore, hmeets, hsingle⟩
    obtain ⟨init', rest, hfilter, rfl, hrest⟩ := List.map_eq_append_iff.mp hsplit
    obtain ⟨level, ignored', rfl, hlevel, -⟩ := List.map_eq_cons_iff.mp hrest
    rw [level_eq_rest_iff.mp hlevel] at hfilter
    rw [hfilter] at hvalid
    rw [multi_last hvalid] at hfilter
    have hshort : ∀ level ∈ before, level ≠ "#" := fun level hmem =>
      htopic level (hbefore ▸ List.mem_append_left _ hmem)
    rw [picked_map] at hsingle
    exact ⟨init', before, hfilter, hbefore, (forall₂_meets_iff hshort).mp hmeets, hsingle⟩
  · rintro ⟨init, before, hfilter, hbefore, hmeets, hsingle⟩
    have hshort : ∀ level ∈ before, level ≠ "#" := fun level hmem =>
      htopic level (hbefore ▸ List.mem_append_left _ hmem)
    refine ⟨_, [], before, ?_, hbefore, (forall₂_meets_iff hshort).mpr hmeets, ?_⟩
    · rw [hfilter, List.map_append]
      rfl
    · rw [picked_map]
      exact hsingle

/-- A filter captures something exactly when the levels match. -/
theorem levelsMatch_iff {filter topic : String}
    (hvalid : validateTopicLevels (split filter '/') = .ok ())
    (hmulti : containsChar topic '#' = false) :
    (∃ params, Router.FilterCaptures filter topic params) ↔
      LevelsMatch (split filter '/') (split topic '/') := by
  simp only [filterCaptures_iff hvalid hmulti]
  constructor
  · rintro ⟨params, ⟨hmeets, -, -⟩ | ⟨init, before, hfilter, hbefore, hmeets, -⟩⟩
    · exact .inl hmeets
    · exact .inr ⟨init, before, params.multiLevel, hfilter, hbefore, hmeets⟩
  · rintro (hmeets | ⟨init, before, after, hfilter, hbefore, hmeets⟩)
    · exact ⟨⟨_, []⟩, .inl ⟨hmeets, rfl, rfl⟩⟩
    · exact ⟨⟨_, after⟩, .inr ⟨init, before, hfilter, hbefore, hmeets, rfl⟩⟩

/-- Where all levels meet one by one, the filter has no `#`. -/
theorem multi_notMem {filterLevels topicLevels : List String}
    (hmeets : List.Forall₂ LevelMeets filterLevels topicLevels)
    (htopic : ∀ level ∈ topicLevels, level ≠ "#") : "#" ∉ filterLevels := by
  induction hmeets with
  | nil => exact List.not_mem_nil
  | @cons level actual filterLevels topicLevels hlevel _ ih =>
    obtain ⟨hactual, htopic⟩ := List.forall_mem_cons.mp htopic
    rw [List.mem_cons, not_or]
    refine ⟨?_, ih htopic⟩
    rintro rfl
    rcases hlevel with hlevel | hlevel
    · exact absurd hlevel (by decide)
    · exact hactual hlevel.symm

/-- The captures of a filter that the domain accepts are exact. -/
theorem CapturesExact.of_captures {filter topic : String} {params : TopicParams}
    (hvalid : validateTopicLevels (split filter '/') = .ok ())
    (hmulti : containsChar topic '#' = false) (h : Router.FilterCaptures filter topic params) :
    CapturesExact filter topic params where
  single := by
    intro i
    rw [TopicParams.single]
    congr 1
    rcases (filterCaptures_iff hvalid hmulti).mp h with
      ⟨-, hsingle, -⟩ | ⟨init, before, hfilter, hbefore, hmeets, hsingle⟩
    · exact hsingle
    · rw [hsingle, hfilter, hbefore, alignedLevels_append hmeets.length_eq]
  multi := by
    rcases (filterCaptures_iff hvalid hmulti).mp h with
      ⟨hmeets, -, hnone⟩ | ⟨init, before, hfilter, hbefore, hmeets, -⟩
    · have hlast : (split filter '/').getLast? ≠ some "#" := fun hlast =>
        multi_notMem hmeets (ne_multi_of_mem_split hmulti) (List.mem_of_getLast? hlast)
      rw [hnone, tailLevels, if_neg hlast]
    · have hlength : (init ++ ["#"]).length - 1 = before.length := by
        rw [← hmeets.length_eq]
        simp
      rw [tailLevels, hfilter, hbefore, hlength, List.drop_left, if_pos List.getLast?_concat]
  substituted := h.substitute

/-- The matcher of the pipeline finds something exactly when the levels match. -/
theorem matches_isSome_iff {filter topic : String} {matcher : Pipeline.TopicFilterMatcher}
    (hparse : Pipeline.TopicFilterMatcher.parse filter = .ok matcher)
    (hname : validateTopicName topic = .ok ()) :
    (matcher.matches topic).isSome ↔ LevelsMatch (split filter '/') (split topic '/') := by
  obtain ⟨hvalid, -⟩ := Pipeline.TopicFilterMatcher.parse_eq_ok_iff.mp hparse
  obtain ⟨-, hlevels⟩ := check_eq_ok_iff.mp hvalid
  obtain ⟨-, hrest⟩ := guard_eq_ok_iff.mp hname
  obtain ⟨hwild, -⟩ := guard_eq_ok_iff.mp hrest
  rw [Bool.or_eq_true, not_or, Bool.not_eq_true, Bool.not_eq_true] at hwild
  rw [Option.isSome_iff_exists, ← levelsMatch_iff hlevels hwild.2]
  exact exists_congr fun params =>
    (Pipeline.TopicFilterMatcher.matches_eq_some_iff hparse).trans (and_iff_right hname)

/-- For every filter that the parser of the pipeline accepts and every topic name, the matcher does
not panic, it finds something exactly when the levels match, what it finds is exact, and the MQTT
router finds the same. -/
theorem matches_exact {filter topic : String} {matcher : Pipeline.TopicFilterMatcher}
    (hparse : Pipeline.TopicFilterMatcher.parse filter = .ok matcher)
    (hnonempty : topic.isEmpty = false) (hsingle : containsChar topic '+' = false)
    (hmulti : containsChar topic '#' = false) :
    ∃ found, matcher.run topic = .ok found ∧ matcher.matches topic = found ∧
      (found.isSome ↔ LevelsMatch (split filter '/') (split topic '/')) ∧
      (∀ params, found = some params → CapturesExact filter topic params) ∧
      ∃ routed, Router.TopicFilter.parse filter = .ok routed ∧ routed.run topic = .ok found ∧
        routed.matches topic = found := by
  obtain ⟨hvalid, -⟩ := Pipeline.TopicFilterMatcher.parse_eq_ok_iff.mp hparse
  obtain ⟨-, hlevels⟩ := check_eq_ok_iff.mp hvalid
  obtain ⟨routed, hrouted⟩ := Pipeline.parse_of_validate hvalid
  have hname : validateTopicName topic = .ok () := by
    rw [validateTopicName, hnonempty, hsingle, hmulti]
    rfl
  have hsame := Pipeline.TopicFilterMatcher.matches_eq hparse hrouted topic
  refine ⟨matcher.matches topic, matcher.run_eq topic, rfl, matches_isSome_iff hparse hname, ?_,
    routed, hrouted, ?_, hsame.symm⟩
  · intro params hfound
    exact .of_captures hlevels hmulti
      ((Pipeline.TopicFilterMatcher.matches_eq_some_iff hparse).mp hfound).2
  · rw [routed.run_eq, hsame]

/-- A filter with both wildcards on a topic that ends before its `#`. -/
theorem matches_exact_site :
    ∃ found, (Pipeline.TopicFilterMatcher.ofText "site/+/state/#").run "site/a/state" = .ok found ∧
      (Pipeline.TopicFilterMatcher.ofText "site/+/state/#").matches "site/a/state" = found ∧
      (found.isSome ↔ LevelsMatch (split "site/+/state/#" '/') (split "site/a/state" '/')) ∧
      (∀ params, found = some params → CapturesExact "site/+/state/#" "site/a/state" params) ∧
      ∃ routed, Router.TopicFilter.parse "site/+/state/#" = .ok routed ∧
        routed.run "site/a/state" = .ok found ∧ routed.matches "site/a/state" = found :=
  matches_exact (by decide +kernel) (by decide +kernel) (by decide +kernel) (by decide +kernel)

/-! ## A topic for every filter -/

/-- A letter for each wildcard. -/
def topicChar (c : Char) : Char := if c = '+' ∨ c = '#' then 'a' else c

/-- A filter with a level of its own in the place of each wildcard. -/
def topicOf (filter : String) : String := .ofList (filter.toList.map topicChar)

theorem topicChar_of_not_wild {c : Char} (hsingle : c ≠ '+') (hmulti : c ≠ '#') :
    topicChar c = c := by
  rw [topicChar, if_neg]
  rintro (h | h)
  · exact hsingle h
  · exact hmulti h

/-- A property of the letter that is put for the wildcards and of the characters that stay. -/
theorem topicChar_induction {p : Char → Prop} (letter : p 'a') {c : Char}
    (other : c ≠ '+' → c ≠ '#' → p c) : p (topicChar c) := by
  rw [topicChar]
  split
  · exact letter
  · next h =>
    rw [not_or] at h
    exact other h.1 h.2

theorem split_topicOf (filter : String) :
    split (topicOf filter) '/' = (split filter '/').map topicOf := by
  have hflat : ∀ chars : List Char,
      chars.map topicChar = chars.flatMap fun c => [topicChar c] :=
    fun chars => List.map_eq_flatMap
  have hother : ∀ c ∈ filter.toList, c ≠ '/' → '/' ∉ [topicChar c] := by
    intro c _ hc hmem
    refine topicChar_induction (p := fun d => '/' ≠ d) (by decide) (c := c) (fun _ _ => hc.symm) ?_
    exact List.mem_singleton.mp hmem
  have hslash : [topicChar '/'] = ['/'] := by decide
  rw [split, topicOf, String.toList_ofList, hflat,
    Separated.splitOn_flatMap (f := fun c => [topicChar c]) hslash hother, split, List.map_map,
    List.map_map]
  refine List.map_congr_left fun segment _ => ?_
  rw [Function.comp_apply, Function.comp_apply, topicOf, String.toList_ofList, hflat]

theorem containsChar_topicOf {filter : String} {c : Char} (hwild : c = '+' ∨ c = '#') :
    containsChar (topicOf filter) c = false := by
  rw [Bool.eq_false_iff, containsChar, topicOf, String.toList_ofList, Ne, List.contains_iff_mem]
  intro hmem
  obtain ⟨d, -, hd⟩ := List.mem_map.mp hmem
  refine topicChar_induction (p := fun e => e ≠ c) ?_ (fun hsingle hmulti => ?_) hd
  · rcases hwild with rfl | rfl
    · decide
    · decide
  · rcases hwild with rfl | rfl
    · exact hsingle
    · exact hmulti

/-- A level without a wildcard stays. -/
theorem topicOf_eq_self {level : String} (hsingle : containsChar level '+' = false)
    (hmulti : containsChar level '#' = false) : topicOf level = level := by
  have hsame : level.toList.map topicChar = level.toList := by
    refine (List.map_congr_left fun c hc => ?_).trans (List.map_id _)
    refine topicChar_of_not_wild ?_ ?_
    · rintro rfl
      rw [containsChar, List.contains_iff_mem.mpr hc] at hsingle
      cases hsingle
    · rintro rfl
      rw [containsChar, List.contains_iff_mem.mpr hc] at hmulti
      cases hmulti
  rw [topicOf, hsame, String.ofList_toList]

/-- The levels of a filter that the domain accepts match those that replace them. -/
theorem levelsMatch_map_topicOf {levels : List String}
    (h : validateTopicLevels levels = .ok ()) : LevelsMatch levels (levels.map topicOf) := by
  induction levels with
  | nil => exact Or.inl List.Forall₂.nil
  | cons level levels ih =>
    obtain ⟨hlevel, hlevels⟩ := check_eq_ok_iff.mp h
    obtain ⟨hmulti, hlevel⟩ := guard_eq_ok_iff.mp hlevel
    obtain ⟨hlast, hlevel⟩ := guard_eq_ok_iff.mp hlevel
    obtain ⟨hsingle, -⟩ := guard_eq_ok_iff.mp hlevel
    rw [List.map_cons]
    by_cases hrest : level = "#"
    · subst hrest
      have hnil : levels = [] := by simpa using hlast
      exact Or.inr ⟨[], [], _, by rw [hnil]; rfl, rfl, List.Forall₂.nil⟩
    · have hmeets : LevelMeets level (topicOf level) := by
        by_cases hplus : level = "+"
        · exact Or.inl hplus
        · refine Or.inr (topicOf_eq_self ?_ ?_).symm
          · simpa [hplus] using hsingle
          · simpa [hrest] using hmulti
      rcases ih hlevels with hall | ⟨init, before, after, hfilter, htopic, hinit⟩
      · exact Or.inl (List.Forall₂.cons hmeets hall)
      · refine Or.inr ⟨level :: init, topicOf level :: before, after, ?_, ?_, hinit.cons hmeets⟩
        · rw [hfilter, List.cons_append]
        · rw [htopic, List.cons_append]

theorem isText_topicOf {filter : String} {maxBytes : Nat} (h : IsText filter maxBytes) :
    IsText (topicOf filter) maxBytes where
  nonblank := by
    rw [Bool.eq_false_iff]
    intro hblank
    have hspaces := trim_isEmpty_iff.mp hblank
    rw [topicOf, String.toList_ofList, List.forall_mem_map] at hspaces
    have hfilter : ∀ c ∈ filter.toList, isWhitespace c = true := fun c hc =>
      topicChar_induction (p := fun d => isWhitespace d = true → isWhitespace c = true)
        (fun h => absurd h (by decide)) (fun _ _ h => h) (hspaces c hc)
    have hnonblank := h.nonblank
    rw [trim_isEmpty_iff.mpr hfilter] at hnonblank
    cases hnonblank
  short := by
    have hsize : ∀ chars : List Char,
        (String.ofList (chars.map topicChar)).utf8ByteSize ≤
          (String.ofList chars).utf8ByteSize := by
      intro chars
      induction chars with
      | nil => exact Nat.le_refl _
      | cons c chars ih =>
        have hchar : (topicChar c).utf8Size ≤ c.utf8Size :=
          topicChar_induction (p := fun d => d.utf8Size ≤ c.utf8Size) c.utf8Size_pos
            fun _ _ => Nat.le_refl _
        rw [String.utf8ByteSize_ofList, String.utf8ByteSize_ofList] at ih ⊢
        rw [List.map_cons, String.utf8Len_cons, String.utf8Len_cons]
        exact Nat.add_le_add ih hchar
    have hshort := h.short
    rw [len] at hshort ⊢
    have hle := hsize filter.toList
    rw [String.ofList_toList] at hle
    exact Nat.le_trans hle hshort
  printable := by
    rw [topicOf, String.toList_ofList, List.forall_mem_map]
    exact fun c hc => topicChar_induction (p := fun d => isControl d = false) (by decide)
      fun _ _ => h.printable c hc

/-- For every filter that the domain accepts there is a topic that both checks of topic names accept
and whose levels match. -/
theorem exists_topic {filter : String} (h : TopicFilter.validate ⟨filter⟩ = .ok ()) :
    ∃ topic, validateTopicName topic = .ok () ∧ TopicName.new topic = .ok ⟨topic⟩ ∧
      LevelsMatch (split filter '/') (split topic '/') := by
  obtain ⟨htext, hlevels⟩ := check_eq_ok_iff.mp h
  have htopic := isText_topicOf (validateText_eq_ok_iff.mp htext)
  have hsingle : containsChar (topicOf filter) '+' = false := containsChar_topicOf (Or.inl rfl)
  have hmulti : containsChar (topicOf filter) '#' = false := containsChar_topicOf (Or.inr rfl)
  refine ⟨topicOf filter, ?_, ?_, ?_⟩
  · have hnonempty : (topicOf filter).isEmpty = false := by
      rw [Bool.eq_false_iff]
      intro hempty
      have hnonblank := htopic.nonblank
      rw [String.isEmpty_iff.mp hempty] at hnonblank
      exact absurd hnonblank (by decide)
    rw [validateTopicName, hnonempty, hsingle, hmulti]
    rfl
  · rw [TopicName.new, validateText_eq_ok_iff.mpr htopic, hsingle, hmulti]
    rfl
  · rw [split_topicOf]
    exact levelsMatch_map_topicOf hlevels

/-! ## Routes -/

/-- A filter begins with a wildcard. -/
def WildcardFirst (filter : String) : Prop :=
  startsWith filter "+" = true ∨ startsWith filter "#" = true

instance (filter : String) : Decidable (WildcardFirst filter) := inferInstanceAs (Decidable (_ ∨ _))

/-- The filter of a route matches a topic, level by level. -/
def RouteLevelsMatch (route : TopicRouteConfig) (topic : String) : Prop :=
  LevelsMatch (split route.topicFilter.raw '/') (split topic '/')

/-- A route is the first of a list whose levels match a topic. -/
def FirstLevelsMatch (routes : List TopicRouteConfig) (topic : String) (route : TopicRouteConfig) :
    Prop :=
  ∃ before after, routes = before ++ route :: after ∧ RouteLevelsMatch route topic ∧
    ∀ earlier ∈ before, ¬ RouteLevelsMatch earlier topic

theorem routeLevelsMatch_iff {route : TopicRouteConfig} (hvalid : route.validate = .ok ())
    (message : MqttMessage) :
    ((Pipeline.TopicFilterMatcher.ofText route.topicFilter.raw).matches message.topic).isSome ↔
      RouteLevelsMatch route message.topic := by
  obtain ⟨-, hrest⟩ := check_eq_ok_iff.mp hvalid
  have hparse : Pipeline.TopicFilterMatcher.parse route.topicFilter.raw =
      .ok (.ofText route.topicFilter.raw) :=
    Pipeline.TopicFilterMatcher.parse_eq_ok_iff.mpr ⟨(check_eq_ok_iff.mp hrest).2, rfl⟩
  exact matches_isSome_iff hparse message.topic_valid

/-- A message is routed to the first enabled route whose levels match its topic. -/
theorem exists_matchMessage_iff {projectId : ProjectId} {routes : List TopicRouteConfig}
    {matcher : Pipeline.ConfigRouteMatcher}
    (h : Pipeline.ConfigRouteMatcher.new projectId routes = .ok matcher) (message : MqttMessage)
    (route : TopicRouteConfig) :
    (∃ found, matcher.matchMessage message = some found ∧ found.route = route) ↔
      FirstLevelsMatch (routes.filter (·.enabled)) message.topic route := by
  obtain ⟨-, hvalid, -⟩ := Pipeline.ConfigRouteMatcher.new_eq_ok_iff.mp h
  have hmatch : ∀ r ∈ routes.filter (·.enabled),
      ((Pipeline.TopicFilterMatcher.ofText r.topicFilter.raw).matches message.topic).isSome ↔
        RouteLevelsMatch r message.topic := by
    intro r hr
    obtain ⟨hmem, henabled⟩ := List.mem_filter.mp hr
    exact routeLevelsMatch_iff (hvalid r hmem henabled) message
  constructor
  · rintro ⟨found, hfound, rfl⟩
    obtain ⟨-, before, after, hsplit, hparams, hbefore⟩ :=
      (Pipeline.ConfigRouteMatcher.matchMessage_eq_some_iff h).mp hfound
    rw [hsplit] at hmatch
    refine ⟨before, after, hsplit, ?_, fun earlier hearlier hlevels => ?_⟩
    · exact (hmatch _ (by simp)).mp (hparams ▸ rfl)
    · have hsome := (hmatch _ (List.mem_append_left _ hearlier)).mpr hlevels
      rw [hbefore earlier hearlier] at hsome
      cases hsome
  · rintro ⟨before, after, hsplit, hlevels, hbefore⟩
    rw [hsplit] at hmatch
    obtain ⟨params, hparams⟩ :=
      Option.isSome_iff_exists.mp ((hmatch route (by simp)).mpr hlevels)
    refine ⟨⟨projectId, route, params⟩, ?_, rfl⟩
    refine (Pipeline.ConfigRouteMatcher.matchMessage_eq_some_iff h).mpr
      ⟨rfl, before, after, hsplit, hparams, fun earlier hearlier => ?_⟩
    rw [← Option.not_isSome_iff_eq_none, hmatch _ (List.mem_append_left _ hearlier)]
    exact hbefore earlier hearlier

/-- A message, also one whose topic begins with `$`, is routed to the first enabled route whose
levels match its topic.  That route does not begin with a wildcard exactly when before every
matching route that does there stands a matching one that does not. -/
theorem dollar_topic_routed {projectId : ProjectId} {routes : List TopicRouteConfig}
    {matcher : Pipeline.ConfigRouteMatcher}
    (h : Pipeline.ConfigRouteMatcher.new projectId routes = .ok matcher) (message : MqttMessage) :
    (∀ route, (∃ found, matcher.matchMessage message = some found ∧ found.route = route) ↔
      FirstLevelsMatch (routes.filter (·.enabled)) message.topic route) ∧
    ((∀ found, matcher.matchMessage message = some found →
        ¬ WildcardFirst found.route.topicFilter.raw) ↔
      ∀ before route after, routes.filter (·.enabled) = before ++ route :: after →
        WildcardFirst route.topicFilter.raw → RouteLevelsMatch route message.topic →
          ∃ earlier ∈ before, ¬ WildcardFirst earlier.topicFilter.raw ∧
            RouteLevelsMatch earlier message.topic) := by
  have hrouted := exists_matchMessage_iff h message
  refine ⟨hrouted, Iff.trans ?_ first_not_iff⟩
  constructor
  · intro hnone route hfirst
    obtain ⟨found, hfound, rfl⟩ := (hrouted route).mpr hfirst
    exact hnone found hfound
  · intro hnone found hfound
    exact hnone found.route ((hrouted found.route).mp ⟨found, hfound, rfl⟩)

/-- A route for every topic before one for the topics of the broker. -/
def systemRoutes : List TopicRouteConfig :=
  (plantProject "s3cret" [] []).routes.flatMap fun route =>
    [{ route with id := ⟨"all"⟩, topicFilter := ⟨"#"⟩ },
      { route with id := ⟨"system"⟩, topicFilter := ⟨"$SYS/#"⟩ }]

/-- The matcher of these routes. -/
def systemMatcher : Pipeline.ConfigRouteMatcher where
  projectId := ⟨"plant"⟩
  routes := systemRoutes.map fun route => ⟨route, .ofText route.topicFilter.raw⟩

theorem systemMatcher_new :
    Pipeline.ConfigRouteMatcher.new ⟨"plant"⟩ systemRoutes = .ok systemMatcher :=
  Pipeline.ConfigRouteMatcher.new_eq_ok_iff.mpr ⟨by decide, by decide +kernel, rfl⟩

/-- A message of the broker about itself. -/
def uptimeMessage : MqttMessage where
  topic := "$SYS/broker/uptime"
  qos := .atMostOnce
  retain := false
  payload := []
  receivedAt := 0
  topic_valid := by decide

theorem dollar_topic_routed_system :
    (∀ route, (∃ found, systemMatcher.matchMessage uptimeMessage = some found ∧
        found.route = route) ↔
      FirstLevelsMatch (systemRoutes.filter (·.enabled)) uptimeMessage.topic route) ∧
    ((∀ found, systemMatcher.matchMessage uptimeMessage = some found →
        ¬ WildcardFirst found.route.topicFilter.raw) ↔
      ∀ before route after, systemRoutes.filter (·.enabled) = before ++ route :: after →
        WildcardFirst route.topicFilter.raw → RouteLevelsMatch route uptimeMessage.topic →
          ∃ earlier ∈ before, ¬ WildcardFirst earlier.topicFilter.raw ∧
            RouteLevelsMatch earlier uptimeMessage.topic) :=
  dollar_topic_routed systemMatcher_new uptimeMessage

/-- The route for every topic gets the message, and not the later one for the topics of the
broker. -/
theorem system_message_misses_its_route :
    startsWith uptimeMessage.topic "$" = true ∧
      (systemMatcher.matchMessage uptimeMessage).map (fun found => found.route.topicFilter) =
        some ⟨"#"⟩ ∧
      WildcardFirst "#" := by
  decide +kernel

end Core
end PipeBolt
