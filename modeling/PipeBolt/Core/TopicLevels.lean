import PipeBolt.Core.TemplateText

/-!
# The topic of a command

A topic template is cut at its slashes into levels, which are rendered one by one: the value of a
parameter stays inside the level of its placeholder, whatever it is.

* `topicParam_eq_ok_iff`: the values that a topic takes.
* `split_fill`: a filled text is cut where its template is cut.
* `renderDraft_topicLevels`: the levels of the topic of a rendered command.
-/

namespace PipeBolt
namespace Core

open Domain Rust Fallible Pipeline Separated

/-! ## The values of a topic -/

/-- A text that fits in a level of a topic. -/
structure LevelText (value : String) : Prop where
  nonempty : value ≠ ""
  noSlash : '/' ∉ value.toList
  noPlus : '+' ∉ value.toList
  noHash : '#' ∉ value.toList
  printable : ∀ c ∈ value.toList, isControl c = false

section Topic

variable {json : SerdeJson} {template : CommandTemplate} {params : ValueMap}

/-- A topic takes the scalars whose texts fit in a level. -/
theorem topicParam_eq_ok_iff {key value : String} :
    topicParam json template key params = .ok value ↔
      paramText json params key = some value ∧ LevelText value := by
  rw [topicParam, bind_eq_ok_iff]
  constructor
  · rintro ⟨text, htext, h⟩
    obtain ⟨hempty, h⟩ := guard_eq_ok_iff.mp h
    obtain ⟨hlevel, h⟩ := guard_eq_ok_iff.mp h
    obtain ⟨hcontrol, h⟩ := guard_eq_ok_iff.mp h
    obtain rfl := Except.ok.inj h
    simp only [containsChar, Bool.or_eq_true, List.contains_iff_mem, not_or] at hlevel
    rw [Bool.or_eq_true, not_or, List.any_eq_true] at hcontrol
    refine ⟨scalarParam_eq_ok_iff.mp htext, mt String.isEmpty_iff.mpr hempty, hlevel.1.1,
      hlevel.1.2, hlevel.2, fun c hc => ?_⟩
    exact Bool.eq_false_iff.mpr fun hctl => hcontrol.2 ⟨c, hc, hctl⟩
  · rintro ⟨htext, hvalue⟩
    refine ⟨value, scalarParam_eq_ok_iff.mpr htext, ?_⟩
    have hlevel : ¬ (containsChar value '/' || containsChar value '+' || containsChar value '#') =
        true := by
      simp only [containsChar, Bool.or_eq_true, List.contains_iff_mem, not_or]
      exact ⟨⟨hvalue.noSlash, hvalue.noPlus⟩, hvalue.noHash⟩
    have hcontrol : ¬ (containsChar value (Char.ofNat 0) || value.toList.any isControl) = true := by
      rw [Bool.or_eq_true, not_or, containsChar, List.contains_iff_mem, List.any_eq_true]
      constructor
      · intro hnull
        exact absurd (hvalue.printable _ hnull) (by decide)
      · rintro ⟨c, hc, hctl⟩
        rw [hvalue.printable c hc] at hctl
        cases hctl
    refine guard_eq_ok_iff.mpr ⟨mt String.isEmpty_iff.mp hvalue.nonempty, ?_⟩
    exact guard_eq_ok_iff.mpr ⟨hlevel, guard_eq_ok_iff.mpr ⟨hcontrol, rfl⟩⟩

/-! ## Levels -/

/-- The levels of a topic template. -/
def TemplateText.levels (text : TemplateText) : List (List Token) :=
  text.tokens.splitOn (.char '/')

/-- A level with a text in place of every placeholder. -/
def fillLevel (value : String → String) (level : List Token) : String :=
  .ofList (level.flatMap (Token.fill value))

/-- The text of a level of the template. -/
def literalLevel (level : List Token) : String := .ofList (level.flatMap Token.chars)

/-- A filled text is cut where its template is cut, if no value has a slash. -/
theorem split_fill {text : TemplateText} {value : String → String}
    (h : ∀ key ∈ text.keys, '/' ∉ (value key).toList) :
    split (text.fill value) '/' = text.levels.map (fillLevel value) := by
  have hother : ∀ token ∈ text.tokens, token ≠ .char '/' → '/' ∉ token.fill value := by
    intro token htoken hne
    cases token with
    | char c =>
      rw [Token.fill, List.mem_singleton]
      rintro rfl
      exact hne rfl
    | placeholder key => exact h key (TemplateText.mem_keys.mpr htoken)
  have hcut : (text.tokens.flatMap (Token.fill value)).splitOn '/' =
      text.levels.map fun level => level.flatMap (Token.fill value) :=
    splitOn_flatMap rfl hother
  rw [split, TemplateText.fill, String.toList_ofList, hcut, List.map_map]
  rfl

/-- A level without placeholders is its own text. -/
theorem fillLevel_fixed {value : String → String} {level : List Token}
    (h : ∀ key, Token.placeholder key ∉ level) :
    fillLevel value level = literalLevel level := by
  rw [fillLevel, literalLevel]
  congr 1
  refine List.flatMap_congr fun token htoken => ?_
  cases token with
  | char c => rfl
  | placeholder key => exact absurd htoken (h key)

/-! ## The topic of a rendered command -/

/-- How the topic of a command comes from the levels of its template. -/
structure TopicLevels (json : SerdeJson) (params : ValueMap) (text : TemplateText)
    (topic : TopicName) : Prop where
  valid : TopicName.new topic.raw = .ok topic
  noWildcards : ∀ c ∈ topic.raw.toList, c ≠ '+' ∧ c ≠ '#'
  scalars : ∀ key ∈ text.keys, paramText json params key = some (insertedText json params key)
  values : ∀ key ∈ text.keys, LevelText (insertedText json params key)
  levels : split topic.raw '/' = text.levels.map (fillLevel (insertedText json params))
  count : (split topic.raw '/').length = text.levels.length
  fixed : ∀ (index : Nat) (level : List Token), text.levels[index]? = some level →
    (∀ key, Token.placeholder key ∉ level) →
      (split topic.raw '/')[index]? = some (literalLevel level)

/-- What a topic template is rendered to. -/
theorem TemplateText.topic_render_eq_ok {text : TemplateText} {surface : TemplateSurface}
    {result : String}
    (h : renderTextTemplate template surface text.string params (topicParam json template) =
      .ok result) :
    (∀ key ∈ text.keys, paramText json params key = some (insertedText json params key) ∧
      LevelText (insertedText json params key)) ∧ result = text.inserted json params := by
  obtain ⟨value, hkeys, rfl⟩ := text.render_eq_ok_iff.mp h
  have hvalue : ∀ key ∈ text.keys, insertedText json params key = value key := by
    intro key hkey
    rw [insertedText, (topicParam_eq_ok_iff.mp (hkeys key hkey).1).1, Option.getD_some]
  refine ⟨fun key hkey => ?_, fill_congr fun key hkey => (hvalue key hkey).symm⟩
  rw [hvalue key hkey]
  exact topicParam_eq_ok_iff.mp (hkeys key hkey).1

theorem topicName_new_eq_ok {value : String} {topic : TopicName}
    (h : TopicName.new value = .ok topic) :
    topic.raw = value ∧ ∀ c ∈ topic.raw.toList, c ≠ '+' ∧ c ≠ '#' := by
  obtain ⟨-, h⟩ := check_eq_ok_iff.mp h
  obtain ⟨hwild, h⟩ := guard_eq_ok_iff.mp h
  obtain rfl := Except.ok.inj h
  simp only [containsChar, Bool.or_eq_true, List.contains_iff_mem, not_or] at hwild
  refine ⟨rfl, fun c hc => ⟨?_, ?_⟩⟩
  · rintro rfl
    exact hwild.1 hc
  · rintro rfl
    exact hwild.2 hc

end Topic

/-- Parameters do not leave their level: one reading of the topic template gives the levels of the
topic for all parameters with which the command is rendered. -/
theorem renderDraft_topicLevels (json : SerdeJson) (template : CommandTemplate) :
    ∃ text : TemplateText, ∀ (renderer : CommandTemplateRenderer) params draft,
      renderer.renderDraft json template params = .ok draft →
        text.string = template.topicTemplate ∧ TopicLevels json params text draft.topic := by
  by_cases hrendered : ∃ params result, renderTopicTemplate json template params = .ok result
  · obtain ⟨params₀, result₀, h₀⟩ := hrendered
    obtain ⟨text, htext⟩ := exists_templateText h₀
    refine ⟨text, fun renderer params draft h => ⟨htext, ?_⟩⟩
    obtain ⟨topicText, hrender, h⟩ := bind_eq_ok_iff.mp h
    obtain ⟨topic, hnew, h⟩ := bind_eq_ok_iff.mp h
    obtain ⟨value, -, h⟩ := bind_eq_ok_iff.mp h
    obtain ⟨payload, -, h⟩ := bind_eq_ok_iff.mp h
    obtain ⟨-, h⟩ := guard_eq_ok_iff.mp h
    obtain rfl := Except.ok.inj h
    have hnew := mapError_eq_ok_iff.mp hnew
    obtain ⟨hraw, hwild⟩ := topicName_new_eq_ok hnew
    rw [renderTopicTemplate, ← htext] at hrender
    obtain ⟨hkeys, rfl⟩ := TemplateText.topic_render_eq_ok hrender
    have hlevels : split topic.raw '/' =
        text.levels.map (fillLevel (insertedText json params)) := by
      rw [hraw]
      exact split_fill fun key hkey => (hkeys key hkey).2.noSlash
    refine ⟨?_, hwild, fun key hkey => (hkeys key hkey).1, fun key hkey => (hkeys key hkey).2,
      hlevels, ?_, ?_⟩
    · rw [hraw]
      exact hnew
    · rw [hlevels, List.length_map]
    · intro index level hlevel hfixed
      rw [hlevels, List.getElem?_map, hlevel, Option.map_some, fillLevel_fixed hfixed]
  · refine ⟨⟨[], fun _ h => absurd h List.not_mem_nil⟩, fun renderer params draft h => ?_⟩
    obtain ⟨topicText, hrender, -⟩ := bind_eq_ok_iff.mp h
    exact absurd ⟨params, topicText, hrender⟩ hrendered

end Core
end PipeBolt
