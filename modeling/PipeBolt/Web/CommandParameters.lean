import PipeBolt.Core.PayloadFrame
import PipeBolt.Core.TopicLevels
import PipeBolt.Js.Value

/-!
# The parameters of a command template

`commands.template.ts` of the web application: the names that the form of a command asks for, and
what the renderer of the backend does with a value for each of them.

A template reaches the browser from the backend, so its texts are sequences of Unicode scalar
values.  A brace is one code unit, and the texts are cut at braces only.

* `Placeholders`: a text whose literals are free of braces, and the keys of its placeholders.
* `collectFromString_eq_ok`, `collectFromPayload_eq_ok`: what the scan accepts, and what it finds.
* `renderTextTemplate_isOk`, `renderTextTemplate_eq_error`: what the renderer does with such a
  text.
* `extractCommandParameters_agrees`: the form asks for exactly the parameters that are read.
-/

namespace PipeBolt
namespace Web

open Domain Rust PipeBolt.Core Fallible Pipeline Separated

/-! ## The scan -/

/-- `MAX_PARAMETER_COUNT`. -/
def MAX_PARAMETER_COUNT : Nat := 128

/-- `MAX_PARAMETER_NAME_BYTES`. -/
def MAX_PARAMETER_NAME_BYTES : Nat := 256

/-- `MAX_PAYLOAD_NODES`. -/
def MAX_PAYLOAD_NODES : Nat := 10000

/-- `'payload' | 'topic'`. -/
inductive ParameterLocation where
  | payload
  | topic
  deriving DecidableEq, Repr

/-- The location in a message. -/
def ParameterLocation.text : ParameterLocation → String
  | .payload => "payload"
  | .topic => "topic"

/-- `CommandParameterDefinition`. -/
structure CommandParameterDefinition where
  name : String
  payload : Bool
  topic : Bool
  deriving DecidableEq, Repr

/-- `existing[location] = true`. -/
def CommandParameterDefinition.mark (parameter : CommandParameterDefinition) :
    ParameterLocation → CommandParameterDefinition
  | .payload => { parameter with payload := true }
  | .topic => { parameter with topic := true }

/-- `Map<string, CommandParameterDefinition>`: the values in insertion order, each under its
name. -/
abbrev ParameterMap := List CommandParameterDefinition

/-- The keys of the map. -/
def ParameterMap.names (parameters : ParameterMap) : List String := parameters.map (·.name)

/-- `addParameter`: its message, or the map after it. -/
def addParameter (name : String) (location : ParameterLocation) (parameters : ParameterMap) :
    Except String ParameterMap :=
  if (trim name).isEmpty then
    .error s!"Template contains an empty {location.text} placeholder."
  else if MAX_PARAMETER_NAME_BYTES < len name then
    .error s!"Placeholder name exceeds {MAX_PARAMETER_NAME_BYTES} UTF-8 bytes."
  else if parameters.names.contains name then
    .ok (parameters.map fun parameter =>
      if parameter.name = name then parameter.mark location else parameter)
  else if MAX_PARAMETER_COUNT ≤ parameters.length then
    .error s!"Template exceeds the UI limit of {MAX_PARAMETER_COUNT} parameters."
  else
    .ok (parameters ++ [
      { name, payload := location = .payload, topic := location = .topic }])

/-- The loop of `collectFromString`, over the characters of the text that is left. -/
def collectFromChars (location : ParameterLocation) (rest : List Char)
    (parameters : ParameterMap) : Except String ParameterMap :=
  match _ : rest.dropWhile (· != '\x7b') with
  | [] =>
    if rest.contains '\x7d' then
      .error s!"Template contains an unopened {location.text} placeholder."
    else .ok parameters
  | _ :: afterStart =>
    if (rest.takeWhile (· != '\x7b')).contains '\x7d' then
      .error s!"Template contains an unopened {location.text} placeholder."
    else
      match _ : afterStart.dropWhile (· != '\x7d') with
      | [] => .error s!"Template contains an unclosed {location.text} placeholder."
      | _ :: rest' => do
        let name : String := .ofList (afterStart.takeWhile (· != '\x7d'))
        let parameters ← addParameter name location parameters
        collectFromChars location rest' parameters
termination_by rest.length
decreasing_by
  next hstart _ _ hend =>
    have hafter := congrArg List.length hstart
    have hrest := congrArg List.length hend
    have hdrop := (List.dropWhile_suffix (l := rest) (· != '\x7b')).length_le
    have hdrop' := (List.dropWhile_suffix (l := afterStart) (· != '\x7d')).length_le
    simp only [List.length_cons] at hafter hrest
    omega

/-- `collectFromString`. -/
def collectFromString (text : String) (location : ParameterLocation) (parameters : ParameterMap) :
    Except String ParameterMap :=
  collectFromChars location text.toList parameters

/-- `collectFromPayloadString`. -/
def collectFromPayloadString (text : String) (parameters : ParameterMap) :
    Except String ParameterMap :=
  if startsWith text "\x7b" && endsWith text "\x7d" then
    addParameter (.ofList text.toList.tail.dropLast) .payload parameters
  else collectFromString text .payload parameters

/-- The array index that a property key is, if it is one. -/
def arrayIndex (key : String) : Option Nat := Js.arrayIndex (Js.ofString key)

/-- `Object.values`: the array indices come first and in ascending order, then the other keys in
the order in which they were set. -/
def objectValues (entries : List (String × Value)) : List Value :=
  let indexed := entries.filter fun entry => (arrayIndex entry.1).isSome
  let named := entries.filter fun entry => !(arrayIndex entry.1).isSome
  (indexed.mergeSort fun a b => (arrayIndex a.1).getD 0 ≤ (arrayIndex b.1).getD 0).map Prod.snd ++
    named.map Prod.snd

/-- The message of a payload with too many nodes. -/
def payloadNodesMessage : String :=
  s!"Payload template exceeds the UI traversal limit of {MAX_PAYLOAD_NODES} nodes."

/-- The loop of `extractCommandParameters` over the stack, whose top is its first element. -/
def collectFromPayload (stack : List Value) (visitedNodes : Nat) (parameters : ParameterMap) :
    Except String ParameterMap :=
  match stack with
  | [] => .ok parameters
  | value :: stack =>
    if MAX_PAYLOAD_NODES < visitedNodes + 1 then .error payloadNodesMessage
    else
      match value with
      | .string text => do
        let parameters ← collectFromPayloadString text parameters
        collectFromPayload stack (visitedNodes + 1) parameters
      | .array values =>
        if MAX_PAYLOAD_NODES < visitedNodes + 1 + stack.length + values.length then
          .error payloadNodesMessage
        else collectFromPayload (values.reverse ++ stack) (visitedNodes + 1) parameters
      | .object entries =>
        let values := objectValues entries
        if MAX_PAYLOAD_NODES < visitedNodes + 1 + stack.length + values.length then
          .error payloadNodesMessage
        else collectFromPayload (values.reverse ++ stack) (visitedNodes + 1) parameters
      | .null | .bool _ | .number _ => collectFromPayload stack (visitedNodes + 1) parameters
termination_by MAX_PAYLOAD_NODES - visitedNodes

/-- `extractCommandParameters`: its `error`, or its `parameters`. -/
def extractCommandParameters (template : CommandTemplate) :
    Except String (List CommandParameterDefinition) := do
  let parameters ← collectFromString template.topicTemplate .topic []
  collectFromPayload [template.payloadTemplate] 0 parameters

/-! ## Placeholders -/

/-- A text whose literals are free of braces, with the keys of its placeholders. -/
inductive Placeholders : List Char → List String → Prop
  | plain {text : List Char} (hopen : '\x7b' ∉ text) (hclose : '\x7d' ∉ text) :
    Placeholders text []
  | placeholder {before key rest : List Char} {keys : List String}
    (hopen : '\x7b' ∉ before) (hclose : '\x7d' ∉ before) (hkey : '\x7d' ∉ key)
    (hnamed : (trim (.ofList key)).isEmpty = false) (hrest : Placeholders rest keys) :
    Placeholders (before ++ '\x7b' :: (key ++ '\x7d' :: rest)) (.ofList key :: keys)

/-- The keys of a text of the payload: a text between braces is a key as a whole. -/
def PayloadKeys (text : String) (keys : List String) : Prop :=
  match exactPlaceholderKey text with
  | some key => keys = [key] ∧ (trim key).isEmpty = false
  | none => Placeholders text.toList keys

/-- A key is read in a text of the payload. -/
def ReadBy (name text : String) : Prop :=
  ∃ keys, PayloadKeys text keys ∧ name ∈ keys

/-- A parameter is added under a name that is not blank. -/
theorem addParameter_eq_ok {name : String} {location : ParameterLocation}
    {parameters parameters' : ParameterMap}
    (h : addParameter name location parameters = .ok parameters') :
    (trim name).isEmpty = false ∧
      ∀ n, n ∈ parameters'.names ↔ n = name ∨ n ∈ parameters.names := by
  obtain ⟨hnamed, h⟩ := guard_eq_ok_iff.mp h
  obtain ⟨-, h⟩ := guard_eq_ok_iff.mp h
  refine ⟨Bool.eq_false_iff.mpr hnamed, fun n => ?_⟩
  by_cases hknown : parameters.names.contains name = true
  · rw [if_pos hknown] at h
    have hnames : parameters'.names = parameters.names := by
      rw [← Except.ok.inj h, ParameterMap.names, ParameterMap.names, List.map_map]
      refine List.map_congr_left fun parameter _ => ?_
      show (if parameter.name = name then parameter.mark location else parameter).name = _
      split
      · cases location <;> rfl
      · rfl
    rw [hnames]
    have hmem := List.contains_iff_mem.mp hknown
    constructor
    · exact Or.inr
    · rintro (rfl | hn)
      · exact hmem
      · exact hn
  · rw [if_neg hknown] at h
    obtain ⟨-, h⟩ := guard_eq_ok_iff.mp h
    rw [← Except.ok.inj h, ParameterMap.names, List.map_append, List.mem_append]
    show n ∈ parameters.names ∨ n ∈ [name] ↔ _
    rw [List.mem_singleton]
    exact or_comm

/-- The scan of a text without an opening brace. -/
theorem collectFromChars_plain {location : ParameterLocation} {rest : List Char}
    {parameters : ParameterMap} (hopen : rest.dropWhile (· != '\x7b') = []) :
    collectFromChars location rest parameters =
      if rest.contains '\x7d' then
        .error s!"Template contains an unopened {location.text} placeholder."
      else .ok parameters := by
  rw [collectFromChars]
  split
  · rfl
  · next heq =>
    rw [hopen] at heq
    cases heq

/-- The scan of a text up to its first placeholder. -/
theorem collectFromChars_placeholder {location : ParameterLocation} {rest after : List Char}
    {c : Char} {parameters : ParameterMap} (hopen : rest.dropWhile (· != '\x7b') = c :: after) :
    collectFromChars location rest parameters =
      if (rest.takeWhile (· != '\x7b')).contains '\x7d' then
        .error s!"Template contains an unopened {location.text} placeholder."
      else
        match after.dropWhile (· != '\x7d') with
        | [] => .error s!"Template contains an unclosed {location.text} placeholder."
        | _ :: rest' =>
          addParameter (.ofList (after.takeWhile (· != '\x7d'))) location parameters >>=
            collectFromChars location rest' := by
  rw [collectFromChars]
  split
  · next heq =>
    rw [hopen] at heq
    cases heq
  · next heq =>
    rw [hopen] at heq
    rw [← (List.cons.inj heq).2]
    congr 1
    split
    · next hclose => rw [hclose]
    · next hclose => rw [hclose]

/-- What the scan of a text accepts, and the names it adds. -/
theorem collectFromChars_eq_ok {location : ParameterLocation} {rest : List Char}
    {parameters parameters' : ParameterMap}
    (h : collectFromChars location rest parameters = .ok parameters') :
    ∃ keys, Placeholders rest keys ∧
      ∀ n, n ∈ parameters'.names ↔ n ∈ keys ∨ n ∈ parameters.names := by
  induction rest, parameters using collectFromChars.induct with
  | case1 rest parameters hopen hclose =>
    rw [collectFromChars_plain hopen, if_pos hclose] at h
    cases h
  | case2 rest parameters hopen hclose =>
    rw [collectFromChars_plain hopen, if_neg hclose] at h
    rw [← Except.ok.inj h]
    rw [List.contains_iff_mem] at hclose
    exact ⟨[], .plain (notMem_of_dropWhile_eq_nil hopen) hclose, fun n => by simp⟩
  | case3 rest parameters c after hopen hbefore =>
    rw [collectFromChars_placeholder hopen, if_pos hbefore] at h
    cases h
  | case4 rest parameters c after hopen hbefore hclose =>
    rw [collectFromChars_placeholder hopen, if_neg hbefore, hclose] at h
    cases h
  | case5 rest parameters c after hopen hbefore d rest' hclose ih =>
    rw [collectFromChars_placeholder hopen, if_neg hbefore, hclose] at h
    obtain ⟨parameters₁, hadd, h⟩ := bind_eq_ok_iff.mp h
    obtain ⟨hnamed, hnames⟩ := addParameter_eq_ok hadd
    obtain ⟨keys, hkeys, hnames'⟩ := ih parameters₁ h
    rw [List.contains_iff_mem] at hbefore
    have hread := Placeholders.placeholder (notMem_takeWhile rest _) hbefore
      (notMem_takeWhile after _) hnamed hkeys
    rw [← eq_takeWhile_append hclose, ← eq_takeWhile_append hopen] at hread
    refine ⟨_, hread, fun n => ?_⟩
    rw [hnames' n, hnames n, List.mem_cons]
    exact or_left_comm.trans or_assoc.symm

/-- The web application and the backend agree on the texts that are a placeholder as a whole. -/
theorem exactPlaceholderKey_eq (text : String) :
    exactPlaceholderKey text =
      if startsWith text "\x7b" && endsWith text "\x7d" then some (.ofList text.toList.tail.dropLast)
      else none := by
  have hends : endsWith text "\x7d" = decide (text.toList.getLast? = some '\x7d') := by
    rw [endsWith, Bool.eq_iff_iff, List.isSuffixOf_iff_suffix, decide_eq_true_eq]
    exact List.singleton_suffix_iff_getLast?_eq_some
  rw [exactPlaceholderKey, hends, startsWith]
  split
  · next rest heq =>
    rw [heq]
    cases rest with
    | nil => rfl
    | cons c rest =>
      rw [List.getLast?_cons_cons]
      simp
  · next hne =>
    rw [if_neg]
    intro h
    obtain ⟨hstart, -⟩ := Bool.and_eq_true_iff.mp h
    obtain ⟨rest, hrest⟩ := List.isPrefixOf_iff_prefix.mp hstart
    exact hne rest hrest.symm

/-- What the scan of a text of the payload accepts, and the names it adds. -/
theorem collectFromPayloadString_eq_ok {text : String} {parameters parameters' : ParameterMap}
    (h : collectFromPayloadString text parameters = .ok parameters') :
    ∃ keys, PayloadKeys text keys ∧
      ∀ n, n ∈ parameters'.names ↔ n ∈ keys ∨ n ∈ parameters.names := by
  rw [collectFromPayloadString] at h
  by_cases hexact : (startsWith text "\x7b" && endsWith text "\x7d") = true
  · have hkey := exactPlaceholderKey_eq text
    rw [if_pos hexact] at h hkey
    obtain ⟨hnamed, hnames⟩ := addParameter_eq_ok h
    refine ⟨[.ofList text.toList.tail.dropLast], ?_, fun n => ?_⟩
    · rw [PayloadKeys, hkey]
      exact ⟨rfl, hnamed⟩
    · rw [hnames n, List.mem_singleton]
  · have hkey := exactPlaceholderKey_eq text
    rw [if_neg hexact] at h hkey
    obtain ⟨keys, hkeys, hnames⟩ := collectFromChars_eq_ok h
    refine ⟨keys, ?_, hnames⟩
    rw [PayloadKeys, hkey]
    exact hkeys

/-! ## The payload -/

theorem mem_payloadArrayTexts {text : String} {values : List Value} :
    text ∈ payloadArrayTexts values ↔ ∃ value ∈ values, text ∈ payloadTexts value := by
  induction values with
  | nil => simp [payloadArrayTexts]
  | cons value values ih => simp [payloadArrayTexts, ih]

theorem mem_payloadObjectTexts {text : String} {entries : List (String × Value)} :
    text ∈ payloadObjectTexts entries ↔
      ∃ value ∈ entries.map Prod.snd, text ∈ payloadTexts value := by
  induction entries with
  | nil => simp [payloadObjectTexts]
  | cons entry entries ih => simp [payloadObjectTexts, ih]

/-- The order of its keys does not change what an object holds. -/
theorem mem_objectValues {entries : List (String × Value)} {value : Value} :
    value ∈ objectValues entries ↔ value ∈ entries.map Prod.snd := by
  have hsort := List.mergeSort_perm
    (entries.filter fun entry => (arrayIndex entry.1).isSome)
    fun a b => (arrayIndex a.1).getD 0 ≤ (arrayIndex b.1).getD 0
  have hfilter := List.filter_append_perm (fun entry : String × Value =>
    (arrayIndex entry.1).isSome) entries
  have hperm := (((hsort.append_right _).trans hfilter).map Prod.snd).mem_iff (a := value)
  rw [List.map_append] at hperm
  exact hperm

/-- What a scan of texts finds, from one list of names to the next. -/
structure Collected (texts names names' : List String) : Prop where
  keys : ∀ text ∈ texts, ∃ keys, PayloadKeys text keys ∧ keys ⊆ names'
  mono : names ⊆ names'
  read : ∀ n ∈ names', n ∈ names ∨
    ∃ text ∈ texts, ∃ keys, PayloadKeys text keys ∧ keys ⊆ names' ∧ n ∈ keys

theorem Collected.nil (names : List String) : Collected [] names names where
  keys := fun _ h => (nomatch h)
  mono := List.Subset.refl names
  read := fun _ h => Or.inl h

theorem Collected.trans {texts texts' names₁ names₂ names₃ : List String}
    (h : Collected texts names₁ names₂) (h' : Collected texts' names₂ names₃) :
    Collected (texts ++ texts') names₁ names₃ where
  keys := by
    intro text htext
    rcases List.mem_append.mp htext with htext | htext
    · obtain ⟨keys, hkeys, hsub⟩ := h.keys text htext
      exact ⟨keys, hkeys, List.Subset.trans hsub h'.mono⟩
    · exact h'.keys text htext
  mono := List.Subset.trans h.mono h'.mono
  read := by
    intro n hn
    rcases h'.read n hn with hn | ⟨text, htext, hread⟩
    · rcases h.read n hn with hn | ⟨text, htext, keys, hkeys, hsub, hmem⟩
      · exact Or.inl hn
      · exact Or.inr ⟨text, List.mem_append_left _ htext, keys, hkeys, List.Subset.trans hsub h'.mono, hmem⟩
    · exact Or.inr ⟨text, List.mem_append_right _ htext, hread⟩

theorem Collected.congr {texts texts' names names' : List String}
    (h : Collected texts names names') (hmem : ∀ text, text ∈ texts ↔ text ∈ texts') :
    Collected texts' names names' where
  keys := fun text htext => h.keys text ((hmem text).mpr htext)
  mono := h.mono
  read := by
    intro n hn
    rcases h.read n hn with hn | ⟨text, htext, hread⟩
    · exact Or.inl hn
    · exact Or.inr ⟨text, (hmem text).mp htext, hread⟩

theorem Collected.ofString {text : String} {parameters parameters' : ParameterMap}
    (h : collectFromPayloadString text parameters = .ok parameters') :
    Collected [text] parameters.names parameters'.names := by
  obtain ⟨keys, hkeys, hnames⟩ := collectFromPayloadString_eq_ok h
  have hsub : keys ⊆ parameters'.names := fun n hn => (hnames n).mpr (Or.inl hn)
  constructor
  · rintro _ (_ | ⟨_, hnil⟩)
    · exact ⟨keys, hkeys, hsub⟩
    · cases hnil
  · exact fun n hn => (hnames n).mpr (Or.inr hn)
  · intro n hn
    rcases (hnames n).mp hn with hn | hn
    · exact Or.inr ⟨text, List.mem_singleton_self text, keys, hkeys, hsub, hn⟩
    · exact Or.inl hn

theorem mem_payloadArrayTexts_push {text : String} {values stack : List Value} :
    text ∈ payloadArrayTexts (values.reverse ++ stack) ↔
      (∃ value ∈ values, text ∈ payloadTexts value) ∨ text ∈ payloadArrayTexts stack := by
  simp only [mem_payloadArrayTexts, List.mem_append, List.mem_reverse, or_and_right, exists_or]

/-- What the traversal of a stack accepts, and the names it adds. -/
theorem collectFromPayload_eq_ok {stack : List Value} {visitedNodes : Nat}
    {parameters parameters' : ParameterMap}
    (h : collectFromPayload stack visitedNodes parameters = .ok parameters') :
    Collected (payloadArrayTexts stack) parameters.names parameters'.names := by
  -- The nodes that may still be visited bound the traversal.
  induction hleft : MAX_PAYLOAD_NODES - visitedNodes
    generalizing stack visitedNodes parameters with
  | zero =>
    cases stack with
    | nil =>
      simp only [collectFromPayload] at h
      rw [← Except.ok.inj h]
      exact .nil _
    | cons value stack =>
      rw [collectFromPayload.eq_def] at h
      dsimp only at h
      rw [if_pos (by omega)] at h
      cases h
  | succ left ih =>
    cases stack with
    | nil =>
      simp only [collectFromPayload] at h
      rw [← Except.ok.inj h]
      exact .nil _
    | cons value stack =>
      rw [collectFromPayload.eq_def] at h
      dsimp only at h
      rw [if_neg (by omega)] at h
      have hnext : MAX_PAYLOAD_NODES - (visitedNodes + 1) = left := by omega
      cases value with
      | string text =>
        obtain ⟨parameters₁, htext, h⟩ := bind_eq_ok_iff.mp h
        exact (Collected.ofString htext).trans (ih h hnext)
      | array values =>
        obtain ⟨-, h⟩ := guard_eq_ok_iff.mp h
        refine (ih h hnext).congr fun text => ?_
        rw [mem_payloadArrayTexts_push, ← mem_payloadArrayTexts, payloadArrayTexts, payloadTexts,
          List.mem_append]
      | object entries =>
        obtain ⟨-, h⟩ := guard_eq_ok_iff.mp h
        refine (ih h hnext).congr fun text => ?_
        rw [mem_payloadArrayTexts_push, payloadArrayTexts, payloadTexts, List.mem_append,
          mem_payloadObjectTexts]
        simp only [mem_objectValues]
      | null => exact @ih stack (visitedNodes + 1) parameters h hnext
      | bool value => exact @ih stack (visitedNodes + 1) parameters h hnext
      | number value => exact @ih stack (visitedNodes + 1) parameters h hnext

/-! ## The rendering of a text -/

section Render

variable {template : CommandTemplate} {surface : TemplateSurface} {params : ValueMap}
  {renderParam : String → ValueMap → Except CommandRenderError String}

/-- A parameter is read, as a text without a closing brace. -/
def Readable (renderParam : String → ValueMap → Except CommandRenderError String)
    (params : ValueMap) (key : String) : Prop :=
  ∃ value, renderParam key params = .ok value ∧ '\x7d' ∉ value.toList

/-- The tokens of a text whose literals are free of braces. -/
theorem Placeholders.exists_templateText {text : List Char} {keys : List String}
    (h : Placeholders text keys) :
    ∃ source : TemplateText, source.string.toList = text ∧ source.keys = keys := by
  have hkeys : ∀ before : List Char, (before.map Token.char).filterMap Token.key? = [] := by
    intro before
    rw [List.filterMap_map]
    exact List.filterMap_eq_nil_iff.mpr fun _ _ => rfl
  induction h with
  | @plain text hopen hclose =>
    refine ⟨⟨text.map .char, wellFormed_literal hopen hclose⟩, ?_, hkeys text⟩
    rw [TemplateText.string, String.toList_ofList, flatMap_chars_literal]
  | @placeholder before key rest keys hopen hclose hkey hnamed _ ih =>
    obtain ⟨source, hrest, rfl⟩ := ih
    refine ⟨⟨_, wellFormed_piece hopen hclose hkey hnamed source.wellFormed⟩, ?_, ?_⟩
    · rw [TemplateText.string, String.toList_ofList] at hrest ⊢
      rw [flatMap_chars_piece, hrest]
    · rw [TemplateText.keys, List.filterMap_append, hkeys, List.nil_append, List.filterMap_cons]
      rfl

/-- A text whose keys can all be read is rendered. -/
theorem renderTextTemplate_isOk {text : String} {keys : List String}
    (h : Placeholders text.toList keys) (hkeys : ∀ key ∈ keys, Readable renderParam params key) :
    ∃ result, renderTextTemplate template surface text params renderParam = .ok result := by
  obtain ⟨source, hstring, rfl⟩ := h.exists_templateText
  obtain rfl := String.toList_inj.mp hstring
  choose! value hvalue using hkeys
  exact ⟨_, source.render_eq_ok_iff.mpr ⟨value, hvalue, rfl⟩⟩

/-- A text is rendered by the values of its keys. -/
theorem renderTextTemplate_congr {params' : ValueMap} {text : String} {keys : List String}
    (h : Placeholders text.toList keys)
    (hkeys : ∀ key ∈ keys, renderParam key params' = renderParam key params) :
    renderTextTemplate template surface text params' renderParam =
      renderTextTemplate template surface text params renderParam := by
  obtain ⟨source, hstring, rfl⟩ := h.exists_templateText
  obtain rfl := String.toList_inj.mp hstring
  exact source.render_congr hkeys

/-- A text with a key that cannot be read fails as the reading of that key does. -/
theorem renderTextTemplate_eq_error {text : String} {keys : List String}
    (h : Placeholders text.toList keys) {name : String} {error : CommandRenderError}
    (hname : name ∈ keys) (herror : renderParam name params = .error error)
    (hkeys : ∀ key ∈ keys, key ≠ name → Readable renderParam params key) :
    renderTextTemplate template surface text params renderParam = .error error := by
  obtain ⟨source, hstring, rfl⟩ := h.exists_templateText
  obtain rfl := String.toList_inj.mp hstring
  refine source.render_eq_error hname herror fun key hkey hne => ?_
  obtain ⟨value, hvalue, -⟩ := hkeys key hkey hne
  exact ⟨value, hvalue⟩

end Render

/-! ## The rendering of a payload -/

section Payload

variable {json : SerdeJson} {template : CommandTemplate} {params : ValueMap}

mutual

/-- A payload fails as one of its texts does. -/
theorem renderPayloadValue_eq_error {error : CommandRenderError} : ∀ value : Value,
    renderPayloadValue json template params value = .error error →
      ∃ text ∈ payloadTexts value, renderPayloadString json template text params = .error error
  | .string text, h => by
    rw [renderPayloadValue] at h
    exact ⟨text, List.mem_singleton_self text, h⟩
  | .array values, h => by
    rw [renderPayloadValue] at h
    exact renderPayloadArray_eq_error values (bind_pure_eq_error_iff.mp h)
  | .object entries, h => by
    rw [renderPayloadValue] at h
    exact renderPayloadObject_eq_error entries (bind_pure_eq_error_iff.mp h)
  | .null, h | .bool _, h | .number _, h => by
    rw [renderPayloadValue] at h
    cases h

theorem renderPayloadArray_eq_error {error : CommandRenderError} : ∀ values : List Value,
    renderPayloadArray json template params values = .error error →
      ∃ text ∈ payloadArrayTexts values,
        renderPayloadString json template text params = .error error
  | [], h => by
    rw [renderPayloadArray] at h
    cases h
  | value :: values, h => by
    rw [renderPayloadArray] at h
    rcases bind_eq_error_iff.mp h with h | ⟨_, -, h⟩
    · obtain ⟨text, htext, hfail⟩ := renderPayloadValue_eq_error value h
      exact ⟨text, List.mem_append_left _ htext, hfail⟩
    · obtain ⟨text, htext, hfail⟩ :=
        renderPayloadArray_eq_error values (bind_pure_eq_error_iff.mp h)
      exact ⟨text, List.mem_append_right _ htext, hfail⟩

theorem renderPayloadObject_eq_error {error : CommandRenderError} :
    ∀ entries : List (String × Value),
    renderPayloadObject json template params entries = .error error →
      ∃ text ∈ payloadObjectTexts entries,
        renderPayloadString json template text params = .error error
  | [], h => by
    rw [renderPayloadObject] at h
    cases h
  | (_, value) :: entries, h => by
    rw [renderPayloadObject] at h
    rcases bind_eq_error_iff.mp h with h | ⟨_, -, h⟩
    · obtain ⟨text, htext, hfail⟩ := renderPayloadValue_eq_error value h
      exact ⟨text, List.mem_append_left _ htext, hfail⟩
    · obtain ⟨text, htext, hfail⟩ :=
        renderPayloadObject_eq_error entries (bind_pure_eq_error_iff.mp h)
      exact ⟨text, List.mem_append_right _ htext, hfail⟩

end

/-! ## The parameters of a form -/

/-- A value that fits in a level of a topic and has no braces. -/
structure PlainValue (value : String) : Prop where
  nonempty : value ≠ ""
  noSlash : '/' ∉ value.toList
  noPlus : '+' ∉ value.toList
  noHash : '#' ∉ value.toList
  noOpen : '\x7b' ∉ value.toList
  noClose : '\x7d' ∉ value.toList
  printable : ∀ c ∈ value.toList, isControl c = false

/-- The parameter has a plain text for a value. -/
def Given (params : ValueMap) (name : String) : Prop :=
  ∃ value, BTreeMap.get params name = some (.string value) ∧ PlainValue value

/-- `MissingParameter` and the errors of the placeholders themselves. -/
def isPlaceholderError : CommandRenderError → Bool
  | .emptyPlaceholder _ _ | .unclosedPlaceholder _ _ | .unopenedPlaceholder _ _
  | .missingParameter _ _ => true
  | .nonScalarParameter _ _ | .invalidTopicSegment _ _ _ | .invalidTopic _ _
  | .invalidPayload _ _ | .payloadTooLarge _ _ _ => false

theorem Given.scalar {name : String} (h : Given params name) :
    Readable (scalarParam json template) params name := by
  obtain ⟨value, hget, hplain⟩ := h
  refine ⟨value, ?_, hplain.noClose⟩
  rw [scalarParam, hget]

theorem Given.topic {name : String} (h : Given params name) :
    Readable (topicParam json template) params name := by
  obtain ⟨value, hget, hplain⟩ := h
  refine ⟨value, topicParam_eq_ok_iff.mpr ⟨?_, ?_⟩, hplain.noClose⟩
  · rw [paramText, hget]
    rfl
  · exact ⟨hplain.nonempty, hplain.noSlash, hplain.noPlus, hplain.noHash, hplain.printable⟩

theorem scalarParam_eq_missing {name : String} (h : BTreeMap.get params name = none) :
    scalarParam json template name params = .error (.missingParameter template.id name) := by
  rw [scalarParam, h]

theorem topicParam_eq_missing {name : String} (h : BTreeMap.get params name = none) :
    topicParam json template name params = .error (.missingParameter template.id name) := by
  rw [topicParam, scalarParam_eq_missing h]
  rfl

/-- What the topic reads of a parameter is its value. -/
theorem topicParam_congr {params' : ValueMap} {name : String}
    (h : BTreeMap.get params' name = BTreeMap.get params name) :
    topicParam json template name params' = topicParam json template name params := by
  rw [topicParam, topicParam, scalarParam, scalarParam, h]

/-- A text of the payload whose keys are all given is rendered. -/
theorem renderPayloadString_isOk {text : String} {keys : List String} (h : PayloadKeys text keys)
    (hkeys : ∀ key ∈ keys, Given params key) :
    ∃ result, renderPayloadString json template text params = .ok result := by
  rw [PayloadKeys] at h
  rw [renderPayloadString]
  cases hexact : exactPlaceholderKey text with
  | some key =>
    rw [hexact] at h
    obtain ⟨rfl, hnamed⟩ := h
    obtain ⟨value, hget, -⟩ := hkeys key (List.mem_singleton_self key)
    dsimp only
    rw [validatePlaceholderKey, hnamed, hget]
    exact ⟨_, rfl⟩
  | none =>
    rw [hexact] at h
    obtain ⟨result, hresult⟩ : ∃ result, renderTextTemplate template .payload text params
        (scalarParam json template) = .ok result :=
      renderTextTemplate_isOk h fun key hkey => (hkeys key hkey).scalar
    dsimp only
    rw [hresult]
    exact ⟨_, rfl⟩

/-- A text of the payload with a key that is not given reports it missing. -/
theorem renderPayloadString_eq_missing {text : String} {keys : List String}
    (h : PayloadKeys text keys) {name : String} (hname : name ∈ keys)
    (hnone : BTreeMap.get params name = none)
    (hkeys : ∀ key ∈ keys, key ≠ name → Given params key) :
    renderPayloadString json template text params =
      .error (.missingParameter template.id name) := by
  rw [PayloadKeys] at h
  rw [renderPayloadString]
  cases hexact : exactPlaceholderKey text with
  | some key =>
    rw [hexact] at h
    obtain ⟨rfl, hnamed⟩ := h
    obtain rfl := List.mem_singleton.mp hname
    dsimp only
    rw [validatePlaceholderKey, hnamed, hnone]
    rfl
  | none =>
    rw [hexact] at h
    have hfail : renderTextTemplate template .payload text params (scalarParam json template) =
        .error (.missingParameter template.id name) :=
      renderTextTemplate_eq_error h hname (scalarParam_eq_missing hnone) fun key hkey hne =>
        (hkeys key hkey hne).scalar
    dsimp only
    rw [hfail]
    rfl

/-- What the names are of a template that the form accepts: the keys of its topic, and those of
the texts of its payload. -/
structure Extracted (template : CommandTemplate) (topicKeys names : List String) : Prop where
  topic : Placeholders template.topicTemplate.toList topicKeys
  topicNames : topicKeys ⊆ names
  payload : ∀ text ∈ payloadTexts template.payloadTemplate,
    ∃ keys, PayloadKeys text keys ∧ keys ⊆ names
  read : ∀ n ∈ names, n ∈ topicKeys ∨ ∃ text ∈ payloadTexts template.payloadTemplate,
    ∃ keys, PayloadKeys text keys ∧ keys ⊆ names ∧ n ∈ keys

theorem extractCommandParameters_eq_ok {parameters : List CommandParameterDefinition}
    (h : extractCommandParameters template = .ok parameters) :
    ∃ topicKeys, Extracted template topicKeys (ParameterMap.names parameters) := by
  obtain ⟨topicParameters, htopic, h⟩ := bind_eq_ok_iff.mp h
  obtain ⟨keys, hkeys, hnames⟩ := collectFromChars_eq_ok htopic
  have hpayload := (collectFromPayload_eq_ok h).congr fun text => by
    show text ∈ payloadTexts template.payloadTemplate ++ [] ↔ _
    rw [List.append_nil]
  refine ⟨keys, hkeys, ?_, hpayload.keys, ?_⟩
  · intro n hn
    exact hpayload.mono ((hnames n).mpr (Or.inl hn))
  · intro n hn
    rcases hpayload.read n hn with hn | hn
    · rcases (hnames n).mp hn with hn | hn
      · exact Or.inl hn
      · cases hn
    · exact Or.inr hn

/-- With a plain value for every name, the topic and the payload are rendered. -/
theorem Extracted.render_isOk (json : SerdeJson) {topicKeys names : List String}
    (h : Extracted template topicKeys names) (hparams : ∀ n ∈ names, Given params n) :
    (∃ topic, renderTopicTemplate json template params = .ok topic) ∧
      ∃ payload, renderPayloadValue json template params template.payloadTemplate = .ok payload := by
  constructor
  · exact renderTextTemplate_isOk h.topic fun key hkey => (hparams key (h.topicNames hkey)).topic
  · rw [renderPayloadValue_isOk_iff]
    intro text htext
    obtain ⟨keys, hkeys, hsub⟩ := h.payload text htext
    exact renderPayloadString_isOk hkeys fun key hkey => hparams key (hsub hkey)

/-- With a plain value for every name but one, the topic or the payload reports that one missing,
and the topic does unless it does not read it. -/
theorem Extracted.render_eq_missing (json : SerdeJson) {topicKeys names : List String}
    (h : Extracted template topicKeys names) {name : String} (hname : name ∈ names)
    (hparams : ∀ n ∈ names, n ≠ name → Given params n)
    (hnone : BTreeMap.get params name = none) :
    if name ∈ topicKeys then
      renderTopicTemplate json template params = .error (.missingParameter template.id name)
    else
      renderPayloadValue json template params template.payloadTemplate =
        .error (.missingParameter template.id name) := by
  split
  · next htopic =>
    exact renderTextTemplate_eq_error h.topic htopic (topicParam_eq_missing hnone)
      fun key hkey hne => (hparams key (h.topicNames hkey) hne).topic
  · next htopic =>
    -- Every text is rendered or reports the name, and one of them reads it.
    rcases h.read name hname with hread | ⟨text, htext, keys, hkeys, hsub, hmem⟩
    · exact absurd hread htopic
    have hfail : renderPayloadString json template text params =
        .error (.missingParameter template.id name) :=
      renderPayloadString_eq_missing hkeys hmem hnone fun key hkey => hparams key (hsub hkey)
    cases hresult : renderPayloadValue json template params template.payloadTemplate with
    | ok payload =>
      obtain ⟨result, hok⟩ := (renderPayloadValue_isOk_iff _).mp ⟨payload, hresult⟩ text htext
      rw [hfail] at hok
      cases hok
    | error error =>
      obtain ⟨text', htext', hfail'⟩ := renderPayloadValue_eq_error _ hresult
      obtain ⟨keys', hkeys', hsub'⟩ := h.payload text' htext'
      by_cases hmem' : name ∈ keys'
      · have hmissing : renderPayloadString json template text' params =
            .error (.missingParameter template.id name) :=
          renderPayloadString_eq_missing hkeys' hmem' hnone fun key hkey =>
            hparams key (hsub' hkey)
        rw [hmissing] at hfail'
        rw [Except.error.inj hfail']
      · have hgiven : ∀ key ∈ keys', Given params key := by
          intro key hkey
          refine hparams key (hsub' hkey) ?_
          rintro rfl
          exact hmem' hkey
        obtain ⟨result, hok⟩ : ∃ result, renderPayloadString json template text' params =
            .ok result := renderPayloadString_isOk hkeys' hgiven
        rw [hok] at hfail'
        cases hfail'

end Payload

/-! ## The renderer -/

section Renderer

variable {json : SerdeJson} {template : CommandTemplate} {renderer : CommandTemplateRenderer}
  {params : ValueMap}

/-- Once the topic and the payload are rendered, no placeholder is left to complain about. -/
theorem renderDraft_eq_error {topicText : String} {value : Value} {error : CommandRenderError}
    (htopic : renderTopicTemplate json template params = .ok topicText)
    (hvalue : renderPayloadValue json template params template.payloadTemplate = .ok value)
    (herror : renderer.renderDraft json template params = .error error) :
    isPlaceholderError error = false := by
  rw [CommandTemplateRenderer.renderDraft, htopic, hvalue] at herror
  rcases bind_eq_error_iff.mp herror with hnone | ⟨_, -, herror⟩
  · cases hnone
  rcases bind_eq_error_iff.mp herror with herror | ⟨topic, -, herror⟩
  · obtain ⟨_, -, rfl⟩ := mapError_eq_error_iff.mp herror
    rfl
  rcases bind_eq_error_iff.mp herror with hnone | ⟨_, -, herror⟩
  · cases hnone
  rcases bind_eq_error_iff.mp herror with herror | ⟨payload, -, herror⟩
  · obtain ⟨_, -, rfl⟩ := mapError_eq_error_iff.mp herror
    rfl
  by_cases hlarge : renderer.maxPayloadBytes < payload.length
  · rw [if_pos hlarge] at herror
    rw [← Except.error.inj herror]
    rfl
  · rw [if_neg hlarge] at herror
    cases herror

theorem renderDraft_of_topic {error : CommandRenderError}
    (h : renderTopicTemplate json template params = .error error) :
    renderer.renderDraft json template params = .error error := by
  rw [CommandTemplateRenderer.renderDraft, h]
  rfl

/-- Where the topic is rendered as for parameters that succeed, the payload decides. -/
theorem renderDraft_of_payload {params' : ValueMap} {draft : CommandRenderDraft}
    {error : CommandRenderError} (hdraft : renderer.renderDraft json template params = .ok draft)
    (htopic : renderTopicTemplate json template params' = renderTopicTemplate json template params)
    (h : renderPayloadValue json template params' template.payloadTemplate = .error error) :
    renderer.renderDraft json template params' = .error error := by
  obtain ⟨topicText, htext, hdraft⟩ := bind_eq_ok_iff.mp hdraft
  obtain ⟨topic, hname, -⟩ := bind_eq_ok_iff.mp hdraft
  rw [CommandTemplateRenderer.renderDraft, htopic, htext, h]
  refine bind_eq_error_iff.mpr (Or.inr ⟨topicText, rfl, ?_⟩)
  exact bind_eq_error_iff.mpr (Or.inr ⟨topic, hname, rfl⟩)

end Renderer

/-- The form of a command asks for exactly the parameters that the renderer reads: a plain value
for each of them leaves no placeholder open, and without one of them the command is not rendered. -/
theorem extractCommandParameters_agrees {template : CommandTemplate}
    {parameters : List CommandParameterDefinition}
    (h : extractCommandParameters template = .ok parameters) (json : SerdeJson)
    (renderer : CommandTemplateRenderer) {params : ValueMap}
    (hparams : ∀ parameter ∈ parameters, Given params parameter.name) :
    (∀ error, renderer.renderDraft json template params = .error error →
      isPlaceholderError error = false) ∧
    ∀ draft, renderer.renderDraft json template params = .ok draft →
      ∀ parameter ∈ parameters,
        renderer.renderDraft json template (BTreeMap.remove params parameter.name) =
          .error (.missingParameter template.id parameter.name) := by
  obtain ⟨topicKeys, hextracted⟩ := extractCommandParameters_eq_ok h
  have hnames : ∀ n ∈ ParameterMap.names parameters, Given params n :=
    List.forall_mem_map.mpr hparams
  constructor
  · intro error herror
    obtain ⟨⟨topicText, htopic⟩, value, hvalue⟩ := hextracted.render_isOk json hnames
    exact renderDraft_eq_error htopic hvalue herror
  · intro draft hdraft parameter hparameter
    have hothers : ∀ n ∈ ParameterMap.names parameters, n ≠ parameter.name →
        Given (BTreeMap.remove params parameter.name) n := by
      intro n hn hne
      obtain ⟨value, hget, hplain⟩ := hnames n hn
      exact ⟨value, (BTreeMap.get_remove_of_ne params hne).trans hget, hplain⟩
    have hmissing := hextracted.render_eq_missing json (List.mem_map_of_mem hparameter)
      hothers (BTreeMap.get_remove_self params parameter.name)
    by_cases htopic : parameter.name ∈ topicKeys
    · rw [if_pos htopic] at hmissing
      exact renderDraft_of_topic hmissing
    · rw [if_neg htopic] at hmissing
      refine renderDraft_of_payload hdraft ?_ hmissing
      refine renderTextTemplate_congr hextracted.topic fun key hkey => ?_
      refine topicParam_congr (BTreeMap.get_remove_of_ne params ?_)
      rintro rfl
      exact htopic hkey

/-! ## A command of a valve -/

section Valve

/-- The topic reads one parameter, the payload that one and two more. -/
def valveTemplate : CommandTemplate where
  id := ⟨"set-valve"⟩
  name := "Set valve"
  brokerId := ⟨"main"⟩
  topicTemplate := "valves/\x7bvalve\x7d/set"
  payloadTemplate := .object [
    ("note", .array [.string "valve \x7bvalve\x7d by \x7boperator\x7d"]),
    ("position", .string "\x7bposition\x7d")]
  qos := .atLeastOnce
  retain := false
  enabled := true

/-- The parameters of its form. -/
def valveParameters : List CommandParameterDefinition := [
  { name := "valve", payload := true, topic := true },
  { name := "position", payload := true, topic := false },
  { name := "operator", payload := true, topic := false }]

/-- What the form sends. -/
def valveParams : ValueMap := [
  ("operator", .string "ana"), ("position", .string "open"), ("valve", .string "v1")]

/-- The writing of the payload of `valveParams`. -/
def valveJson : SerdeJson where
  fromSlice _ := .error "expected value"
  toVec value :=
    if value.eq (.object [
        ("note", .array [.string "valve v1 by ana"]), ("position", .string "open")]) then
      .ok ("\x7b\"note\":[\"valve v1 by ana\"],\"position\":\"open\"\x7d".toList.map fun c =>
        UInt8.ofNat c.toNat)
    else .error "unknown value"
  numberToString _ := "0"

theorem extractCommandParameters_agrees_valve :
    ∃ draft, extractCommandParameters valveTemplate = .ok valveParameters ∧
      CommandTemplateRenderer.default.renderDraft valveJson valveTemplate valveParams =
        .ok draft ∧
      ∀ parameter ∈ valveParameters,
        CommandTemplateRenderer.default.renderDraft valveJson valveTemplate
            (BTreeMap.remove valveParams parameter.name) =
          .error (.missingParameter valveTemplate.id parameter.name) := by
  have h : extractCommandParameters valveTemplate = .ok valveParameters :=
    toOption_eq_some_iff.mp (by decide +kernel)
  have hprintable : ∀ value ∈ ["ana", "open", "v1"],
      value.toList.all (fun c => !isControl c) = true := by decide
  have hplain : ∀ value ∈ ["ana", "open", "v1"], PlainValue value := by
    intro value hvalue
    have hcontrols := List.all_eq_true.mp (hprintable value hvalue)
    obtain rfl | rfl | rfl : value = "ana" ∨ value = "open" ∨ value = "v1" := by
      simpa using hvalue
    all_goals
      refine ⟨by decide, by decide, by decide, by decide, by decide, by decide, fun c hc => ?_⟩
      simpa using hcontrols c hc
  have hparams : ∀ parameter ∈ valveParameters, Given valveParams parameter.name := by
    intro parameter hparameter
    obtain rfl | rfl | rfl : parameter = ⟨"valve", true, true⟩ ∨
        parameter = ⟨"position", true, false⟩ ∨ parameter = ⟨"operator", true, false⟩ := by
      simpa [valveParameters] using hparameter
    · exact ⟨"v1", by rfl, hplain _ (by decide)⟩
    · exact ⟨"open", by rfl, hplain _ (by decide)⟩
    · exact ⟨"ana", by rfl, hplain _ (by decide)⟩
  have hdraft : (CommandTemplateRenderer.default.renderDraft valveJson valveTemplate
      valveParams).toOption.isSome = true := by
    decide +kernel
  obtain ⟨draft, hdraft⟩ := toOption_isSome_iff.mp hdraft
  exact ⟨draft, h, hdraft, (extractCommandParameters_agrees h valveJson
    CommandTemplateRenderer.default hparams).2 draft hdraft⟩

end Valve

end Web
end PipeBolt
