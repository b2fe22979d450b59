import PipeBolt.Core.TemplateText

/-!
# The payload of a command

A payload template is rendered text by text: the rendered value has its shape, each text is
replaced by its own rendering, and only the parameters that are named in it are read.

* `SameShape`: two values that differ in their texts only.
* `placeholderNames`: the names between a brace and the first closing brace after it.
* `renderPayloadValue_frame`: the shape of a rendered payload, and when it depends on the named
  parameters alone.
-/

namespace PipeBolt
namespace Core

open Domain Rust Fallible Pipeline Separated

/-! ## The texts of a payload -/

mutual

/-- The texts in a payload. -/
def payloadTexts : Value → List String
  | .string text => [text]
  | .array values => payloadArrayTexts values
  | .object entries => payloadObjectTexts entries
  | .null | .bool _ | .number _ => []

/-- The texts in the elements of an array. -/
def payloadArrayTexts : List Value → List String
  | [] => []
  | value :: values => payloadTexts value ++ payloadArrayTexts values

/-- The texts in the values of an object. -/
def payloadObjectTexts : List (String × Value) → List String
  | [] => []
  | (_, value) :: entries => payloadTexts value ++ payloadObjectTexts entries

end

section Texts

variable {json : SerdeJson} {template : CommandTemplate} {params : ValueMap}

mutual

/-- A payload is rendered exactly when all its texts are. -/
theorem renderPayloadValue_isOk_iff : ∀ value : Value,
    (∃ result, renderPayloadValue json template params value = .ok result) ↔
      ∀ text ∈ payloadTexts value, ∃ result,
        renderPayloadString json template text params = .ok result
  | .string text => by
    rw [renderPayloadValue, payloadTexts]
    simp
  | .array values => by
    rw [renderPayloadValue, payloadTexts, ← renderPayloadArray_isOk_iff values]
    exact bind_pure_isOk_iff
  | .object entries => by
    rw [renderPayloadValue, payloadTexts, ← renderPayloadObject_isOk_iff entries]
    exact bind_pure_isOk_iff
  | .null => by simp [renderPayloadValue, payloadTexts]
  | .bool _ => by simp [renderPayloadValue, payloadTexts]
  | .number _ => by simp [renderPayloadValue, payloadTexts]

theorem renderPayloadArray_isOk_iff : ∀ values : List Value,
    (∃ result, renderPayloadArray json template params values = .ok result) ↔
      ∀ text ∈ payloadArrayTexts values, ∃ result,
        renderPayloadString json template text params = .ok result
  | [] => by simp [renderPayloadArray, payloadArrayTexts]
  | value :: values => by
    rw [renderPayloadArray, payloadArrayTexts, List.forall_mem_append,
      ← renderPayloadValue_isOk_iff value, ← renderPayloadArray_isOk_iff values]
    exact bind_isOk_iff fun _ => bind_pure_isOk_iff

theorem renderPayloadObject_isOk_iff : ∀ entries : List (String × Value),
    (∃ result, renderPayloadObject json template params entries = .ok result) ↔
      ∀ text ∈ payloadObjectTexts entries, ∃ result,
        renderPayloadString json template text params = .ok result
  | [] => by simp [renderPayloadObject, payloadObjectTexts]
  | (_, value) :: entries => by
    rw [renderPayloadObject, payloadObjectTexts, List.forall_mem_append,
      ← renderPayloadValue_isOk_iff value, ← renderPayloadObject_isOk_iff entries]
    exact bind_isOk_iff fun _ => bind_pure_isOk_iff

end

mutual

/-- A payload is rendered by the renderings of its texts. -/
theorem renderPayloadValue_congr {params' : ValueMap} : ∀ value : Value,
    (∀ text ∈ payloadTexts value, renderPayloadString json template text params' =
      renderPayloadString json template text params) →
    renderPayloadValue json template params' value = renderPayloadValue json template params value
  | .string text, h => by
    rw [renderPayloadValue, renderPayloadValue]
    exact h text (List.mem_singleton_self text)
  | .array values, h => by
    rw [renderPayloadValue, renderPayloadValue, renderPayloadArray_congr values h]
  | .object entries, h => by
    rw [renderPayloadValue, renderPayloadValue, renderPayloadObject_congr entries h]
  | .null, _ | .bool _, _ | .number _, _ => by
    rw [renderPayloadValue, renderPayloadValue]

theorem renderPayloadArray_congr {params' : ValueMap} : ∀ values : List Value,
    (∀ text ∈ payloadArrayTexts values, renderPayloadString json template text params' =
      renderPayloadString json template text params) →
    renderPayloadArray json template params' values = renderPayloadArray json template params values
  | [], _ => by
    rw [renderPayloadArray, renderPayloadArray]
  | value :: values, h => by
    obtain ⟨hvalue, hvalues⟩ := List.forall_mem_append.mp h
    rw [renderPayloadArray, renderPayloadArray, renderPayloadValue_congr value hvalue,
      renderPayloadArray_congr values hvalues]

theorem renderPayloadObject_congr {params' : ValueMap} : ∀ entries : List (String × Value),
    (∀ text ∈ payloadObjectTexts entries, renderPayloadString json template text params' =
      renderPayloadString json template text params) →
    renderPayloadObject json template params' entries =
      renderPayloadObject json template params entries
  | [], _ => by
    rw [renderPayloadObject, renderPayloadObject]
  | (_, value) :: entries, h => by
    obtain ⟨hvalue, hentries⟩ := List.forall_mem_append.mp h
    rw [renderPayloadObject, renderPayloadObject, renderPayloadValue_congr value hvalue,
      renderPayloadObject_congr entries hentries]

end

end Texts

/-! ## Shape -/

mutual

/-- The second value has the shape of the first, and `leaf` relates their texts in place. -/
def SameShape (leaf : String → Value → Prop) : Value → Value → Prop
  | .string text, result => leaf text result
  | .array values, result => ∃ results, result = .array results ∧ SameElements leaf values results
  | .object entries, result =>
    ∃ results, result = .object results ∧ SameEntries leaf entries results
  | .null, result => result = .null
  | .bool value, result => result = .bool value
  | .number value, result => result = .number value

/-- The elements of two arrays have the same shape, one by one. -/
def SameElements (leaf : String → Value → Prop) : List Value → List Value → Prop
  | [], results => results = []
  | value :: values, results => ∃ first rest, results = first :: rest ∧
      SameShape leaf value first ∧ SameElements leaf values rest

/-- The entries of two objects have the same keys and the same shape, one by one. -/
def SameEntries (leaf : String → Value → Prop) :
    List (String × Value) → List (String × Value) → Prop
  | [], results => results = []
  | (key, value) :: entries, results => ∃ first rest, results = (key, first) :: rest ∧
      SameShape leaf value first ∧ SameEntries leaf entries rest

end

/-- What a text of the payload is replaced by: a parameter as it is, or the text with the texts of
its parameters in place of their placeholders. -/
def Replaced (json : SerdeJson) (template : CommandTemplate) (params : ValueMap) (text : String)
    (result : Value) : Prop :=
  renderPayloadString json template text params = .ok result ∧
    ((∃ key, exactPlaceholderKey text = some key ∧ BTreeMap.get params key = some result) ∨
      exactPlaceholderKey text = none ∧ ∃ source : TemplateText, source.string = text ∧
        source.Scalars json params ∧ result = .string (source.inserted json params))

section Frame

variable {json : SerdeJson} {template : CommandTemplate} {params : ValueMap}

theorem renderPayloadString_replaced {text : String} {result : Value}
    (h : renderPayloadString json template text params = .ok result) :
    Replaced json template params text result := by
  refine ⟨h, ?_⟩
  cases hexact : exactPlaceholderKey text with
  | some key => exact Or.inl ⟨key, rfl, ((renderPayloadString_of_key hexact).mp h).2⟩
  | none =>
    obtain ⟨output, hrender, rfl⟩ := (renderPayloadString_of_text hexact).mp h
    obtain ⟨source, rfl⟩ := exists_templateText hrender
    obtain ⟨hscalars, -, rfl⟩ := source.scalar_render_eq_ok_iff.mp hrender
    exact Or.inr ⟨rfl, source, rfl, hscalars, rfl⟩

mutual

/-- A rendered payload has the shape of its template. -/
theorem renderPayloadValue_sameShape : ∀ {value result : Value},
    renderPayloadValue json template params value = .ok result →
      SameShape (Replaced json template params) value result
  | .string text, result, h => by
    rw [renderPayloadValue] at h
    rw [SameShape]
    exact renderPayloadString_replaced h
  | .array values, result, h => by
    rw [renderPayloadValue] at h
    obtain ⟨results, hresults, h⟩ := bind_eq_ok_iff.mp h
    rw [SameShape]
    exact ⟨results, (Except.ok.inj h).symm, renderPayloadArray_sameElements hresults⟩
  | .object entries, result, h => by
    rw [renderPayloadValue] at h
    obtain ⟨results, hresults, h⟩ := bind_eq_ok_iff.mp h
    rw [SameShape]
    exact ⟨results, (Except.ok.inj h).symm, renderPayloadObject_sameEntries hresults⟩
  | .null, result, h => by
    rw [renderPayloadValue] at h
    rw [SameShape, ← Except.ok.inj h]
  | .bool value, result, h => by
    rw [renderPayloadValue] at h
    rw [SameShape, ← Except.ok.inj h]
  | .number value, result, h => by
    rw [renderPayloadValue] at h
    rw [SameShape, ← Except.ok.inj h]

theorem renderPayloadArray_sameElements : ∀ {values results : List Value},
    renderPayloadArray json template params values = .ok results →
      SameElements (Replaced json template params) values results
  | [], results, h => by
    rw [renderPayloadArray] at h
    rw [SameElements, ← Except.ok.inj h]
  | value :: values, results, h => by
    rw [renderPayloadArray] at h
    obtain ⟨first, hfirst, h⟩ := bind_eq_ok_iff.mp h
    obtain ⟨rest, hrest, h⟩ := bind_eq_ok_iff.mp h
    rw [SameElements]
    exact ⟨first, rest, (Except.ok.inj h).symm, renderPayloadValue_sameShape hfirst,
      renderPayloadArray_sameElements hrest⟩

theorem renderPayloadObject_sameEntries : ∀ {entries results : List (String × Value)},
    renderPayloadObject json template params entries = .ok results →
      SameEntries (Replaced json template params) entries results
  | [], results, h => by
    rw [renderPayloadObject] at h
    rw [SameEntries, ← Except.ok.inj h]
  | (key, value) :: entries, results, h => by
    rw [renderPayloadObject] at h
    obtain ⟨first, hfirst, h⟩ := bind_eq_ok_iff.mp h
    obtain ⟨rest, hrest, h⟩ := bind_eq_ok_iff.mp h
    rw [SameEntries]
    exact ⟨first, rest, (Except.ok.inj h).symm, renderPayloadValue_sameShape hfirst,
      renderPayloadObject_sameEntries hrest⟩

end

end Frame

/-! ## The names in a payload -/

/-- The names in a text, with the characters of a name that has been opened, from its last one. -/
def namesFrom : Option (List Char) → List Char → List String
  | _, [] => []
  | none, c :: text => if c = '\x7b' then namesFrom (some []) text else namesFrom none text
  | some name, c :: text =>
    if c = '\x7d' then .ofList name.reverse :: namesFrom none text
    else namesFrom (some (c :: name)) text

/-- The names of the placeholders of a text. -/
def placeholderNames (text : String) : List String := namesFrom none text.toList

/-- The names of the placeholders of a payload. -/
def payloadNames (value : Value) : List String := (payloadTexts value).flatMap placeholderNames

/-- The text is taken for one placeholder and has a closing brace before its last character. -/
def MixedPlaceholder (text : String) : Prop :=
  ∃ key, exactPlaceholderKey text = some key ∧ '\x7d' ∈ key.toList

/-- A name ends at the first closing brace. -/
theorem namesFrom_closed {key : List Char} (h : '\x7d' ∉ key) (name rest : List Char) :
    namesFrom (some name) (key ++ '\x7d' :: rest) =
      .ofList (name.reverse ++ key) :: namesFrom none rest := by
  induction key generalizing name with
  | nil => rw [List.nil_append, namesFrom, if_pos rfl, List.append_nil]
  | cons c key ih =>
    rw [List.mem_cons, not_or] at h
    rw [List.cons_append, namesFrom, if_neg (Ne.symm h.1), ih h.2, List.reverse_cons,
      List.append_assoc, List.singleton_append]

/-- The names of a template text are the keys of its placeholders. -/
theorem placeholderNames_string (source : TemplateText) :
    placeholderNames source.string = source.keys := by
  obtain ⟨tokens, hwell⟩ := source
  rw [placeholderNames, TemplateText.string, String.toList_ofList, TemplateText.keys]
  induction tokens with
  | nil => rfl
  | cons token tokens ih =>
    obtain ⟨htoken, htokens⟩ := List.forall_mem_cons.mp hwell
    rw [List.flatMap_cons]
    cases token with
    | char c =>
      rw [Token.chars, List.singleton_append, namesFrom, if_neg htoken.1]
      exact ih htokens
    | placeholder key =>
      rw [Token.chars, List.cons_append, List.append_assoc, List.singleton_append, namesFrom,
        if_pos rfl, namesFrom_closed htoken.1, ih htokens, List.reverse_nil, List.nil_append,
        String.ofList_toList]
      rfl

/-- The name of a text that is one placeholder. -/
theorem placeholderNames_exact {text key : String} (h : exactPlaceholderKey text = some key)
    (hkey : '\x7d' ∉ key.toList) : placeholderNames text = [key] := by
  obtain ⟨rest, htext, hlast, rfl⟩ := exactPlaceholderKey_eq_some_iff.mp h
  obtain ⟨inner, rfl⟩ := List.getLast?_eq_some_iff.mp hlast
  rw [List.dropLast_concat, String.toList_ofList] at hkey
  rw [placeholderNames, htext, namesFrom, if_pos rfl, namesFrom_closed hkey, namesFrom,
    List.dropLast_concat]
  rfl

/-- No name has a closing brace. -/
theorem closing_notMem_namesFrom {name : Option (List Char)} {text : List Char}
    (hname : ∀ chars ∈ name, '\x7d' ∉ chars) :
    ∀ found ∈ namesFrom name text, '\x7d' ∉ found.toList := by
  induction text generalizing name with
  | nil => cases name <;> exact fun found hfound => absurd hfound List.not_mem_nil
  | cons c text ih =>
    cases name with
    | none =>
      rw [namesFrom]
      split
      · exact ih fun chars hchars => by
          rw [← Option.mem_some_iff.mp hchars]
          exact List.not_mem_nil
      · exact ih hname
    | some name =>
      have hname := hname name rfl
      rw [namesFrom]
      split
      · refine List.forall_mem_cons.mpr
          ⟨?_, ih fun chars hchars => absurd hchars (Option.not_mem_none chars)⟩
        rwa [String.toList_ofList, List.mem_reverse]
      · next hc =>
        refine ih fun chars hchars => ?_
        rw [← Option.mem_some_iff.mp hchars, List.mem_cons, not_or]
        exact ⟨Ne.symm hc, hname⟩

theorem closing_notMem_placeholderNames {text name : String} (h : name ∈ placeholderNames text) :
    '\x7d' ∉ name.toList :=
  closing_notMem_namesFrom (fun chars hchars => absurd hchars (Option.not_mem_none chars)) name h

section Names

variable {json : SerdeJson} {template : CommandTemplate} {params : ValueMap}

/-- A text that is rendered, and is not mixed, reads the parameters of its names only. -/
theorem renderPayloadString_congr {params' : ValueMap} {text : String} {result : Value}
    (h : renderPayloadString json template text params = .ok result)
    (hmixed : ¬ MixedPlaceholder text)
    (hnames : ∀ name ∈ placeholderNames text,
      BTreeMap.get params' name = BTreeMap.get params name) :
    renderPayloadString json template text params' =
      renderPayloadString json template text params := by
  cases hexact : exactPlaceholderKey text with
  | some key =>
    have hkey : '\x7d' ∉ key.toList := fun hmem => hmixed ⟨key, hexact, hmem⟩
    have hget := hnames key (by
      rw [placeholderNames_exact hexact hkey]
      exact List.mem_singleton_self key)
    rw [h, renderPayloadString_of_key hexact, hget]
    exact (renderPayloadString_of_key hexact).mp h
  | none =>
    obtain ⟨output, hrender, rfl⟩ := (renderPayloadString_of_text hexact).mp h
    obtain ⟨source, rfl⟩ := exists_templateText hrender
    rw [h, renderPayloadString_of_text hexact]
    refine ⟨output, ?_, rfl⟩
    rw [← hrender]
    refine source.render_congr fun key hkey => ?_
    rw [scalarParam, scalarParam, hnames key (by rwa [placeholderNames_string])]

/-- A rendered payload has the shape of its template, with each text replaced by its own rendering.
It depends on the named parameters alone exactly when no text is taken for a placeholder with a
closing brace in its name. -/
theorem renderPayloadValue_frame (json : SerdeJson) (template : CommandTemplate) (value : Value)
    (params : ValueMap) (result : Value)
    (h : renderPayloadValue json template params value = .ok result) :
    SameShape (Replaced json template params) value result ∧
      ((∀ params', (∀ name ∈ payloadNames value,
          BTreeMap.get params' name = BTreeMap.get params name) →
        renderPayloadValue json template params' value = .ok result) ↔
        ∀ text ∈ payloadTexts value, ¬ MixedPlaceholder text) := by
  have htexts := (renderPayloadValue_isOk_iff value).mp ⟨result, h⟩
  refine ⟨renderPayloadValue_sameShape h, fun hframe text htext => ?_, fun hmixed => ?_⟩
  · rintro ⟨key, hexact, hkey⟩
    have hremoved := hframe (BTreeMap.remove params key) fun name hname => by
      refine BTreeMap.get_remove_of_ne params ?_
      rintro rfl
      obtain ⟨text', -, hname⟩ := List.mem_flatMap.mp hname
      exact closing_notMem_placeholderNames hname hkey
    obtain ⟨found, hfound⟩ := (renderPayloadValue_isOk_iff value).mp ⟨result, hremoved⟩ text htext
    have hget := ((renderPayloadString_of_key hexact).mp hfound).2
    rw [BTreeMap.get_remove_self] at hget
    cases hget
  · intro params' hnames
    rw [← h]
    refine renderPayloadValue_congr value fun text htext => ?_
    obtain ⟨found, hfound⟩ := htexts text htext
    refine renderPayloadString_congr hfound (hmixed text htext) fun name hname => ?_
    exact hnames name (List.mem_flatMap.mpr ⟨text, htext, hname⟩)

end Names

/-- The rendering of two values depends on the parameter that is named in them. -/
theorem renderPayloadValue_frame_level :
    let value : Value := .array [.string "\x7blow\x7d", .null]
    ∀ params', (∀ name ∈ payloadNames value,
        BTreeMap.get params' name = BTreeMap.get rangeParams name) →
      renderPayloadValue textJson rangeTemplate params' value =
        .ok (.array [.string "1", .null]) := by
  refine ((renderPayloadValue_frame textJson rangeTemplate _ rangeParams _ (by rfl)).2).mpr ?_
  intro text htext
  obtain rfl : text = "\x7blow\x7d" := List.mem_singleton.mp htext
  rintro ⟨key, hexact, hkey⟩
  obtain rfl : "low" = key := Option.some.inj hexact
  exact absurd hkey (by decide)

/-- A range reads a parameter that neither of its placeholders names. -/
theorem rangeText_reads_other_name :
    let value : Value := .string rangeText.string
    let params : ValueMap := [("low\x7d-\x7bhigh", .string "x")]
    payloadNames value = ["low", "high"] ∧
      (∀ name ∈ payloadNames value, BTreeMap.get [] name = BTreeMap.get params name) ∧
      renderPayloadValue textJson rangeTemplate params value = .ok (.string "x") ∧
      renderPayloadValue textJson rangeTemplate [] value =
        .error (.missingParameter rangeTemplate.id "low\x7d-\x7bhigh") := by
  refine ⟨by rfl, ?_, by rfl, by rfl⟩
  intro name hname
  have hmem : name ∈ ["low", "high"] := hname
  obtain rfl | rfl : name = "low" ∨ name = "high" := by simpa using hmem
  · rfl
  · rfl

end Core
end PipeBolt
