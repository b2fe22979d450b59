import PipeBolt.Core.Command

/-!
# Template texts

A template text is a sequence of tokens: characters other than braces, and placeholders.  A
placeholder opens at a brace and closes at the first closing brace after it, so a key may hold an
opening brace.  The renderer scans a text for braces; here its scan is compared with the tokens.

* `TemplateText`: well-formed tokens, the text they stand for, and the text they are filled to.
* `renderPlaceholders_chars`: the loop of the renderer reads one token after the other.
* `TemplateText.render_eq_ok_iff`: what a template text is rendered to, and when.
* `exists_templateText`: a text that is rendered is a template text.
* `TemplateText.verbatim_iff`: the values are inserted as they are, except for closing braces.
* `TemplateText.renderPayloadString_iff`: when a text of the payload is rendered by its tokens.
-/

namespace PipeBolt
namespace Core

open Domain Rust Fallible Pipeline Separated

/-! ## Tokens -/

/-- A token of a template text. -/
inductive Token where
  | char (c : Char)
  | placeholder (key : String)
  deriving DecidableEq, Repr

/-- The characters that a token stands for. -/
def Token.chars : Token → List Char
  | .char c => [c]
  | .placeholder key => '\x7b' :: (key.toList ++ ['\x7d'])

/-- What a token is filled to, with a text for each key. -/
def Token.fill (value : String → String) : Token → List Char
  | .char c => [c]
  | .placeholder key => (value key).toList

/-- The key of a placeholder. -/
def Token.key? : Token → Option String
  | .char _ => none
  | .placeholder key => some key

/-- The characters are not braces, the keys are not blank and end before a closing brace. -/
def Token.WellFormed : Token → Prop
  | .char c => c ≠ '\x7b' ∧ c ≠ '\x7d'
  | .placeholder key => '\x7d' ∉ key.toList ∧ (trim key).isEmpty = false

instance (token : Token) : Decidable token.WellFormed :=
  match token with
  | .char c => inferInstanceAs (Decidable (c ≠ '\x7b' ∧ c ≠ '\x7d'))
  | .placeholder key =>
    inferInstanceAs (Decidable ('\x7d' ∉ key.toList ∧ (trim key).isEmpty = false))

/-- A text of well-formed tokens. -/
structure TemplateText where
  tokens : List Token
  wellFormed : ∀ token ∈ tokens, token.WellFormed

namespace TemplateText

/-- The text of a template. -/
def string (text : TemplateText) : String := .ofList (text.tokens.flatMap Token.chars)

/-- The keys of the placeholders, from the left. -/
def keys (text : TemplateText) : List String := text.tokens.filterMap Token.key?

/-- The text with a text in place of every placeholder. -/
def fill (value : String → String) (text : TemplateText) : String :=
  .ofList (text.tokens.flatMap (Token.fill value))

end TemplateText

/-- Characters that are not braces are tokens. -/
theorem wellFormed_literal {text : List Char} (hopen : '\x7b' ∉ text) (hclose : '\x7d' ∉ text) :
    ∀ token ∈ text.map Token.char, token.WellFormed := by
  rw [List.forall_mem_map]
  exact fun c hc => ⟨fun heq => hopen (heq ▸ hc), fun heq => hclose (heq ▸ hc)⟩

theorem flatMap_chars_literal (text : List Char) :
    (text.map Token.char).flatMap Token.chars = text := by
  rw [List.flatMap_map]
  exact List.flatMap_singleton' text

/-- So are characters that are not braces with a placeholder after them. -/
theorem wellFormed_piece {before key : List Char} {tokens : List Token} (hopen : '\x7b' ∉ before)
    (hclose : '\x7d' ∉ before) (hkey : '\x7d' ∉ key) (hnamed : (trim (.ofList key)).isEmpty = false)
    (hwell : ∀ token ∈ tokens, token.WellFormed) :
    ∀ token ∈ before.map Token.char ++ .placeholder (.ofList key) :: tokens,
      token.WellFormed := by
  rw [List.forall_mem_append, List.forall_mem_cons]
  refine ⟨wellFormed_literal hopen hclose, ⟨?_, hnamed⟩, hwell⟩
  rwa [String.toList_ofList]

theorem flatMap_chars_piece (before key : List Char) (tokens : List Token) :
    (before.map Token.char ++ .placeholder (.ofList key) :: tokens).flatMap Token.chars =
      before ++ '\x7b' :: (key ++ '\x7d' :: tokens.flatMap Token.chars) := by
  rw [List.flatMap_append, List.flatMap_cons, flatMap_chars_literal, Token.chars,
    String.toList_ofList]
  simp

theorem mem_keys_iff {tokens : List Token} {key : String} :
    key ∈ tokens.filterMap Token.key? ↔ Token.placeholder key ∈ tokens := by
  rw [List.mem_filterMap]
  constructor
  · rintro ⟨token, htoken, hkey⟩
    cases token with
    | char c => cases hkey
    | placeholder k =>
      rw [← Option.some.inj hkey]
      exact htoken
  · intro h
    exact ⟨_, h, rfl⟩

theorem TemplateText.mem_keys {text : TemplateText} {key : String} :
    key ∈ text.keys ↔ Token.placeholder key ∈ text.tokens := mem_keys_iff

/-- A character of a filled text is one of the template or one of a value. -/
theorem mem_flatMap_fill {tokens : List Token} {value : String → String} {c : Char} :
    c ∈ tokens.flatMap (Token.fill value) ↔
      Token.char c ∈ tokens ∨ ∃ key, Token.placeholder key ∈ tokens ∧ c ∈ (value key).toList := by
  rw [List.mem_flatMap]
  constructor
  · rintro ⟨token, htoken, hc⟩
    cases token with
    | char d =>
      rw [Token.fill, List.mem_singleton] at hc
      rw [hc]
      exact Or.inl htoken
    | placeholder key => exact Or.inr ⟨key, htoken, hc⟩
  · rintro (htoken | ⟨key, htoken, hc⟩)
    · exact ⟨_, htoken, List.mem_singleton_self c⟩
    · exact ⟨_, htoken, hc⟩

/-- A filled text has a closing brace only from a value. -/
theorem TemplateText.closing_mem_fill {text : TemplateText} {value : String → String} :
    '\x7d' ∈ (text.fill value).toList ↔ ∃ key ∈ text.keys, '\x7d' ∈ (value key).toList := by
  rw [fill, String.toList_ofList, mem_flatMap_fill]
  constructor
  · rintro (htoken | ⟨key, htoken, hc⟩)
    · exact absurd rfl (text.wellFormed _ htoken).2
    · exact ⟨key, mem_keys.mpr htoken, hc⟩
  · rintro ⟨key, hkey, hc⟩
    exact Or.inr ⟨key, mem_keys.mp hkey, hc⟩

/-! ## The scan -/

section Scan

variable {template : CommandTemplate} {surface : TemplateSurface} {params : ValueMap}
  {renderParam : String → ValueMap → Except CommandRenderError String}

/-- The loop leaves a text without an opening brace as it is. -/
theorem renderPlaceholders_plain {output text : List Char} (hopen : '\x7b' ∉ text) :
    renderPlaceholders template surface params renderParam output text = .ok (output ++ text) := by
  rw [renderPlaceholders]
  split
  · rfl
  · next heq =>
    rw [dropWhile_eq_nil hopen] at heq
    cases heq

/-- The loop at a brace that is not closed. -/
theorem renderPlaceholders_unclosed {output before after : List Char} (hopen : '\x7b' ∉ before)
    (hclose : '\x7d' ∉ after) :
    renderPlaceholders template surface params renderParam output (before ++ '\x7b' :: after) =
      .error (.unclosedPlaceholder template.id surface) := by
  rw [renderPlaceholders]
  split
  · next heq =>
    rw [dropWhile_append_cons hopen] at heq
    cases heq
  · next heq =>
    rw [dropWhile_append_cons hopen] at heq
    obtain ⟨rfl, rfl⟩ := List.cons.inj heq
    split
    · rfl
    · next heq' =>
      rw [dropWhile_eq_nil hclose] at heq'
      cases heq'

/-- The loop at a placeholder. -/
theorem renderPlaceholders_closed {output before key rest : List Char} (hopen : '\x7b' ∉ before)
    (hkey : '\x7d' ∉ key) :
    renderPlaceholders template surface params renderParam output
        (before ++ '\x7b' :: (key ++ '\x7d' :: rest)) =
      validatePlaceholderKey template surface (.ofList key) >>= fun _ =>
        renderParam (.ofList key) params >>= fun value =>
          renderPlaceholders template surface params renderParam (output ++ before ++ value.toList)
            rest := by
  rw [renderPlaceholders]
  split
  · next heq =>
    rw [dropWhile_append_cons hopen] at heq
    cases heq
  · next heq =>
    rw [dropWhile_append_cons hopen] at heq
    obtain ⟨rfl, rfl⟩ := List.cons.inj heq
    split
    · next heq' =>
      rw [dropWhile_append_cons hkey] at heq'
      cases heq'
    · next heq' =>
      rw [dropWhile_append_cons hkey] at heq'
      obtain ⟨rfl, rfl⟩ := List.cons.inj heq'
      rw [takeWhile_append_cons hopen, takeWhile_append_cons hkey]

/-- The loop passes a character that is not an opening brace on to its output. -/
theorem renderPlaceholders_char {c : Char} (hc : c ≠ '\x7b') (output rest : List Char) :
    renderPlaceholders template surface params renderParam output (c :: rest) =
      renderPlaceholders template surface params renderParam (output ++ [c]) rest := by
  by_cases hopen : '\x7b' ∈ rest
  · obtain ⟨before, after, rfl, hbefore⟩ := List.eq_append_cons_of_mem hopen
    have hbefore' : '\x7b' ∉ c :: before := List.not_mem_cons_of_ne_of_not_mem (Ne.symm hc) hbefore
    rw [← List.cons_append]
    by_cases hclose : '\x7d' ∈ after
    · obtain ⟨key, rest, rfl, hkey⟩ := List.eq_append_cons_of_mem hclose
      rw [renderPlaceholders_closed hbefore' hkey, renderPlaceholders_closed hbefore hkey]
      simp only [List.append_assoc, List.singleton_append]
    · rw [renderPlaceholders_unclosed hbefore' hclose, renderPlaceholders_unclosed hbefore hclose]
  · rw [renderPlaceholders_plain (List.not_mem_cons_of_ne_of_not_mem (Ne.symm hc) hopen),
      renderPlaceholders_plain hopen, List.append_assoc, List.singleton_append]

/-- What a token is rendered to. -/
def Token.read (read : String → Except CommandRenderError String) :
    Token → Except CommandRenderError (List Char)
  | .char c => .ok [c]
  | .placeholder key => do return (← read key).toList

/-- The loop reads one token after the other. -/
theorem renderPlaceholders_chars {tokens : List Token} (h : ∀ token ∈ tokens, token.WellFormed)
    (output : List Char) :
    renderPlaceholders template surface params renderParam output (tokens.flatMap Token.chars) =
      tokens.mapM (Token.read fun key => renderParam key params) >>= fun texts =>
        .ok (output ++ texts.flatten) := by
  induction tokens generalizing output with
  | nil => exact renderPlaceholders_plain List.not_mem_nil
  | cons token tokens ih =>
    obtain ⟨htoken, htokens⟩ := List.forall_mem_cons.mp h
    have hrest : ∀ text : List Char,
        renderPlaceholders template surface params renderParam (output ++ text)
            (tokens.flatMap Token.chars) =
          (tokens.mapM (Token.read fun key => renderParam key params) >>= fun texts =>
            pure (text :: texts)) >>= fun texts => .ok (output ++ texts.flatten) := by
      intro text
      rw [ih htokens, bind_assoc]
      refine bind_congr fun texts => ?_
      rw [List.append_assoc]
      rfl
    rw [List.flatMap_cons, List.mapM_cons, bind_assoc]
    cases token with
    | char c =>
      rw [Token.chars, List.singleton_append, renderPlaceholders_char htoken.1, hrest]
      rfl
    | placeholder key =>
      have hclosed : renderPlaceholders template surface params renderParam output
          ('\x7b' :: (key.toList ++ '\x7d' :: tokens.flatMap Token.chars)) = _ :=
        renderPlaceholders_closed List.not_mem_nil htoken.1
      rw [List.append_nil, String.ofList_toList, validatePlaceholderKey, htoken.2] at hclosed
      rw [Token.chars, List.cons_append, List.append_assoc, List.singleton_append, hclosed,
        Token.read, bind_assoc]
      exact bind_congr fun value : String => hrest value.toList

/-- Tokens are read one by one, each key as the text that it is read to. -/
theorem mapM_read_eq_ok_iff {tokens : List Token} {read : String → Except CommandRenderError String}
    {texts : List (List Char)} :
    tokens.mapM (Token.read read) = .ok texts ↔
      ∃ value : String → String,
        (∀ key, Token.placeholder key ∈ tokens → read key = .ok (value key)) ∧
          texts = tokens.map (Token.fill value) := by
  rw [mapM_eq_ok_iff_forall₂]
  constructor
  · intro h
    refine ⟨fun key => (read key).toOption.getD "", ?_⟩
    induction h with
    | nil => exact ⟨fun key hkey => absurd hkey List.not_mem_nil, rfl⟩
    | @cons token text tokens texts hread _ ih =>
      obtain ⟨hkeys, rfl⟩ := ih
      cases token with
      | char c =>
        rw [← Except.ok.inj hread]
        refine ⟨fun key hkey => hkeys key ?_, rfl⟩
        exact (List.mem_cons.mp hkey).resolve_left (by simp)
      | placeholder name =>
        obtain ⟨value, hvalue, htext⟩ := bind_eq_ok_iff.mp hread
        constructor
        · intro key hkey
          rcases List.mem_cons.mp hkey with heq | hkey
          · obtain rfl := Token.placeholder.inj heq
            show read key = .ok ((read key).toOption.getD "")
            rw [hvalue]
            rfl
          · exact hkeys key hkey
        · rw [List.map_cons, Token.fill, hvalue, ← Except.ok.inj htext]
          rfl
  · rintro ⟨value, hkeys, rfl⟩
    rw [List.forall₂_map_right_iff, List.forall₂_same]
    intro token htoken
    cases token with
    | char c => rfl
    | placeholder key =>
      rw [Token.read, hkeys key htoken]
      rfl

/-- A template text is rendered exactly when its keys are read to texts without a closing brace,
and then it is filled with them. -/
theorem TemplateText.render_eq_ok_iff (text : TemplateText) {result : String} :
    renderTextTemplate template surface text.string params renderParam = .ok result ↔
      ∃ value : String → String,
        (∀ key ∈ text.keys,
          renderParam key params = .ok (value key) ∧ '\x7d' ∉ (value key).toList) ∧
        result = text.fill value := by
  have hfill : ∀ value : String → String,
      (text.tokens.map (Token.fill value)).flatten = (text.fill value).toList := by
    intro value
    rw [fill, String.toList_ofList, List.flatMap_def]
  rw [renderTextTemplate, string, String.toList_ofList, renderPlaceholders_chars text.wellFormed,
    bind_assoc, bind_eq_ok_iff]
  constructor
  · rintro ⟨texts, hread, h⟩
    obtain ⟨value, hkeys, rfl⟩ := mapM_read_eq_ok_iff.mp hread
    obtain ⟨hclose, h⟩ := guard_eq_ok_iff.mp h
    rw [List.nil_append, hfill] at hclose h
    rw [List.contains_iff_mem, closing_mem_fill] at hclose
    refine ⟨value, fun key hkey => ⟨hkeys key (mem_keys.mp hkey), fun hmem => ?_⟩, ?_⟩
    · exact hclose ⟨key, hkey, hmem⟩
    · rw [← Except.ok.inj h, String.ofList_toList]
  · rintro ⟨value, hkeys, rfl⟩
    refine ⟨text.tokens.map (Token.fill value), ?_, ?_⟩
    · exact mapM_read_eq_ok_iff.mpr
        ⟨value, fun key hkey => (hkeys key (mem_keys.mpr hkey)).1, rfl⟩
    · refine guard_eq_ok_iff.mpr ⟨?_, ?_⟩
      · rw [List.nil_append, hfill, List.contains_iff_mem, closing_mem_fill]
        rintro ⟨key, hkey, hmem⟩
        exact (hkeys key hkey).2 hmem
      · rw [List.nil_append, hfill, String.ofList_toList]
        rfl

/-- A template text is rendered by what its keys are read to. -/
theorem TemplateText.render_congr (text : TemplateText) {params' : ValueMap}
    (h : ∀ key ∈ text.keys, renderParam key params' = renderParam key params) :
    renderTextTemplate template surface text.string params' renderParam =
      renderTextTemplate template surface text.string params renderParam := by
  have hread : text.tokens.mapM (Token.read fun key => renderParam key params') =
      text.tokens.mapM (Token.read fun key => renderParam key params) := by
    refine mapM_congr fun token htoken => ?_
    cases token with
    | char c => rfl
    | placeholder key => rw [Token.read, Token.read, h key (mem_keys.mpr htoken)]
  rw [renderTextTemplate, renderTextTemplate, string, String.toList_ofList,
    renderPlaceholders_chars text.wellFormed, renderPlaceholders_chars text.wellFormed, hread]

/-- A template text with a key that is not read fails as the reading of the key does, if every
other key is read. -/
theorem TemplateText.render_eq_error (text : TemplateText) {name : String}
    {error : CommandRenderError} (hname : name ∈ text.keys)
    (herror : renderParam name params = .error error)
    (hkeys : ∀ key ∈ text.keys, key ≠ name → ∃ value, renderParam key params = .ok value) :
    renderTextTemplate template surface text.string params renderParam = .error error := by
  obtain ⟨before, after, htokens, hbefore⟩ := List.eq_append_cons_of_mem (mem_keys.mp hname)
  have hread : text.tokens.mapM (Token.read fun key => renderParam key params) = .error error := by
    rw [htokens]
    refine mapM_eq_error (fun token htoken => ?_) ?_
    · cases token with
      | char c => exact ⟨[c], rfl⟩
      | placeholder key =>
        have hkey : key ∈ text.keys := by
          rw [mem_keys, htokens]
          exact List.mem_append_left _ htoken
        have hne : key ≠ name := by
          rintro rfl
          exact hbefore htoken
        obtain ⟨value, hvalue⟩ := hkeys key hkey hne
        exact ⟨value.toList, bind_eq_ok_iff.mpr ⟨value, hvalue, rfl⟩⟩
    · exact bind_eq_error_iff.mpr (Or.inl herror)
  rw [renderTextTemplate, string, String.toList_ofList, renderPlaceholders_chars text.wellFormed,
    hread]
  rfl

/-- What the loop accepts without a closing brace in its output is a sequence of tokens. -/
theorem exists_tokens {output rest output' : List Char}
    (h : renderPlaceholders template surface params renderParam output rest = .ok output')
    (hclose : '\x7d' ∉ output') :
    output ⊆ output' ∧ ∃ tokens : List Token, (∀ token ∈ tokens, token.WellFormed) ∧
      tokens.flatMap Token.chars = rest := by
  induction rest using bracket_induction '\x7b' '\x7d' generalizing output with
  | plain rest hopen =>
    rw [renderPlaceholders_plain hopen] at h
    obtain rfl := Except.ok.inj h
    refine ⟨List.subset_append_left _ _, _, wellFormed_literal hopen fun hmem => ?_,
      flatMap_chars_literal rest⟩
    exact hclose (List.mem_append_right _ hmem)
  | unclosed before after hopen hafter =>
    rw [renderPlaceholders_unclosed hopen hafter] at h
    cases h
  | closed before key rest hopen hkey ih =>
    rw [renderPlaceholders_closed hopen hkey] at h
    obtain ⟨_, hnamed, h⟩ := bind_eq_ok_iff.mp h
    obtain ⟨hnamed, -⟩ := guard_eq_ok_iff.mp hnamed
    obtain ⟨value, -, h⟩ := bind_eq_ok_iff.mp h
    obtain ⟨hsub, tokens, hwell, rfl⟩ := ih h
    rw [List.append_assoc] at hsub
    obtain ⟨hsub, hsub'⟩ := List.append_subset.mp hsub
    have hclosed : '\x7d' ∉ before := fun hmem =>
      hclose (hsub' (List.mem_append_left _ hmem))
    exact ⟨hsub, _,
      wellFormed_piece hopen hclosed hkey (Bool.eq_false_iff.mpr hnamed) hwell,
      flatMap_chars_piece before key tokens⟩

/-- A text that is rendered is a template text. -/
theorem exists_templateText {text result : String}
    (h : renderTextTemplate template surface text params renderParam = .ok result) :
    ∃ source : TemplateText, source.string = text := by
  obtain ⟨output, houtput, h⟩ := bind_eq_ok_iff.mp h
  obtain ⟨hclose, -⟩ := guard_eq_ok_iff.mp h
  rw [List.contains_iff_mem] at hclose
  obtain ⟨-, tokens, hwell, hchars⟩ := exists_tokens houtput hclose
  refine ⟨⟨tokens, hwell⟩, ?_⟩
  rw [TemplateText.string, hchars, String.ofList_toList]

end Scan

/-! ## The values of a payload -/

/-- The text of a scalar. -/
def scalarText (json : SerdeJson) : Value → Option String
  | .string value => some value
  | .number value => some (json.numberToString value)
  | .bool value => some (if value then "true" else "false")
  | .null | .array _ | .object _ => none

/-- The text of a parameter that is a scalar. -/
def paramText (json : SerdeJson) (params : ValueMap) (key : String) : Option String :=
  (BTreeMap.get params key).bind (scalarText json)

/-- The text that is inserted for a key. -/
def insertedText (json : SerdeJson) (params : ValueMap) (key : String) : String :=
  (paramText json params key).getD ""

section Values

variable {json : SerdeJson} {template : CommandTemplate} {params : ValueMap}

theorem scalarParam_eq_ok_iff {key value : String} :
    scalarParam json template key params = .ok value ↔ paramText json params key = some value := by
  rw [scalarParam, paramText]
  cases BTreeMap.get params key with
  | none => simp
  | some found => cases found <;> simp [scalarText]

namespace TemplateText

/-- The parameters of the text are scalars. -/
def Scalars (json : SerdeJson) (params : ValueMap) (text : TemplateText) : Prop :=
  ∀ key ∈ text.keys, (paramText json params key).isSome = true

/-- No value of the text contains a closing brace. -/
def NoClosing (json : SerdeJson) (params : ValueMap) (text : TemplateText) : Prop :=
  ∀ key ∈ text.keys, '\x7d' ∉ (insertedText json params key).toList

/-- The text with its parameters inserted as they are. -/
def inserted (json : SerdeJson) (params : ValueMap) (text : TemplateText) : String :=
  text.fill (insertedText json params)

theorem fill_congr {text : TemplateText} {value value' : String → String}
    (h : ∀ key ∈ text.keys, value key = value' key) : text.fill value = text.fill value' := by
  rw [fill, fill]
  congr 1
  refine List.flatMap_congr fun token htoken => ?_
  cases token with
  | char c => rfl
  | placeholder key => rw [Token.fill, Token.fill, h key (mem_keys.mpr htoken)]

/-- A text is rendered exactly when its parameters are scalars without a closing brace, and then
they are inserted as they are. -/
theorem scalar_render_eq_ok_iff (text : TemplateText) {surface : TemplateSurface}
    {result : String} :
    renderTextTemplate template surface text.string params (scalarParam json template) =
        .ok result ↔
      text.Scalars json params ∧ text.NoClosing json params ∧
        result = text.inserted json params := by
  rw [render_eq_ok_iff]
  constructor
  · rintro ⟨value, hkeys, rfl⟩
    have hsome : ∀ key ∈ text.keys, paramText json params key = some (value key) := fun key hkey =>
      scalarParam_eq_ok_iff.mp (hkeys key hkey).1
    have hvalue : ∀ key ∈ text.keys, insertedText json params key = value key := by
      intro key hkey
      rw [insertedText, hsome key hkey, Option.getD_some]
    refine ⟨fun key hkey => ?_, fun key hkey => ?_, ?_⟩
    · rw [hsome key hkey, Option.isSome_some]
    · rw [hvalue key hkey]
      exact (hkeys key hkey).2
    · exact fill_congr fun key hkey => (hvalue key hkey).symm
  · rintro ⟨hscalars, hclose, rfl⟩
    refine ⟨insertedText json params, fun key hkey => ⟨?_, hclose key hkey⟩, rfl⟩
    obtain ⟨value, hvalue⟩ := Option.isSome_iff_exists.mp (hscalars key hkey)
    rw [scalarParam_eq_ok_iff, insertedText, hvalue, Option.getD_some]

end TemplateText

/-- Two maps of parameters that differ at most in the characters of texts. -/
def SameButTexts (params params' : ValueMap) : Prop :=
  ∀ key, BTreeMap.get params' key = BTreeMap.get params key ∨
    ∃ text text', BTreeMap.get params key = some (.string text) ∧
      BTreeMap.get params' key = some (.string text')

theorem SameButTexts.scalars_iff {params' : ValueMap} (h : SameButTexts params params')
    (text : TemplateText) : text.Scalars json params' ↔ text.Scalars json params := by
  refine forall₂_congr fun key _ => ?_
  rcases h key with heq | ⟨value, value', hvalue, hvalue'⟩
  · rw [paramText, paramText, heq]
  · rw [paramText, paramText, hvalue, hvalue']
    rfl

/-- The values of a text are inserted as they are exactly when none of them contains a closing
brace; and two maps that differ only in the characters of texts are both accepted or both refused
exactly when both or neither have a closing brace in a value. -/
theorem TemplateText.verbatim_iff (json : SerdeJson) (template : CommandTemplate)
    (text : TemplateText) :
    (∀ params, text.Scalars json params →
      (renderTextTemplate template .payload text.string params (scalarParam json template) =
          .ok (text.inserted json params) ↔ text.NoClosing json params)) ∧
    ∀ params params', SameButTexts params params' →
      (((∃ result, renderTextTemplate template .payload text.string params
            (scalarParam json template) = .ok result) ↔
          ∃ result, renderTextTemplate template .payload text.string params'
            (scalarParam json template) = .ok result) ↔
        (text.Scalars json params →
          (text.NoClosing json params ↔ text.NoClosing json params'))) := by
  constructor
  · intro params hscalars
    rw [scalar_render_eq_ok_iff]
    exact ⟨fun h => h.2.1, fun h => ⟨hscalars, h, rfl⟩⟩
  · intro params params' hsame
    have hsucceeds : ∀ params, (∃ result, renderTextTemplate template .payload text.string params
        (scalarParam json template) = .ok result) ↔
          text.Scalars json params ∧ text.NoClosing json params := by
      intro params
      simp only [scalar_render_eq_ok_iff, exists_and_left, exists_eq, and_true]
    rw [hsucceeds, hsucceeds, hsame.scalars_iff]
    exact and_congr_right_iff

/-! ## A text of the payload -/

theorem exactPlaceholderKey_eq_some_iff {text key : String} :
    exactPlaceholderKey text = some key ↔
      ∃ rest, text.toList = '\x7b' :: rest ∧ rest.getLast? = some '\x7d' ∧
        key = .ofList rest.dropLast := by
  rw [exactPlaceholderKey]
  split
  · next rest heq =>
    by_cases hlast : rest.getLast? = some '\x7d'
    · rw [if_pos hlast, heq, Option.some_inj]
      constructor
      · rintro rfl
        exact ⟨rest, rfl, hlast, rfl⟩
      · rintro ⟨rest', hrest, -, rfl⟩
        rw [(List.cons.inj hrest).2]
    · rw [if_neg hlast, heq]
      constructor
      · intro h
        cases h
      · rintro ⟨rest', hrest, hlast', -⟩
        rw [(List.cons.inj hrest).2] at hlast
        exact absurd hlast' hlast
  · next hne =>
    constructor
    · intro h
      cases h
    · rintro ⟨rest, hrest, -⟩
      exact absurd hrest (hne rest)

namespace TemplateText

/-- The key of a text that is one placeholder. -/
def exactKey (text : TemplateText) : Option String :=
  match text.tokens with
  | [.placeholder key] => some key
  | _ => none

/-- The value that the tokens of a text stand for: the parameter itself for one placeholder, else
the text with its parameters inserted. -/
def payloadValue (json : SerdeJson) (params : ValueMap) (text : TemplateText) : Option Value :=
  match text.exactKey with
  | some key => BTreeMap.get params key
  | none => some (.string (text.inserted json params))

/-- The text starts with a placeholder and ends with another one. -/
def Enclosed (text : TemplateText) : Prop :=
  text.exactKey = none ∧ (∃ key, text.tokens.head? = some (.placeholder key)) ∧
    ∃ key, text.tokens.getLast? = some (.placeholder key)

/-- The text between its first and its last character. -/
def inner (text : TemplateText) : String := .ofList text.string.toList.tail.dropLast

/-- The characters of some tokens end in a closing brace only with a placeholder. -/
theorem getLast?_chars {tokens : List Token} (h : ∀ token ∈ tokens, token.WellFormed) :
    (tokens.flatMap Token.chars).getLast? = some '\x7d' ↔
      ∃ key, tokens.getLast? = some (.placeholder key) := by
  induction tokens using List.reverseRecOn with
  | nil => simp
  | append_singleton tokens token _ =>
    rw [List.flatMap_append, List.flatMap_singleton, List.getLast?_concat]
    cases token with
    | char c =>
      rw [Token.chars, List.getLast?_concat]
      have hc := (h (.char c) (List.mem_append_right _ (List.mem_singleton_self _))).2
      simp [hc]
    | placeholder key =>
      rw [Token.chars, ← List.cons_append, ← List.append_assoc, List.getLast?_concat]
      simp

/-- A text is taken for a placeholder as a whole when it starts with a placeholder and ends with
one, be it the same or another. -/
theorem exactPlaceholderKey_string (text : TemplateText) {key : String} :
    exactPlaceholderKey text.string = some key ↔
      (∃ key, text.tokens.head? = some (.placeholder key)) ∧
        (∃ key, text.tokens.getLast? = some (.placeholder key)) ∧ key = text.inner := by
  rw [exactPlaceholderKey_eq_some_iff, ← getLast?_chars text.wellFormed, inner, string,
    String.toList_ofList]
  have hwell := text.wellFormed
  cases htokens : text.tokens with
  | nil => simp
  | cons token tokens =>
    rw [htokens] at hwell
    rw [List.flatMap_cons]
    cases token with
    | char c =>
      have hc := (hwell (.char c) List.mem_cons_self).1
      simp [Token.chars, hc]
    | placeholder name =>
      have hne : name.toList ++ '\x7d' :: tokens.flatMap Token.chars ≠ [] := by simp
      obtain ⟨c, rest, hrest⟩ := List.exists_cons_of_ne_nil hne
      rw [Token.chars, List.cons_append, List.append_assoc, List.singleton_append, hrest,
        List.getLast?_cons_cons]
      simp

theorem tokens_of_exactKey {text : TemplateText} {key : String} (h : text.exactKey = some key) :
    text.tokens = [.placeholder key] := by
  rw [exactKey] at h
  split at h
  · next heq =>
    rw [heq, Option.some.inj h]
  · cases h

/-- A placeholder as a whole, and its key. -/
theorem exactPlaceholderKey_of_exactKey {text : TemplateText} {key : String}
    (h : text.exactKey = some key) : exactPlaceholderKey text.string = some key := by
  rw [exactPlaceholderKey_string, inner, string, tokens_of_exactKey h]
  simp [Token.chars]

theorem Enclosed.exactPlaceholderKey {text : TemplateText} (h : text.Enclosed) :
    exactPlaceholderKey text.string = some text.inner :=
  text.exactPlaceholderKey_string.mpr ⟨h.2.1, h.2.2, rfl⟩

theorem exactPlaceholderKey_of_not_enclosed {text : TemplateText} (hkey : text.exactKey = none)
    (h : ¬ text.Enclosed) : exactPlaceholderKey text.string = none := by
  cases hexact : exactPlaceholderKey text.string with
  | none => rfl
  | some key =>
    obtain ⟨hhead, hlast, -⟩ := text.exactPlaceholderKey_string.mp hexact
    exact absurd ⟨hkey, hhead, hlast⟩ h

/-- Between the braces of an enclosed text there is a closing brace. -/
theorem Enclosed.closing_mem_inner {text : TemplateText} (h : text.Enclosed) :
    '\x7d' ∈ text.inner.toList := by
  obtain ⟨hkey, ⟨key, hhead⟩, last, hlast⟩ := h
  obtain ⟨tokens, htokens⟩ := List.head?_eq_some_iff.mp hhead
  have hmore : tokens ≠ [] := by
    rintro rfl
    rw [exactKey, htokens] at hkey
    cases hkey
  rw [htokens, List.getLast?_cons_of_ne_nil hmore] at hlast
  obtain ⟨middle, hmiddle⟩ := List.getLast?_eq_some_iff.mp hlast
  have hchars : (text.tokens.flatMap Token.chars).tail =
      key.toList ++ '\x7d' :: (middle.flatMap Token.chars ++ '\x7b' :: last.toList) ++
        ['\x7d'] := by
    rw [htokens, hmiddle]
    simp [Token.chars]
  rw [inner, string, String.toList_ofList, String.toList_ofList, hchars, List.dropLast_concat]
  exact List.mem_append_right _ List.mem_cons_self

end TemplateText

/-- A text that is taken for a placeholder is rendered to its parameter. -/
theorem renderPayloadString_of_key {text key : String} {value : Value}
    (h : exactPlaceholderKey text = some key) :
    renderPayloadString json template text params = .ok value ↔
      (trim key).isEmpty = false ∧ BTreeMap.get params key = some value := by
  rw [renderPayloadString, h]
  dsimp only
  rw [bind_eq_ok_iff, validatePlaceholderKey]
  cases htrim : (trim key).isEmpty with
  | true => simp
  | false =>
    cases hget : BTreeMap.get params key with
    | none => simp
    | some found => exact ⟨fun ⟨_, _, h⟩ => ⟨rfl, congrArg some (Except.ok.inj h)⟩,
        fun ⟨_, h⟩ => ⟨(), rfl, congrArg Except.ok (Option.some.inj h)⟩⟩

/-- Any other text of the payload is rendered as a text. -/
theorem renderPayloadString_of_text {text : String} {value : Value}
    (h : exactPlaceholderKey text = none) :
    renderPayloadString json template text params = .ok value ↔
      ∃ result, renderTextTemplate template .payload text params (scalarParam json template) =
        .ok result ∧ value = .string result := by
  rw [renderPayloadString, h]
  dsimp only
  rw [bind_eq_ok_iff]
  exact exists_congr fun result => and_congr_right fun _ =>
    ⟨fun h => (Except.ok.inj h).symm, fun h => congrArg Except.ok h.symm⟩

/-- With scalars whose texts hold no closing brace for its keys, a text of the payload is rendered
to what its tokens stand for exactly when it does not start with a placeholder and end with another
one, or when the parameters hold that very text under the name between its outer braces. -/
theorem TemplateText.renderPayloadString_iff (json : SerdeJson) (template : CommandTemplate)
    (text : TemplateText) (params : ValueMap) (hscalars : text.Scalars json params)
    (hclose : text.NoClosing json params) :
    (∃ value, text.payloadValue json params = some value ∧
        renderPayloadString json template text.string params = .ok value) ↔
      ¬ text.Enclosed ∨
        BTreeMap.get params text.inner = some (.string (text.inserted json params)) := by
  cases hkey : text.exactKey with
  | some key =>
    have hplain : ¬ text.Enclosed := fun h => by
      rw [h.1] at hkey
      cases hkey
    refine iff_of_true ?_ (Or.inl hplain)
    have htoken : Token.placeholder key ∈ text.tokens := by
      rw [tokens_of_exactKey hkey]
      exact List.mem_singleton_self _
    have hsome := hscalars key (mem_keys.mpr htoken)
    cases hget : BTreeMap.get params key with
    | none =>
      rw [paramText, hget] at hsome
      cases hsome
    | some value =>
      refine ⟨value, ?_, ?_⟩
      · rw [payloadValue, hkey]
        exact hget
      · rw [renderPayloadString_of_key (exactPlaceholderKey_of_exactKey hkey)]
        exact ⟨(text.wellFormed _ htoken).2, hget⟩
  | none =>
    have hvalue : text.payloadValue json params = some (.string (text.inserted json params)) := by
      rw [payloadValue, hkey]
    rw [hvalue]
    simp only [Option.some_inj, exists_eq_left']
    by_cases henclosed : text.Enclosed
    · have hblank : (trim text.inner).isEmpty = false := by
        rw [Bool.eq_false_iff, Ne, trim_isEmpty_iff]
        intro hblank
        exact absurd (hblank _ henclosed.closing_mem_inner) (by decide)
      rw [renderPayloadString_of_key henclosed.exactPlaceholderKey]
      simp [henclosed, hblank]
    · rw [renderPayloadString_of_text (exactPlaceholderKey_of_not_enclosed hkey henclosed)]
      refine iff_of_true ?_ (Or.inl henclosed)
      exact ⟨_, text.scalar_render_eq_ok_iff.mpr ⟨hscalars, hclose, rfl⟩, rfl⟩

end Values

/-! ## A range -/

section Range

/-- No number is written. -/
def textJson : SerdeJson where
  fromSlice _ := .error "expected value"
  toVec _ := .error "unknown value"
  numberToString _ := "0"

def rangeTemplate : CommandTemplate where
  id := ⟨"set-range"⟩
  name := "Set range"
  brokerId := ⟨"main"⟩
  topicTemplate := "range"
  payloadTemplate := .null
  qos := .atLeastOnce
  retain := false
  enabled := true

/-- `{low}-{high}`. -/
def rangeText : TemplateText where
  tokens := [.placeholder "low", .char '-', .placeholder "high"]
  wellFormed := by decide

/-- `={low}`. -/
def levelText : TemplateText where
  tokens := [.char '=', .placeholder "low"]
  wellFormed := by decide

def rangeParams : ValueMap := [("high", .string "9"), ("low", .string "1")]

theorem TemplateText.renderPayloadString_iff_level :
    ∃ value, levelText.payloadValue textJson rangeParams = some value ∧
      renderPayloadString textJson rangeTemplate levelText.string rangeParams = .ok value := by
  have hscalars : levelText.Scalars textJson rangeParams := by
    unfold Scalars
    decide
  have hclose : levelText.NoClosing textJson rangeParams := by
    unfold NoClosing
    decide
  refine (levelText.renderPayloadString_iff textJson rangeTemplate rangeParams hscalars
    hclose).mpr (Or.inl ?_)
  rintro ⟨-, ⟨key, hhead⟩, -⟩
  cases hhead

/-- A range is two placeholders, and the renderer looks for one parameter. -/
theorem rangeText_not_rendered :
    rangeText.Scalars textJson rangeParams ∧ rangeText.NoClosing textJson rangeParams ∧
      rangeText.payloadValue textJson rangeParams = some (.string "1-9") ∧
      renderPayloadString textJson rangeTemplate rangeText.string rangeParams =
        .error (.missingParameter rangeTemplate.id "low\x7d-\x7bhigh") := by
  refine ⟨?_, ?_, by rfl, by rfl⟩
  · unfold TemplateText.Scalars
    decide
  · unfold TemplateText.NoClosing
    decide

/-- A value with a closing brace is refused, and another text in its place is not. -/
theorem levelText_not_verbatim :
    let bracedParams : ValueMap := [("high", .string "9"), ("low", .string "1\x7d")]
    levelText.Scalars textJson bracedParams ∧ SameButTexts bracedParams rangeParams ∧
      (¬ ∃ result, renderTextTemplate rangeTemplate .payload levelText.string bracedParams
        (scalarParam textJson rangeTemplate) = .ok result) ∧
      ∃ result, renderTextTemplate rangeTemplate .payload levelText.string rangeParams
        (scalarParam textJson rangeTemplate) = .ok result := by
  refine ⟨?_, fun key => ?_, ?_, "=1", ?_⟩
  · unfold TemplateText.Scalars
    decide
  · by_cases hkey : key = "low"
    · exact Or.inr ⟨"1\x7d", "1", by rw [hkey]; rfl, by rw [hkey]; rfl⟩
    · have hfalse : ("low" == key) = false := beq_eq_false_iff_ne.mpr (Ne.symm hkey)
      exact Or.inl (by simp [rangeParams, BTreeMap.get, List.find?_cons, hfalse])
  · rintro ⟨result, h⟩
    obtain ⟨-, hclose, -⟩ := levelText.scalar_render_eq_ok_iff.mp h
    exact absurd (hclose "low" (by decide)) (by decide)
  · rw [levelText.scalar_render_eq_ok_iff]
    refine ⟨?_, ?_, by rfl⟩
    · unfold TemplateText.Scalars
      decide
    · unfold TemplateText.NoClosing
      decide

end Range

end Core
end PipeBolt
