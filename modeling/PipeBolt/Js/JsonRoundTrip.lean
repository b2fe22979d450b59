import PipeBolt.Js.Json

/-!
# The round trip of JSON

* `tokenize_stringify`: the tokens of the text of a value.
* `run_value`: the tokens of a value are parsed as that value.
* `parseJson_stringifyJson`: a value of JSON survives its text, but for the sign of a zero.
-/

namespace PipeBolt
namespace Js

/-! ## Values that JSON has -/

/-- Numbers are finite, and objects list their properties in order. -/
inductive JsValue.WellFormed : JsValue → Prop
  | null : WellFormed .null
  | bool (value : Bool) : WellFormed (.bool value)
  | number {value : JsNumber} (h : value.isFinite = true) : WellFormed (.number value)
  | string (value : JsString) : WellFormed (.string value)
  | array {values : List JsValue} (h : ∀ value ∈ values, WellFormed value) :
    WellFormed (.array values)
  | object {properties : Properties} (horder : InOrder properties)
    (h : ∀ property ∈ properties, WellFormed property.2) : WellFormed (.object properties)

mutual

/-- The value without the signs of its zeros. -/
def JsValue.dropZeroSigns : JsValue → JsValue
  | .null => .null
  | .bool value => .bool value
  | .number value => .number value.dropZeroSign
  | .string value => .string value
  | .array values => .array (dropZeroSignsArray values)
  | .object properties => .object (dropZeroSignsObject properties)

/-- The elements of an array. -/
def dropZeroSignsArray : List JsValue → List JsValue
  | [] => []
  | value :: values => value.dropZeroSigns :: dropZeroSignsArray values

/-- The properties of an object. -/
def dropZeroSignsObject : List (JsString × JsValue) → List (JsString × JsValue)
  | [] => []
  | (key, value) :: properties => (key, value.dropZeroSigns) :: dropZeroSignsObject properties

end

/-- The tokens of members, with commas between them. -/
def joinTokens : List (List JsonToken) → List JsonToken
  | [] => []
  | member :: members => member ++ members.flatMap (.comma :: ·)

mutual

/-- The tokens of a value. -/
def tokensOf : JsValue → List JsonToken
  | .null => [.scalar .null]
  | .bool value => [.scalar (.bool value)]
  | .number value => [.scalar (.number value.dropZeroSign)]
  | .string value => [.string value]
  | .array values => .openBracket :: joinTokens (itemTokens values) ++ [.closeBracket]
  | .object properties => .openBrace :: joinTokens (propertyTokens properties) ++ [.closeBrace]

/-- The tokens of the elements of an array. -/
def itemTokens : List JsValue → List (List JsonToken)
  | [] => []
  | value :: values => tokensOf value :: itemTokens values

/-- The tokens of the properties of an object. -/
def propertyTokens : List (JsString × JsValue) → List (List JsonToken)
  | [] => []
  | (key, value) :: properties =>
    (.string key :: .colon :: tokensOf value) :: propertyTokens properties

end

theorem InOrder.dropZeroSigns {properties : Properties} (h : InOrder properties) :
    InOrder (dropZeroSignsObject properties) := by
  have hmap : dropZeroSignsObject properties =
      properties.map fun property => (property.1, property.2.dropZeroSigns) := by
    induction properties with
    | nil => rfl
    | cons property properties ih =>
      rw [dropZeroSignsObject, ih (List.pairwise_cons.mp h).2, List.map_cons]
  rw [hmap]
  exact List.pairwise_map.mpr h

/-! ## The tokens of a value are parsed as the value -/

/-- The first element of an array is read as any other value. -/
theorem run_firstItem (value : JsValue) (stack : List JsonFrame) (rest : List JsonToken) :
    (tokensOf value ++ rest).foldlM jsonStep (.firstItem stack) =
      (tokensOf value ++ rest).foldlM jsonStep (.value (.array [] :: stack)) := by
  cases value <;> rfl

mutual

theorem run_value : ∀ {value : JsValue}, value.WellFormed → ∀ (stack : List JsonFrame)
    (rest : List JsonToken), (tokensOf value ++ rest).foldlM jsonStep (.value stack) =
      rest.foldlM jsonStep (.done value.dropZeroSigns stack)
  | .null, _, _, _ => rfl
  | .bool _, _, _, _ => rfl
  | .number _, _, _, _ => rfl
  | .string _, _, _, _ => rfl
  | .array [], _, _, _ => rfl
  | .array (value :: values), .array h, stack, rest => by
    obtain ⟨hvalue, hvalues⟩ := List.forall_mem_cons.mp h
    have hitems := run_items hvalues [] value.dropZeroSigns stack rest
    rw [← run_value hvalue, ← run_firstItem] at hitems
    have htokens : tokensOf (.array (value :: values)) ++ rest =
        .openBracket :: (tokensOf value ++
          ((itemTokens values).flatMap (.comma :: ·) ++ .closeBracket :: rest)) := by
      simp [tokensOf, itemTokens, joinTokens]
    rw [htokens]
    exact hitems
  | .object [], _, _, _ => rfl
  | .object ((key, value) :: properties), .object horder h, stack, rest => by
    obtain ⟨hvalue, hproperties⟩ := List.forall_mem_cons.mp h
    have hmembers := run_properties hproperties [] key value.dropZeroSigns stack rest
    rw [← run_value hvalue] at hmembers
    have hset : (dropZeroSignsObject properties).foldl
        (fun object property => setProperty object property.1 property.2)
        (setProperty [] key value.dropZeroSigns) =
        dropZeroSignsObject ((key, value) :: properties) :=
      setProperties_eq_self horder.dropZeroSigns
    have htokens : tokensOf (.object ((key, value) :: properties)) ++ rest =
        .openBrace :: .string key :: .colon :: (tokensOf value ++
          ((propertyTokens properties).flatMap (.comma :: ·) ++ .closeBrace :: rest)) := by
      simp [tokensOf, propertyTokens, joinTokens]
    rw [hset] at hmembers
    rw [htokens]
    exact hmembers

theorem run_items : ∀ {values : List JsValue}, (∀ value ∈ values, value.WellFormed) →
    ∀ (items : List JsValue) (value : JsValue) (stack : List JsonFrame) (rest : List JsonToken),
    ((itemTokens values).flatMap (.comma :: ·) ++ .closeBracket :: rest).foldlM jsonStep
        (.done value (.array items :: stack)) =
      rest.foldlM jsonStep (.done (.array (items ++ value :: dropZeroSignsArray values)) stack)
  | [], _, _, _, _, _ => rfl
  | value' :: values, h, items, value, stack, rest => by
    obtain ⟨hvalue, hvalues⟩ := List.forall_mem_cons.mp h
    have hitems := run_items hvalues (items ++ [value]) value'.dropZeroSigns stack rest
    rw [← run_value hvalue] at hitems
    have htokens : (itemTokens (value' :: values)).flatMap (.comma :: ·) ++ .closeBracket :: rest =
        .comma :: (tokensOf value' ++
          ((itemTokens values).flatMap (.comma :: ·) ++ .closeBracket :: rest)) := by
      simp [itemTokens]
    have hlist : items ++ value :: dropZeroSignsArray (value' :: values) =
        items ++ [value] ++ value'.dropZeroSigns :: dropZeroSignsArray values := by
      simp [dropZeroSignsArray]
    rw [htokens, hlist]
    exact hitems

theorem run_properties : ∀ {properties : Properties},
    (∀ property ∈ properties, property.2.WellFormed) →
    ∀ (before : Properties) (key : JsString) (value : JsValue) (stack : List JsonFrame)
      (rest : List JsonToken),
    ((propertyTokens properties).flatMap (.comma :: ·) ++ .closeBrace :: rest).foldlM jsonStep
        (.done value (.object before key :: stack)) =
      rest.foldlM jsonStep (.done (.object ((dropZeroSignsObject properties).foldl
        (fun object property => setProperty object property.1 property.2)
        (setProperty before key value))) stack)
  | [], _, _, _, _, _, _ => rfl
  | (key', value') :: properties, h, before, key, value, stack, rest => by
    obtain ⟨hvalue, hproperties⟩ := List.forall_mem_cons.mp h
    have hmembers := run_properties hproperties (setProperty before key value) key'
      value'.dropZeroSigns stack rest
    rw [← run_value hvalue] at hmembers
    have htokens : (propertyTokens ((key', value') :: properties)).flatMap (.comma :: ·) ++
        .closeBrace :: rest = .comma :: .string key' :: .colon :: (tokensOf value' ++
          ((propertyTokens properties).flatMap (.comma :: ·) ++ .closeBrace :: rest)) := by
      simp [propertyTokens]
    rw [htokens]
    exact hmembers

end

/-! ## The text of a string -/

theorem hexDigit_digit {d : Nat} (h : d < 16) :
    hexDigit (if d < 10 then .ofNat (0x30 + d) else .ofNat (0x61 + d - 10)) = some d := by
  have hall : ∀ d : Fin 16, hexDigit (if d.val < 10 then .ofNat (0x30 + d.val)
      else .ofNat (0x61 + d.val - 10)) = some d.val := by decide
  exact hall ⟨d, h⟩

theorem scanString_unicodeEscape (u : UInt16) (text : JsString) :
    scanString (unicodeEscape u ++ text) =
      (scanString text).map fun (s, after) => (u :: s, after) := by
  have hlt := u.toNat_lt
  have hvalue : ((u.toNat / 4096 * 16 + u.toNat / 256 % 16) * 16 + u.toNat / 16 % 16) * 16 +
      u.toNat % 16 = u.toNat := by
    omega
  have hquote : ¬ unit '\\' = unit '"' := by decide
  rw [unicodeEscape]
  simp only [List.cons_append, List.nil_append, scanString, hquote, if_false, if_true]
  rw [hexDigit_digit (by omega), hexDigit_digit (by omega), hexDigit_digit (by omega),
    hexDigit_digit (by omega)]
  simp only [hvalue, UInt16.ofNat_toNat]

/-- A unit that is written as it is. -/
theorem scanString_raw {u : UInt16} (hquote : u ≠ unit '"') (hback : u ≠ unit '\\')
    (hcontrol : ¬ u.toNat < 0x20) (text : JsString) :
    scanString (u :: text) = (scanString text).map fun (s, after) => (u :: s, after) := by
  rw [scanString.eq_def]
  simp only [hquote, hback, hcontrol, if_false]

/-- A unit that is written as an escape of one letter. -/
theorem scanString_simple {e v : UInt16} (he : e ≠ unit 'u') (h : simpleEscape e = some v)
    (text : JsString) :
    scanString ([unit '\\', e] ++ text) =
      (scanString text).map fun (s, after) => (v :: s, after) := by
  have hquote : ¬ unit '\\' = unit '"' := by decide
  rw [List.cons_append, scanString.eq_def]
  simp only [hquote, if_false, if_true, List.cons_append, List.nil_append, he, h]

theorem scanString_escapeUnit (u : UInt16) (text : JsString) :
    scanString (escapeUnit u ++ text) =
      (scanString text).map fun (s, after) => (u :: s, after) := by
  rw [escapeUnit]
  by_cases hquote : u = unit '"' ∨ u = unit '\\'
  · rw [if_pos hquote]
    rcases hquote with rfl | rfl
    · exact scanString_simple (by decide) (by decide) text
    · exact scanString_simple (by decide) (by decide) text
  rw [if_neg hquote]
  by_cases h08 : u = 0x08
  · rw [if_pos h08, h08]
    exact scanString_simple (by decide) (by decide) text
  rw [if_neg h08]
  by_cases h0c : u = 0x0c
  · rw [if_pos h0c, h0c]
    exact scanString_simple (by decide) (by decide) text
  rw [if_neg h0c]
  by_cases h0a : u = 0x0a
  · rw [if_pos h0a, h0a]
    exact scanString_simple (by decide) (by decide) text
  rw [if_neg h0a]
  by_cases h0d : u = 0x0d
  · rw [if_pos h0d, h0d]
    exact scanString_simple (by decide) (by decide) text
  rw [if_neg h0d]
  by_cases h09 : u = 0x09
  · rw [if_pos h09, h09]
    exact scanString_simple (by decide) (by decide) text
  rw [if_neg h09]
  obtain ⟨hquote, hback⟩ := not_or.mp hquote
  split
  · exact scanString_unicodeEscape u text
  · next hplain => exact scanString_raw hquote hback (fun h => hplain (Or.inl h)) text

theorem scanString_quote (rest : JsString) : scanString (unit '"' :: rest) = some ([], rest) := by
  rw [scanString.eq_def]
  simp only [if_true]

/-- A string of JSON is read as the string. -/
theorem scanString_escapeUnits (value rest : JsString) :
    scanString (escapeUnits value ++ unit '"' :: rest) = some (value, rest) := by
  induction value using escapeUnits.induct with
  | case1 => exact scanString_quote rest
  | case2 u =>
    rw [escapeUnits, scanString_escapeUnit, scanString_quote]
    rfl
  | case3 u v units hpair ih =>
    have hraw : ∀ w : UInt16, isHighSurrogate w = true ∨ isLowSurrogate w = true →
        w ≠ unit '"' ∧ w ≠ unit '\\' ∧ ¬ w.toNat < 0x20 := by
      intro w hw
      have hlarge : 0xd800 ≤ w.toNat := by
        simp only [isHighSurrogate, isLowSurrogate, Bool.and_eq_true, decide_eq_true_eq] at hw
        omega
      refine ⟨?_, ?_, by omega⟩
      · rintro rfl
        exact absurd hlarge (by decide)
      · rintro rfl
        exact absurd hlarge (by decide)
    obtain ⟨hu, hv⟩ := Bool.and_eq_true_iff.mp hpair
    obtain ⟨huq, hub, huc⟩ := hraw u (Or.inl hu)
    obtain ⟨hvq, hvb, hvc⟩ := hraw v (Or.inr hv)
    rw [escapeUnits, if_pos hpair, List.cons_append, List.cons_append,
      scanString_raw huq hub huc, scanString_raw hvq hvb hvc, ih]
    rfl
  | case4 u v units hpair ih =>
    rw [escapeUnits, if_neg hpair, List.append_assoc, scanString_escapeUnit, ih]
    rfl

/-! ## The tokens of the text of a value -/

/-- The tokens of a text, when nothing continues its last one. -/
def Lexes (text : JsString) (tokens : List JsonToken) : Prop :=
  ∀ rest, EndsNumber rest → tokenize (text ++ rest) = (tokenize rest).map (tokens ++ ·)

theorem tokenize_space {u : UInt16} (h : isJsonSpace u = true) (rest : JsString) :
    tokenize (u :: rest) = tokenize rest := by
  rw [tokenize, if_pos h]

theorem tokenize_punctuation {u : UInt16} {token : JsonToken} (hspace : isJsonSpace u = false)
    (h : punctuation u = some token) (rest : JsString) :
    tokenize (u :: rest) = (tokenize rest).map (token :: ·) := by
  rw [tokenize, if_neg (by simp [hspace])]
  simp only [h]

theorem tokenize_token {u : UInt16} {rest after : JsString} {token : JsonToken}
    (hspace : isJsonSpace u = false) (hpunctuation : punctuation u = none)
    (h : scanToken (u :: rest) = some (token, after)) :
    tokenize (u :: rest) = (tokenize after).map (token :: ·) := by
  rw [tokenize, if_neg (by simp [hspace])]
  simp only [hpunctuation]
  split
  · next token' after' hscan =>
    rw [h] at hscan
    obtain ⟨rfl, rfl⟩ := Prod.mk.inj (Option.some.inj hscan)
    rfl
  · next hscan =>
    rw [h] at hscan
    cases hscan

theorem lexes_token {u : UInt16} {text : JsString} {token : JsonToken}
    (hspace : isJsonSpace u = false) (hpunctuation : punctuation u = none)
    (h : ∀ rest, EndsNumber rest → scanToken (u :: (text ++ rest)) = some (token, rest)) :
    Lexes (u :: text) [token] :=
  fun rest hrest => tokenize_token hspace hpunctuation (h rest hrest)

theorem lexes_word {word : String} {u : UInt16} {units : JsString} {value : JsValue}
    (hword : ofString word = u :: units) (hspace : isJsonSpace u = false)
    (hpunctuation : punctuation u = none)
    (h : ∀ rest, scanToken (u :: (units ++ rest)) = some (.scalar value, rest)) :
    Lexes (ofString word) [.scalar value] := by
  rw [hword]
  exact lexes_token hspace hpunctuation fun rest _ => h rest

theorem lexes_null : Lexes (ofString "null") [.scalar .null] :=
  lexes_word (by rfl) (by decide) (by decide) fun _ => rfl

theorem lexes_bool (value : Bool) :
    Lexes (ofString (if value then "true" else "false")) [.scalar (.bool value)] := by
  cases value with
  | false => exact lexes_word (by rfl) (by decide) (by decide) fun _ => rfl
  | true => exact lexes_word (by rfl) (by decide) (by decide) fun _ => rfl

theorem scanToken_quoteJson (value rest : JsString) :
    scanToken (quoteJson value ++ rest) = some (.string value, rest) := by
  have hscan := scanString_escapeUnits value rest
  rw [quoteJson, scanToken, if_pos (by rfl)]
  simp only [List.cons_append, List.tail_cons, List.append_assoc, List.nil_append, hscan,
    Option.map_some]

theorem tokenize_quoteJson (value rest : JsString) :
    tokenize (quoteJson value ++ rest) = (tokenize rest).map (.string value :: ·) :=
  tokenize_token (by decide) (by decide) (scanToken_quoteJson value rest)

/-- A number starts with a digit or a minus. -/
theorem head_toText {x : JsNumber} (hx : x.isFinite = true) :
    ∃ u units, x.toText = u :: units ∧ (isDigit u = true ∨ u = unit '-') := by
  match x with
  | .finite negative magnitude =>
    rcases Nat.eq_zero_or_pos magnitude.units with hzero | hpos
    · exact ⟨unit '0', [], JsNumber.toText_of_zero hzero, Or.inl (by decide)⟩
    · obtain ⟨d, tail, htext, hd, -⟩ := head_unitsText hpos
      rw [JsNumber.toText_of_pos hpos, htext]
      cases negative with
      | false => exact ⟨d, tail, if_neg (by decide), Or.inl hd⟩
      | true => exact ⟨unit '-', d :: tail, if_pos rfl, Or.inr rfl⟩

/-- What a number starts with starts no other token. -/
theorem numberHead {u : UInt16} (h : isDigit u = true ∨ u = unit '-') :
    isJsonSpace u = false ∧ punctuation u = none ∧ u ≠ unit '"' ∧ u ≠ unit 'n' ∧ u ≠ unit 't' ∧
      u ≠ unit 'f' := by
  rcases h with h | rfl
  · have hne : ∀ c : Char, isDigit (unit c) = false → u ≠ unit c := fun c hc => isDigit_ne h hc
    refine ⟨?_, ?_, hne _ (by decide), hne _ (by decide), hne _ (by decide), hne _ (by decide)⟩
    · simp only [isJsonSpace, Bool.or_eq_false_iff, beq_eq_false_iff_ne]
      exact ⟨⟨⟨hne _ (by decide), hne _ (by decide)⟩, hne _ (by decide)⟩, hne _ (by decide)⟩
    · rw [punctuation, if_neg (hne _ (by decide)), if_neg (hne _ (by decide)),
        if_neg (hne _ (by decide)), if_neg (hne _ (by decide)), if_neg (hne _ (by decide)),
        if_neg (hne _ (by decide))]
  · decide

theorem scanWord_of_head {word : JsString} {w u : UInt16} {letters units : JsString}
    {value : JsValue} (hword : word = w :: letters) (hne : u ≠ w) :
    scanWord word value (u :: units) = none := by
  rw [scanWord, hword, if_neg]
  simp [List.isPrefixOf, hne.symm]

theorem lexes_number {x : JsNumber} (hx : x.isFinite = true) :
    Lexes x.toText [.scalar (.number x.dropZeroSign)] := by
  obtain ⟨u, units, htext, hu⟩ := head_toText hx
  obtain ⟨hspace, hpunctuation, hquote, hn, ht, hf⟩ := numberHead hu
  rw [htext]
  refine lexes_token hspace hpunctuation fun rest hrest => ?_
  have hscan := scanJsonNumber_toText hx hrest
  rw [htext, List.cons_append] at hscan
  have hquote' : ¬ (u :: (units ++ rest)).head? = some (unit '"') :=
    fun h => hquote (Option.some_inj.mp h)
  rw [scanToken, if_neg hquote',
    scanWord_of_head (show ofString "null" = unit 'n' :: ofString "ull" by rfl) hn,
    scanWord_of_head (show ofString "true" = unit 't' :: ofString "rue" by rfl) ht,
    scanWord_of_head (show ofString "false" = unit 'f' :: ofString "alse" by rfl) hf, hscan]
  rfl

/-! ## The tokens of the text of an array or an object -/

theorem tokenize_newLine (indent : Nat) (rest : JsString) :
    tokenize (newLine indent ++ rest) = tokenize rest := by
  rw [newLine, List.cons_append, tokenize_space (by decide)]
  induction indent with
  | zero => rfl
  | succ indent ih => rw [List.replicate_succ, List.cons_append, tokenize_space (by decide), ih]

/-- A unit that is no part of a number ends one. -/
theorem endsNumber_cons {u : UInt16} (h : isDigit u = false ∧ u ≠ unit '.' ∧ u ≠ unit 'e' ∧
    u ≠ unit 'E') (rest : JsString) : EndsNumber (u :: rest) := by
  intro v hv
  rwa [← Option.some_inj.mp hv]

theorem endsNumber_newLine (indent : Nat) (rest : JsString) :
    EndsNumber (newLine indent ++ rest) :=
  endsNumber_cons (by decide) _

section Bracketed

variable {indent : Nat} {members : List JsString} {tokens : List (List JsonToken)}

theorem endsNumber_members (rest : JsString) (hrest : EndsNumber rest) :
    EndsNumber (members.flatMap (fun member => unit ',' :: newLine indent ++ member) ++ rest) := by
  cases members with
  | nil => exact hrest
  | cons member members => exact endsNumber_cons (by decide) _

/-- The members after the first one. -/
theorem tokenize_members (h : List.Forall₂ Lexes members tokens) {rest : JsString}
    (hrest : EndsNumber rest) :
    tokenize (members.flatMap (fun member => unit ',' :: newLine indent ++ member) ++ rest) =
      (tokenize rest).map (tokens.flatMap (.comma :: ·) ++ ·) := by
  induction h with
  | nil => simp
  | @cons member token members tokens hmember _ ih =>
    have htext : (member :: members).flatMap (fun member => unit ',' :: newLine indent ++ member) ++
        rest = unit ',' :: (newLine indent ++ (member ++ (members.flatMap
          (fun member => unit ',' :: newLine indent ++ member) ++ rest))) := by
      simp
    rw [htext, tokenize_punctuation (by decide)
        (show punctuation (unit ',') = some .comma by rfl), tokenize_newLine,
      hmember _ (endsNumber_members rest hrest), ih, Option.map_map, Option.map_map]
    congr 1
    funext after
    simp

theorem lexes_bracketed {opening closing : Char} {begins ends : JsonToken}
    (hopening : isJsonSpace (unit opening) = false ∧ punctuation (unit opening) = some begins)
    (hclosing : isJsonSpace (unit closing) = false ∧ punctuation (unit closing) = some ends)
    (h : List.Forall₂ Lexes members tokens) :
    Lexes (bracketed opening closing indent members)
      (begins :: joinTokens tokens ++ [ends]) := by
  intro rest _
  cases h with
  | nil =>
    have htext : bracketed opening closing indent [] ++ rest =
        unit opening :: unit closing :: rest := rfl
    rw [htext, tokenize_punctuation hopening.1 hopening.2,
      tokenize_punctuation hclosing.1 hclosing.2, Option.map_map]
    rfl
  | @cons member token members tokens hmember hmembers =>
    have htext : bracketed opening closing indent (member :: members) ++ rest =
        unit opening :: (newLine (indent + 2) ++ (member ++ (members.flatMap
          (fun member => unit ',' :: newLine (indent + 2) ++ member) ++
            (newLine indent ++ unit closing :: rest)))) := by
      simp [bracketed]
    have hend : EndsNumber (newLine indent ++ unit closing :: rest) := endsNumber_newLine _ _
    rw [htext, tokenize_punctuation hopening.1 hopening.2, tokenize_newLine,
      hmember _ (endsNumber_members _ hend), tokenize_members hmembers hend, tokenize_newLine,
      tokenize_punctuation hclosing.1 hclosing.2, Option.map_map, Option.map_map, Option.map_map]
    congr 1
    funext after
    simp [joinTokens]

end Bracketed

mutual

/-- The tokens of the text of a value are those of the value. -/
theorem lexes_stringifyIn : ∀ {value : JsValue}, value.WellFormed → ∀ indent,
    Lexes (stringifyIn indent value) (tokensOf value)
  | .null, _, _ => lexes_null
  | .bool value, _, _ => lexes_bool value
  | .number value, .number h, _ => by
    rw [stringifyIn, if_pos h]
    exact lexes_number h
  | .string value, _, _ => fun rest _ => tokenize_quoteJson value rest
  | .array values, .array h, indent =>
    lexes_bracketed ⟨by decide, by rfl⟩ ⟨by decide, by rfl⟩ (lexes_items h (indent + 2))
  | .object properties, .object _ h, indent =>
    lexes_bracketed ⟨by decide, by rfl⟩ ⟨by decide, by rfl⟩ (lexes_properties h (indent + 2))

theorem lexes_items : ∀ {values : List JsValue}, (∀ value ∈ values, value.WellFormed) →
    ∀ indent, List.Forall₂ Lexes (stringifyItems indent values) (itemTokens values)
  | [], _, _ => .nil
  | _ :: _, h, indent =>
    .cons (lexes_stringifyIn (h _ List.mem_cons_self) indent)
      (lexes_items (fun value hvalue => h value (List.mem_cons_of_mem _ hvalue)) indent)

theorem lexes_properties : ∀ {properties : Properties},
    (∀ property ∈ properties, property.2.WellFormed) →
    ∀ indent, List.Forall₂ Lexes (stringifyProperties indent properties)
      (propertyTokens properties)
  | [], _, _ => .nil
  | (key, value) :: properties, h, indent => by
    have hvalue := lexes_stringifyIn (h _ List.mem_cons_self) indent
    refine .cons (fun rest hrest => ?_)
      (lexes_properties (fun property hp => h property (List.mem_cons_of_mem _ hp)) indent)
    rw [List.append_assoc, tokenize_quoteJson, List.cons_append,
      tokenize_punctuation (by decide) (show punctuation (unit ':') = some .colon by rfl),
      List.cons_append, tokenize_space (by decide), hvalue rest hrest, Option.map_map,
      Option.map_map]
    rfl

end

/-- A value of JSON survives its text, but for the signs of its zeros. -/
theorem parseJson_stringifyJson {value : JsValue} (h : value.WellFormed) :
    parseJson (stringifyJson value) = some value.dropZeroSigns := by
  have htokens := lexes_stringifyIn h 0 [] endsNumber_nil
  have hrun := run_value h [] []
  rw [List.append_nil] at htokens hrun
  have hnil : tokenize [] = some [] := by simp only [tokenize]
  rw [hnil] at htokens
  simp only [Option.map_some, List.append_nil] at htokens
  rw [parseJson, stringifyJson, htokens]
  show (tokensOf value).foldlM jsonStep (.value []) >>= _ = _
  rw [hrun]
  rfl

end Js
end PipeBolt
