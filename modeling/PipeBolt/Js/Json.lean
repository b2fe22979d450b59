import PipeBolt.Js.Value

/-!
# JSON texts

`JSON.parse`, and `JSON.stringify` with an indent of two spaces.
-/

namespace PipeBolt
namespace Js

/-! ## `JSON.parse` -/

/-- The tokens of JSON: a scalar is `null`, a boolean or a number. -/
inductive JsonToken where
  | openBracket
  | closeBracket
  | openBrace
  | closeBrace
  | comma
  | colon
  | scalar (value : JsValue)
  | string (value : JsString)

/-- The white space of JSON. -/
def isJsonSpace (u : UInt16) : Bool :=
  u == unit ' ' || u == unit '\t' || u == unit '\n' || u == unit '\r'

/-- The tokens of one unit. -/
def punctuation (u : UInt16) : Option JsonToken :=
  if u = unit '[' then some .openBracket
  else if u = unit ']' then some .closeBracket
  else if u = unit '\x7b' then some .openBrace
  else if u = unit '\x7d' then some .closeBrace
  else if u = unit ',' then some .comma
  else if u = unit ':' then some .colon
  else none

/-- The unit of an escape of one letter. -/
def simpleEscape (u : UInt16) : Option UInt16 :=
  if u = unit '"' ∨ u = unit '\\' ∨ u = unit '/' then some u
  else if u = unit 'b' then some 0x08
  else if u = unit 'f' then some 0x0c
  else if u = unit 'n' then some 0x0a
  else if u = unit 'r' then some 0x0d
  else if u = unit 't' then some 0x09
  else none

/-- The rest of a string after its opening quote, with what follows its closing quote. -/
def scanString : JsString → Option (JsString × JsString)
  | [] => none
  | u :: text =>
    if u = unit '"' then some ([], text)
    else if u = unit '\\' then
      match text with
      | [] => none
      | e :: text =>
        if e = unit 'u' then
          match text with
          | a :: b :: c :: d :: text =>
            match hexDigit a, hexDigit b, hexDigit c, hexDigit d with
            | some a, some b, some c, some d =>
              (scanString text).map fun (s, after) =>
                (.ofNat (((a * 16 + b) * 16 + c) * 16 + d) :: s, after)
            | _, _, _, _ => none
          | _ => none
        else
          match simpleEscape e with
          | some v => (scanString text).map fun (s, after) => (v :: s, after)
          | none => none
    else if u.toNat < 0x20 then none
    else (scanString text).map fun (s, after) => (u :: s, after)

/-- A word at the start of a text. -/
def scanWord (word : JsString) (value : JsValue) (text : JsString) :
    Option (JsonToken × JsString) :=
  if word.isPrefixOf text then some (.scalar value, text.drop word.length) else none

/-- The token at the start of a text, with what follows it. -/
def scanToken (text : JsString) : Option (JsonToken × JsString) :=
  if text.head? = some (unit '"') then
    (scanString text.tail).map fun (s, after) => (.string s, after)
  else
    (scanWord (ofString "null") .null text).or <|
      (scanWord (ofString "true") (.bool true) text).or <|
      (scanWord (ofString "false") (.bool false) text).or <|
      (scanJsonNumber text).map fun (x, after) => (.scalar (.number x), after)

theorem length_scanString {text s after : JsString} (h : scanString text = some (s, after)) :
    after.length < text.length := by
  fun_induction scanString text generalizing s after with
  | case1 | case3 | case5 | case6 | case8 | case9 => cases h
  | case2 text =>
    obtain ⟨-, rfl⟩ := Prod.mk.inj (Option.some.inj h)
    exact Nat.lt_succ_self _
  | case4 a b c d text _ _ _ _ _ _ _ _ _ ih =>
    obtain ⟨⟨s', after'⟩, hscan, heq⟩ := Option.map_eq_some_iff.mp h
    obtain ⟨-, rfl⟩ := Prod.mk.inj heq
    have hlt := ih hscan
    simp only [List.length_cons]
    omega
  | case7 e text _ v _ _ ih =>
    obtain ⟨⟨s', after'⟩, hscan, heq⟩ := Option.map_eq_some_iff.mp h
    obtain ⟨-, rfl⟩ := Prod.mk.inj heq
    have hlt := ih hscan
    simp only [List.length_cons]
    omega
  | case10 u text _ _ _ ih =>
    obtain ⟨⟨s', after'⟩, hscan, heq⟩ := Option.map_eq_some_iff.mp h
    obtain ⟨-, rfl⟩ := Prod.mk.inj heq
    have hlt := ih hscan
    simp only [List.length_cons]
    omega

theorem length_scanExponent {text after : JsString} {e : Int}
    (h : scanExponent text = some (e, after)) : after.length ≤ text.length := by
  cases text with
  | nil =>
    obtain ⟨-, rfl⟩ := Prod.mk.inj (Option.some.inj h)
    exact Nat.le_refl _
  | cons u rest =>
    rw [scanExponent] at h
    by_cases hletter : u = unit 'e' ∨ u = unit 'E'
    · rw [if_pos hletter] at h
      obtain ⟨-, heq⟩ := Option.ite_none_left_eq_some.mp h
      obtain ⟨-, rfl⟩ := Prod.mk.inj (Option.some.inj heq)
      refine Nat.le_trans (List.dropWhile_suffix _).length_le ?_
      split
      · rw [List.length_tail, List.length_cons]
        omega
      · exact Nat.le_succ _
    · rw [if_neg hletter] at h
      obtain ⟨-, rfl⟩ := Prod.mk.inj (Option.some.inj h)
      exact Nat.le_refl _

/-- A literal with an integer part is not empty. -/
theorem length_scanDecimal {text after : JsString} {literal : DecimalLiteral}
    (h : scanDecimal text = some (literal, after)) (hint : literal.int ≠ []) :
    after.length < text.length := by
  have hcut := congrArg List.length (List.takeWhile_append_dropWhile (p := isDigit) (l := text))
  rw [List.length_append] at hcut
  rw [scanDecimal] at h
  split at h
  · obtain ⟨⟨e, after'⟩, hscan, heq⟩ := Option.map_eq_some_iff.mp h
    obtain ⟨rfl, rfl⟩ := Prod.mk.inj heq
    have hpos := List.length_pos_of_ne_nil hint
    have hle := length_scanExponent hscan
    have hdrop := (List.dropWhile_suffix (l := (text.dropWhile isDigit).tail) isDigit).length_le
    rw [List.length_tail] at hdrop
    simp only at hpos hle ⊢
    omega
  · obtain ⟨⟨e, after'⟩, hscan, heq⟩ := Option.map_eq_some_iff.mp h
    obtain ⟨rfl, rfl⟩ := Prod.mk.inj heq
    have hpos := List.length_pos_of_ne_nil hint
    have hle := length_scanExponent hscan
    simp only at hpos hle ⊢
    omega

theorem length_scanJsonNumber {text after : JsString} {x : JsNumber}
    (h : scanJsonNumber text = some (x, after)) : after.length < text.length := by
  rw [scanJsonNumber] at h
  split at h
  · next literal rest hscan =>
    split at h
    · next hjson =>
      obtain ⟨-, rfl⟩ := Prod.mk.inj (Option.some.inj h)
      have hint : literal.int ≠ [] := by
        intro hnil
        simp [DecimalLiteral.isJson, hnil] at hjson
      refine Nat.lt_of_lt_of_le (length_scanDecimal hscan hint) ?_
      split
      · rw [List.length_tail]
        exact Nat.sub_le _ _
      · exact Nat.le_refl _
    · cases h
  · cases h

theorem length_scanWord {word text after : JsString} {value : JsValue} {token : JsonToken}
    (hword : word ≠ []) (h : scanWord word value text = some (token, after)) :
    after.length < text.length := by
  rw [scanWord] at h
  obtain ⟨hstart, heq⟩ := Option.ite_none_right_eq_some.mp h
  obtain ⟨-, rfl⟩ := Prod.mk.inj (Option.some.inj heq)
  have hle := (List.isPrefixOf_iff_prefix.mp hstart).length_le
  have hpos := List.length_pos_of_ne_nil hword
  rw [List.length_drop]
  omega

/-- A token is not empty. -/
theorem length_scanToken {text after : JsString} {token : JsonToken}
    (h : scanToken text = some (token, after)) : after.length < text.length := by
  rw [scanToken] at h
  split at h
  · obtain ⟨⟨s, after'⟩, hscan, heq⟩ := Option.map_eq_some_iff.mp h
    obtain ⟨-, rfl⟩ := Prod.mk.inj heq
    have hlt := length_scanString hscan
    rw [List.length_tail] at hlt
    omega
  · simp only [Option.or_eq_some_iff] at h
    rcases h with h | ⟨-, h | ⟨-, h | ⟨-, h⟩⟩⟩
    · exact length_scanWord (by decide) h
    · exact length_scanWord (by decide) h
    · exact length_scanWord (by decide) h
    · obtain ⟨⟨x, after'⟩, hscan, heq⟩ := Option.map_eq_some_iff.mp h
      obtain ⟨-, rfl⟩ := Prod.mk.inj heq
      exact length_scanJsonNumber hscan

/-- The tokens of a text. -/
def tokenize (text : JsString) : Option (List JsonToken) :=
  match text with
  | [] => some []
  | u :: rest =>
    if isJsonSpace u then tokenize rest
    else
      match punctuation u with
      | some token => (tokenize rest).map (token :: ·)
      | none =>
        match _ : scanToken (u :: rest) with
        | some (token, after) => (tokenize after).map (token :: ·)
        | none => none
termination_by text.length
decreasing_by
  all_goals simp only [List.length_cons]
  · omega
  · omega
  · next hscan =>
    have hlt := length_scanToken hscan
    rw [List.length_cons] at hlt
    omega

/-- What an unfinished array or object has, with the key of the property that is being read. -/
inductive JsonFrame where
  | array (values : List JsValue)
  | object (properties : Properties) (key : JsString)

/-- What the grammar expects next, inside of unfinished arrays and objects. -/
inductive JsonState where
  | value (stack : List JsonFrame)
  | firstItem (stack : List JsonFrame)
  | firstKey (stack : List JsonFrame)
  | key (properties : Properties) (stack : List JsonFrame)
  | colon (properties : Properties) (key : JsString) (stack : List JsonFrame)
  | done (value : JsValue) (stack : List JsonFrame)

/-- The token that a value starts with. -/
def beginValue (stack : List JsonFrame) : JsonToken → Option JsonState
  | .scalar value => some (.done value stack)
  | .string value => some (.done (.string value) stack)
  | .openBracket => some (.firstItem stack)
  | .openBrace => some (.firstKey stack)
  | .closeBracket | .closeBrace | .comma | .colon => none

/-- The token after a value, in the innermost array or object. -/
def endValue (value : JsValue) : List JsonFrame → JsonToken → Option JsonState
  | .array values :: stack, .comma => some (.value (.array (values ++ [value]) :: stack))
  | .array values :: stack, .closeBracket => some (.done (.array (values ++ [value])) stack)
  | .object properties key :: stack, .comma =>
    some (.key (setProperty properties key value) stack)
  | .object properties key :: stack, .closeBrace =>
    some (.done (.object (setProperty properties key value)) stack)
  | _, _ => none

/-- One token of a text. -/
def jsonStep (state : JsonState) (token : JsonToken) : Option JsonState :=
  match state, token with
  | .value stack, token => beginValue stack token
  | .firstItem stack, .closeBracket => some (.done (.array []) stack)
  | .firstItem stack, token => beginValue (.array [] :: stack) token
  | .firstKey stack, .closeBrace => some (.done (.object []) stack)
  | .firstKey stack, .string key => some (.colon [] key stack)
  | .firstKey _, _ => none
  | .key properties stack, .string key => some (.colon properties key stack)
  | .key _ _, _ => none
  | .colon properties key stack, .colon => some (.value (.object properties key :: stack))
  | .colon _ _ _, _ => none
  | .done value stack, token => endValue value stack token

/-- `JSON.parse`, which throws a `SyntaxError` on any other text. -/
def parseJson (text : JsString) : Option JsValue := do
  let tokens ← tokenize text
  match ← tokens.foldlM jsonStep (.value []) with
  | .done value [] => some value
  | _ => none

/-! ## `JSON.stringify` -/

/-- `\u` and four hexadecimal digits. -/
def unicodeEscape (u : UInt16) : JsString :=
  let digit := fun d : Nat => if d < 10 then UInt16.ofNat (0x30 + d) else .ofNat (0x61 + d - 10)
  [unit '\\', unit 'u', digit (u.toNat / 4096), digit (u.toNat / 256 % 16),
    digit (u.toNat / 16 % 16), digit (u.toNat % 16)]

/-- A unit that is no half of a surrogate pair, in a string of JSON. -/
def escapeUnit (u : UInt16) : JsString :=
  if u = unit '"' ∨ u = unit '\\' then [unit '\\', u]
  else if u = 0x08 then [unit '\\', unit 'b']
  else if u = 0x0c then [unit '\\', unit 'f']
  else if u = 0x0a then [unit '\\', unit 'n']
  else if u = 0x0d then [unit '\\', unit 'r']
  else if u = 0x09 then [unit '\\', unit 't']
  else if u.toNat < 0x20 ∨ isHighSurrogate u ∨ isLowSurrogate u then unicodeEscape u
  else [u]

/-- The units of a string between the quotes. -/
def escapeUnits : JsString → JsString
  | [] => []
  | [u] => escapeUnit u
  | u :: v :: units =>
    if isHighSurrogate u && isLowSurrogate v then u :: v :: escapeUnits units
    else escapeUnit u ++ escapeUnits (v :: units)

/-- `QuoteJSONString`. -/
def quoteJson (value : JsString) : JsString := unit '"' :: (escapeUnits value ++ [unit '"'])

/-- A new line with an indent. -/
def newLine (indent : Nat) : JsString := unit '\n' :: List.replicate indent (unit ' ')

/-- The members of an array or of an object, each on a line of its own. -/
def bracketed (opening closing : Char) (indent : Nat) : List JsString → JsString
  | [] => [unit opening, unit closing]
  | member :: members =>
    unit opening :: newLine (indent + 2) ++ member ++
      members.flatMap (fun member => unit ',' :: newLine (indent + 2) ++ member) ++
      newLine indent ++ [unit closing]

mutual

/-- `JSON.stringify(value, null, 2)`, inside of an indent. -/
def stringifyIn (indent : Nat) : JsValue → JsString
  | .null => ofString "null"
  | .bool value => ofString (if value then "true" else "false")
  | .number value => if value.isFinite then value.toText else ofString "null"
  | .string value => quoteJson value
  | .array values => bracketed '[' ']' indent (stringifyItems (indent + 2) values)
  | .object properties =>
    bracketed '\x7b' '\x7d' indent (stringifyProperties (indent + 2) properties)

/-- The elements of an array. -/
def stringifyItems (indent : Nat) : List JsValue → List JsString
  | [] => []
  | value :: values => stringifyIn indent value :: stringifyItems indent values

/-- The properties of an object. -/
def stringifyProperties (indent : Nat) : List (JsString × JsValue) → List JsString
  | [] => []
  | (key, value) :: properties =>
    (quoteJson key ++ unit ':' :: unit ' ' :: stringifyIn indent value) ::
      stringifyProperties indent properties

end

/-- `JSON.stringify(value, null, 2)`. -/
def stringifyJson (value : JsValue) : JsString := stringifyIn 0 value

end Js
end PipeBolt
