import Mathlib.Algebra.GroupWithZero.Nat
import Mathlib.Data.List.DropRight
import Mathlib.Data.List.TakeWhile

/-!
# JavaScript strings

Strings as sequences of UTF-16 code units, with the operations that the web application uses.  A
surrogate that is not half of a pair is a code point of its own.

* `codePoints_cons`, `codePoints_snoc`: a unit that is no surrogate is a code point of its own.
* `codePoints_trim`: what the trimming removes are code points of white space.
-/

namespace PipeBolt
namespace Js

/-- A string: its code units. -/
abbrev JsString := List UInt16

/-- The code unit of a character of the basic plane. -/
def unit (c : Char) : UInt16 := .ofNat c.toNat

/-- `0xD800` to `0xDBFF`. -/
def isHighSurrogate (u : UInt16) : Bool := 0xd800 ≤ u.toNat && u.toNat < 0xdc00

/-- `0xDC00` to `0xDFFF`. -/
def isLowSurrogate (u : UInt16) : Bool := 0xdc00 ≤ u.toNat && u.toNat < 0xe000

/-- The UTF-16 encoding of a character. -/
def encodeChar (c : Char) : JsString :=
  if c.toNat < 0x10000 then [.ofNat c.toNat]
  else [.ofNat (0xd800 + (c.toNat - 0x10000) / 0x400), .ofNat (0xdc00 + (c.toNat - 0x10000) % 0x400)]

/-- The UTF-16 encoding of a text. -/
def ofString (s : String) : JsString := s.toList.flatMap encodeChar

/-- The code points of a string: `[...value]` with `codePointAt(0)`. -/
def codePoints : JsString → List Nat
  | [] => []
  | [u] => [u.toNat]
  | u :: v :: units =>
    if isHighSurrogate u && isLowSurrogate v then
      (0x10000 + (u.toNat - 0xd800) * 0x400 + (v.toNat - 0xdc00)) :: codePoints units
    else u.toNat :: codePoints (v :: units)

/-- The bytes of a code point in UTF-8; a lone surrogate is replaced by `U+FFFD`. -/
def utf8Bytes (codePoint : Nat) : Nat :=
  if codePoint < 0x80 then 1
  else if codePoint < 0x800 then 2
  else if codePoint < 0x10000 then 3
  else 4

/-- `textEncoder.encode(value).byteLength`. -/
def byteLength (value : JsString) : Nat := ((codePoints value).map utf8Bytes).sum

/-- `WhiteSpace` and `LineTerminator`. -/
def isWhitespace (u : UInt16) : Bool :=
  let c := u.toNat
  (0x09 ≤ c && c ≤ 0x0d) || c == 0x20 || c == 0xa0 || c == 0x1680 ||
  (0x2000 ≤ c && c ≤ 0x200a) || c == 0x2028 || c == 0x2029 || c == 0x202f || c == 0x205f ||
  c == 0x3000 || c == 0xfeff

/-- `String.prototype.trim`. -/
def trim (value : JsString) : JsString :=
  ((value.dropWhile isWhitespace).reverse.dropWhile isWhitespace).reverse

/-- `String.prototype.startsWith`. -/
def startsWith (value search : JsString) : Bool := search.isPrefixOf value

/-- A string without white space is left as it is. -/
theorem trim_eq_self {value : JsString} (h : ∀ u ∈ value, isWhitespace u = false) :
    trim value = value := by
  have hdrop : ∀ units : JsString, (∀ u ∈ units, isWhitespace u = false) →
      units.dropWhile isWhitespace = units := by
    intro units hunits
    cases units with
    | nil => rfl
    | cons u units => rw [List.dropWhile_cons, hunits u List.mem_cons_self]; rfl
  rw [trim, hdrop value h, hdrop, List.reverse_reverse]
  exact fun u hu => h u (List.mem_reverse.mp hu)

theorem not_surrogate_of_isWhitespace {u : UInt16} (h : isWhitespace u = true) :
    isHighSurrogate u = false ∧ isLowSurrogate u = false := by
  simp only [isWhitespace, Bool.or_eq_true, Bool.and_eq_true, decide_eq_true_eq, beq_iff_eq] at h
  simp only [isHighSurrogate, isLowSurrogate, Bool.and_eq_false_iff, decide_eq_false_iff_not]
  omega

/-! ## Code points -/

theorem codePoints_cons {u : UInt16} (h : isHighSurrogate u = false) (units : JsString) :
    codePoints (u :: units) = u.toNat :: codePoints units := by
  cases units with
  | nil => rfl
  | cons v units => simp [codePoints, h]

theorem codePoints_snoc {u : UInt16} (h : isLowSurrogate u = false) (units : JsString) :
    codePoints (units ++ [u]) = codePoints units ++ [u.toNat] := by
  induction units using codePoints.induct with
  | case1 => rfl
  | case2 v => simp [codePoints, h]
  | case3 v w units hpair ih => simp [codePoints, hpair, ih]
  | case4 v w units hpair ih => simp only [List.cons_append, codePoints, hpair] at ih ⊢; simp [ih]

theorem codePoints_dropWhile (units : JsString) :
    ∃ before, codePoints units = before ++ codePoints (units.dropWhile isWhitespace) := by
  induction units with
  | nil => exact ⟨[], rfl⟩
  | cons u units ih =>
    by_cases hspace : isWhitespace u = true
    · obtain ⟨before, hbefore⟩ := ih
      have hhigh := (not_surrogate_of_isWhitespace hspace).1
      refine ⟨u.toNat :: before, ?_⟩
      rw [codePoints_cons hhigh, hbefore, List.dropWhile_cons, if_pos hspace, List.cons_append]
    · rw [List.dropWhile_cons, if_neg hspace]
      exact ⟨[], rfl⟩

theorem codePoints_rdropWhile (units : JsString) :
    ∃ after, codePoints units = codePoints (units.rdropWhile isWhitespace) ++ after := by
  induction units using List.reverseRecOn with
  | nil => exact ⟨[], rfl⟩
  | append_singleton units u ih =>
    by_cases hspace : isWhitespace u = true
    · obtain ⟨after, hafter⟩ := ih
      have hlow := (not_surrogate_of_isWhitespace hspace).2
      refine ⟨after ++ [u.toNat], ?_⟩
      rw [codePoints_snoc hlow, List.rdropWhile_concat_pos _ _ _ hspace, ← List.append_assoc,
        ← hafter]
    · rw [List.rdropWhile_concat_neg _ _ _ hspace]
      exact ⟨[], (List.append_nil _).symm⟩

/-- The code points of a string are those of the trimmed one between others. -/
theorem codePoints_trim (value : JsString) :
    ∃ before after, codePoints value = before ++ codePoints (trim value) ++ after := by
  obtain ⟨before, hbefore⟩ := codePoints_dropWhile value
  obtain ⟨after, hafter⟩ := codePoints_rdropWhile (value.dropWhile isWhitespace)
  refine ⟨before, after, ?_⟩
  rw [hbefore, hafter, List.append_assoc]
  rfl

theorem byteLength_trim_le (value : JsString) : byteLength (trim value) ≤ byteLength value := by
  obtain ⟨before, after, h⟩ := codePoints_trim value
  rw [byteLength, byteLength, h, List.map_append, List.map_append, List.sum_append, List.sum_append]
  omega

/-- A trimmed string starts with a character that is not white space. -/
theorem trim_head {value units : JsString} {u : UInt16} (h : trim value = u :: units) :
    isWhitespace u = false := by
  have hp : trim value <+: value.dropWhile isWhitespace := List.rdropWhile_prefix _ _
  obtain ⟨rest, hrest⟩ := hp
  rw [h] at hrest
  have hhead := List.head?_dropWhile_not isWhitespace value
  rw [← hrest] at hhead
  simpa using hhead

end Js
end PipeBolt
