import Mathlib.Data.String.Basic
import PipeBolt.Js.Text
import PipeBolt.Lib.Separated

/-!
# The texts of JavaScript strings

A string without a lone surrogate is the UTF-16 encoding of a text.

* `toText_ofString`, `ofString_toText`: the texts are the strings without a lone surrogate.
* `len_toText`: the bytes that `TextEncoder` counts are those of the text.
* `mem_ofString_iff`, `splitOn_ofString`: an ASCII character is found, and a text cut at it, in the
  encoding as in the text.
-/

namespace PipeBolt
namespace Js

/-- A code point that is half of a surrogate pair. -/
def isSurrogate (codePoint : Nat) : Bool := 0xd800 ≤ codePoint && codePoint < 0xe000

/-- `String.prototype.isWellFormed`. -/
def isWellFormed (value : JsString) : Bool := (codePoints value).all fun c => !isSurrogate c

/-- The text of the code points. -/
def toText (value : JsString) : String := .ofList ((codePoints value).map Char.ofNat)

/-! ## Characters -/

theorem toNat_ofNat {n : Nat} (h : isSurrogate n = false) (hn : n < 0x110000) :
    (Char.ofNat n).toNat = n := by
  have hvalid : n.isValidChar := by
    simp only [isSurrogate, Bool.and_eq_false_iff, decide_eq_false_iff_not] at h
    simp only [Nat.isValidChar]
    omega
  rw [Char.ofNat, dif_pos hvalid]
  rfl

theorem toNat_lt (c : Char) : c.toNat < 0x110000 := by
  have h : c.toNat.isValidChar := c.valid
  simp only [Nat.isValidChar] at h
  omega

theorem not_isSurrogate_toNat (c : Char) : isSurrogate c.toNat = false := by
  have h : c.toNat.isValidChar := c.valid
  simp only [Nat.isValidChar] at h
  simp only [isSurrogate, Bool.and_eq_false_iff, decide_eq_false_iff_not]
  omega

theorem utf8Size_eq (c : Char) : c.utf8Size = utf8Bytes c.toNat := by
  simp only [Char.utf8Size, utf8Bytes, UInt32.le_iff_toNat_le, UInt32.toNat_ofNatLT]
  have hval : c.val.toNat = c.toNat := rfl
  rw [hval]
  split_ifs <;> omega

/-! ## Code points -/

theorem isHighSurrogate_iff {u : UInt16} :
    isHighSurrogate u = true ↔ 0xd800 ≤ u.toNat ∧ u.toNat < 0xdc00 := by
  simp [isHighSurrogate]

theorem isLowSurrogate_iff {u : UInt16} :
    isLowSurrogate u = true ↔ 0xdc00 ≤ u.toNat ∧ u.toNat < 0xe000 := by
  simp [isLowSurrogate]

theorem codePoints_pair {u v : UInt16} (hu : isHighSurrogate u = true)
    (hv : isLowSurrogate v = true) (units : JsString) :
    codePoints (u :: v :: units) =
      (0x10000 + (u.toNat - 0xd800) * 0x400 + (v.toNat - 0xdc00)) :: codePoints units := by
  rw [codePoints, hu, hv]
  rfl

theorem codePoints_lt {value : JsString} : ∀ c ∈ codePoints value, c < 0x110000 := by
  induction value using codePoints.induct with
  | case1 => exact fun c hc => absurd hc List.not_mem_nil
  | case2 u =>
    intro c hc
    obtain rfl := List.mem_singleton.mp hc
    have hu := u.toNat_lt
    omega
  | case3 u v units hpair ih =>
    obtain ⟨hu, hv⟩ := Bool.and_eq_true_iff.mp hpair
    rw [codePoints_pair hu hv]
    have hu := isHighSurrogate_iff.mp hu
    have hv := isLowSurrogate_iff.mp hv
    refine List.forall_mem_cons.mpr ⟨?_, ih⟩
    omega
  | case4 u v units hpair ih =>
    rw [codePoints, if_neg hpair]
    have hu := u.toNat_lt
    refine List.forall_mem_cons.mpr ⟨?_, ih⟩
    omega

/-- The code points of an encoded character. -/
theorem codePoints_encodeChar (c : Char) (units : JsString) :
    codePoints (encodeChar c ++ units) = c.toNat :: codePoints units := by
  have hlt := toNat_lt c
  have hsurrogate := not_isSurrogate_toNat c
  simp only [isSurrogate, Bool.and_eq_false_iff, decide_eq_false_iff_not] at hsurrogate
  rw [encodeChar]
  split
  · next hbasic =>
    have hunit : (UInt16.ofNat c.toNat).toNat = c.toNat := UInt16.toNat_ofNat_of_lt' hbasic
    have hhigh : isHighSurrogate (UInt16.ofNat c.toNat) = false := by
      rw [Bool.eq_false_iff, Ne, isHighSurrogate_iff, hunit]
      omega
    rw [List.singleton_append, codePoints_cons hhigh, hunit]
  · next hbasic =>
    generalize hu : UInt16.ofNat (0xd800 + (c.toNat - 0x10000) / 0x400) = u
    generalize hv : UInt16.ofNat (0xdc00 + (c.toNat - 0x10000) % 0x400) = v
    have hhigh : u.toNat = 0xd800 + (c.toNat - 0x10000) / 0x400 := by
      rw [← hu]
      exact UInt16.toNat_ofNat_of_lt' (show _ < 65536 by omega)
    have hlow : v.toNat = 0xdc00 + (c.toNat - 0x10000) % 0x400 := by
      rw [← hv]
      exact UInt16.toNat_ofNat_of_lt' (show _ < 65536 by omega)
    have hu : isHighSurrogate u = true := isHighSurrogate_iff.mpr (by omega)
    have hv : isLowSurrogate v = true := isLowSurrogate_iff.mpr (by omega)
    have hpoint : 0x10000 + (u.toNat - 0xd800) * 0x400 + (v.toNat - 0xdc00) = c.toNat := by
      rw [hhigh, hlow]
      omega
    rw [List.cons_append, List.singleton_append, codePoints_pair hu hv, hpoint]

theorem codePoints_ofString (s : String) : codePoints (ofString s) = s.toList.map Char.toNat := by
  rw [ofString]
  induction s.toList with
  | nil => rfl
  | cons c text ih => rw [List.flatMap_cons, codePoints_encodeChar, ih, List.map_cons]

theorem ofString_append (s t : String) : ofString (s ++ t) = ofString s ++ ofString t := by
  rw [ofString, ofString, ofString, String.toList_append, List.flatMap_append]

theorem codePoints_ofString_append (s t : String) :
    codePoints (ofString (s ++ t)) = codePoints (ofString s) ++ codePoints (ofString t) := by
  rw [codePoints_ofString, codePoints_ofString, codePoints_ofString, String.toList_append,
    List.map_append]

theorem isWellFormed_ofString (s : String) : isWellFormed (ofString s) = true := by
  rw [isWellFormed, codePoints_ofString, List.all_map, List.all_eq_true]
  intro c _
  simp [not_isSurrogate_toNat c]

theorem toText_ofString (s : String) : toText (ofString s) = s := by
  rw [toText, codePoints_ofString, List.map_map]
  have hid : Char.ofNat ∘ Char.toNat = id := funext Char.ofNat_toNat
  rw [hid, List.map_id, String.ofList_toList]

/-- The code points of a string without a lone surrogate are the characters of its text. -/
theorem codePoints_eq {value : JsString} (h : isWellFormed value = true) :
    (toText value).toList.map Char.toNat = codePoints value := by
  rw [toText, String.toList_ofList, List.map_map]
  refine (List.map_congr_left fun c hc => ?_).trans (List.map_id _)
  have hall := List.all_eq_true.mp h c hc
  rw [Bool.not_eq_true'] at hall
  exact toNat_ofNat hall (codePoints_lt c hc)

theorem encodeChar_of_unit {u : UInt16} (h : isSurrogate u.toNat = false) :
    encodeChar (Char.ofNat u.toNat) = [u] := by
  have hu : u.toNat < 0x10000 := u.toNat_lt
  rw [encodeChar, toNat_ofNat h (by omega), if_pos hu, UInt16.ofNat_toNat]

theorem encodeChar_of_pair {u v : UInt16} (hu : isHighSurrogate u = true)
    (hv : isLowSurrogate v = true) :
    encodeChar (Char.ofNat (0x10000 + (u.toNat - 0xd800) * 0x400 + (v.toNat - 0xdc00))) =
      [u, v] := by
  have hu := isHighSurrogate_iff.mp hu
  have hv := isLowSurrogate_iff.mp hv
  have hpoint : isSurrogate (0x10000 + (u.toNat - 0xd800) * 0x400 + (v.toNat - 0xdc00)) =
      false := by
    simp only [isSurrogate, Bool.and_eq_false_iff, decide_eq_false_iff_not]
    omega
  have hhigh : 0xd800 + (0x10000 + (u.toNat - 0xd800) * 0x400 + (v.toNat - 0xdc00) - 0x10000) /
      0x400 = u.toNat := by omega
  have hlow : 0xdc00 + (0x10000 + (u.toNat - 0xd800) * 0x400 + (v.toNat - 0xdc00) - 0x10000) %
      0x400 = v.toNat := by omega
  rw [encodeChar, toNat_ofNat hpoint (by omega), if_neg (by omega), hhigh, hlow,
    UInt16.ofNat_toNat, UInt16.ofNat_toNat]

/-- A string without a lone surrogate is the encoding of its text. -/
theorem ofString_toText {value : JsString} (h : isWellFormed value = true) :
    ofString (toText value) = value := by
  rw [ofString, toText, String.toList_ofList]
  rw [isWellFormed] at h
  induction value using codePoints.induct with
  | case1 => rfl
  | case2 u =>
    rw [codePoints, List.all_cons, Bool.and_eq_true, Bool.not_eq_true'] at h
    rw [codePoints, List.map_cons, List.flatMap_cons, encodeChar_of_unit h.1]
    rfl
  | case3 u v units hpair ih =>
    obtain ⟨hu, hv⟩ := Bool.and_eq_true_iff.mp hpair
    rw [codePoints_pair hu hv, List.all_cons, Bool.and_eq_true] at h
    rw [codePoints_pair hu hv, List.map_cons, List.flatMap_cons, encodeChar_of_pair hu hv, ih h.2]
    rfl
  | case4 u v units hpair ih =>
    rw [codePoints, if_neg hpair, List.all_cons, Bool.and_eq_true, Bool.not_eq_true'] at h
    rw [codePoints, if_neg hpair, List.map_cons, List.flatMap_cons, encodeChar_of_unit h.1, ih h.2]
    rfl

/-- The bytes of a text are those that `TextEncoder` counts. -/
theorem len_toText {value : JsString} (h : isWellFormed value = true) :
    (toText value).utf8ByteSize = byteLength value := by
  have hbytes : ∀ text : List Char,
      (String.ofList text).utf8ByteSize = ((text.map Char.toNat).map utf8Bytes).sum := by
    intro text
    induction text with
    | nil => rfl
    | cons c text ih =>
      rw [String.utf8ByteSize_ofList] at ih ⊢
      rw [String.utf8Len_cons, ih, List.map_cons, List.map_cons, List.sum_cons, utf8Size_eq,
        Nat.add_comm]
  rw [byteLength, ← codePoints_eq h, ← hbytes, String.ofList_toList]

theorem ofString_injective : Function.Injective ofString :=
  Function.LeftInverse.injective toText_ofString

theorem byteLength_ofString (s : String) : byteLength (ofString s) = s.utf8ByteSize := by
  rw [← len_toText (isWellFormed_ofString s), toText_ofString]

theorem utf8Bytes_pos (codePoint : Nat) : 1 ≤ utf8Bytes codePoint := by
  unfold utf8Bytes
  split_ifs <;> omega

/-- A string has at most as many code points, and code units, as it has bytes. -/
theorem length_le_byteLength (value : JsString) :
    (codePoints value).length ≤ byteLength value ∧ value.length ≤ byteLength value := by
  unfold byteLength
  fun_induction codePoints value with
  | case1 => exact ⟨Nat.le_refl _, Nat.le_refl _⟩
  | case2 u =>
    have hpos := utf8Bytes_pos u.toNat
    simpa using hpos
  | case3 u v units hpair ih =>
    have hbytes : utf8Bytes
        (0x10000 + (u.toNat - 0xd800) * 0x400 + (v.toNat - 0xdc00)) = 4 := by
      unfold utf8Bytes
      rw [if_neg (by omega), if_neg (by omega), if_neg (by omega)]
    rw [List.map_cons, List.sum_cons, hbytes]
    simp only [List.length_cons]
    omega
  | case4 u v units hpair ih =>
    have hpos := utf8Bytes_pos u.toNat
    rw [List.map_cons, List.sum_cons]
    simp only [List.length_cons] at ih ⊢
    omega


/-! ## ASCII characters -/

theorem encodeChar_ascii {c : Char} (h : c.toNat < 0x80) : encodeChar c = [unit c] := by
  rw [encodeChar, if_pos (by omega)]
  rfl

/-- The unit of an ASCII character is part of no other character. -/
theorem unit_mem_encodeChar_iff {c d : Char} (h : c.toNat < 0x80) :
    unit c ∈ encodeChar d ↔ d = c := by
  have hunit : (unit c).toNat = c.toNat := UInt16.toNat_ofNat_of_lt' (show _ < 65536 by omega)
  constructor
  · intro hmem
    have hd := toNat_lt d
    rw [encodeChar] at hmem
    split at hmem
    · next hbasic =>
      have hval := congrArg UInt16.toNat (List.mem_singleton.mp hmem)
      rw [hunit, UInt16.toNat_ofNat_of_lt' hbasic] at hval
      rw [← Char.ofNat_toNat d, ← hval, Char.ofNat_toNat]
    · next hbasic =>
      -- Both halves of a pair lie above the ASCII characters.
      simp only [List.mem_cons, List.not_mem_nil, or_false, ← UInt16.toNat_inj, hunit] at hmem
      rw [UInt16.toNat_ofNat_of_lt' (show _ < 65536 by omega),
        UInt16.toNat_ofNat_of_lt' (show _ < 65536 by omega)] at hmem
      omega
  · rintro rfl
    rw [encodeChar_ascii h]
    exact List.mem_singleton_self _

theorem mem_ofString_iff {c : Char} {s : String} (h : c.toNat < 0x80) :
    unit c ∈ ofString s ↔ c ∈ s.toList := by
  simp [ofString, unit_mem_encodeChar_iff h]

/-- A text is cut at an ASCII character as its encoding is cut at the unit of it. -/
theorem splitOn_ofString {c : Char} (h : c.toNat < 0x80) (s : String) :
    (ofString s).splitOn (unit c) =
      (s.toList.splitOn c).map fun segment => segment.flatMap encodeChar :=
  Separated.splitOn_flatMap (encodeChar_ascii h)
    fun _ _ hd => mt (unit_mem_encodeChar_iff h).mp hd

end Js
end PipeBolt
