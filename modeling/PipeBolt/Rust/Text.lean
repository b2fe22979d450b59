import Mathlib.Data.List.TakeWhile
import PipeBolt.Lib.Separated

/-!
# Rust strings

The operations of `str` and `char` that the validators use, on Lean strings: both are sequences
of Unicode scalar values, with a length in UTF-8 bytes.

A check of the form `bytes().all(..)` or `bytes().any(..)` for ASCII bytes is written on
characters: every byte of a character outside ASCII is at least `0x80`, so such a character fails
every ASCII test as its bytes do.
-/

namespace PipeBolt
namespace Rust

/-- `char::is_control`: the general category `Cc`. -/
def isControl (c : Char) : Bool :=
  c.toNat < 0x20 || (0x7f ≤ c.toNat && c.toNat < 0xa0)

/-- `u8::is_ascii_control`, on a character. -/
def isAsciiControl (c : Char) : Bool :=
  c.toNat < 0x20 || c.toNat == 0x7f

theorem isControl_of_isAsciiControl {c : Char} (h : isAsciiControl c = true) :
    isControl c = true := by
  simp only [isAsciiControl, isControl, Bool.or_eq_true, Bool.and_eq_true, decide_eq_true_eq,
    beq_iff_eq] at h ⊢
  omega

/-- `char::is_whitespace`: the property `White_Space`. -/
def isWhitespace (c : Char) : Bool :=
  (0x09 ≤ c.toNat && c.toNat ≤ 0x0d) || c.toNat == 0x20 || c.toNat == 0x85 || c.toNat == 0xa0 ||
  c.toNat == 0x1680 || (0x2000 ≤ c.toNat && c.toNat ≤ 0x200a) || c.toNat == 0x2028 ||
  c.toNat == 0x2029 || c.toNat == 0x202f || c.toNat == 0x205f || c.toNat == 0x3000

/-- `str::trim`. -/
def trim (s : String) : String :=
  .ofList ((s.toList.dropWhile isWhitespace).reverse.dropWhile isWhitespace).reverse

/-- A text is trimmed to nothing exactly when it is blank. -/
theorem trim_isEmpty_iff {s : String} :
    (trim s).isEmpty = true ↔ ∀ c ∈ s.toList, isWhitespace c = true := by
  rw [String.isEmpty_iff, trim, String.ofList_eq_empty_iff, List.reverse_eq_nil_iff,
    List.dropWhile_eq_nil_iff]
  constructor
  · intro h
    have hstart : s.toList.dropWhile isWhitespace = [] := by
      cases hrest : s.toList.dropWhile isWhitespace with
      | nil => rfl
      | cons c rest =>
        have hhead := List.head?_dropWhile_not isWhitespace s.toList
        rw [hrest] at hhead
        have hc := h c (by rw [hrest]; simp)
        simp [hc] at hhead
    exact List.dropWhile_eq_nil_iff.mp hstart
  · intro h c hc
    have hmem := (List.dropWhile_sublist isWhitespace).mem (List.mem_reverse.mp hc)
    exact h c hmem

/-- `str::len`: the length in UTF-8 bytes. -/
def len (s : String) : Nat := s.utf8ByteSize

/-- `str::to_ascii_lowercase`. -/
def toAsciiLowercase (s : String) : String := .ofList (s.toList.map Char.toLower)

/-- `str::eq_ignore_ascii_case`. -/
def eqIgnoreAsciiCase (s t : String) : Bool :=
  s.toList.map Char.toLower == t.toList.map Char.toLower

theorem eqIgnoreAsciiCase_iff {s t : String} :
    eqIgnoreAsciiCase s t = true ↔ toAsciiLowercase s = toAsciiLowercase t := by
  rw [eqIgnoreAsciiCase, beq_iff_eq, toAsciiLowercase, toAsciiLowercase, String.ofList_inj]

/-- `str::trim_end_matches` with a single character. -/
def trimEndMatches (s : String) (c : Char) : String :=
  .ofList (s.toList.reverse.dropWhile (· == c)).reverse

/-- A text that ends in another character is left as it is. -/
theorem trimEndMatches_eq_self {s : String} {c : Char} (h : s.toList.getLast? ≠ some c) :
    trimEndMatches s c = s := by
  have hdrop : s.toList.reverse.dropWhile (· == c) = s.toList.reverse := by
    cases hs : s.toList.reverse with
    | nil => rfl
    | cons d text =>
      rw [← List.head?_reverse, hs] at h
      have hd : (d == c) = false := beq_eq_false_iff_ne.mpr fun hdc => h (congrArg some hdc)
      rw [List.dropWhile_cons, hd]
      rfl
  rw [trimEndMatches, hdrop, List.reverse_reverse, String.ofList_toList]

/-- A text without upper-case letters is its own lower case. -/
theorem toAsciiLowercase_eq_self {s : String} (h : ∀ c ∈ s.toList, c.toLower = c) :
    toAsciiLowercase s = s := by
  rw [toAsciiLowercase, List.map_congr_left h, List.map_id', String.ofList_toList]

/-- `str::starts_with`. -/
def startsWith (s p : String) : Bool := p.toList.isPrefixOf s.toList

/-- `str::strip_prefix`. -/
def stripPrefix (s p : String) : Option String :=
  if startsWith s p then some (.ofList (s.toList.drop p.toList.length)) else none

theorem stripPrefix_eq_some_iff {s p rest : String} :
    stripPrefix s p = some rest ↔ s = p ++ rest := by
  rw [stripPrefix, startsWith, ← String.toList_inj, String.toList_append]
  constructor
  · intro h
    split at h
    · rename_i hprefix
      obtain ⟨chars, hchars⟩ := List.isPrefixOf_iff_prefix.mp hprefix
      rw [← Option.some.inj h, String.toList_ofList, ← hchars, List.drop_left]
    · cases h
  · intro h
    rw [h, if_pos (List.isPrefixOf_iff_prefix.mpr (List.prefix_append _ _)), List.drop_left,
      String.ofList_toList]

/-- `str::ends_with`. -/
def endsWith (s p : String) : Bool := p.toList.isSuffixOf s.toList

/-- `str::contains` with a text. -/
def containsStr (s p : String) : Bool := s.toList.tails.any (p.toList.isPrefixOf ·)

/-- `str::contains` with a single character. -/
def containsChar (s : String) (c : Char) : Bool := s.toList.contains c

/-- `str::split` with a single character. -/
def split (s : String) (c : Char) : List String := (s.toList.splitOn c).map .ofList

/-- A text is determined by its segments. -/
theorem split_injective (c : Char) : Function.Injective fun s => split s c := by
  intro s t h
  have hseg : s.toList.splitOn c = t.toList.splitOn c :=
    List.map_injective_iff.mpr (fun _ _ => String.ofList_inj.mp) h
  exact String.toList_inj.mp (Separated.splitOn_injective c hseg)

/-- The segments of two texts joined by a separator. -/
theorem split_join {c : Char} {sep : String} (hsep : sep.toList = [c]) (s t : String) :
    split (s ++ sep ++ t) c = split s c ++ split t c := by
  rw [split, String.toList_append, String.toList_append, hsep, List.append_assoc,
    List.singleton_append, Separated.splitOn_join, List.map_append]
  rfl

/-- A segment contains no character that its text does not contain. -/
theorem containsChar_of_mem_split {s level : String} {c d : Char} (h : level ∈ split s c)
    (hd : containsChar level d = true) : containsChar s d = true := by
  obtain ⟨segment, hsegment, rfl⟩ := List.mem_map.mp h
  rw [containsChar, String.toList_ofList, List.contains_iff_mem] at hd
  exact List.contains_iff_mem.mpr (Separated.mem_of_mem_segment hsegment hd)

/-- `str::split_once` with a single character. -/
def splitOnce (s : String) (c : Char) : Option (String × String) :=
  match s.toList.span (· != c) with
  | (_, []) => none
  | (before, _ :: after) => some (.ofList before, .ofList after)

/-- `u8::is_ascii_whitespace`, on a character. -/
def isAsciiWhitespace (c : Char) : Bool :=
  c == ' ' || c == '\t' || c == '\n' || c.toNat == 0x0c || c == '\r'

/-- `str::parse::<u32>`: digits after an optional plus sign. -/
def parseU32 (s : String) : Option UInt32 :=
  let digits :=
    match s.toList with
    | '+' :: rest => rest
    | chars => chars
  if digits.isEmpty || !digits.all Char.isDigit then none
  else
    let n := digits.foldl (fun n c => 10 * n + (c.toNat - '0'.toNat)) 0
    if n < UInt32.size then some (.ofNat n) else none

end Rust
end PipeBolt
