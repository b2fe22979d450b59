import Mathlib.Data.Vector.Basic
import PipeBolt.Rust.Text

/-!
# IP addresses

`std::net::IpAddr`: the two address families, the predicates that name reserved ranges, the text of
an IPv4 address and `IpAddr::from_str`.

The parser follows `core::net::parser`: each reader takes the text that is left and returns a value
with the text after it, or nothing, and then the text is as it was.

* `parseIpAddr_display`: the text of an IPv4 address parses to the address.
* `parseIpAddr_bracket`: no text that begins with `'['` parses.
-/

namespace PipeBolt
namespace Rust

/-- `std::net::Ipv4Addr`. -/
structure Ipv4Addr where
  octet0 : UInt8
  octet1 : UInt8
  octet2 : UInt8
  octet3 : UInt8
  deriving DecidableEq, Repr

/-- `std::net::Ipv6Addr`. -/
structure Ipv6Addr where
  segments : Vector UInt16 8
  deriving DecidableEq

/-- `std::net::IpAddr`. -/
inductive IpAddr where
  | v4 (addr : Ipv4Addr)
  | v6 (addr : Ipv6Addr)
  deriving DecidableEq

/-! ## Reserved ranges -/

namespace Ipv4Addr

/-- `Ipv4Addr::is_private`. -/
def isPrivate (addr : Ipv4Addr) : Bool :=
  addr.octet0 == 10 || (addr.octet0 == 172 && 16 ≤ addr.octet1 && addr.octet1 ≤ 31) ||
    (addr.octet0 == 192 && addr.octet1 == 168)

/-- `Ipv4Addr::is_loopback`. -/
def isLoopback (addr : Ipv4Addr) : Bool := addr.octet0 == 127

/-- `Ipv4Addr::is_link_local`. -/
def isLinkLocal (addr : Ipv4Addr) : Bool := addr.octet0 == 169 && addr.octet1 == 254

/-- `Ipv4Addr::is_multicast`. -/
def isMulticast (addr : Ipv4Addr) : Bool := 224 ≤ addr.octet0 && addr.octet0 ≤ 239

/-- `Ipv4Addr::is_broadcast`. -/
def isBroadcast (addr : Ipv4Addr) : Bool := addr == ⟨255, 255, 255, 255⟩

/-- `Ipv4Addr::is_documentation`. -/
def isDocumentation (addr : Ipv4Addr) : Bool :=
  (addr.octet0 == 192 && addr.octet1 == 0 && addr.octet2 == 2) ||
    (addr.octet0 == 198 && addr.octet1 == 51 && addr.octet2 == 100) ||
    (addr.octet0 == 203 && addr.octet1 == 0 && addr.octet2 == 113)

/-- `Ipv4Addr::is_unspecified`. -/
def isUnspecified (addr : Ipv4Addr) : Bool := addr == ⟨0, 0, 0, 0⟩

end Ipv4Addr

namespace Ipv6Addr

/-- The first of `Ipv6Addr::segments`. -/
def segment0 (addr : Ipv6Addr) : UInt16 := addr.segments[0]

/-- `Ipv6Addr::is_loopback`. -/
def isLoopback (addr : Ipv6Addr) : Bool := addr.segments.toList == [0, 0, 0, 0, 0, 0, 0, 1]

/-- `Ipv6Addr::is_unspecified`. -/
def isUnspecified (addr : Ipv6Addr) : Bool := addr.segments.toList == [0, 0, 0, 0, 0, 0, 0, 0]

/-- `Ipv6Addr::is_multicast`. -/
def isMulticast (addr : Ipv6Addr) : Bool := addr.segment0 &&& 0xff00 == 0xff00

end Ipv6Addr

/-! ## The parser -/

/-- `char::to_digit`. -/
def toDigit (radix : Nat) (c : Char) : Option Nat :=
  let digit :=
    if '0' ≤ c ∧ c ≤ '9' then c.toNat - '0'.toNat
    else if 'a' ≤ c ∧ c ≤ 'z' then c.toNat - 'a'.toNat + 10
    else if 'A' ≤ c ∧ c ≤ 'Z' then c.toNat - 'A'.toNat + 10
    else radix
  if digit < radix then some digit else none

/-- The loop of `read_number`, with the number and the count of digits read so far. -/
def readDigits (radix maxDigits : Nat) :
    Nat → Nat → List Char → Option (Nat × Nat × List Char)
  | result, count, [] => some (result, count, [])
  | result, count, c :: text =>
    match toDigit radix c with
    | none => some (result, count, c :: text)
    | some digit =>
      if maxDigits < count + 1 then none
      else readDigits radix maxDigits (result * radix + digit) (count + 1) text

/-- `read_number`, for a number that must fit below `size`. -/
def readNumber (radix maxDigits : Nat) (allowZeroPrefix : Bool) (size : Nat) (text : List Char) :
    Option (Nat × List Char) :=
  match readDigits radix maxDigits 0 0 text with
  | none => none
  | some (result, count, left) =>
    if count = 0 then none
    else if !allowZeroPrefix && text.head? == some '0' && 1 < count then none
    else if result < size then some (result, left)
    else none

/-- `read_given_char`. -/
def readGivenChar (target : Char) : List Char → Option (List Char)
  | [] => none
  | c :: text => if c = target then some text else none

/-- `read_separator`. -/
def readSeparator {α : Type} (sep : Char) (index : Nat)
    (inner : List Char → Option (α × List Char)) (text : List Char) : Option (α × List Char) :=
  if 0 < index then (readGivenChar sep text).bind inner else inner text

/-- One octet of `read_ipv4_addr`. -/
def readOctet (index : Nat) (text : List Char) : Option (UInt8 × List Char) :=
  (readSeparator '.' index (readNumber 10 3 false 256) text).map fun (n, left) => (.ofNat n, left)

/-- `read_ipv4_addr`. -/
def readIpv4Addr (text : List Char) : Option (Ipv4Addr × List Char) := do
  let (octet0, text) ← readOctet 0 text
  let (octet1, text) ← readOctet 1 text
  let (octet2, text) ← readOctet 2 text
  let (octet3, text) ← readOctet 3 text
  return (⟨octet0, octet1, octet2, octet3⟩, text)

/-- `u16::from_be_bytes`. -/
def u16FromBeBytes (high low : UInt8) : UInt16 := .ofNat (high.toNat * 256 + low.toNat)

/-- The loop of `read_groups`, with the number of slots left and the index of the next one. -/
def readGroups : Nat → Nat → List Char → List UInt16 × Bool × List Char
  | 0, _, text => ([], false, text)
  | left + 1, index, text =>
    -- An embedded IPv4 address takes two slots.
    match if 0 < left then readSeparator ':' index readIpv4Addr text else none with
    | some (addr, text) =>
      ([u16FromBeBytes addr.octet0 addr.octet1, u16FromBeBytes addr.octet2 addr.octet3], true, text)
    | none =>
      match readSeparator ':' index (readNumber 16 4 true 65536) text with
      | some (group, text) =>
        let (groups, ipv4, text) := readGroups left (index + 1) text
        (.ofNat group :: groups, ipv4, text)
      | none => ([], false, text)

/-- The groups before and after `"::"`, with zeroes between them. -/
def Ipv6Addr.ofGroups (head tail : List UInt16) : Ipv6Addr where
  segments := .ofFn fun i : Fin 8 =>
    if 8 ≤ i.val + tail.length then tail.getD (i.val + tail.length - 8) 0 else head.getD i.val 0

/-- `read_ipv6_addr`. -/
def readIpv6Addr (text : List Char) : Option (Ipv6Addr × List Char) :=
  let (head, headIpv4, text) := readGroups 8 0 text
  if head.length = 8 then some (.ofGroups head [], text)
  -- An IPv4 part is not allowed before `::`.
  else if headIpv4 then none
  else do
    let text ← readGivenChar ':' text
    let text ← readGivenChar ':' text
    let (tail, _, text) := readGroups (8 - (head.length + 1)) 0 text
    return (.ofGroups head tail, text)

/-- `read_ip_addr`. -/
def readIpAddr (text : List Char) : Option (IpAddr × List Char) :=
  match readIpv4Addr text with
  | some (addr, text) => some (.v4 addr, text)
  | none => (readIpv6Addr text).map fun (addr, text) => (.v6 addr, text)

/-- `IpAddr::from_str`: the reader must take the whole text. -/
def parseIpAddr (text : String) : Option IpAddr :=
  match readIpAddr text.toList with
  | some (addr, []) => some addr
  | some (_, _ :: _) => none
  | none => none

/-! ## The text of an IPv4 address -/

/-- The decimal digits of an octet. -/
def octetDigits (octet : UInt8) : List Char := Nat.toDigits 10 octet.toNat

/-- `Display` of an `Ipv4Addr`, as characters. -/
def Ipv4Addr.chars (addr : Ipv4Addr) : List Char :=
  octetDigits addr.octet0 ++ '.' :: (octetDigits addr.octet1 ++ '.' :: (octetDigits addr.octet2 ++
    '.' :: octetDigits addr.octet3))

/-- `Display` of an `Ipv4Addr`. -/
def Ipv4Addr.display (addr : Ipv4Addr) : String := .ofList addr.chars

/-- What follows a number: the end of the text or a character that is no digit. -/
def NoDigitHead (text : List Char) : Prop := ∀ c ∈ text.head?, toDigit 10 c = none

/-- Digits that are read to the end of a text are read as far in a longer one. -/
theorem readDigits_append {digits left : List Char} (hleft : NoDigitHead left)
    {result count n k : Nat} (h : readDigits 10 3 result count digits = some (n, k, [])) :
    readDigits 10 3 result count (digits ++ left) = some (n, k, left) := by
  induction digits generalizing result count with
  | nil =>
    simp only [readDigits, Option.some.injEq, Prod.mk.injEq] at h
    obtain ⟨rfl, rfl, -⟩ := h
    cases left with
    | nil => rfl
    | cons c text =>
      have hc : toDigit 10 c = none := hleft c rfl
      simp only [List.nil_append, readDigits, hc]
  | cons c digits ih =>
    simp only [List.cons_append, readDigits] at h ⊢
    cases hc : toDigit 10 c with
    | none =>
      rw [hc] at h
      simp at h
    | some digit =>
      rw [hc] at h
      simp only at h ⊢
      by_cases hcount : 3 < count + 1
      · rw [if_pos hcount] at h
        exact nomatch h
      · rw [if_neg hcount] at h ⊢
        exact ih h

/-- Every octet has one to three digits, which read back to it, and no leading zero. -/
theorem octetDigits_spec : ∀ n : Fin 256,
    readDigits 10 3 0 0 (Nat.toDigits 10 n.val) = some (n.val, (Nat.toDigits 10 n.val).length, []) ∧
    (Nat.toDigits 10 n.val).length ≠ 0 ∧
    ((Nat.toDigits 10 n.val).head? = some '0' → (Nat.toDigits 10 n.val).length = 1) := by
  decide +kernel

theorem readNumber_octetDigits (octet : UInt8) {left : List Char} (hleft : NoDigitHead left) :
    readNumber 10 3 false 256 (octetDigits octet ++ left) = some (octet.toNat, left) := by
  obtain ⟨hread, hlength, hzero⟩ := octetDigits_spec ⟨octet.toNat, octet.toNat_lt⟩
  have hread' := readDigits_append hleft hread
  have hhead : (octetDigits octet ++ left).head? = (octetDigits octet).head? := by
    cases h : octetDigits octet with
    | nil => exact absurd (congrArg List.length h) hlength
    | cons c digits => rfl
  have hlead : ((octetDigits octet).head? == some '0' && decide (1 < (octetDigits octet).length))
      = false := by
    rw [Bool.and_eq_false_iff, decide_eq_false_iff_not, Nat.not_lt]
    by_cases h : (octetDigits octet).head? = some '0'
    · exact Or.inr (Nat.le_of_eq (hzero h))
    · exact Or.inl (beq_eq_false_iff_ne.mpr h)
  rw [readNumber, octetDigits, hread']
  simp only [Bool.not_false, Bool.true_and]
  rw [if_neg hlength, ← octetDigits, hhead]
  simp only [hlead, octet.toNat_lt, if_true]
  rfl

/-- An octet is read back, whether or not a separator stands before it. -/
theorem readOctet_octetDigits (octet : UInt8) {left : List Char} (hleft : NoDigitHead left) :
    readOctet 0 (octetDigits octet ++ left) = some (octet, left) ∧
      ∀ index, readOctet (index + 1) ('.' :: (octetDigits octet ++ left)) = some (octet, left) := by
  have hread := readNumber_octetDigits octet hleft
  have hoctet : UInt8.ofNat octet.toNat = octet := UInt8.ofNat_toNat
  constructor
  · simp only [readOctet, readSeparator, Nat.lt_irrefl, if_false, hread, Option.map_some, hoctet]
  · intro index
    simp only [readOctet, readSeparator, Nat.zero_lt_succ, if_true, readGivenChar,
      Option.bind_some, hread, Option.map_some, hoctet]

/-- The text of an IPv4 address parses to the address. -/
theorem parseIpAddr_display (addr : Ipv4Addr) : parseIpAddr addr.display = some (.v4 addr) := by
  have hdot : ∀ text, NoDigitHead ('.' :: text) := by
    intro text c hc
    rw [← Option.some_inj.mp hc]
    rfl
  have hend : NoDigitHead [] := fun c hc => nomatch hc
  have h0 := (readOctet_octetDigits addr.octet0 (hdot (octetDigits addr.octet1 ++ '.' ::
    (octetDigits addr.octet2 ++ '.' :: octetDigits addr.octet3)))).1
  have h1 := (readOctet_octetDigits addr.octet1 (hdot (octetDigits addr.octet2 ++ '.' ::
    octetDigits addr.octet3))).2 0
  have h2 := (readOctet_octetDigits addr.octet2 (hdot (octetDigits addr.octet3))).2 1
  have h3 := (readOctet_octetDigits addr.octet3 hend).2 2
  rw [List.append_nil] at h3
  have hread : readIpv4Addr addr.chars = some (addr, []) := by
    simp only [Nat.zero_add, Nat.reduceAdd] at h1 h2 h3
    simp [readIpv4Addr, Ipv4Addr.chars, h0, h1, h2, h3]
  rw [parseIpAddr, Ipv4Addr.display, String.toList_ofList, readIpAddr, hread]

/-! ## Bracketed texts -/

theorem readNumber_bracket (radix maxDigits size : Nat) (allowZeroPrefix : Bool)
    (hradix : toDigit radix '[' = none) (text : List Char) :
    readNumber radix maxDigits allowZeroPrefix size ('[' :: text) = none := by
  simp only [readNumber, readDigits, hradix, if_true]

/-- No text that begins with `'['` parses: neither family starts with a bracket. -/
theorem parseIpAddr_bracket {text : String} (h : text.toList.head? = some '[') :
    parseIpAddr text = none := by
  cases htext : text.toList with
  | nil =>
    rw [htext] at h
    exact nomatch h
  | cons c chars =>
    rw [htext] at h
    obtain rfl : c = '[' := Option.some_inj.mp h
    have hv4 : readIpv4Addr ('[' :: chars) = none := by
      simp [readIpv4Addr, readOctet, readSeparator, readNumber_bracket 10 3 256 false rfl chars]
    have hgroups : readGroups 8 0 ('[' :: chars) = ([], false, '[' :: chars) := by
      simp [readGroups, readSeparator, hv4, readNumber_bracket 16 4 65536 true rfl chars]
    have hv6 : readIpv6Addr ('[' :: chars) = none := by
      simp [readIpv6Addr, hgroups, readGivenChar]
    rw [parseIpAddr, htext, readIpAddr, hv4, hv6]
    rfl

/-! ## The text of an address is normal -/

theorem octetDigits_chars (octet : UInt8) :
    ∀ c ∈ octetDigits octet, c.toLower = c ∧ c ≠ '.' := by
  intro c hc
  have hdigit : c.isDigit = true := Nat.isDigit_of_mem_toDigits (by decide) (by decide) hc
  constructor
  · refine dif_neg fun hupper => ?_
    have hle : c.val ≤ '9'.val := of_decide_eq_true (Bool.and_eq_true_iff.mp hdigit).2
    exact absurd (UInt32.le_trans hupper.1 hle) (by decide)
  · rintro rfl
    exact absurd hdigit (by decide)

/-- The text of an IPv4 address is lower case and ends in a digit. -/
theorem Ipv4Addr.display_normal (addr : Ipv4Addr) :
    toAsciiLowercase (trimEndMatches addr.display '.') = addr.display := by
  have hlast : addr.display.toList.getLast? ≠ some '.' := by
    have hnonempty : octetDigits addr.octet3 ≠ [] :=
      fun h => (octetDigits_spec ⟨addr.octet3.toNat, addr.octet3.toNat_lt⟩).2.1
        (congrArg List.length h)
    have hchars : addr.chars = (octetDigits addr.octet0 ++ '.' :: (octetDigits addr.octet1 ++ '.' ::
        (octetDigits addr.octet2 ++ ['.']))) ++ octetDigits addr.octet3 := by
      simp [Ipv4Addr.chars]
    rw [Ipv4Addr.display, String.toList_ofList, hchars, List.getLast?_append_of_ne_nil _ hnonempty]
    intro h
    exact (octetDigits_chars _ _ (List.mem_of_getLast? h)).2 rfl
  rw [trimEndMatches_eq_self hlast]
  apply toAsciiLowercase_eq_self
  intro c hc
  rw [Ipv4Addr.display, String.toList_ofList, Ipv4Addr.chars] at hc
  simp only [List.mem_append, List.mem_cons] at hc
  have hdot : c = '.' → c.toLower = c := by
    rintro rfl
    decide
  rcases hc with hc | hc | hc | hc | hc | hc | hc
  · exact (octetDigits_chars _ c hc).1
  · exact hdot hc
  · exact (octetDigits_chars _ c hc).1
  · exact hdot hc
  · exact (octetDigits_chars _ c hc).1
  · exact hdot hc
  · exact (octetDigits_chars _ c hc).1

end Rust
end PipeBolt
