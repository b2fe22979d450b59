import Mathlib.Data.Nat.Digits.Lemmas
import PipeBolt.Js.Number

/-!
# The texts of numbers

`Number::toString` and the readings of a decimal: `Number` of a string and the numbers of JSON.
-/

namespace PipeBolt
namespace Js

/-! ## Digits -/

/-- A decimal digit. -/
def isDigit (u : UInt16) : Bool := 0x30 ≤ u.toNat && u.toNat ≤ 0x39

/-- The code unit of a digit. -/
def digitUnit (d : Nat) : UInt16 := .ofNat (0x30 + d)

/-- The value of a sequence of digits. -/
def digitsValue (digits : JsString) : Nat :=
  digits.foldl (fun n u => 10 * n + (u.toNat - 0x30)) 0

/-- The decimal digits of a natural number. -/
def natText (n : Nat) : JsString := (Nat.digits 10 n).reverse.map digitUnit

theorem isDigit_digitUnit {d : Nat} (h : d < 10) : isDigit (digitUnit d) = true := by
  have hval : (digitUnit d).toNat = 0x30 + d := by
    rw [digitUnit, UInt16.toNat_ofNat', Nat.mod_eq_of_lt (by omega)]
  simp only [isDigit, hval, Bool.and_eq_true, decide_eq_true_eq]
  omega

theorem toNat_digitUnit {d : Nat} (h : d < 10) : (digitUnit d).toNat - 0x30 = d := by
  rw [digitUnit, UInt16.toNat_ofNat', Nat.mod_eq_of_lt (by omega)]
  omega

theorem digitsValue_snoc (digits : JsString) (u : UInt16) :
    digitsValue (digits ++ [u]) = 10 * digitsValue digits + (u.toNat - 0x30) := by
  rw [digitsValue, List.foldl_append]
  rfl

/-- Digits in front count as many times as the digits after them allow. -/
theorem digitsValue_append (digits digits' : JsString) :
    digitsValue (digits ++ digits') =
      digitsValue digits * 10 ^ digits'.length + digitsValue digits' := by
  induction digits' using List.reverseRecOn with
  | nil =>
    rw [List.append_nil]
    show digitsValue digits = digitsValue digits * 1 + 0
    omega
  | append_singleton digits' u ih =>
    have hpow : 10 ^ (digits' ++ [u]).length = 10 * 10 ^ digits'.length := by
      rw [List.length_append, List.length_singleton, Nat.pow_succ, Nat.mul_comm]
    rw [← List.append_assoc, digitsValue_snoc, digitsValue_snoc, ih, hpow, Nat.mul_add,
      Nat.mul_left_comm]
    omega

theorem digitsValue_replicate_zero (n : Nat) : digitsValue (List.replicate n (unit '0')) = 0 := by
  induction n with
  | zero => rfl
  | succ n ih =>
    rw [List.replicate_succ', digitsValue_snoc, ih]
    rfl

/-- The digits of a number have its value. -/
theorem digitsValue_natText (n : Nat) : digitsValue (natText n) = n := by
  have hval : ∀ ds : List Nat, (∀ d ∈ ds, d < 10) →
      digitsValue (ds.reverse.map digitUnit) = Nat.ofDigits 10 ds := by
    intro ds
    induction ds with
    | nil => exact fun _ => rfl
    | cons d ds ih =>
      intro hds
      obtain ⟨hd, hds⟩ := List.forall_mem_cons.mp hds
      rw [List.reverse_cons, List.map_append, List.map_singleton, digitsValue_snoc, ih hds,
        toNat_digitUnit hd, Nat.ofDigits_cons]
      exact Nat.add_comm _ _
  rw [natText, hval _ fun d hd => Nat.digits_lt_base (by omega) hd, Nat.ofDigits_digits]

theorem isDigit_of_mem_natText {n : Nat} {u : UInt16} (h : u ∈ natText n) : isDigit u = true := by
  obtain ⟨d, hd, rfl⟩ := List.mem_map.mp h
  exact isDigit_digitUnit (Nat.digits_lt_base (by omega) (List.mem_reverse.mp hd))

theorem natText_ne_nil {n : Nat} (h : n ≠ 0) : natText n ≠ [] := by
  rw [natText, ne_eq, List.map_eq_nil_iff, List.reverse_eq_nil_iff]
  exact Nat.digits_ne_nil_iff_ne_zero.mpr h

/-- The digits of a number do not start with a zero. -/
theorem head_natText (n : Nat) : (natText n).head? ≠ some (unit '0') := by
  rw [natText, List.head?_map, List.head?_reverse]
  intro h
  obtain ⟨d, hd, hunit⟩ := Option.map_eq_some_iff.mp h
  have hne : Nat.digits 10 n ≠ [] := by
    intro hnil
    rw [hnil] at hd
    cases hd
  have hlast : (Nat.digits 10 n).getLast hne = d :=
    Option.some_inj.mp ((List.getLast?_eq_some_getLast hne).symm.trans hd)
  have hn : n ≠ 0 := Nat.digits_ne_nil_iff_ne_zero.mp hne
  have hzero := Nat.getLast_digit_ne_zero 10 hn
  have hmem := Nat.digits_lt_base (b := 10) (m := n) (by omega) (hlast ▸ List.getLast_mem hne)
  rw [hlast] at hzero
  have hd0 := congrArg (fun u : UInt16 => u.toNat - 0x30) hunit
  simp only [toNat_digitUnit hmem] at hd0
  exact hzero hd0

/-! ## `Number::toString` -/

/-- The text of an exponent. -/
def exponentText (e : Int) : JsString :=
  unit 'e' :: (if e < 0 then unit '-' else unit '+') :: natText e.natAbs

/-- The text of the digits in scientific notation. -/
def scientificText (digits : JsString) (e : Int) : JsString :=
  match digits with
  | [] => exponentText e
  | [d] => d :: exponentText e
  | d :: rest => d :: unit '.' :: (rest ++ exponentText e)

/-- The text of the digits with the decimal point after the first `n` of them. -/
def decimalText (digits : JsString) (n : Int) : JsString :=
  let k : Int := digits.length
  if k ≤ n ∧ n ≤ 21 then digits ++ List.replicate (n - k).toNat (unit '0')
  else if 0 < n ∧ n ≤ 21 then digits.take n.toNat ++ unit '.' :: digits.drop n.toNat
  else if -6 < n ∧ n ≤ 0 then
    unit '0' :: unit '.' :: (List.replicate (-n).toNat (unit '0') ++ digits)
  else scientificText digits (n - 1)

/-- `Number::toString` of a positive magnitude. -/
def unitsText (units : Nat) : JsString :=
  let digits := natText (shortestDecimal units).1
  decimalText digits ((shortestDecimal units).2 + digits.length)

/-- `String(value)` of a number. -/
def JsNumber.toText : JsNumber → JsString
  | .nan => ofString "NaN"
  | .infinity negative => (if negative then [unit '-'] else []) ++ ofString "Infinity"
  | .finite negative magnitude =>
    if magnitude.units = 0 then [unit '0']
    else (if negative then [unit '-'] else []) ++ unitsText magnitude.units

/-! ## Decimal literals -/

/-- A decimal literal: its integer part, its fraction when it has a point, and its exponent. -/
structure DecimalLiteral where
  int : JsString
  fraction : Option JsString
  exponent : Int
  deriving DecidableEq

/-- The digits of the literal as one number. -/
def DecimalLiteral.coefficient (literal : DecimalLiteral) : Nat :=
  digitsValue (literal.int ++ literal.fraction.getD [])

/-- The power of ten of its last digit. -/
def DecimalLiteral.scale (literal : DecimalLiteral) : Int :=
  literal.exponent - (literal.fraction.getD []).length

/-- The value of the literal. -/
def DecimalLiteral.toNumber (literal : DecimalLiteral) (negative : Bool) : JsNumber :=
  .ofDecimal negative literal.coefficient literal.scale

/-- `ExponentPart`, when there is one. -/
def scanExponent (text : JsString) : Option (Int × JsString) :=
  match text with
  | [] => some (0, [])
  | u :: rest =>
    if u = unit 'e' ∨ u = unit 'E' then
      let negative := rest.head? = some (unit '-')
      let digits := if negative ∨ rest.head? = some (unit '+') then rest.tail else rest
      let value : Int := digitsValue (digits.takeWhile isDigit)
      if digits.takeWhile isDigit = [] then none
      else some (if negative then -value else value, digits.dropWhile isDigit)
    else some (0, text)

/-- The decimal literal at the start of a text, with what follows it. -/
def scanDecimal (text : JsString) : Option (DecimalLiteral × JsString) :=
  let int := text.takeWhile isDigit
  let rest := text.dropWhile isDigit
  if rest.head? = some (unit '.') then
    (scanExponent (rest.tail.dropWhile isDigit)).map fun (exponent, after) =>
      ({ int, fraction := some (rest.tail.takeWhile isDigit), exponent }, after)
  else
    (scanExponent rest).map fun (exponent, after) => ({ int, fraction := none, exponent }, after)

/-! ## The scan of a text of digits -/

/-- What follows does not continue a decimal literal. -/
def EndsNumber (rest : JsString) : Prop :=
  ∀ u ∈ rest.head?, isDigit u = false ∧ u ≠ unit '.' ∧ u ≠ unit 'e' ∧ u ≠ unit 'E'

/-- What follows does not continue a sequence of digits. -/
def EndsDigits (rest : JsString) : Prop := ∀ u ∈ rest.head?, isDigit u = false

theorem takeWhile_digits {digits rest : JsString} (hdigits : ∀ u ∈ digits, isDigit u = true)
    (hrest : EndsDigits rest) : (digits ++ rest).takeWhile isDigit = digits := by
  rw [List.takeWhile_append_of_pos hdigits]
  cases rest with
  | nil => exact List.append_nil _
  | cons u rest =>
    rw [List.takeWhile_cons, hrest u rfl]
    exact List.append_nil _

theorem dropWhile_digits {digits rest : JsString} (hdigits : ∀ u ∈ digits, isDigit u = true)
    (hrest : EndsDigits rest) : (digits ++ rest).dropWhile isDigit = rest := by
  rw [List.dropWhile_append_of_pos hdigits]
  cases rest with
  | nil => rfl
  | cons u rest =>
    rw [List.dropWhile_cons, hrest u rfl]
    rfl

theorem EndsNumber.endsDigits {rest : JsString} (h : EndsNumber rest) : EndsDigits rest :=
  fun u hu => (h u hu).1

/-- A literal without an exponent. -/
theorem scanExponent_none {rest : JsString} (h : EndsNumber rest) :
    scanExponent rest = some (0, rest) := by
  cases rest with
  | nil => rfl
  | cons u rest =>
    obtain ⟨-, -, hlower, hupper⟩ := h u rfl
    rw [scanExponent, if_neg (not_or.mpr ⟨hlower, hupper⟩)]

theorem scanExponent_exponentText {e : Int} (he : e ≠ 0) {rest : JsString} (h : EndsNumber rest) :
    scanExponent (exponentText e ++ rest) = some (e, rest) := by
  have htake : (natText e.natAbs ++ rest).takeWhile isDigit = natText e.natAbs :=
    takeWhile_digits (fun _ => isDigit_of_mem_natText) h.endsDigits
  have hdrop : (natText e.natAbs ++ rest).dropWhile isDigit = rest :=
    dropWhile_digits (fun _ => isDigit_of_mem_natText) h.endsDigits
  have hne : natText e.natAbs ≠ [] := natText_ne_nil (Int.natAbs_ne_zero.mpr he)
  rw [exponentText, List.cons_append, List.cons_append, scanExponent, if_pos (Or.inl rfl)]
  by_cases hneg : e < 0
  · have hminus : some (unit '-') = some (unit '-') := rfl
    simp only [hneg, if_true, List.head?_cons, List.tail_cons, true_or, htake, hdrop, hne,
      if_false, digitsValue_natText]
    rw [Int.ofNat_natAbs_of_nonpos (Int.le_of_lt hneg), Int.neg_neg]
  · have hminus : ¬ unit '+' = unit '-' := by decide
    simp only [hneg, if_false, List.head?_cons, List.tail_cons, Option.some.injEq, hminus, false_or,
      if_true, htake, hdrop, hne, digitsValue_natText]
    rw [Int.natAbs_of_nonneg (Int.not_lt.mp hneg)]

/-- A literal without a point. -/
theorem scanDecimal_int {int after rest : JsString} {exponent : Int}
    (hint : ∀ u ∈ int, isDigit u = true) (hafter : EndsDigits after)
    (hpoint : after.head? ≠ some (unit '.')) (hscan : scanExponent after = some (exponent, rest)) :
    scanDecimal (int ++ after) = some ({ int, fraction := none, exponent }, rest) := by
  rw [scanDecimal, takeWhile_digits hint hafter, dropWhile_digits hint hafter]
  simp only [hpoint, if_false, hscan, Option.map_some]

/-- A literal with a point. -/
theorem scanDecimal_fraction {int fraction after rest : JsString} {exponent : Int}
    (hint : ∀ u ∈ int, isDigit u = true) (hfraction : ∀ u ∈ fraction, isDigit u = true)
    (hafter : EndsDigits after) (hscan : scanExponent after = some (exponent, rest)) :
    scanDecimal (int ++ unit '.' :: (fraction ++ after)) =
      some ({ int, fraction := some fraction, exponent }, rest) := by
  have hpoint : EndsDigits (unit '.' :: (fraction ++ after)) := by
    intro u hu
    obtain rfl := Option.some_inj.mp hu
    decide
  rw [scanDecimal, takeWhile_digits hint hpoint, dropWhile_digits hint hpoint]
  simp only [List.head?_cons, List.tail_cons, if_true, takeWhile_digits hfraction hafter,
    dropWhile_digits hfraction hafter, hscan, Option.map_some]

/-! ## The text of a decimal is read as the decimal -/

/-- A literal that the grammar of JSON has: no digit is missing, and no zero is in front. -/
def DecimalLiteral.isJson (literal : DecimalLiteral) : Bool :=
  !literal.int.isEmpty && (literal.int.head? != some (unit '0') || literal.int.length == 1) &&
    literal.fraction != some []

theorem roundDecimal_mul_pow (coefficient n : Nat) :
    roundDecimal (coefficient * 10 ^ n) 0 = roundDecimal coefficient n := by
  rw [roundDecimal, roundDecimal, if_pos (by omega), if_pos (by omega), Int.toNat_natCast,
    Int.toNat_zero, Nat.pow_zero, Nat.one_mul, Nat.mul_comm coefficient]

/-- What the reading of a decimal text has to find. -/
def ReadsAs (text rest : JsString) (coefficient : Nat) (exponent : Int) : Prop :=
  ∃ literal, scanDecimal (text ++ rest) = some (literal, rest) ∧ literal.isJson = true ∧
    roundDecimal literal.coefficient literal.scale = roundDecimal coefficient exponent

section Layout

variable {digits rest : JsString}

theorem isDigit_zeros (k : Nat) : ∀ u ∈ List.replicate k (unit '0'), isDigit u = true := by
  intro u hu
  rw [List.eq_of_mem_replicate hu]
  decide

/-- A literal whose integer part starts with no zero. -/
theorem isJson_of_head {literal : DecimalLiteral} (hint : literal.int ≠ [])
    (hlead : literal.int.head? ≠ some (unit '0')) (hfraction : literal.fraction ≠ some []) :
    literal.isJson = true := by
  simp [DecimalLiteral.isJson, hint, hlead, hfraction]

/-- An integer, with zeros after the digits. -/
theorem readsAs_whole (k : Nat) (hdigits : ∀ u ∈ digits, isDigit u = true) (hne : digits ≠ [])
    (hlead : digits.head? ≠ some (unit '0')) (hrest : EndsNumber rest) :
    ReadsAs (digits ++ List.replicate k (unit '0')) rest (digitsValue digits) k := by
  have hint : ∀ u ∈ digits ++ List.replicate k (unit '0'), isDigit u = true :=
    List.forall_mem_append.mpr ⟨hdigits, isDigit_zeros k⟩
  have hpoint : rest.head? ≠ some (unit '.') := fun h => (hrest _ h).2.1 rfl
  have hvalue : digitsValue (digits ++ List.replicate k (unit '0')) =
      digitsValue digits * 10 ^ k := by
    rw [digitsValue_append, digitsValue_replicate_zero, List.length_replicate, Nat.add_zero]
  refine ⟨_, scanDecimal_int hint hrest.endsDigits hpoint (scanExponent_none hrest), ?_, ?_⟩
  · refine isJson_of_head (List.append_ne_nil_of_left_ne_nil hne _) ?_ (Option.some_ne_none _).symm
    rwa [List.head?_append_of_ne_nil _ hne]
  · show roundDecimal (digitsValue (_ ++ [])) 0 = _
    rw [List.append_nil, hvalue, roundDecimal_mul_pow]

/-- Digits on both sides of a point. -/
theorem readsAs_point {int fraction tail : JsString} {e : Int}
    (hint : ∀ u ∈ int, isDigit u = true) (hfraction : ∀ u ∈ fraction, isDigit u = true)
    (htail : EndsDigits (tail ++ rest)) (hscan : scanExponent (tail ++ rest) = some (e, rest))
    (hjson : (DecimalLiteral.mk int (some fraction) e).isJson = true) :
    ReadsAs (int ++ unit '.' :: (fraction ++ tail)) rest (digitsValue (int ++ fraction))
      (e - fraction.length) := by
  have hliteral := scanDecimal_fraction hint hfraction htail hscan
  rw [← List.append_assoc, ← List.cons_append, ← List.append_assoc] at hliteral
  exact ⟨_, hliteral, hjson, rfl⟩

/-- The point between the digits. -/
theorem readsAs_split {n : Nat} (hn : 0 < n) (hlt : n < digits.length)
    (hdigits : ∀ u ∈ digits, isDigit u = true) (hlead : digits.head? ≠ some (unit '0'))
    (hrest : EndsNumber rest) :
    ReadsAs (digits.take n ++ unit '.' :: digits.drop n) rest (digitsValue digits)
      (n - digits.length) := by
  have hint : ∀ u ∈ digits.take n, isDigit u = true := fun u hu =>
    hdigits u (List.mem_of_mem_take hu)
  have hfraction : ∀ u ∈ digits.drop n, isDigit u = true := fun u hu =>
    hdigits u (List.mem_of_mem_drop hu)
  have hjson : (DecimalLiteral.mk (digits.take n) (some (digits.drop n)) 0).isJson = true := by
    refine isJson_of_head ?_ ?_ ?_
    · rw [ne_eq, List.take_eq_nil_iff]
      rintro (rfl | rfl)
      · exact absurd hn (by decide)
      · exact absurd hlt (by simp)
    · rwa [List.head?_take, if_neg (by omega)]
    · rw [ne_eq, Option.some.injEq, List.drop_eq_nil_iff]
      omega
  have h := @readsAs_point rest _ _ [] 0 hint hfraction hrest.endsDigits
    (scanExponent_none hrest) hjson
  have hscale : (0 : Int) - (digits.drop n).length = n - digits.length := by
    rw [List.length_drop]
    omega
  rwa [List.append_nil, List.take_append_drop, hscale] at h

/-- The digits after the point and zeros. -/
theorem readsAs_small (k : Nat) (hdigits : ∀ u ∈ digits, isDigit u = true) (hne : digits ≠ [])
    (hrest : EndsNumber rest) :
    ReadsAs (unit '0' :: unit '.' :: (List.replicate k (unit '0') ++ digits)) rest
      (digitsValue digits) (-k - digits.length) := by
  have hfraction : ∀ u ∈ List.replicate k (unit '0') ++ digits, isDigit u = true :=
    List.forall_mem_append.mpr ⟨isDigit_zeros k, hdigits⟩
  have hjson : (DecimalLiteral.mk [unit '0'] (some (List.replicate k (unit '0') ++ digits))
      0).isJson = true := by
    simp [DecimalLiteral.isJson, hne]
  have hint : ∀ u ∈ [unit '0'], isDigit u = true := isDigit_zeros 1
  have h := @readsAs_point rest _ _ [] 0 hint hfraction hrest.endsDigits
    (scanExponent_none hrest) hjson
  have hvalue : digitsValue ([unit '0'] ++ (List.replicate k (unit '0') ++ digits)) =
      digitsValue digits := by
    rw [digitsValue_append, digitsValue_append, digitsValue_replicate_zero]
    show 0 * _ + _ = _
    omega
  have hscale : (0 : Int) - (List.replicate k (unit '0') ++ digits).length = -k - digits.length := by
    rw [List.length_append, List.length_replicate]
    omega
  rwa [List.append_nil, hvalue, hscale] at h

theorem endsDigits_exponentText (e : Int) : EndsDigits (exponentText e ++ rest) := by
  intro u hu
  obtain rfl := Option.some_inj.mp hu
  decide

/-- Scientific notation. -/
theorem readsAs_scientific {e : Int} (he : e ≠ 0) (hdigits : ∀ u ∈ digits, isDigit u = true)
    (hne : digits ≠ []) (hlead : digits.head? ≠ some (unit '0')) (hrest : EndsNumber rest) :
    ReadsAs (scientificText digits e) rest (digitsValue digits) (e + 1 - digits.length) := by
  have hscan := scanExponent_exponentText he hrest
  match digits, hne with
  | [d], _ =>
    have hpoint : (exponentText e ++ rest).head? ≠ some (unit '.') := by
      rw [exponentText]
      simp [unit]
    have hint : ∀ u ∈ [d], isDigit u = true := hdigits
    have hliteral := scanDecimal_int hint (endsDigits_exponentText e) hpoint hscan
    refine ⟨_, hliteral, ?_, ?_⟩
    · exact isJson_of_head (List.cons_ne_nil _ _) hlead (Option.some_ne_none _).symm
    · show roundDecimal (digitsValue [d]) (e - (0 : Nat)) = roundDecimal _ (e + 1 - (1 : Nat))
      congr 1
      omega
  | d :: d' :: digits', _ =>
    obtain ⟨hd, hdigits'⟩ := List.forall_mem_cons.mp hdigits
    have hint : ∀ u ∈ [d], isDigit u = true := List.forall_mem_singleton.mpr hd
    have hjson : (DecimalLiteral.mk [d] (some (d' :: digits')) e).isJson = true :=
      isJson_of_head (List.cons_ne_nil _ _) hlead (by simp)
    have h := readsAs_point hint hdigits' (endsDigits_exponentText e) hscan hjson
    have hscale : e - (d' :: digits').length = e + 1 - (d :: d' :: digits').length := by
      simp only [List.length_cons]
      omega
    rwa [hscale] at h

end Layout

/-- The text of a decimal is read as that decimal, by the grammar of JSON too. -/
theorem readsAs_decimalText {digits rest : JsString} (n : Int)
    (hdigits : ∀ u ∈ digits, isDigit u = true) (hne : digits ≠ [])
    (hlead : digits.head? ≠ some (unit '0')) (hrest : EndsNumber rest) :
    ReadsAs (decimalText digits n) rest (digitsValue digits) (n - digits.length) := by
  rw [decimalText]
  by_cases hwhole : (digits.length : Int) ≤ n ∧ n ≤ 21
  · rw [if_pos hwhole]
    have hk : ((n - digits.length).toNat : Int) = n - digits.length := by omega
    have h := readsAs_whole (n - digits.length).toNat hdigits hne hlead hrest
    rwa [hk] at h
  rw [if_neg hwhole]
  by_cases hsplit : 0 < n ∧ n ≤ 21
  · rw [if_pos hsplit]
    have hn : (n.toNat : Int) = n := by omega
    have h := readsAs_split (n := n.toNat) (by omega) (by omega) hdigits hlead hrest
    rwa [hn] at h
  rw [if_neg hsplit]
  by_cases hsmall : -6 < n ∧ n ≤ 0
  · rw [if_pos hsmall]
    have hn : -((-n).toNat : Int) = n := by omega
    have h := readsAs_small (-n).toNat hdigits hne hrest
    rwa [hn] at h
  rw [if_neg hsmall]
  have hpos := List.length_pos_of_ne_nil hne
  have h := readsAs_scientific (e := n - 1) (by omega) hdigits hne hlead hrest
  rwa [Int.sub_add_cancel] at h

/-! ## Readings of a number -/

/-- The number at the start of a text of JSON, with what follows it. -/
def scanJsonNumber (text : JsString) : Option (JsNumber × JsString) :=
  let negative : Bool := text.head? = some (unit '-')
  match scanDecimal (if negative then text.tail else text) with
  | some (literal, rest) =>
    if literal.isJson then some (literal.toNumber negative, rest) else none
  | none => none

/-- `StrUnsignedDecimalLiteral` after a sign. -/
def unsignedNumber (negative : Bool) (text : JsString) : JsNumber :=
  if text = ofString "Infinity" then .infinity negative
  else
    match scanDecimal text with
    | some (literal, []) =>
      if literal.int = [] ∧ literal.fraction.getD [] = [] then .nan else literal.toNumber negative
    | some (_, _ :: _) | none => .nan

/-- The radix of `NonDecimalIntegerLiteral`. -/
def radixOf (u : UInt16) : Option Nat :=
  if u = unit 'x' ∨ u = unit 'X' then some 16
  else if u = unit 'o' ∨ u = unit 'O' then some 8
  else if u = unit 'b' ∨ u = unit 'B' then some 2
  else none

/-- The value of a hexadecimal digit. -/
def hexDigit (u : UInt16) : Option Nat :=
  let c := u.toNat
  if 0x30 ≤ c ∧ c ≤ 0x39 then some (c - 0x30)
  else if 0x41 ≤ c ∧ c ≤ 0x46 then some (c - 0x41 + 10)
  else if 0x61 ≤ c ∧ c ≤ 0x66 then some (c - 0x61 + 10)
  else none

/-- The digits of a `NonDecimalIntegerLiteral`. -/
def radixNumber (radix : Nat) (digits : JsString) : JsNumber :=
  match digits.mapM fun u => (hexDigit u).filter (· < radix) with
  | some (d :: ds) => .ofDecimal false ((d :: ds).foldl (fun n d => radix * n + d) 0) 0
  | some [] | none => .nan

/-- `Number(value)` of a string. -/
def toNumber (value : JsString) : JsNumber :=
  let text := trim value
  if text = [] then .ofDecimal false 0 0
  else if text.head? = some (unit '-') then unsignedNumber true text.tail
  else if text.head? = some (unit '+') then unsignedNumber false text.tail
  else
    match text.tail.head?.bind radixOf with
    | some radix =>
      if text.head? = some (unit '0') then radixNumber radix text.tail.tail
      else unsignedNumber false text
    | none => unsignedNumber false text

/-- The number without the sign of its zero. -/
def JsNumber.dropZeroSign : JsNumber → JsNumber
  | .finite negative magnitude => .finite (negative && magnitude.units != 0) magnitude
  | .nan => .nan
  | .infinity negative => .infinity negative

/-- A literal with the value of a magnitude is read as that number. -/
theorem DecimalLiteral.toNumber_eq {literal : DecimalLiteral} {magnitude : Magnitude}
    (h : roundDecimal literal.coefficient literal.scale = magnitude.units) (negative : Bool) :
    literal.toNumber negative = .finite negative magnitude := by
  rw [DecimalLiteral.toNumber, JsNumber.ofDecimal]
  exact ofUnits_eq _ h

/-- The text of a magnitude is read as that magnitude. -/
theorem readsAs_unitsText {units : Nat} (h : Binary64.Representable units) (hpos : 0 < units)
    {rest : JsString} (hrest : EndsNumber rest) :
    ∃ literal, scanDecimal (unitsText units ++ rest) = some (literal, rest) ∧
      literal.isJson = true ∧ roundDecimal literal.coefficient literal.scale = units := by
  have hcoefficient : (shortestDecimal units).1 ≠ 0 := Nat.ne_of_gt (shortestDecimal_pos hpos)
  obtain ⟨literal, hscan, hjson, hround⟩ := readsAs_decimalText
    ((shortestDecimal units).2 + (natText (shortestDecimal units).1).length)
    (fun _ => isDigit_of_mem_natText) (natText_ne_nil hcoefficient)
    (head_natText (shortestDecimal units).1) hrest
  rw [← unitsText] at hscan
  refine ⟨literal, hscan, hjson, ?_⟩
  rw [hround, digitsValue_natText, Int.add_sub_cancel]
  exact roundDecimal_shortestDecimal h

/-- The text of a magnitude starts with a digit, and a zero only before the point. -/
theorem head_decimalText {digits : JsString} (n : Int) (hdigits : ∀ u ∈ digits, isDigit u = true)
    (hne : digits ≠ []) (hlead : digits.head? ≠ some (unit '0')) :
    ∃ d tail, decimalText digits n = d :: tail ∧ isDigit d = true ∧
      (d = unit '0' → tail.head? = some (unit '.')) := by
  obtain ⟨d, digits', rfl⟩ := List.exists_cons_of_ne_nil hne
  have hd := hdigits d List.mem_cons_self
  have hzero : ∀ {p : Prop}, d = unit '0' → p := fun h => absurd (congrArg some h) hlead
  rw [decimalText]
  split
  · exact ⟨d, _, rfl, hd, hzero⟩
  split
  · next hsplit =>
    obtain ⟨k, hk⟩ : ∃ k, n.toNat = k + 1 := ⟨n.toNat - 1, by omega⟩
    rw [hk]
    exact ⟨d, _, rfl, hd, hzero⟩
  split
  · exact ⟨unit '0', _, rfl, by decide, fun _ => rfl⟩
  · cases digits' with
    | nil => exact ⟨d, _, rfl, hd, hzero⟩
    | cons d' digits' => exact ⟨d, _, rfl, hd, hzero⟩

theorem not_isWhitespace_of_isDigit {u : UInt16} (h : isDigit u = true) :
    isWhitespace u = false := by
  simp only [isDigit, Bool.and_eq_true, decide_eq_true_eq] at h
  rw [Bool.eq_false_iff]
  intro hspace
  simp only [isWhitespace, Bool.or_eq_true, Bool.and_eq_true, decide_eq_true_eq, beq_iff_eq]
    at hspace
  omega

theorem not_isWhitespace_exponentText {e : Int} :
    ∀ u ∈ exponentText e, isWhitespace u = false := by
  rw [exponentText, List.forall_mem_cons, List.forall_mem_cons]
  refine ⟨by decide, ?_, fun u hu => not_isWhitespace_of_isDigit (isDigit_of_mem_natText hu)⟩
  split <;> decide

theorem not_isWhitespace_decimalText {digits : JsString} (n : Int)
    (hdigits : ∀ u ∈ digits, isDigit u = true) :
    ∀ u ∈ decimalText digits n, isWhitespace u = false := by
  have hspace : ∀ u ∈ digits, isWhitespace u = false :=
    fun u hu => not_isWhitespace_of_isDigit (hdigits u hu)
  have hzeros : ∀ k, ∀ u ∈ List.replicate k (unit '0'), isWhitespace u = false :=
    fun k u hu => not_isWhitespace_of_isDigit (isDigit_zeros k u hu)
  have hpoint : isWhitespace (unit '.') = false := by decide
  rw [decimalText]
  split
  · exact List.forall_mem_append.mpr ⟨hspace, hzeros _⟩
  split
  · refine List.forall_mem_append.mpr ⟨fun u hu => hspace u (List.mem_of_mem_take hu), ?_⟩
    exact List.forall_mem_cons.mpr ⟨hpoint, fun u hu => hspace u (List.mem_of_mem_drop hu)⟩
  split
  · refine List.forall_mem_cons.mpr ⟨by decide, List.forall_mem_cons.mpr ⟨hpoint, ?_⟩⟩
    exact List.forall_mem_append.mpr ⟨hzeros _, hspace⟩
  · unfold scientificText
    split
    · exact not_isWhitespace_exponentText
    · exact List.forall_mem_cons.mpr
        ⟨hspace _ List.mem_cons_self, not_isWhitespace_exponentText⟩
    · obtain ⟨hd, hrest⟩ := List.forall_mem_cons.mp hspace
      refine List.forall_mem_cons.mpr ⟨hd, List.forall_mem_cons.mpr ⟨hpoint, ?_⟩⟩
      exact List.forall_mem_append.mpr ⟨hrest, not_isWhitespace_exponentText⟩

theorem head_unitsText {units : Nat} (hpos : 0 < units) :
    ∃ d tail, unitsText units = d :: tail ∧ isDigit d = true ∧
      (d = unit '0' → tail.head? = some (unit '.')) := by
  have hcoefficient : (shortestDecimal units).1 ≠ 0 := Nat.ne_of_gt (shortestDecimal_pos hpos)
  rw [unitsText]
  exact head_decimalText _ (fun _ => isDigit_of_mem_natText) (natText_ne_nil hcoefficient)
    (head_natText _)

/-- The text of a number. -/
theorem JsNumber.toText_of_pos {negative : Bool} {magnitude : Magnitude}
    (h : 0 < magnitude.units) :
    (JsNumber.finite negative magnitude).toText =
      if negative then unit '-' :: unitsText magnitude.units else unitsText magnitude.units := by
  rw [toText, if_neg (Nat.ne_of_gt h)]
  cases negative
  · rw [if_neg (by decide), if_neg (by decide), List.nil_append]
  · rw [if_pos rfl, if_pos rfl, List.singleton_append]

/-- The text of zero, whatever its sign. -/
theorem JsNumber.toText_of_zero {negative : Bool} {magnitude : Magnitude}
    (h : magnitude.units = 0) : (JsNumber.finite negative magnitude).toText = [unit '0'] := by
  rw [toText, if_pos h]

theorem roundDecimal_zero : roundDecimal 0 0 = 0 := by
  rw [roundDecimal, if_pos (by decide), Nat.mul_zero, Nat.mul_zero]
  decide

theorem scanDecimal_zero {rest : JsString} (hrest : EndsNumber rest) :
    scanDecimal (unit '0' :: rest) = some (⟨[unit '0'], none, 0⟩, rest) := by
  have hpoint : rest.head? ≠ some (unit '.') := fun h => (hrest _ h).2.1 rfl
  have hint : ∀ u ∈ [unit '0'], isDigit u = true := isDigit_zeros 1
  exact scanDecimal_int hint hrest.endsDigits hpoint (scanExponent_none hrest)

theorem toNumber_zero {magnitude : Magnitude} (h : magnitude.units = 0) (negative : Bool) :
    (DecimalLiteral.mk [unit '0'] none 0).toNumber negative = .finite negative magnitude := by
  refine DecimalLiteral.toNumber_eq ?_ negative
  rw [h]
  exact roundDecimal_zero

theorem isDigit_ne {u : UInt16} {c : Char} (h : isDigit u = true)
    (hc : isDigit (unit c) = false) : u ≠ unit c := by
  rintro rfl
  rw [h] at hc
  cases hc

/-- In JSON the text of a finite number is read as that number, without the sign of its zero. -/
theorem scanJsonNumber_toText {x : JsNumber} (hx : x.isFinite = true) {rest : JsString}
    (hrest : EndsNumber rest) : scanJsonNumber (x.toText ++ rest) = some (x.dropZeroSign, rest) := by
  match x with
  | .finite negative magnitude =>
    rcases Nat.eq_zero_or_pos magnitude.units with hzero | hpos
    · have hminus : ¬ some (unit '0') = some (unit '-') := by decide
      rw [JsNumber.toText_of_zero hzero, List.singleton_append, scanJsonNumber]
      simp only [List.head?_cons, hminus, decide_false, Bool.false_eq_true, if_false,
        scanDecimal_zero hrest, toNumber_zero hzero]
      simp [DecimalLiteral.isJson, JsNumber.dropZeroSign, hzero]
    · obtain ⟨literal, hscan, hjson, hround⟩ :=
        readsAs_unitsText magnitude.representable hpos hrest
      obtain ⟨d, tail, htext, hd, -⟩ := head_unitsText hpos
      have hminus : ¬ some d = some (unit '-') := by
        rw [Option.some.injEq]
        exact isDigit_ne hd (by decide)
      have hvalue := DecimalLiteral.toNumber_eq hround
      rw [JsNumber.toText_of_pos hpos, scanJsonNumber]
      cases negative with
      | false =>
        simp only [Bool.false_eq_true, if_false]
        rw [htext] at hscan ⊢
        simp only [List.cons_append, List.head?_cons, hminus, decide_false, Bool.false_eq_true,
          if_false]
        rw [← List.cons_append, hscan]
        simp [hjson, hvalue, JsNumber.dropZeroSign]
      | true =>
        simp only [if_true, List.cons_append, List.head?_cons, List.tail_cons, decide_true, hscan]
        simp [hjson, hvalue, JsNumber.dropZeroSign, Nat.ne_of_gt hpos]

theorem endsNumber_nil : EndsNumber [] := fun _ h => (nomatch h)

/-- A text that starts with a digit has neither the radix nor the words of a literal. -/
theorem toNumber_of_digit {text : JsString} (htext : trim text = text) {d : UInt16}
    {tail : JsString} (hcons : text = d :: tail) (hd : isDigit d = true)
    (hzero : d = unit '0' → tail.head?.bind radixOf = none) :
    toNumber text = unsignedNumber false text := by
  have hminus : ¬ some d = some (unit '-') := by
    rw [Option.some.injEq]
    exact isDigit_ne hd (by decide)
  have hplus : ¬ some d = some (unit '+') := by
    rw [Option.some.injEq]
    exact isDigit_ne hd (by decide)
  rw [toNumber, htext, hcons]
  simp only [List.cons_ne_nil, if_false, List.head?_cons, hminus, hplus, List.tail_cons]
  split
  · next radix hradix =>
    refine if_neg fun hd0 => ?_
    rw [hzero (Option.some_inj.mp hd0)] at hradix
    cases hradix
  · rfl

theorem unsignedNumber_eq {text : JsString} {literal : DecimalLiteral} {magnitude : Magnitude}
    {d : UInt16} {tail : JsString} (hcons : text = d :: tail) (hd : isDigit d = true)
    (hscan : scanDecimal text = some (literal, [])) (hjson : literal.isJson = true)
    (hround : roundDecimal literal.coefficient literal.scale = magnitude.units)
    (negative : Bool) : unsignedNumber negative text = .finite negative magnitude := by
  have hword : text ≠ ofString "Infinity" := by
    rw [hcons]
    intro hword
    obtain ⟨rfl, -⟩ := List.cons.inj (hword.trans (by rfl : ofString "Infinity" =
      unit 'I' :: ofString "nfinity"))
    cases hd
  have hint : ¬ (literal.int = [] ∧ literal.fraction.getD [] = []) := by
    rintro ⟨hint, -⟩
    simp [DecimalLiteral.isJson, hint] at hjson
  rw [unsignedNumber, if_neg hword, hscan]
  dsimp only
  rw [if_neg hint]
  exact DecimalLiteral.toNumber_eq hround negative

/-- `Number(String(x))` is the finite number `x`, without the sign of its zero. -/
theorem toNumber_toText {x : JsNumber} (hx : x.isFinite = true) :
    toNumber x.toText = x.dropZeroSign := by
  match x with
  | .finite negative magnitude =>
    rcases Nat.eq_zero_or_pos magnitude.units with hzero | hpos
    · have hround : roundDecimal (DecimalLiteral.mk [unit '0'] none 0).coefficient
          (DecimalLiteral.mk [unit '0'] none 0).scale = magnitude.units := by
        rw [hzero]
        exact roundDecimal_zero
      rw [JsNumber.toText_of_zero hzero, toNumber_of_digit (by rfl) rfl (by decide) fun _ => rfl,
        unsignedNumber_eq rfl (by decide) (scanDecimal_zero endsNumber_nil) (by decide) hround]
      simp [JsNumber.dropZeroSign, hzero]
    · have hcoefficient : (shortestDecimal magnitude.units).1 ≠ 0 :=
        Nat.ne_of_gt (shortestDecimal_pos hpos)
      obtain ⟨literal, hscan, hjson, hround⟩ :=
        readsAs_unitsText magnitude.representable hpos endsNumber_nil
      obtain ⟨d, tail, htext, hd, hpoint⟩ := head_unitsText hpos
      have hspace : ∀ u ∈ unitsText magnitude.units, isWhitespace u = false :=
        not_isWhitespace_decimalText _ fun _ => isDigit_of_mem_natText
      have hradix : d = unit '0' → tail.head?.bind radixOf = none := by
        intro hd0
        rw [hpoint hd0]
        decide
      rw [List.append_nil] at hscan
      rw [JsNumber.toText_of_pos hpos]
      cases negative with
      | false =>
        rw [if_neg (by decide), toNumber_of_digit (trim_eq_self hspace) htext hd hradix,
          unsignedNumber_eq htext hd hscan hjson hround]
        simp [JsNumber.dropZeroSign]
      | true =>
        have htrim : trim (unit '-' :: unitsText magnitude.units) =
            unit '-' :: unitsText magnitude.units :=
          trim_eq_self (List.forall_mem_cons.mpr ⟨by decide, hspace⟩)
        rw [if_pos rfl, toNumber, htrim]
        simp only [List.cons_ne_nil, if_false, List.head?_cons, if_true, List.tail_cons]
        rw [unsignedNumber_eq htext hd hscan hjson hround]
        simp [JsNumber.dropZeroSign, Nat.ne_of_gt hpos]

end Js
end PipeBolt
