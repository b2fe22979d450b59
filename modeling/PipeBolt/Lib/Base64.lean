import Mathlib.Data.List.Basic

/-!
# Base64

The standard alphabet with padding.  Three bytes are four symbols of six bits; one or two bytes that
are left over are padded with `=`, and the bits that no byte fills are zero.  The decoder takes a
text only when its padding is there and the unused bits are zero.

* `value_symbol`: the alphabet is read back.
* `decode_encode`: what is encoded is decoded again.
-/

namespace Base64

/-! ## The alphabet -/

/-- The symbol of six bits. -/
def symbol (n : Nat) : Char :=
  if n < 26 then .ofNat (0x41 + n)
  else if n < 52 then .ofNat (0x61 + (n - 26))
  else if n < 62 then .ofNat (0x30 + (n - 52))
  else if n = 62 then '+'
  else '/'

/-- The six bits of a symbol. -/
def value (c : Char) : Option Nat :=
  if 0x41 ≤ c.toNat ∧ c.toNat ≤ 0x5a then some (c.toNat - 0x41)
  else if 0x61 ≤ c.toNat ∧ c.toNat ≤ 0x7a then some (c.toNat - 0x61 + 26)
  else if 0x30 ≤ c.toNat ∧ c.toNat ≤ 0x39 then some (c.toNat - 0x30 + 52)
  else if c = '+' then some 62
  else if c = '/' then some 63
  else none

/-- The alphabet is read back. -/
theorem value_symbol {n : Nat} (h : n < 64) : value (symbol n) = some n := by
  have hall : ∀ n : Fin 64, value (symbol n) = some n.val := by decide
  exact hall ⟨n, h⟩

/-- No symbol is the padding. -/
theorem symbol_ne_padding {n : Nat} (h : n < 64) : symbol n ≠ '=' := by
  have hall : ∀ n : Fin 64, symbol n ≠ '=' := by decide
  exact hall ⟨n, h⟩

/-! ## Encoding and decoding -/

/-- The symbols of some bytes. -/
def encodeBytes : List UInt8 → List Char
  | [] => []
  | [a] => [symbol (a.toNat / 4), symbol (a.toNat % 4 * 16), '=', '=']
  | [a, b] =>
    [symbol (a.toNat / 4), symbol (a.toNat % 4 * 16 + b.toNat / 16), symbol (b.toNat % 16 * 4), '=']
  | a :: b :: c :: bytes =>
    symbol (a.toNat / 4) :: symbol (a.toNat % 4 * 16 + b.toNat / 16) ::
      symbol (b.toNat % 16 * 4 + c.toNat / 64) :: symbol (c.toNat % 64) :: encodeBytes bytes

/-- The byte of two symbols. -/
def decodeOne (c₀ c₁ : Char) : Option (List UInt8) := do
  let v₀ ← value c₀
  let v₁ ← value c₁
  if v₁ % 16 = 0 then some [.ofNat (v₀ * 4 + v₁ / 16)] else none

/-- The bytes of three symbols. -/
def decodeTwo (c₀ c₁ c₂ : Char) : Option (List UInt8) := do
  let v₀ ← value c₀
  let v₁ ← value c₁
  let v₂ ← value c₂
  if v₂ % 4 = 0 then some [.ofNat (v₀ * 4 + v₁ / 16), .ofNat (v₁ % 16 * 16 + v₂ / 4)] else none

/-- The bytes of four symbols. -/
def decodeThree (c₀ c₁ c₂ c₃ : Char) : Option (List UInt8) := do
  let v₀ ← value c₀
  let v₁ ← value c₁
  let v₂ ← value c₂
  let v₃ ← value c₃
  return [.ofNat (v₀ * 4 + v₁ / 16), .ofNat (v₁ % 16 * 16 + v₂ / 4), .ofNat (v₂ % 4 * 64 + v₃)]

/-- The bytes of some symbols.  Padding stands at their end. -/
def decodeSymbols : List Char → Option (List UInt8)
  | [] => some []
  | c₀ :: c₁ :: c₂ :: c₃ :: symbols =>
    if c₃ = '=' then
      if symbols ≠ [] then none
      else if c₂ = '=' then decodeOne c₀ c₁
      else decodeTwo c₀ c₁ c₂
    else do
      let bytes ← decodeThree c₀ c₁ c₂ c₃
      let rest ← decodeSymbols symbols
      return bytes ++ rest
  | _ => none

/-- The text of some bytes. -/
def encode (bytes : ByteArray) : String := .ofList (encodeBytes bytes.data.toList)

/-- The bytes of a text. -/
def decode (text : String) : Option ByteArray :=
  (decodeSymbols text.toList).map fun bytes => ⟨bytes.toArray⟩

/-! ## The round trip -/

section RoundTrip

variable {a b c : UInt8}

theorem ofNat_eq {n : Nat} (h : n = a.toNat) : UInt8.ofNat n = a := by
  rw [h, UInt8.ofNat_toNat]

theorem decodeOne_symbols : decodeOne (symbol (a.toNat / 4)) (symbol (a.toNat % 4 * 16)) =
    some [a] := by
  have ha := a.toNat_lt
  rw [decodeOne, value_symbol (by omega), value_symbol (by omega)]
  show (if a.toNat % 4 * 16 % 16 = 0 then _ else _) = _
  rw [if_pos (by omega), ofNat_eq (a := a) (by omega)]

theorem decodeTwo_symbols : decodeTwo (symbol (a.toNat / 4))
    (symbol (a.toNat % 4 * 16 + b.toNat / 16)) (symbol (b.toNat % 16 * 4)) = some [a, b] := by
  have ha := a.toNat_lt
  have hb := b.toNat_lt
  rw [decodeTwo, value_symbol (by omega), value_symbol (by omega), value_symbol (by omega)]
  show (if b.toNat % 16 * 4 % 4 = 0 then _ else _) = _
  rw [if_pos (by omega), ofNat_eq (a := a) (by omega), ofNat_eq (a := b) (by omega)]

theorem decodeThree_symbols : decodeThree (symbol (a.toNat / 4))
    (symbol (a.toNat % 4 * 16 + b.toNat / 16)) (symbol (b.toNat % 16 * 4 + c.toNat / 64))
    (symbol (c.toNat % 64)) = some [a, b, c] := by
  have ha := a.toNat_lt
  have hb := b.toNat_lt
  have hc := c.toNat_lt
  rw [decodeThree, value_symbol (by omega), value_symbol (by omega), value_symbol (by omega),
    value_symbol (by omega)]
  show some [_, _, _] = _
  rw [ofNat_eq (a := a) (by omega), ofNat_eq (a := b) (by omega), ofNat_eq (a := c) (by omega)]

/-- The symbols of some bytes are decoded again. -/
theorem decodeSymbols_encodeBytes (bytes : List UInt8) :
    decodeSymbols (encodeBytes bytes) = some bytes := by
  fun_induction encodeBytes bytes with
  | case1 => rfl
  | case2 a =>
    rw [decodeSymbols, if_pos rfl, if_neg (by simp), if_pos rfl]
    exact decodeOne_symbols
  | case3 a b =>
    have hb := b.toNat_lt
    rw [decodeSymbols, if_pos rfl, if_neg (by simp), if_neg (symbol_ne_padding (by omega))]
    exact decodeTwo_symbols
  | case4 a b c bytes ih =>
    rw [decodeSymbols, if_neg (symbol_ne_padding (by omega)), decodeThree_symbols, ih]
    rfl

/-- What is encoded is decoded again. -/
theorem decode_encode (bytes : ByteArray) : decode (encode bytes) = some bytes := by
  rw [decode, encode, String.toList_ofList, decodeSymbols_encodeBytes]
  rfl

end RoundTrip

end Base64
